/-!
# Errors

What can go wrong between a score and its file, in five kinds, and where: in one voice, in one
score, or in the list of scores as a whole.
-/

namespace MusicMacro

/-- The kinds of error, each with its reason. -/
inductive ErrorKind where
  /-- A score does not have the form of a score. -/
  | grammar (reason : String)
  /-- There are not as many instruments as scores. -/
  | arity (scores instruments : Nat)
  /-- A voice holds something that cannot be understood. -/
  | malformed (reason : String)
  /-- An event has no binary form. -/
  | encoding (reason : String)
  /-- Something is too large for a MIDI file. -/
  | limit (reason : String)
deriving DecidableEq, Repr

namespace ErrorKind

/-- The reason alone. -/
def reason : ErrorKind → String
  | grammar reason | malformed reason | encoding reason | limit reason => reason
  | arity .. => "score and instrument counts differ"

/-- The full text of an error of this kind. -/
def text : ErrorKind → String
  | grammar reason => "invalid score: " ++ reason
  | arity scores instruments =>
    s!"score count ({scores}) does not match instrument count ({instruments})"
  | malformed reason => "malformed mml: " ++ reason
  | encoding reason => "unencodable event: " ++ reason
  | limit reason => "limit exceeded: " ++ reason

instance : ToString ErrorKind := ⟨text⟩

end ErrorKind

/-- A score of a list, or one of its voices, both counted from zero. -/
structure Location where
  score : Nat
  voice : Option Nat
deriving DecidableEq, Repr

instance : ToString Location where
  toString
    | ⟨score, some voice⟩ => s!"score {score} voice {voice}"
    | ⟨score, none⟩ => s!"score {score}"

/-- An error, with its location if it belongs to one score. -/
structure Error where
  kind : ErrorKind
  location : Option Location := none
deriving DecidableEq, Repr

namespace Error

/-- An error that belongs to one score. -/
def inScore (kind : ErrorKind) (score : Nat) : Error :=
  ⟨kind, some ⟨score, none⟩⟩

/-- An error that belongs to one voice of one score. -/
def inVoice (kind : ErrorKind) (score voice : Nat) : Error :=
  ⟨kind, some ⟨score, some voice⟩⟩

instance : Coe ErrorKind Error := ⟨fun kind => { kind }⟩

/-- The full text of an error. -/
def text : Error → String
  | ⟨kind, some location⟩ => s!"{kind} (at {location})"
  | ⟨kind, none⟩ => kind.text

instance : ToString Error := ⟨text⟩

end Error

end MusicMacro
