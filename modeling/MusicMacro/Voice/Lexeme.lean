import MusicMacro.Text.Blank
import MusicMacro.Voice.Token

/-!
# Lexemes

A voice splits at the characters of commands.  Each of them opens a token; what stands between the
end of a token and the next command is unknown text, and so is what stands before the first command.
`Lexeme.ofText_text` says that the lexemes of a text make up the text.
-/

namespace MusicMacro

/-- A part of a voice. -/
inductive Lexeme where
  | token (token : Token)
  /-- Text that belongs to no token. -/
  | unknown (text : List Char)
deriving DecidableEq, Repr

namespace Lexeme

/-- The text of a lexeme. -/
def text : Lexeme → List Char
  | token t => t.text
  | unknown text => text

/-- Unknown text as a lexeme, unless there is none. -/
def ofUnknown : List Char → List Lexeme
  | [] => []
  | text => [unknown text]

/-- A command with the text up to the next command: a token, and the unknown text behind it. -/
def ofSegment (command : Command) (head : Char) (body : List Char) : List Lexeme :=
  let (t, rest) := Token.read command head body
  token t :: ofUnknown rest

/-- Puts a character before a text that has been split: the text before its first command, and the
lexemes from there on. -/
def splitStep (c : Char) : List Char × List Lexeme → List Char × List Lexeme
  | (opening, rest) =>
    match Command.ofChar? c with
    | some command => ([], ofSegment command c opening ++ rest)
    | none => (c :: opening, rest)

/-- Splits a text at its commands: the text before the first one, and the lexemes from there on. -/
def split (text : List Char) : List Char × List Lexeme :=
  text.foldr splitStep ([], [])

/-- The lexemes of a text, in order. -/
def ofText (text : List Char) : List Lexeme :=
  let (opening, rest) := split text
  ofUnknown opening ++ rest

/-- The lexemes of a voice: blanks do not count, even inside a token. -/
def ofVoice (voice : String) : List Lexeme :=
  ofText (unblank voice.toList)

/-! ### The text of lexemes -/

@[simp]
theorem ofUnknown_text (l : List Char) : (ofUnknown l).flatMap text = l := by
  cases l <;> simp [ofUnknown, text]

@[simp]
theorem ofSegment_text (command : Command) (head : Char) (body : List Char) :
    (ofSegment command head body).flatMap text = head :: body := by
  simp [ofSegment, text, Token.read_text]

theorem split_text (l : List Char) : (split l).1 ++ (split l).2.flatMap text = l := by
  induction l with
  | nil => rfl
  | cons c l ih =>
    have step : split (c :: l) = splitStep c (split l) := rfl
    rw [step, splitStep]
    split <;> simp_all

theorem ofText_text (l : List Char) : (ofText l).flatMap text = l := by
  simp [ofText, split_text]

end Lexeme

end MusicMacro
