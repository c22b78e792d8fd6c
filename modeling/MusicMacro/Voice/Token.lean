import MusicMacro.Voice.Command

/-!
# Tokens

A token is a command with what belongs to it: an accidental after a note name, then digits, a dot
and a tie, each of which may be missing.  `Token.read` takes a token from its first character and
the text behind it, and `Token.read_text` says that it loses nothing: the text of the token and what
is left make up the text that was read.
-/

namespace MusicMacro

/-- A command with its accidental, number, dot and tie. -/
structure Token where
  command : Command
  /-- The character of the command, as it was written. -/
  head : Char
  accidental : Option Accidental := none
  /-- The digits of the number, empty if there is none. -/
  digits : List Char := []
  /-- Whether a dot follows. -/
  dotted : Bool := false
  /-- Whether a tie follows. -/
  tied : Bool := false
deriving DecidableEq, Repr

namespace Token

/-- The text of a token. -/
def text (t : Token) : List Char :=
  t.head :: ((t.accidental.map Accidental.toChar).toList ++ t.digits ++
    (if t.dotted then ['.'] else []) ++ (if t.tied then ['&'] else []))

/-- The value of a text of decimal digits. -/
def decimal (digits : List Char) : Nat :=
  digits.foldl (fun n c => 10 * n + (c.toNat - '0'.toNat)) 0

/-- The largest number that a token can give, which is the largest of 32 bits. -/
def largestNumber : Nat := 4294967295

/-- The number of a token, if it has digits.  Numbers beyond the largest one count as that. -/
def number? (t : Token) : Option Nat :=
  if t.digits.isEmpty then none else some (min (decimal t.digits) largestNumber)

/-! ### Reading -/

/-- Takes a given character from the front of a text, if it stands there. -/
def takeChar (c : Char) : List Char → Bool × List Char
  | d :: rest => if d = c then (true, rest) else (false, d :: rest)
  | [] => (false, [])

/-- Takes an accidental from the front of a text, if one stands there. -/
def takeAccidental : List Char → Option Accidental × List Char
  | c :: rest =>
    match Accidental.ofChar? c with
    | some a => (some a, rest)
    | none => (none, c :: rest)
  | [] => (none, [])

/-- Reads on after the character of a command: the token, and the text that does not belong to
it. -/
def read (command : Command) (head : Char) (body : List Char) : Token × List Char :=
  let (accidental, body) := if command.isNote then takeAccidental body else (none, body)
  let digits := body.takeWhile Char.isDigit
  let (dotted, body) := takeChar '.' (body.dropWhile Char.isDigit)
  let (tied, body) := takeChar '&' body
  ({ command, head, accidental, digits, dotted, tied }, body)

theorem takeChar_text (c : Char) (l : List Char) :
    (if (takeChar c l).1 then [c] else []) ++ (takeChar c l).2 = l := by
  cases l with
  | nil => rfl
  | cons d l => by_cases h : d = c <;> simp [takeChar, h]

theorem takeAccidental_text (l : List Char) :
    ((takeAccidental l).1.map Accidental.toChar).toList ++ (takeAccidental l).2 = l := by
  cases l with
  | nil => rfl
  | cons c l =>
    rw [takeAccidental]
    split
    · next a h => simp [Accidental.ofChar?_eq_some_iff.1 h]
    · rfl

theorem read_text (command : Command) (head : Char) (body : List Char) :
    (read command head body).1.text ++ (read command head body).2 = head :: body := by
  have digits (l : List Char) : l.takeWhile Char.isDigit ++
      ((if (takeChar '.' (l.dropWhile Char.isDigit)).1 then ['.'] else []) ++
        ((if (takeChar '&' (takeChar '.' (l.dropWhile Char.isDigit)).2).1 then ['&'] else []) ++
          (takeChar '&' (takeChar '.' (l.dropWhile Char.isDigit)).2).2)) = l := by
    rw [takeChar_text, takeChar_text, List.takeWhile_append_dropWhile]
  cases h : command.isNote <;> simp [read, text, h, digits, takeAccidental_text]

end Token

end MusicMacro
