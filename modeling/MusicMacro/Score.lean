import MusicMacro.Error
import MusicMacro.Expect
import MusicMacro.Text.Blank

/-!
# Scores

A score is written `MML@<voice>,<voice>,<voice>;`.  Blanks may stand before it and anything may
stand behind it; a semicolon at the end of the first voice is passed over.  A voice may hold blanks,
digits, the letters of commands in both cases and the marks `#`, `<`, `>`, `.`, `&`, `+` and `-`;
what it means is not looked at here.
-/

namespace MusicMacro

/-- A score, split into its voices. -/
structure Score where
  first : String
  second : String
  third : String
deriving DecidableEq, Repr

namespace Score

/-- The voices of a score, in order. -/
def voices (s : Score) : List String :=
  [s.first, s.second, s.third]

/-- The letters and marks that a voice may hold, apart from capital letters. -/
def voiceMarks : List Char :=
  ['a', 'b', 'c', 'd', 'e', 'f', 'g', 'l', 'n', 'o', 'r', 't', 'v',
    '#', '<', '>', '.', '&', '+', '-']

/-- Whether a voice may hold a character. -/
def isVoiceChar (c : Char) : Bool :=
  isBlank c || c.isDigit || voiceMarks.contains c.toLower

/-- What is left of a text behind a semicolon, if it starts with one. -/
def skipSemicolon (text : List Char) : List Char :=
  (expect [';'] text).getD text

/-- The longest voice at the front of a text, and what is left. -/
def takeVoice (text : List Char) : String × List Char :=
  (String.ofList (text.takeWhile isVoiceChar), text.dropWhile isVoiceChar)

/-- The score in a text, if it has the form of one. -/
def ofText? (text : String) : Option Score := do
  let rest ← expect ['M', 'M', 'L', '@'] (text.toList.dropWhile isBlank)
  let (first, rest) := takeVoice rest
  let rest ← expect [','] (skipSemicolon rest)
  let (second, rest) := takeVoice rest
  let rest ← expect [','] rest
  let (third, rest) := takeVoice rest
  let _ ← expect [';'] rest
  return { first, second, third }

/-- The error for a text that is no score. -/
def formError : ErrorKind :=
  .grammar "expected `MML@<voice>,<voice>,<voice>;`"

/-- The score in a text. -/
def ofText (text : String) : Except ErrorKind Score :=
  match ofText? text with
  | some s => .ok s
  | none => .error formError

end Score

end MusicMacro
