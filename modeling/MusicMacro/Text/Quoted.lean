import MusicMacro.Text.Hex
import MusicMacro.Text.Printable

/-!
# Quoted text

A text between double quotes, on one line and free of anything that cannot be seen.  The quote and
the backslash are preceded by a backslash; tab, line feed, carriage return and the null character
have a letter or a digit after a backslash; every other character that is unprintable or extends a
grapheme is given by its code point.
-/

namespace MusicMacro.Quoted

/-- A character given by its code point, as a backslash, a `u` and the hexadecimal digits in
braces. -/
def codePoint (c : Char) : List Char :=
  ['\\', 'u', '\x7b'] ++ Hex.ofNat c.toNat ++ ['\x7d']

/-- How a character stands between quotes. -/
def escape (c : Char) : List Char :=
  match c with
  | '\x00' => ['\\', '0']
  | '\t' => ['\\', 't']
  | '\n' => ['\\', 'n']
  | '\r' => ['\\', 'r']
  | '"' => ['\\', '"']
  | '\\' => ['\\', '\\']
  | c => if extendsGrapheme c || !isPrintable c then codePoint c else [c]

/-- A text between double quotes. -/
def quote (s : List Char) : List Char :=
  '"' :: s.flatMap escape ++ ['"']

end MusicMacro.Quoted

namespace MusicMacro

/-- A text between double quotes, with everything that cannot be seen escaped. -/
def quoted (s : String) : String :=
  String.ofList (Quoted.quote s.toList)

end MusicMacro
