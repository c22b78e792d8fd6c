import MusicMacro.Numeric.Bytes

/-!
# Hexadecimal text

Bytes as two lowercase hexadecimal digits, and code points without leading zeros.
-/

namespace MusicMacro.Hex

/-- The two lowercase hexadecimal digits of a byte. -/
def ofByte (b : UInt8) : List Char :=
  [Nat.digitChar (b.toNat / 16), Nat.digitChar (b.toNat % 16)]

/-- The lowercase hexadecimal digits of a number, without leading zeros. -/
def ofNat (n : Nat) : List Char :=
  Nat.toDigits 16 n

/-- The hexadecimal digits of some bytes, each byte after a space. -/
def spaced (data : List UInt8) : List Char :=
  data.flatMap fun b => ' ' :: ofByte b

/-- A label followed by bytes, each after a space. -/
def labelled (label : String) (data : ByteArray) : String :=
  label ++ String.ofList (spaced (byteList data))

end MusicMacro.Hex
