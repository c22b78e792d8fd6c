/-!
# Quantities of variable length

A quantity below `2 ^ 28` is written in base 128 with as few digits as possible, most significant
first; every byte but the last has its top bit set.  `Quantity.read?` reads one from the front of a
list of bytes and refuses one that has no last byte among the first four.
-/

namespace MusicMacro.Quantity

/-- The bound on quantities: the numbers of four digits of seven bits, which make 28 bits. -/
def bound : Nat := 268435456

/-- The last digits of `n`, at most `count` of them and none of them a leading zero, as bytes with
the top bit set. -/
def leading : (count n : Nat) → List UInt8
  | 0, _ => []
  | count + 1, n =>
    if n = 0 then [] else leading count (n / 128) ++ [UInt8.ofNat (128 + n % 128)]

/-- The bytes of a quantity, at most four. -/
def bytes (n : Nat) : List UInt8 :=
  leading 3 (n / 128) ++ [UInt8.ofNat (n % 128)]

/-- Reads on from a quantity of which the digits so far have the value `n`, with at most `fuel`
digits to come. -/
def readFrom? : (fuel n : Nat) → List UInt8 → Option (Nat × List UInt8)
  | 0, _, _ => none
  | _, _, [] => none
  | fuel + 1, n, b :: rest =>
    if b < 128 then some (128 * n + b.toNat, rest)
    else readFrom? fuel (128 * n + (b.toNat - 128)) rest

/-- The quantity at the front of a list of bytes, and the bytes after it. -/
def read? (l : List UInt8) : Option (Nat × List UInt8) :=
  readFrom? 4 0 l

end MusicMacro.Quantity
