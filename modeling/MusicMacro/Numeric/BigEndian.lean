/-!
# Big-endian bytes

Numbers written most significant byte first in a fixed width, as every header field of a MIDI file
is.  `bytes` writes a natural number, `value` reads one back, and `value_bytes` says that nothing is
lost if the number fits.  The class `FixedWidth` collects the integers that have a width of their
own; signed ones are written in two's complement.
-/

namespace MusicMacro.BigEndian

/-- The last `w` base-256 digits of `n`, most significant first. -/
def bytes : Nat → Nat → List UInt8
  | 0, _ => []
  | w + 1, n => bytes w (n / 256) ++ [UInt8.ofNat n]

/-- The number with the given base-256 digits, most significant first. -/
def value (l : List UInt8) : Nat :=
  l.foldl (fun n b => 256 * n + b.toNat) 0

/-- Takes a number of `w` bytes from the front of a list. -/
def take? (w : Nat) (l : List UInt8) : Option (Nat × List UInt8) :=
  if w ≤ l.length then some (value (l.take w), l.drop w) else none

@[simp]
theorem length_bytes (w n : Nat) : (bytes w n).length = w := by
  induction w generalizing n with
  | zero => rfl
  | succ w ih => simp [bytes, ih]

@[simp]
theorem value_concat (l : List UInt8) (b : UInt8) : value (l ++ [b]) = 256 * value l + b.toNat := by
  simp [value]

/-- Reading the bytes of a number gives back the number, if it has no more bits than they have. -/
theorem value_bytes {w : Nat} (x : BitVec (8 * w)) : value (bytes w x.toNat) = x.toNat := by
  have digits (n : Nat) : value (bytes w n) = n % 256 ^ w := by
    induction w generalizing n with
    | zero => simp [bytes, value, Nat.mod_one]
    | succ w ih =>
      rw [bytes, value_concat, ih 0, Nat.pow_succ', Nat.mod_mul, UInt8.toNat_ofNat']
      omega
  have small := x.isLt
  rw [Nat.pow_mul] at small
  rw [digits, Nat.mod_eq_of_lt small]

theorem take?_bytes_append {w : Nat} (x : BitVec (8 * w)) (rest : List UInt8) :
    take? w (bytes w x.toNat ++ rest) = some (x.toNat, rest) := by
  simp [take?, value_bytes]

end MusicMacro.BigEndian

namespace MusicMacro

/-- Integers that are written in a fixed number of bytes. -/
class FixedWidth (α : Type) where
  /-- How many bytes such an integer takes up. -/
  width : Nat
  /-- The bits of an integer, in two's complement if it is signed. -/
  toBits : α → BitVec (8 * width)

/-- The big-endian bytes of a fixed-width integer. -/
def FixedWidth.bytes {α : Type} [FixedWidth α] (x : α) : List UInt8 :=
  BigEndian.bytes (width α) (toBits x).toNat

@[simp]
theorem FixedWidth.length_bytes {α : Type} [FixedWidth α] (x : α) :
    (bytes x).length = width α :=
  BigEndian.length_bytes ..

/-- Reading the bytes of a fixed-width integer gives back its bits. -/
theorem FixedWidth.value_bytes {α : Type} [FixedWidth α] (x : α) :
    BigEndian.value (bytes x) = (toBits x).toNat :=
  BigEndian.value_bytes (toBits x)

instance : FixedWidth UInt8 := ⟨1, UInt8.toBitVec⟩
instance : FixedWidth UInt16 := ⟨2, UInt16.toBitVec⟩
instance : FixedWidth UInt32 := ⟨4, UInt32.toBitVec⟩
instance : FixedWidth UInt64 := ⟨8, UInt64.toBitVec⟩
instance : FixedWidth Int8 := ⟨1, Int8.toBitVec⟩
instance : FixedWidth Int16 := ⟨2, Int16.toBitVec⟩
instance : FixedWidth Int32 := ⟨4, Int32.toBitVec⟩
instance : FixedWidth Int64 := ⟨8, Int64.toBitVec⟩
instance : FixedWidth (BitVec 24) := ⟨3, id⟩

end MusicMacro
