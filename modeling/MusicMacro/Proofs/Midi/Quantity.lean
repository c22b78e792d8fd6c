import MusicMacro.Midi.Quantity
import Mathlib.Algebra.Ring.Nat

/-!
# The bytes of quantities

`Quantity.read?_bytes_append`: what `Quantity.bytes` writes for a number below `Quantity.bound`,
`Quantity.read?` takes from the front of any list that starts with it.  The reader keeps the value
of the digits it has passed; `readFrom?_leading_append` says that passing the leading digits of `n`
brings it to `n`.

No quantity takes up more bytes than it needs: `Quantity.lt_length_bytes_iff` says when it takes up
more than a number of them, and `Quantity.length_bytes` how many it takes up.
-/

namespace MusicMacro.Quantity

/-- There are no more leading digits than asked for. -/
theorem length_leading_le (count n : Nat) : (leading count n).length ≤ count := by
  induction count generalizing n with
  | zero => exact Nat.le_refl 0
  | succ count ih =>
    rw [leading]
    split
    · exact Nat.zero_le _
    · rw [List.length_append, List.length_singleton]
      exact Nat.succ_le_succ (ih (n / 128))

/-- A byte that continues a quantity holds its digit below the top bit. -/
theorem toNat_continued (n : Nat) : (UInt8.ofNat (128 + n % 128)).toNat = 128 + n % 128 := by
  rw [UInt8.toNat_ofNat']
  omega

/-- The last byte of a quantity is its last digit. -/
theorem toNat_last (n : Nat) : (UInt8.ofNat (n % 128)).toNat = n % 128 := by
  rw [UInt8.toNat_ofNat']
  omega

/-- Passing the leading digits of `n` brings the reader from zero to `n`. -/
theorem readFrom?_leading_append {count n : Nat} (fits : n < 128 ^ count) (fuel : Nat)
    (rest : List UInt8) :
    readFrom? ((leading count n).length + fuel) 0 (leading count n ++ rest) =
      readFrom? fuel n rest := by
  induction count generalizing n fuel rest with
  | zero =>
    have zero : n = 0 := by rw [Nat.pow_zero] at fits; omega
    subst zero
    rw [leading, List.length_nil, Nat.zero_add, List.nil_append]
  | succ count ih =>
    rw [leading]
    split
    · next zero => rw [zero, List.length_nil, Nat.zero_add, List.nil_append]
    · have fits' : n / 128 < 128 ^ count := by
        rw [Nat.pow_succ] at fits
        omega
      rw [List.length_append, List.length_singleton, Nat.add_assoc, List.append_assoc, ih fits',
        Nat.add_comm 1 fuel, List.singleton_append, readFrom?]
      -- The reader stands at `n / 128` here and takes in the digit `n % 128`.
      have top : ¬ UInt8.ofNat (128 + n % 128) < 128 := by
        rw [UInt8.lt_iff_toNat_lt, toNat_continued]
        show ¬ 128 + n % 128 < 128
        omega
      have value : 128 * (n / 128) + (128 + n % 128 - 128) = n := by omega
      rw [if_neg top, toNat_continued, value]

/-- **Quantities are read back**, whatever follows them. -/
theorem read?_bytes_append {n : Nat} (small : n < bound) (rest : List UInt8) :
    read? (bytes n ++ rest) = some (n, rest) := by
  have fits : n / 128 < 128 ^ 3 := by
    unfold bound at small
    omega
  have short := length_leading_le 3 (n / 128)
  -- There are at most three leading digits, so one of the four bytes is left for the last one.
  obtain ⟨fuel, enough⟩ : ∃ fuel, 4 = (leading 3 (n / 128)).length + (fuel + 1) :=
    ⟨3 - (leading 3 (n / 128)).length, by omega⟩
  have last : UInt8.ofNat (n % 128) < 128 := by
    rw [UInt8.lt_iff_toNat_lt, toNat_last]
    exact Nat.mod_lt n (by decide)
  rw [read?, bytes, List.append_assoc, enough, readFrom?_leading_append fits, List.singleton_append,
    readFrom?, if_pos last, toNat_last, Nat.div_add_mod]

/-- A quantity takes up at least one byte. -/
theorem bytes_ne_nil (n : Nat) : bytes n ≠ [] := by
  simp [bytes]

/-! ### Sizes -/

/-- There are more than `k` leading digits iff the number has more than `k` digits. -/
theorem lt_length_leading_iff {count k : Nat} (short : k < count) (n : Nat) :
    k < (leading count n).length ↔ 128 ^ k ≤ n := by
  induction count generalizing k n with
  | zero => exact absurd short (Nat.not_lt_zero k)
  | succ count ih =>
    have positive : 0 < 128 ^ k := Nat.pow_pos (by decide)
    rw [leading]
    split
    · next zero =>
      rw [List.length_nil]
      omega
    · next nonzero =>
      rw [List.length_append, List.length_singleton]
      cases k with
      | zero =>
        rw [Nat.pow_zero]
        omega
      | succ k =>
        have rest := ih (show k < count by omega) (n / 128)
        rw [Nat.le_div_iff_mul_le (by decide), ← Nat.pow_succ] at rest
        rw [← rest]
        omega

/-- A quantity takes up more than `j` bytes iff it has more than `j` digits. -/
theorem lt_length_bytes_iff {j : Nat} (positive : 1 ≤ j) (short : j ≤ 3) (n : Nat) :
    j < (bytes n).length ↔ 128 ^ j ≤ n := by
  obtain ⟨k, rfl⟩ : ∃ k, j = k + 1 := ⟨j - 1, by omega⟩
  have digits := lt_length_leading_iff (show k < 3 by omega) (n / 128)
  rw [Nat.le_div_iff_mul_le (by decide), ← Nat.pow_succ] at digits
  rw [← digits, bytes, List.length_append, List.length_singleton]
  omega

/-- The fewest bytes, with seven bits in each, that hold a number below `bound`. -/
def width (n : Nat) : Nat :=
  if n < 128 then 1
  else if n < 128 * 128 then 2
  else if n < 128 * 128 * 128 then 3
  else 4

/-- A quantity takes up as few bytes as it can. -/
theorem length_bytes (n : Nat) : (bytes n).length = width n := by
  have one : 1 < (bytes n).length ↔ 128 ≤ n := lt_length_bytes_iff (by decide) (by decide) n
  have two : 2 < (bytes n).length ↔ 16384 ≤ n := lt_length_bytes_iff (by decide) (by decide) n
  have three : 3 < (bytes n).length ↔ 2097152 ≤ n := lt_length_bytes_iff (by decide) (by decide) n
  have most := length_leading_le 3 (n / 128)
  have length : (bytes n).length = (leading 3 (n / 128)).length + 1 := List.length_append
  unfold width
  split
  · omega
  · split
    · omega
    · split <;> omega

end MusicMacro.Quantity
