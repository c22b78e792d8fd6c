import MusicMacro.Midi.Word
import MusicMacro.Proofs.Midi.Quantity
import Mathlib.Data.List.Induction

/-!
# The canonical form of quantities

With zeros in front, most quantities could be written in several ways.  `Quantity.bytes_canonical`
says that `Quantity.bytes` writes none of them with a zero that could be left out: no fewer bytes
are read as the same number, and whatever at most four bytes have the form of its own
(`IsCanonical`) are its own.

`readFrom?_eq_some_iff` is all there is to know about the reader: it passes the bytes with their top
bit set, takes in one more, and leaves the rest alone.  The form of the bytes of a quantity follows
from the fact that they are read back, and that they do not start with a zero from the fact that
they are as few as possible.
-/

namespace MusicMacro.Quantity

/-! ### The value of bytes -/

/-- The number that the digits of bytes lead to behind digits of the value `n`. -/
def valueFrom (n : Nat) (l : List UInt8) : Nat :=
  l.foldl (fun n b => 128 * n + b.toNat % 128) n

theorem valueFrom_cons (n : Nat) (b : UInt8) (l : List UInt8) :
    valueFrom n (b :: l) = valueFrom (128 * n + b.toNat % 128) l :=
  rfl

theorem valueFrom_concat (n : Nat) (l : List UInt8) (b : UInt8) :
    valueFrom n (l ++ [b]) = 128 * valueFrom n l + b.toNat % 128 := by
  rw [valueFrom, List.foldl_append]
  rfl

theorem valueFrom_concat_div (n : Nat) (l : List UInt8) (b : UInt8) :
    valueFrom n (l ++ [b]) / 128 = valueFrom n l := by
  rw [valueFrom_concat]
  omega

theorem valueFrom_concat_mod (n : Nat) (l : List UInt8) (b : UInt8) :
    valueFrom n (l ++ [b]) % 128 = b.toNat % 128 := by
  rw [valueFrom_concat]
  omega

theorem le_valueFrom (n : Nat) (l : List UInt8) : n ≤ valueFrom n l := by
  induction l generalizing n with
  | nil => exact Nat.le_refl n
  | cons b l ih =>
    have rest := ih (128 * n + b.toNat % 128)
    rw [valueFrom_cons]
    omega

/-- Each byte holds seven bits. -/
theorem valueFrom_lt (l : List UInt8) : valueFrom 0 l < 128 ^ l.length := by
  induction l using List.reverseRecOn with
  | nil => exact Nat.one_pos
  | append_singleton l b ih =>
    rw [valueFrom_concat, List.length_append, List.length_singleton, Nat.pow_succ]
    omega

/-! ### What is read -/

/-- Whether the last of some bytes is the only one without its top bit. -/
def IsTerminated (l : List UInt8) : Prop :=
  ∃ front last, l = front ++ [last] ∧ (∀ b ∈ front, 128 ≤ b) ∧ last < 128

/-- Whether bytes have the form of a quantity without a zero in front. -/
structure IsCanonical (l : List UInt8) : Prop where
  terminated : IsTerminated l
  nonzero_head : l.head? ≠ some 0x80

/-- The reader takes in the digit of each byte, whether or not it is the last one. -/
theorem readFrom?_cons (fuel n : Nat) (b : UInt8) (l : List UInt8) :
    readFrom? (fuel + 1) n (b :: l) =
      if b < 128 then some (valueFrom n [b], l) else readFrom? fuel (valueFrom n [b]) l := by
  have byte := b.toNat_lt
  have bit : b < 128 ↔ b.toNat < 128 := UInt8.lt_iff_toNat_lt
  rw [readFrom?, valueFrom_cons]
  by_cases low : b < 128
  · have digit : b.toNat % 128 = b.toNat := Nat.mod_eq_of_lt (bit.1 low)
    rw [if_pos low, if_pos low, digit]
    rfl
  · have digit : b.toNat - 128 = b.toNat % 128 := by
      rw [bit] at low
      omega
    rw [if_neg low, if_neg low, digit]
    rfl

/-- **What the reader does**: by induction on the number of digits it may still take in. -/
theorem readFrom?_eq_some_iff {fuel n m : Nat} {l rest : List UInt8} :
    readFrom? fuel n l = some (m, rest) ↔
      ∃ front last, l = front ++ last :: rest ∧ (∀ b ∈ front, 128 ≤ b) ∧ last < 128 ∧
        front.length < fuel ∧ m = valueFrom n (front ++ [last]) := by
  induction fuel generalizing n l with
  | zero => simp [readFrom?]
  | succ fuel ih =>
    cases l with
    | nil => simp [readFrom?]
    | cons b l =>
      rw [readFrom?_cons]
      by_cases low : b < 128
      · rw [if_pos low]
        constructor
        · intro reads
          cases reads
          exact ⟨[], b, rfl, by simp, low, Nat.succ_pos fuel, rfl⟩
        · rintro ⟨front, last, split, continued, -, -, rfl⟩
          cases front with
          | nil =>
            obtain ⟨rfl, rfl⟩ := List.cons.inj split
            rfl
          | cons c front =>
            obtain ⟨rfl, -⟩ := List.cons.inj split
            exact absurd low (UInt8.not_lt.2 (continued b List.mem_cons_self))
      · rw [if_neg low, ih]
        constructor
        · rintro ⟨front, last, rfl, continued, ends, short, rfl⟩
          exact ⟨b :: front, last, rfl, List.forall_mem_cons.2 ⟨UInt8.not_lt.1 low, continued⟩,
            ends, Nat.succ_lt_succ short, rfl⟩
        · rintro ⟨front, last, split, continued, ends, short, rfl⟩
          cases front with
          | nil =>
            obtain ⟨rfl, -⟩ := List.cons.inj split
            exact absurd ends low
          | cons c front =>
            obtain ⟨rfl, rfl⟩ := List.cons.inj split
            exact ⟨front, last, rfl, (List.forall_mem_cons.1 continued).2, ends,
              Nat.lt_of_succ_lt_succ short, rfl⟩

/-- Bytes are read as a number, whatever follows them, iff there are at most four of them, the last
of which is the first without its top bit. -/
theorem read?_append_eq_some_iff {n : Nat} {l rest : List UInt8} :
    read? (l ++ rest) = some (n, rest) ↔ IsTerminated l ∧ l.length ≤ 4 ∧ n = valueFrom 0 l := by
  rw [read?, readFrom?_eq_some_iff]
  constructor
  · rintro ⟨front, last, split, continued, ends, short, rfl⟩
    obtain rfl : l = front ++ [last] := by
      rw [← List.singleton_append, ← List.append_assoc] at split
      exact List.append_cancel_right split
    refine ⟨⟨front, last, rfl, continued, ends⟩, ?_, rfl⟩
    rw [List.length_append]
    exact short
  · rintro ⟨⟨front, last, rfl, continued, ends⟩, short, rfl⟩
    rw [List.length_append] at short
    exact ⟨front, last, List.append_assoc .., continued, ends, short, rfl⟩

/-! ### As few bytes as possible -/

theorem length_bytes_pos (n : Nat) : 1 ≤ (bytes n).length :=
  List.length_pos_iff.2 (bytes_ne_nil n)

theorem length_bytes_le (n : Nat) : (bytes n).length ≤ 4 := by
  rw [bytes, List.length_append]
  exact Nat.succ_le_succ (length_leading_le 3 (n / 128))

/-- No bytes that are read as a number are fewer than those of `bytes`. -/
theorem length_bytes_le_of_read? {n : Nat} {l rest : List UInt8}
    (reads : read? (l ++ rest) = some (n, rest)) : (bytes n).length ≤ l.length := by
  obtain ⟨⟨front, last, split, -, -⟩, short, rfl⟩ := read?_append_eq_some_iff.1 reads
  have positive : 1 ≤ l.length := by
    rw [split, List.length_append]
    exact Nat.succ_pos _
  have most := length_bytes_le (valueFrom 0 l)
  by_contra more
  -- Otherwise the number would have more digits than there are bytes to hold them.
  have large := (lt_length_bytes_iff positive (by omega) (valueFrom 0 l)).1 (Nat.not_le.1 more)
  exact absurd (valueFrom_lt l) (Nat.not_lt.2 large)

/-- The bytes of a quantity have the form of one. -/
theorem isCanonical_bytes {n : Nat} (small : n < bound) : IsCanonical (bytes n) := by
  have reads := read?_bytes_append small []
  obtain ⟨terminated, short, value⟩ := read?_append_eq_some_iff.1 reads
  refine ⟨terminated, fun zero => ?_⟩
  obtain ⟨front, last, split, continued, ends⟩ := terminated
  -- A zero in front is not the last byte, and without it the other bytes are read as the same.
  cases front with
  | nil =>
    rw [split, List.nil_append, List.head?_cons, Option.some.injEq] at zero
    rw [zero] at ends
    exact absurd ends (by decide)
  | cons b front =>
    rw [split, List.cons_append, List.head?_cons, Option.some.injEq] at zero
    subst zero
    have fewer : read? ((front ++ [last]) ++ []) = some (n, []) := by
      refine read?_append_eq_some_iff.2
        ⟨⟨front, last, rfl, (List.forall_mem_cons.1 continued).2, ends⟩, ?_, ?_⟩
      · rw [split] at short
        exact Nat.le_of_succ_le short
      · rw [value, split]
        rfl
    have least := length_bytes_le_of_read? fewer
    rw [split] at least
    exact absurd least (Nat.not_succ_le_self _)

/-! ### Canonical bytes -/

theorem head?_ne_of_append {l l' : List UInt8} {b : UInt8}
    (differs : (l ++ l').head? ≠ some b) : l.head? ≠ some b := by
  intro same
  rw [List.head?_append, same] at differs
  exact differs rfl

/-- The value of digits without a zero in front is not zero. -/
theorem valueFrom_pos {l : List UInt8} (nonempty : l ≠ []) (continued : ∀ b ∈ l, 128 ≤ b)
    (nonzero : l.head? ≠ some 0x80) : 0 < valueFrom 0 l := by
  obtain ⟨b, l, rfl⟩ := List.exists_cons_of_ne_nil nonempty
  have first : b.toNat ≠ 128 := by
    intro zero
    exact nonzero (congrArg some (UInt8.toNat_inj.1 zero))
  have top : 128 ≤ b.toNat := UInt8.le_iff_toNat_le.1 (continued b List.mem_cons_self)
  have byte := b.toNat_lt
  have rest := le_valueFrom (128 * 0 + b.toNat % 128) l
  rw [valueFrom_cons]
  omega

theorem leading_zero (count : Nat) : leading count 0 = [] := by
  cases count <;> rfl

/-- Bytes with their top bit set are the leading digits of their value: by induction from the last
of them, which is the first that `leading` takes off. -/
theorem leading_valueFrom {l : List UInt8} {count : Nat} (short : l.length ≤ count)
    (continued : ∀ b ∈ l, 128 ≤ b) (nonzero : l.head? ≠ some 0x80) :
    leading count (valueFrom 0 l) = l := by
  induction l using List.reverseRecOn generalizing count with
  | nil => exact leading_zero count
  | append_singleton l b ih =>
    have positive := valueFrom_pos (List.append_ne_nil_of_right_ne_nil l (List.cons_ne_nil b []))
      continued nonzero
    obtain ⟨continued, last⟩ := List.forall_mem_append.1 continued
    rw [List.length_append, List.length_singleton] at short
    obtain ⟨count, rfl⟩ : ∃ k, count = k + 1 := ⟨count - 1, by omega⟩
    have byte : UInt8.ofNat (128 + b.toNat % 128) = b := by
      have top : 128 ≤ b.toNat := UInt8.le_iff_toNat_le.1 (last b List.mem_cons_self)
      have small := b.toNat_lt
      rw [← UInt8.toNat_inj, toNat_continued]
      omega
    rw [leading, if_neg (Nat.pos_iff_ne_zero.1 positive), valueFrom_concat_div,
      valueFrom_concat_mod, byte,
      ih (Nat.le_of_succ_le_succ short) continued (head?_ne_of_append nonzero)]

/-- Bytes of the form of a quantity are those of their value. -/
theorem bytes_valueFrom {l : List UInt8} (canonical : IsCanonical l) (short : l.length ≤ 4) :
    bytes (valueFrom 0 l) = l := by
  obtain ⟨⟨front, last, rfl, continued, ends⟩, nonzero⟩ := canonical
  rw [List.length_append] at short
  have digit : last.toNat % 128 = last.toNat := Nat.mod_eq_of_lt (UInt8.lt_iff_toNat_lt.1 ends)
  rw [bytes, valueFrom_concat_div, valueFrom_concat_mod, digit, UInt8.ofNat_toNat,
    leading_valueFrom (Nat.le_of_succ_le_succ short) continued (head?_ne_of_append nonzero)]

/-- **Quantities have one form, which ends itself.**  The number in a word of 28 bits is read back
from its bytes, and exactly what follows them is left.  No fewer bytes are read as that number: there
are one to four of them, and more than `j` iff the number has more than `j` digits of seven bits.
The first of them is not `0x80`, and all of them but the last have their top bit set.  Conversely,
at most four bytes of that form are the bytes of the number they are read as. -/
theorem bytes_canonical :
    (∀ v : Word 28,
      (∀ rest, read? (bytes v.toNat ++ rest) = some (v.toNat, rest)) ∧
        (∀ l rest, read? (l ++ rest) = some (v.toNat, rest) →
          (bytes v.toNat).length ≤ l.length) ∧
        (1 ≤ (bytes v.toNat).length ∧ (bytes v.toNat).length ≤ 4) ∧
        (∀ j, 1 ≤ j → j ≤ 3 → (j < (bytes v.toNat).length ↔ 128 ^ j ≤ v.toNat)) ∧
        IsCanonical (bytes v.toNat)) ∧
      ∀ l, IsCanonical l → l.length ≤ 4 →
        ∃ v : Word 28, bytes v.toNat = l ∧ ∀ rest, read? (l ++ rest) = some (v.toNat, rest) := by
  constructor
  · intro v
    have small : v.toNat < bound := v.isLt
    refine ⟨read?_bytes_append small, fun l rest reads => length_bytes_le_of_read? reads,
      ⟨length_bytes_pos _, length_bytes_le _⟩, fun j positive short => ?_, isCanonical_bytes small⟩
    exact lt_length_bytes_iff positive short v.toNat
  · intro l canonical short
    have fits : valueFrom 0 l < 128 ^ 4 :=
      Nat.lt_of_lt_of_le (valueFrom_lt l) (Nat.pow_le_pow_right (by decide) short)
    have value : (BitVec.ofNat 28 (valueFrom 0 l)).toNat = valueFrom 0 l := by
      rw [BitVec.toNat_ofNat]
      exact Nat.mod_eq_of_lt fits
    refine ⟨.ofNat 28 (valueFrom 0 l), ?_, fun rest => ?_⟩
    · rw [value]
      exact bytes_valueFrom canonical short
    · rw [value]
      exact read?_append_eq_some_iff.2 ⟨canonical.terminated, short, rfl⟩

/-- Four bytes with zeros among their digits but not in front. -/
theorem bytes_canonical_zeroDigits :
    IsCanonical [0x81, 0x80, 0x80, 0x00] ∧
      (∃ v : Word 28, bytes v.toNat = [0x81, 0x80, 0x80, 0x00] ∧
        ∀ rest, read? ([0x81, 0x80, 0x80, 0x00] ++ rest) = some (v.toNat, rest)) ∧
      read? (bytes 2097152 ++ [0x80]) = some (2097152, [0x80]) ∧
      (3 < (bytes 2097152).length ↔ 128 ^ 3 ≤ 2097152) := by
  have canonical : IsCanonical [0x81, 0x80, 0x80, 0x00] :=
    ⟨⟨[0x81, 0x80, 0x80], 0x00, rfl, by simp, by decide⟩, by decide⟩
  obtain ⟨reads, -, -, longer, -⟩ := bytes_canonical.1 2097152
  exact ⟨canonical, bytes_canonical.2 _ canonical (by decide), reads [0x80],
    longer 3 (by decide) (by decide)⟩

end MusicMacro.Quantity
