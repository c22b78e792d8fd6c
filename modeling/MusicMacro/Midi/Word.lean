/-!
# The words of MIDI

MIDI counts in words of unusual widths: a channel has 4 bits, a data byte 7, the division of a file
header 15, a tempo 24, and a quantity of variable length 28.  Each is a bit vector.  A larger number
loses its top bits in `BitVec.ofNat` and is refused by `Word.ofNat?`.
-/

namespace MusicMacro

/-- A word of `w` bits. -/
abbrev Word (w : Nat) := BitVec w

namespace Word

/-- The word for a number that fits in `w` bits. -/
def ofNat? (w n : Nat) : Option (Word w) :=
  if (BitVec.ofNat w n).toNat = n then some (.ofNat w n) else none

theorem ofNat?_eq_some_iff {w n : Nat} {x : Word w} : ofNat? w n = some x ↔ x.toNat = n := by
  constructor
  · intro h
    unfold ofNat? at h
    split at h
    · cases h
      assumption
    · cases h
  · rintro rfl
    simp [ofNat?]

@[simp]
theorem ofNat?_toNat {w : Nat} (x : Word w) : ofNat? w x.toNat = some x :=
  ofNat?_eq_some_iff.2 rfl

/-- The largest word of `w` bits. -/
def largest (w : Nat) : Word w :=
  .allOnes w

end Word

/-- Half a byte: the index of a channel. -/
abbrev Nibble := Word 4

/-- A data byte of a channel message. -/
abbrev DataByte := Word 7

/-- The ticks in a quarter note, as declared in the header of a file. -/
abbrev Division := Word 15

/-- The microseconds in a quarter note. -/
abbrev Tempo := Word 24

/-- A data byte, as a byte. -/
def DataByte.toByte (x : DataByte) : UInt8 :=
  UInt8.ofNat x.toNat

end MusicMacro
