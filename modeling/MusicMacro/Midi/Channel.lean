import MusicMacro.Midi.Word

/-!
# Channels

A MIDI channel is numbered from 1 to 16 as musicians do, and stored by its index from 0 to 15, which
is the low half of the status byte of a channel message.
-/

namespace MusicMacro

/-- A MIDI channel. -/
structure Channel where
  /-- The number of the channel, counted from zero. -/
  index : Nibble
deriving DecidableEq, Repr

namespace Channel

/-- The channel with a number from 1 to 16. -/
def ofNumber? (number : Nat) : Option Channel :=
  if number = 0 then none else (Word.ofNat? 4 (number - 1)).map mk

/-- The number of a channel, from 1 to 16. -/
def number (c : Channel) : Nat :=
  c.index.toNat + 1

instance : ToString Channel := ⟨fun c => toString c.number⟩

/-- The status byte that has the given upper half and this channel. -/
def status (c : Channel) (kind : UInt8) : UInt8 :=
  kind ||| UInt8.ofNat c.index.toNat

theorem ofNumber?_eq_some_iff {n : Nat} {c : Channel} : ofNumber? n = some c ↔ c.number = n := by
  unfold ofNumber? number
  split
  · simp_all
  · simp only [Option.map_eq_some_iff, Word.ofNat?_eq_some_iff]
    constructor
    · rintro ⟨x, hx, rfl⟩
      simp only [hx]
      omega
    · intro h
      exact ⟨c.index, by omega, rfl⟩

@[simp]
theorem ofNumber?_number (c : Channel) : ofNumber? c.number = some c :=
  ofNumber?_eq_some_iff.2 rfl

end Channel

end MusicMacro
