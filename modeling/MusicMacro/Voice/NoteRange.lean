import MusicMacro.Error
import MusicMacro.Midi.Word

/-!
# Note ranges

The notes that an instrument is given, at least an octave of them.  A note outside is moved into the
range by whole octaves, and every note then becomes a key twelve semitones higher, so the highest
note may be 115.
-/

namespace MusicMacro

/-- A range of notes that spans an octave and can be moved up by one. -/
structure NoteRange where
  lowest : Nat
  highest : Nat
  octave_le : lowest + 11 ≤ highest
  highest_le : highest ≤ 115
deriving DecidableEq, Repr

/-- Why two notes bound no range. -/
inductive NoteRange.Fault where
  /-- There is less than an octave between them. -/
  | belowOctave
  /-- The highest note becomes no key. -/
  | aboveKeys
deriving DecidableEq, Repr

/-- The text of a fault. -/
def NoteRange.Fault.message : Fault → String
  | belowOctave => "note range must span at least an octave"
  | aboveKeys => "note range exceeds the midi key range"

/-- The error for a fault. -/
def NoteRange.Fault.kind (f : Fault) : ErrorKind :=
  .limit f.message

namespace NoteRange

/-- The range that is used unless another one is given. -/
def standard : NoteRange where
  lowest := 0
  highest := 96
  octave_le := by decide
  highest_le := by decide

instance : Inhabited NoteRange := ⟨standard⟩

/-- The range between two notes.  The note an octave above the lowest one counts as at most 255. -/
def ofBounds (lowest highest : UInt8) : Except Fault NoteRange :=
  if octave : highest.toNat < min (lowest.toNat + 11) 255 then .error .belowOctave
  else if keys : 115 < highest.toNat then .error .aboveKeys
  else .ok ⟨lowest.toNat, highest.toNat, by omega, by omega⟩

/-- The semitones by which a note becomes a key. -/
def keyOffset : Nat := 12

/-- Moves a note below the range up to the lowest place in it, by whole octaves. -/
def raise (r : NoteRange) (note : Int) : Int :=
  if note < r.lowest then note + 12 * ((r.lowest - note + 11) / 12) else note

/-- Moves a note above the range down to the highest place in it, by whole octaves. -/
def lower (r : NoteRange) (note : Int) : Int :=
  if r.highest < note then note - 12 * ((note - r.highest + 11) / 12) else note

/-- Moves a note into the range by whole octaves. -/
def fold (r : NoteRange) (note : Int) : Int :=
  r.lower (r.raise note)

/-- The key for a note. -/
def key (r : NoteRange) (note : Int) : DataByte :=
  .ofInt 7 (r.fold note + keyOffset)

end NoteRange

end MusicMacro
