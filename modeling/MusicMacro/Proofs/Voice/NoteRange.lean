import MusicMacro.Voice.NoteRange
import Mathlib.Algebra.Ring.Nat

/-!
# Keys of a note range

Whatever note is played, it is moved into the range (`NoteRange.fold_mem`), and the key for it lies
an octave above that, where all of it fits in seven bits (`NoteRange.hasKey_key`).
-/

namespace MusicMacro.NoteRange

/-- The keys that are played in a range. -/
def HasKey (r : NoteRange) (key : DataByte) : Prop :=
  r.lowest + keyOffset ≤ key.toNat ∧ key.toNat ≤ r.highest + keyOffset

theorem le_raise (r : NoteRange) (note : Int) : r.lowest ≤ r.raise note := by
  unfold raise
  split <;> omega

theorem lower_le (r : NoteRange) (note : Int) : r.lower note ≤ r.highest := by
  unfold lower
  split <;> omega

/-- A note that was moved down from above the range lies in its highest octave. -/
theorem le_lower (r : NoteRange) {note : Int} (high : r.highest < note) :
    r.highest - 11 ≤ r.lower note := by
  unfold lower
  split <;> omega

/-- Every note is moved into the range. -/
theorem fold_mem (r : NoteRange) (note : Int) :
    r.lowest ≤ r.fold note ∧ r.fold note ≤ r.highest := by
  refine ⟨?_, r.lower_le _⟩
  have octave := r.octave_le
  have low := r.le_raise note
  unfold fold
  by_cases high : r.highest < r.raise note
  · -- The highest octave of the range is all in the range, which holds an octave at least.
    have moved := r.le_lower high
    omega
  · rw [lower, if_neg high]
    exact low

/-- The key for a note is the note in the range, moved up by an octave. -/
theorem toNat_key (r : NoteRange) (note : Int) :
    ((r.key note).toNat : Int) = r.fold note + keyOffset := by
  obtain ⟨low, high⟩ := r.fold_mem note
  have top := r.highest_le
  unfold key keyOffset
  rw [BitVec.toNat_ofInt, Int.toNat_of_nonneg (Int.emod_nonneg _ (by decide))]
  exact Int.emod_eq_of_lt (by omega) (by show _ < (128 : Int); omega)

theorem hasKey_key (r : NoteRange) (note : Int) : r.HasKey (r.key note) := by
  obtain ⟨low, high⟩ := r.fold_mem note
  have key := r.toNat_key note
  unfold HasKey
  omega

end MusicMacro.NoteRange
