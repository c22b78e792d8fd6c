import MusicMacro.Proofs.Voice.NoteRange

/-!
# Moving notes into a range

A note outside a range is moved into it by as many octaves as it takes, all at once.
`key_of_ofBounds` says that this is what stepping does, one octave after the other: up as long as
the note lies below the lowest one (`stepUp`), then down as long as it lies above the highest one
(`stepDown`).  A range spans an octave at least, so a note that was stepped up is not above it
unless it was there from the start, and stepping down never leads below it.
-/

namespace MusicMacro.NoteRange

/-! ### Stepping by octaves -/

/-- Goes up by octaves as long as a note lies below the lowest one. -/
def stepUp (lowest note : Int) : Int :=
  if note < lowest then stepUp lowest (note + 12) else note
termination_by (lowest - note).toNat

/-- Goes down by octaves as long as a note lies above the highest one. -/
def stepDown (highest note : Int) : Int :=
  if highest < note then stepDown highest (note - 12) else note
termination_by (note - highest).toNat

/-- All steps up at once: a note and the one an octave above it are raised to the same place. -/
theorem raise_eq_stepUp (r : NoteRange) (note : Int) : r.raise note = stepUp r.lowest note := by
  fun_induction stepUp (r.lowest : Int) note with
  | case1 note low ih =>
    rw [← ih]
    unfold raise
    rw [if_pos low]
    split <;> omega
  | case2 note high => rw [raise, if_neg high]

/-- All steps down at once. -/
theorem lower_eq_stepDown (r : NoteRange) (note : Int) :
    r.lower note = stepDown r.highest note := by
  fun_induction stepDown (r.highest : Int) note with
  | case1 note high ih =>
    rw [← ih]
    unfold lower
    rw [if_pos high]
    split <;> omega
  | case2 note low => rw [lower, if_neg low]

/-! ### Where a note comes to lie -/

theorem raise_emod (r : NoteRange) (note : Int) : r.raise note % 12 = note % 12 := by
  unfold raise
  split <;> omega

theorem lower_emod (r : NoteRange) (note : Int) : r.lower note % 12 = note % 12 := by
  unfold lower
  split <;> omega

/-- A note keeps its place in the octave. -/
theorem fold_emod (r : NoteRange) (note : Int) : r.fold note % 12 = note % 12 :=
  (r.lower_emod _).trans (r.raise_emod note)

/-- A note of the range stays where it is. -/
theorem fold_of_mem (r : NoteRange) {note : Int} (low : r.lowest ≤ note) (high : note ≤ r.highest) :
    r.fold note = note := by
  unfold fold
  rw [raise, if_neg (Int.not_lt.2 low), lower, if_neg (Int.not_lt.2 high)]

/-- A note below the range is raised by less than an octave above the lowest note. -/
theorem raise_le (r : NoteRange) {note : Int} (low : note < r.lowest) :
    r.raise note ≤ r.lowest + 11 := by
  rw [raise, if_pos low]
  omega

/-- A note below the range comes to lie in its lowest octave. -/
theorem fold_le (r : NoteRange) {note : Int} (low : note < r.lowest) :
    r.fold note ≤ r.lowest + 11 := by
  have raised := r.raise_le low
  have octave := r.octave_le
  have inside : ¬ (r.highest : Int) < r.raise note := by omega
  unfold fold
  rw [lower, if_neg inside]
  exact raised

/-- A note above the range comes to lie in its highest octave. -/
theorem le_fold (r : NoteRange) {note : Int} (high : r.highest < note) :
    r.highest - 11 ≤ r.fold note := by
  have octave := r.octave_le
  have above : ¬ note < r.lowest := by omega
  unfold fold
  rw [raise, if_neg above]
  exact r.le_lower high

/-! ### Accepted ranges -/

/-- A range is accepted iff it spans an octave and its highest note becomes a key, and it then has
the given bounds. -/
theorem ofBounds_eq_ok_iff {lowest highest : UInt8} {r : NoteRange} :
    ofBounds lowest highest = .ok r ↔ r.lowest = lowest.toNat ∧ r.highest = highest.toNat := by
  have octave := r.octave_le
  have keys := r.highest_le
  unfold ofBounds
  constructor
  · intro accepted
    split at accepted
    · cases accepted
    · split at accepted <;> cases accepted
      exact ⟨rfl, rfl⟩
  · rintro ⟨low, high⟩
    rw [dif_neg (by omega), dif_neg (by omega)]
    obtain ⟨l, h, -, -⟩ := r
    cases low
    cases high
    rfl

/-- **Folding is stepping by octaves.**  Let a range be accepted and any note be given.  Its key,
less the octave by which all keys are moved, is the note to which single octaves lead, first up as
long as it is too low and then down as long as it is too high.  That note lies in the range and in
the same place of the octave; it is the given note if that lies in the range, the lowest possible
one if that lies below, and the highest possible one if it lies above.  Neither the byte that the
key is stored in nor the seven bits of it that a message holds cut anything off. -/
theorem key_of_ofBounds {lowest highest : UInt8} {r : NoteRange}
    (accepted : ofBounds lowest highest = .ok r) (note : Int) :
    let folded : Int := (r.key note).toNat - 12
    folded = stepDown highest.toNat (stepUp lowest.toNat note) ∧
      (lowest.toNat ≤ folded ∧ folded ≤ highest.toNat) ∧
      folded % 12 = note % 12 ∧
      (lowest.toNat ≤ note → note ≤ highest.toNat → folded = note) ∧
      (note < lowest.toNat → ∀ n : Int, lowest.toNat ≤ n → n ≤ highest.toNat →
        n % 12 = note % 12 → folded ≤ n) ∧
      (highest.toNat < note → ∀ n : Int, lowest.toNat ≤ n → n ≤ highest.toNat →
        n % 12 = note % 12 → n ≤ folded) ∧
      ((UInt8.ofInt (r.fold note + 12)).toNat : Int) = r.fold note + 12 ∧
      r.key note = .ofNat 7 (UInt8.ofInt (r.fold note + 12)).toNat ∧
      ((r.key note).toNat : Int) = r.fold note + 12 := by
  intro folded
  obtain ⟨hl, hh⟩ := ofBounds_eq_ok_iff.1 accepted
  have key : ((r.key note).toNat : Int) = r.fold note + 12 := r.toNat_key note
  have same : folded = r.fold note := by omega
  have mem := r.fold_mem note
  have place := r.fold_emod note
  have top := r.highest_le
  have byte : ((UInt8.ofInt (r.fold note + 12)).toNat : Int) = r.fold note + 12 := by
    rw [UInt8.ofInt, UInt8.toNat_ofNat']
    omega
  rw [← hl, ← hh, same]
  refine ⟨?_, mem, place, ?_, ?_, ?_, byte, ?_, key⟩
  · rw [fold, raise_eq_stepUp, lower_eq_stepDown]
  · intro low high
    exact r.fold_of_mem low high
  · intro low n hn _ hmod
    -- Two notes in one octave with the same place in it are the same.
    have lowestOctave := r.fold_le low
    omega
  · intro high n _ hn hmod
    have highestOctave := r.le_fold high
    omega
  · apply BitVec.eq_of_toNat_eq
    rw [BitVec.toNat_ofNat]
    omega

/-- In a range of one octave, which has a single place for each note, the lowest raw note and the
highest one a voice can give. -/
theorem key_of_ofBounds_octave :
    ∃ r, ofBounds 5 16 = .ok r ∧
      ((r.key (-1)).toNat : Int) - 12 = stepDown 16 (stepUp 5 (-1)) ∧ r.key (-1) = 11 + 12 ∧
      ((r.key (12 * 4294967295 + 12)).toNat : Int) - 12 =
        stepDown 16 (stepUp 5 (12 * 4294967295 + 12)) ∧
      r.key (12 * 4294967295 + 12) = 12 + 12 := by
  have accepted : ofBounds 5 16 = .ok ⟨5, 16, by decide, by decide⟩ := rfl
  exact ⟨_, accepted, (key_of_ofBounds accepted _).1, by decide, (key_of_ofBounds accepted _).1,
    by decide⟩

end MusicMacro.NoteRange
