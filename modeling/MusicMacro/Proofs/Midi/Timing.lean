import MusicMacro.Proofs.Midi.File
import Mathlib.Data.List.Chain
import Mathlib.Data.List.Infix

/-!
# Which tracks have a binary form

The events of a track that are kept can be written iff the ticks between them are quantities
(`Track.IsTimed`) and none of them has too much data; otherwise the fault is the one or the other
(`Track.exists_run_iff`, `Track.fault_of_run`).

A track in order whose skipped events all stand at its very start has such ticks iff no two of its
events, one right after the other, have a gap between them (`Track.isTimed_iff_not_hasGap`): what is
skipped there hides no gap and makes none.
-/

namespace MusicMacro.Track

/-- Whether all ticks between the events that are kept are quantities, and those from a time to the
first of them. -/
def IsTimed (time : Nat) (t : Track) : Prop :=
  (time :: (t.filter isKept).map Event.time).IsChain fun a b => a ≤ b ∧ b - a < Quantity.bound

/-- Whether two events of a track, one right after the other, are too far apart to be written: the
ticks between them need more than 28 bits. -/
def HasGap (t : Track) : Prop :=
  ∃ e f, [e, f] <:+: t ∧ e.time + 268435456 ≤ f.time

/-! ### Ticks between events -/

theorem isTimed_nil (time : Nat) : IsTimed time [] :=
  List.IsChain.singleton time

theorem isTimed_cons_of_kept {time : Nat} {e : Event} {t : Track} (kept : isKept e) :
    IsTimed time (e :: t) ↔
      (time ≤ e.time ∧ e.time - time < Quantity.bound) ∧ IsTimed e.time t := by
  unfold IsTimed
  rw [List.filter_cons_of_pos kept, List.map_cons, List.isChain_cons_cons]

theorem isTimed_cons_of_skipped {time : Nat} {e : Event} {t : Track} (skipped : ¬ isKept e) :
    IsTimed time (e :: t) ↔ IsTimed time t := by
  unfold IsTimed
  rw [List.filter_cons_of_neg skipped]

theorem not_hasGap_nil : ¬ HasGap [] := by
  rintro ⟨e, f, inside, -⟩
  have length := inside.length_le
  simp at length

theorem not_hasGap_singleton (e : Event) : ¬ HasGap [e] := by
  rintro ⟨e', f, inside, -⟩
  have length := inside.length_le
  simp at length

theorem hasGap_cons_cons {e f : Event} {t : Track} :
    HasGap (e :: f :: t) ↔ e.time + 268435456 ≤ f.time ∨ HasGap (f :: t) := by
  constructor
  · rintro ⟨e', f', inside, gap⟩
    rcases List.infix_cons_iff.1 inside with front | inside
    · obtain ⟨rfl, second⟩ := List.cons_prefix_cons.1 front
      obtain ⟨rfl, -⟩ := List.cons_prefix_cons.1 second
      exact .inl gap
    · exact .inr ⟨e', f', inside, gap⟩
  · rintro (gap | ⟨e', f', inside, gap⟩)
    · exact ⟨e, f, ⟨[], t, rfl⟩, gap⟩
    · exact ⟨e', f', List.infix_cons_iff.2 (.inr inside), gap⟩

/-- Behind an event of a track in order, where only events at the same time are skipped, the ticks
are quantities iff there is no gap: by induction on the track, where an event that is skipped takes
the place of the one before it. -/
theorem isTimed_time_iff {e : Event} {t : Track}
    (ordered : (e :: t).Pairwise fun e f => e.time ≤ f.time)
    (skips : ∀ f ∈ t, ¬ isKept f → f.time = e.time) :
    IsTimed e.time t ↔ ¬ HasGap (e :: t) := by
  induction t generalizing e with
  | nil => exact iff_of_true (isTimed_nil _) (not_hasGap_singleton e)
  | cons f t ih =>
    obtain ⟨first, rest⟩ := List.pairwise_cons.1 ordered
    have le : e.time ≤ f.time := first f List.mem_cons_self
    -- `f` lies between `e` and an event that is skipped at the time of `e`.
    have skips' : ∀ g ∈ t, ¬ isKept g → g.time = f.time := by
      intro g mem skipped
      have same := skips g (List.mem_cons_of_mem f mem) skipped
      have later := (List.pairwise_cons.1 rest).1 g mem
      omega
    have bound : Quantity.bound = 268435456 := rfl
    rw [hasGap_cons_cons, not_or, ← ih rest skips']
    by_cases kept : isKept f
    · rw [isTimed_cons_of_kept kept]
      exact and_congr_left' (by omega)
    · have same := skips f List.mem_cons_self kept
      rw [isTimed_cons_of_skipped kept, ← same]
      -- As `f` stands at the time of `e`, there is no gap between the two.
      exact (and_iff_right (by omega)).symm

/-- **A track in order has no gap** iff the ticks between its events that are kept are quantities,
if only events at its very start are skipped and the first event is not late. -/
theorem isTimed_iff_not_hasGap {t : Track}
    (ordered : t.Pairwise fun e f => e.time ≤ f.time)
    (early : ∀ e ∈ t.head?, e.time < Quantity.bound)
    (skips : ∀ e ∈ t, ¬ isKept e → e.time = 0) : IsTimed 0 t ↔ ¬ HasGap t := by
  cases t with
  | nil => exact iff_of_true (isTimed_nil 0) not_hasGap_nil
  | cons e t =>
    have near : e.time < Quantity.bound := early e rfl
    have first := (List.pairwise_cons.1 ordered).1
    have skips' : ∀ f ∈ t, ¬ isKept f → f.time = e.time := by
      intro f mem skipped
      have zero := skips f (List.mem_cons_of_mem e mem) skipped
      have le := first f mem
      omega
    rw [← isTimed_time_iff ordered skips']
    by_cases kept : isKept e
    · rw [isTimed_cons_of_kept kept]
      exact and_iff_right ⟨Nat.zero_le _, by omega⟩
    · rw [isTimed_cons_of_skipped kept, skips e List.mem_cons_self kept]

/-! ### Faults -/

/-- **Which events can be written**: those with fitting ticks between them and without too much
data. -/
theorem exists_run_iff {r : Running} {t : Track} :
    (∃ r', (Transcript.run Running.step r t).result = .ok r') ↔
      IsTimed r.time t ∧ ∀ e ∈ t, ¬ e.message.isOversized := by
  induction t generalizing r with
  | nil => exact iff_of_true ⟨r, rfl⟩ ⟨isTimed_nil _, by simp⟩
  | cons e t ih =>
    rw [Transcript.run_cons, Running.step_eq, List.forall_mem_cons]
    by_cases start : e.message.isEncodable
    · rw [if_neg (not_not.2 start), isTimed_cons_of_kept start]
      by_cases large : e.message.isOversized
      · rw [if_pos large]
        refine iff_of_false ?_ fun all => all.2.1 large
        rintro ⟨r', runs⟩
        cases runs
      · rw [if_neg large]
        by_cases reach : r.reaches e
        · have near : r.time ≤ e.time ∧ e.time - r.time < Quantity.bound := reach
          rw [if_pos reach, Transcript.bind_ok, and_iff_right near, and_iff_right large]
          exact ih
        · rw [if_neg reach]
          refine iff_of_false ?_ fun all => reach all.1.1
          rintro ⟨r', runs⟩
          cases runs
    · have small : ¬ e.message.isOversized := mt Message.isEncodable_of_isOversized start
      rw [if_pos start, isTimed_cons_of_skipped start, Transcript.bind_ok, and_iff_right small]
      exact ih

/-- A track that cannot be written has ticks that do not fit or an event with too much data, and the
fault says which. -/
theorem fault_of_run {r : Running} {t : Track} {fault : FileFault}
    (fails : (Transcript.run Running.step r t).result = .error fault) :
    fault = .unordered ∧ ¬ IsTimed r.time t ∨
      fault = .dataTooLong ∧ ∃ e ∈ t, e.message.isOversized := by
  induction t generalizing r with
  | nil => cases fails
  | cons e t ih =>
    -- A fault of the events after `e` is one of the whole track.
    have extend {r' : Running} (fails : (Transcript.run Running.step r' t).result = .error fault)
        (timed : IsTimed r.time (e :: t) → IsTimed r'.time t) :
        fault = .unordered ∧ ¬ IsTimed r.time (e :: t) ∨
          fault = .dataTooLong ∧ ∃ e' ∈ e :: t, e'.message.isOversized := by
      rcases ih fails with ⟨same, far⟩ | ⟨same, e', mem, large⟩
      · exact .inl ⟨same, mt timed far⟩
      · exact .inr ⟨same, e', List.mem_cons_of_mem e mem, large⟩
    rw [Transcript.run_cons, Running.step_eq] at fails
    by_cases start : e.message.isEncodable
    · rw [if_neg (not_not.2 start)] at fails
      by_cases large : e.message.isOversized
      · rw [if_pos large] at fails
        cases fails
        exact .inr ⟨rfl, e, List.mem_cons_self, large⟩
      · rw [if_neg large] at fails
        by_cases reach : r.reaches e
        · rw [if_pos reach, Transcript.bind_ok] at fails
          exact extend fails fun timed => ((isTimed_cons_of_kept start).1 timed).2
        · rw [if_neg reach] at fails
          cases fails
          exact .inl ⟨rfl, fun timed => reach ((isTimed_cons_of_kept start).1 timed).1⟩
    · rw [if_pos start, Transcript.bind_ok] at fails
      exact extend fails (isTimed_cons_of_skipped start).1

/-- A track with few enough bytes has a binary form iff its events have one. -/
theorem result_encode_iff_of_short {t : Track} (short : t.payload.length < chunkBound) :
    t.encode.result = .ok () ↔ IsTimed 0 t ∧ ∀ e ∈ t, ¬ e.message.isOversized := by
  rw [result_encode_eq_ok_iff, and_iff_left short]
  exact exists_run_iff

theorem fault_of_encode {t : Track} (short : t.payload.length < chunkBound) {fault : FileFault}
    (fails : t.encode.result = .error fault) :
    fault = .unordered ∧ ¬ IsTimed 0 t ∨
      fault = .dataTooLong ∧ ∃ e ∈ t, e.message.isOversized := by
  rcases ends : (Transcript.run Running.step {} t).result with fault' | r
  · rw [(encode_of_error ends).1] at fails
    cases fails
    exact fault_of_run ends
  · rw [(encode_of_ok ends short).1] at fails
    cases fails

end MusicMacro.Track
