import MusicMacro.Proofs.Voice.Bounds
import MusicMacro.Proofs.Voice.Ties

/-!
# Notes in pairs

The starts and ends of notes come in pairs of one key each, at least two ticks apart
(`paired_of_runs`), so no two notes sound at once and none is left sounding.  The notes of a voice
follow one another (`Playhead.spaced_notes`); a note that sounds on as the next only puts off its
end (`Note.paired_eventsFrom`).
-/

namespace MusicMacro

/-- Events that are starts and ends of notes in turn: each note ends, at least two ticks after its
start, before the next one starts. -/
inductive Paired : List Event → Prop
  | nil : Paired []
  | note {channel : Channel} {key velocity : DataByte} {start stop : Nat} {rest : List Event}
      (long : start + 2 ≤ stop) (others : Paired rest) :
      Paired (⟨start, .noteOn channel key velocity⟩ :: ⟨stop, .noteOff channel key 0⟩ :: rest)

namespace Note

/-- Notes that follow one another, from one time to another. -/
def Spaced (time final : Nat) : List Note → Prop
  | [] => time ≤ final
  | x :: rest => time ≤ x.start ∧ 2 ≤ x.ticks ∧ Spaced x.stop final rest

theorem Spaced.of_le {time time' final : Nat} {xs : List Note} (spaced : Spaced time final xs)
    (earlier : time' ≤ time) : Spaced time' final xs := by
  cases xs with
  | nil => exact Nat.le_trans earlier spaced
  | cons x xs => exact ⟨Nat.le_trans earlier spaced.1, spaced.2⟩

/-- A note that sounds already ends, and the notes after it come in pairs: by induction on the notes
after it, which either put off its end or start after it. -/
theorem paired_eventsFrom {channel : Channel} {final since : Nat} {velocity : DataByte} {x : Note}
    {rest : List Note} (long : since + 2 ≤ x.stop) (spaced : Spaced x.stop final rest) :
    Paired (⟨since, .noteOn channel x.key velocity⟩ :: eventsFrom channel final (some x) rest) := by
  induction rest generalizing since velocity x with
  | nil =>
    refine .note (Nat.le_trans long ?_) .nil
    unfold releaseTime
    split
    · exact spaced
    · exact Nat.le_refl _
  | cons y rest ih =>
    obtain ⟨follows, ticks, spaced⟩ := spaced
    have stop : y.start + y.ticks = y.stop := rfl
    have parts := eventsFrom_cons channel final (some x) y false rest
    rw [joinedBy_false] at parts
    rw [parts]
    unfold release attack
    -- If `x` sounds on as `y` its end is only put off; otherwise it ends before `y` starts.
    by_cases carries : x.carriesInto y
    · simp only [Option.map_some, Option.getD_some, Option.any_some, carries, if_true,
        List.nil_append]
      have same : x.key = y.key := by
        unfold carriesInto at carries
        simp only [Bool.and_eq_true, decide_eq_true_eq] at carries
        exact carries.2
      rw [same]
      exact ih (by omega) spaced
    · simp only [Option.map_some, Option.getD_some, Option.any_some, carries, List.append_assoc]
      refine .note (Nat.le_trans long ?_) (ih (by omega) spaced)
      unfold releaseTime
      split
      · exact follows
      · exact Nat.le_refl _

/-- Notes that follow one another come in pairs of events. -/
theorem paired_events {channel : Channel} {time final : Nat} {xs : List Note}
    (spaced : Spaced time final xs) : Paired (events channel final none xs) := by
  cases xs with
  | nil => exact .nil
  | cons x xs =>
    obtain ⟨-, ticks, spaced⟩ := spaced
    exact paired_eventsFrom (Nat.add_le_add_left ticks x.start) spaced

end Note

/-- The notes of a voice follow one another. -/
theorem Playhead.spaced_notes {range : NoteRange} {h : Playhead} (bounded : h.Bounded)
    (ts : List Token) : Note.Spaced h.time (h.passAll ts).time (h.notes range ts) := by
  induction ts generalizing h with
  | nil => exact Nat.le_refl _
  | cons t ts ih =>
    have rest := ih (bounded.pass t)
    rw [notes]
    cases note : h.note? range t with
    | none => exact rest.of_le (h.time_le_pass t)
    | some x =>
      obtain ⟨ticks, stop⟩ := bounded.note? note
      obtain ⟨start, -⟩ := note?_spec note
      rw [stop] at rest
      exact ⟨Nat.le_of_eq start.symm, ticks, rest⟩

/-- **Notes come in pairs** in a voice that was played to its end. -/
theorem paired_of_runs {c : Setting} {s : VoiceState} {start : Nat} {ts : List Token}
    {track : Track} (runs : ({ time := start } : VoiceState).applyAll c ts = .ok s)
    (ends : s.finish c = .ok track) : Paired track.noteEvents := by
  rw [noteEvents_of_runs runs ends]
  exact Note.paired_events (Playhead.spaced_notes (Playhead.bounded_initial start) ts)

end MusicMacro
