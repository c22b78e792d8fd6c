import MusicMacro.Proofs.Voice.Arrangement

/-!
# Starting later

A voice that starts later comes to the same events, each as much later (`delayed_compileVoice`).
The two runs may fail at different tokens, but both end at the time that the timings come to, so
the later one succeeds whenever the end of the earlier one, put later, still fits in 32 bits.
-/

namespace MusicMacro

/-- An event that happens later. -/
def Event.delay (d : Nat) (e : Event) : Event :=
  { e with time := e.time + d }

/-- The arrangement in which everything is played later. -/
def Arrangement.later (d : Nat) : Arrangement :=
  { plain with delay := d }

theorem Arrangement.track_later (d : Nat) (t : Track) :
    (later d).track t = t.map (Event.delay d) := by
  have event : (later d).event? = fun e => some (e.delay d) := rfl
  rw [track, event, List.filterMap_eq_map']

/-- A voice that does not become too long by starting later. -/
theorem result_compileVoice_add (p : Policy) (c : Setting) {voice : String} {start d : Nat}
    (fits : voiceEnd voice start + d < timeBound) :
    (compileVoice p c voice (start + d)).result =
      (compileVoice p c voice start).result.map (List.map (Event.delay d)) := by
  have keeps := Arrangement.keeps_of_unchanged (a := .later d) (fun _ => rfl) fun _ => rfl
  have arranged := result_compileVoice_arranged (.later d) p c voice start
    (fun t _ => keeps t.command) (.inr fits)
  rwa [funext (Arrangement.track_later d)] at arranged

theorem voiceEnd_add (voice : String) (start d : Nat) :
    voiceEnd voice (start + d) = voiceEnd voice start + d := by
  unfold voiceEnd Timing.ending
  omega

/-- **A voice that starts later** compiles iff it does from its own start and the last event, put
later, still fits in 32 bits; its events are then the same, all of them as much later. -/
theorem delayed_compileVoice (p : Policy) (c : Setting) (voice : String) (start d : Nat)
    (later : Track) :
    (compileVoice p c voice (start + d)).result = .ok later ↔
      ∃ track, (compileVoice p c voice start).result = .ok track ∧
        (∃ e, track.getLast? = some e ∧ e.time + d ≤ 4294967295) ∧
        later = track.map (Event.delay d) := by
  constructor
  · intro compiles
    -- The later voice ends in time, and its end is that of the earlier one, put later.
    have ends := voiceEnd_lt_of_compileVoice compiles
    rw [voiceEnd_add] at ends
    have same := result_compileVoice_add p c ends
    rw [compiles] at same
    obtain ⟨track, result, arranged⟩ := except_map_eq_ok_iff.1 same.symm
    obtain ⟨events, parts, -⟩ := ended_compileVoice result
    refine ⟨track, result, ⟨⟨voiceEnd voice start, .endOfTrack⟩, ?_, Nat.lt_succ_iff.1 ends⟩,
      arranged.symm⟩
    rw [parts, List.getLast?_concat]
  · rintro ⟨track, result, ⟨e, last, fits⟩, rfl⟩
    obtain ⟨events, parts, -⟩ := ended_compileVoice result
    rw [parts, List.getLast?_concat] at last
    cases last
    have same := result_compileVoice_add p c (Nat.lt_succ_iff.2 fits)
    rw [result] at same
    exact same

end MusicMacro
