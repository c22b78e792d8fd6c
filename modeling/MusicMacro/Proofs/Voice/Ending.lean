import MusicMacro.Proofs.Voice.Events
import MusicMacro.Proofs.Voice.Result

/-!
# The end of a voice

`Timing` is what a token has to do with time, and `voiceEnd` is the time at which a voice ends,
counted from the timings of its tokens alone: the start, the durations of the tokens, and one
standard length more.  A voice that compiles ends at that time, and under the lenient policy it
compiles if that time fits in 32 bits (`end_compileVoice`).  No time on the way is later than the
end, so the checks on the way never fail before the last one would.
-/

namespace MusicMacro

/-! ### Timings -/

/-- What a token has to do with time. -/
inductive Timing where
  /-- It takes the time that its number divides a whole note into, or the standard length. -/
  | given (divisor? : Option Nat) (dotted : Bool)
  /-- It takes the standard length. -/
  | standard
  /-- It sets the standard length and takes no time. -/
  | setting (divisor : Nat) (dotted : Bool)
  /-- It has nothing to do with time. -/
  | timeless
deriving DecidableEq, Repr

namespace Timing

/-- The ticks that a token takes where a standard length is set. -/
def duration (standard : Nat) : Timing → Nat
  | given (some n) dotted => if dotted then 384 / n + 384 / n / 2 else 384 / n
  | given none dotted => if dotted then standard + standard / 2 else standard
  | .standard => standard
  | setting _ _ | timeless => 0

/-- The standard length behind a token. -/
def lengthAfter (standard : Nat) : Timing → Nat
  | setting n dotted => if dotted then 384 / n + 384 / n / 2 else 384 / n
  | _ => standard

/-- The ticks that tokens take, each with the standard length that is set where it stands. -/
def durations (standard : Nat) : List Timing → List Nat
  | [] => []
  | x :: xs => x.duration standard :: durations (x.lengthAfter standard) xs

/-- The standard length behind tokens. -/
def finalLength (standard : Nat) (xs : List Timing) : Nat :=
  xs.foldl lengthAfter standard

/-- The time when tokens end that start at a given time, with one standard length behind them. -/
def ending (start standard : Nat) (xs : List Timing) : Nat :=
  start + (durations standard xs).sum + finalLength standard xs

theorem ending_cons (start standard : Nat) (x : Timing) (xs : List Timing) :
    ending start standard (x :: xs) =
      ending (start + x.duration standard) (x.lengthAfter standard) xs := by
  have rest : finalLength standard (x :: xs) = finalLength (x.lengthAfter standard) xs := rfl
  rw [ending, ending, durations, List.sum_cons, rest]
  omega

theorem start_le_ending (start standard : Nat) (xs : List Timing) :
    start ≤ ending start standard xs := by
  unfold ending
  omega

end Timing

namespace Token

/-- What a token has to do with time.  Which note it plays, and whether a tie stands behind it, has
nothing to do with it. -/
def timing (t : Token) : Timing :=
  match t.command with
  | .note _ | .rest => .given t.divisor? t.dotted
  | .key => .standard
  | .length => (t.divisor?.map fun n => .setting n t.dotted).getD .timeless
  | .octave | .octaveDown | .octaveUp | .tempo | .volume => .timeless

end Token

/-- The time when a voice ends that starts at a given time with a quarter note as its standard
length. -/
def voiceEnd (voice : String) (start : Nat) : Nat :=
  Timing.ending start 96 ((tokensOf voice).map Token.timing)

/-! ### The playhead -/

namespace Playhead

theorem time_pass (h : Playhead) (t : Token) :
    (h.pass t).time = h.time + t.timing.duration h.length := by
  have ticks : t.ticks h.length = withDot (t.ticks?.getD h.length) t.dotted := rfl
  unfold pass Token.timing
  rw [ticks, t.ticks?_eq]
  cases t.command with
  | note _ | rest => cases t.divisor? <;> rfl
  | length => cases t.divisor? <;> rfl
  | _ => rfl

theorem length_pass (h : Playhead) (t : Token) :
    (h.pass t).length = t.timing.lengthAfter h.length := by
  unfold pass Token.timing
  rw [t.ticks?_eq]
  cases t.command with
  | length => cases t.divisor? <;> rfl
  | _ => rfl

/-- The time when a voice ends from here on with the given tokens. -/
def ending (h : Playhead) (ts : List Token) : Nat :=
  Timing.ending h.time h.length (ts.map Token.timing)

theorem ending_pass (h : Playhead) (t : Token) (ts : List Token) :
    (h.pass t).ending ts = h.ending (t :: ts) := by
  unfold ending
  rw [time_pass, length_pass, List.map_cons, Timing.ending_cons]

theorem ending_passAll (h : Playhead) (ts : List Token) :
    (h.passAll ts).time + (h.passAll ts).length = h.ending ts := by
  induction ts generalizing h with
  | nil => rfl
  | cons t ts ih =>
    rw [← ending_pass]
    exact ih (h.pass t)

end Playhead

/-! ### Playing to the end -/

namespace VoiceState

/-- A token can be played if the time behind it fits. -/
theorem exists_apply {c : Setting} {s : VoiceState} {t : Token}
    (fits : (s.playhead.pass t).time < timeBound) : ∃ s', s.apply c t = .ok s' := by
  cases note : s.playhead.note? c.range t with
  | some x =>
    obtain ⟨start, -, -, -, pass⟩ := Playhead.note?_spec note
    have stop : s.time + x.ticks < timeBound := by
      rw [pass] at fits
      rw [Note.stop, start] at fits
      exact fits
    exact ⟨_, (apply_of_note? note).trans (play_eq_ok_iff.2 ⟨stop, rfl⟩)⟩
  | none =>
    have silent := s.playhead.isSome_note? c.range t
    rw [note, Option.isSome_none, Token.isPlayed] at silent
    unfold Playhead.pass at fits
    unfold apply
    cases command : t.command with
    | note name =>
      rw [command] at silent
      cases silent
    | key =>
      rw [command] at silent
      cases silent
    | rest =>
      rw [command] at fits
      exact ⟨_, advance_eq_ok_iff.2 ⟨fits, rfl⟩⟩
    | length => cases t.ticks? <;> exact ⟨_, rfl⟩
    | tempo => cases t.tempo? <;> exact ⟨_, rfl⟩
    | octave | octaveDown | octaveUp | volume => exact ⟨_, rfl⟩

/-- A voice can be played to its end iff the end fits. -/
theorem exists_finish_iff {c : Setting} {s : VoiceState} {ts : List Token} :
    (∃ track, s.applyAll c ts >>= finish c = .ok track) ↔ s.playhead.ending ts < timeBound := by
  induction ts generalizing s with
  | nil =>
    constructor
    · rintro ⟨track, ends⟩
      exact (finish_eq_ok_iff.1 ends).1
    · intro fits
      exact ⟨_, finish_eq_ok_iff.2 ⟨fits, rfl⟩⟩
  | cons t ts ih =>
    rw [applyAll_cons, bind_assoc, ← Playhead.ending_pass]
    constructor
    · rintro ⟨track, ends⟩
      obtain ⟨mid, plays, rest⟩ := except_bind_eq_ok_iff.1 ends
      rw [← playhead_apply plays]
      exact ih.1 ⟨track, rest⟩
    · intro fits
      -- The time behind the token is on the way to the end, so it fits if the end does.
      have now : (s.playhead.pass t).time ≤ (s.playhead.pass t).ending ts :=
        Timing.start_le_ending ..
      obtain ⟨mid, plays⟩ := exists_apply (c := c) (Nat.lt_of_le_of_lt now fits)
      rw [← playhead_apply plays] at fits
      obtain ⟨track, rest⟩ := ih.2 fits
      exact ⟨track, except_bind_eq_ok_iff.2 ⟨mid, plays, rest⟩⟩

end VoiceState

/-! ### Whole voices -/

theorem exists_compileVoice_lenient_iff {c : Setting} {voice : String} {start : Nat} :
    (∃ track, (compileVoice .lenient c voice start).result = .ok track) ↔
      voiceEnd voice start < timeBound := by
  rw [result_compileVoice_lenient]
  exact VoiceState.exists_finish_iff

/-- A compiled voice ends at its time. -/
theorem ended_compileVoice {p : Policy} {c : Setting} {voice : String} {start : Nat} {track : Track}
    (compiles : (compileVoice p c voice start).result = .ok track) :
    ∃ events, track = events ++ [⟨voiceEnd voice start, .endOfTrack⟩] ∧
      ∀ e ∈ events, e.message.IsPlayed c := by
  obtain ⟨s, runs, ends⟩ := compileVoice_eq_ok compiles
  obtain ⟨events, time, parts, played⟩ := (isVoice_compileVoice compiles).ended
  have last : s.time + s.length = voiceEnd voice start := by
    have whole := (Playhead.initial start).ending_passAll (tokensOf voice)
    have playhead : s.playhead = (Playhead.initial start).passAll (tokensOf voice) :=
      VoiceState.playhead_applyAll runs
    rw [← playhead] at whole
    exact whole
  -- What is known of the events and what is known of the time are about the same last event.
  have same := (VoiceState.finish_eq_ok_iff.1 ends).2.trans parts
  have time := (List.append_inj' same rfl).2
  rw [last] at time
  exact ⟨events, parts.trans (congrArg (events ++ ·) time.symm), played⟩

/-- A voice that compiles is not too long, whatever the policy. -/
theorem voiceEnd_lt_of_compileVoice {p : Policy} {c : Setting} {voice : String} {start : Nat}
    {track : Track} (compiles : (compileVoice p c voice start).result = .ok track) :
    voiceEnd voice start < timeBound := by
  obtain ⟨s, runs, ends⟩ := compileVoice_eq_ok compiles
  have lenient : (compileVoice .lenient c voice start).result = .ok track := by
    rw [result_compileVoice_lenient]
    exact except_bind_eq_ok_iff.2 ⟨s, runs, ends⟩
  exact exists_compileVoice_lenient_iff.1 ⟨track, lenient⟩

/-- **The end of a voice**: a voice ends at the time that the timings of its tokens come to, and
under the lenient policy it compiles if this time fits in 32 bits and is too long otherwise.  So two
voices with the same timings end at the same time, whatever they are played on and however. -/
theorem end_compileVoice (c : Setting) (voice : String) (start : Nat) :
    ((∃ track, (compileVoice .lenient c voice start).result = .ok track) ↔
      voiceEnd voice start ≤ 4294967295) ∧
    (4294967295 < voiceEnd voice start →
      (compileVoice .lenient c voice start).result.mapError VoiceFault.kind =
        .error (.limit "voice is too long")) ∧
    (∀ p track, (compileVoice p c voice start).result = .ok track →
      ∃ events, track = events ++ [⟨voiceEnd voice start, .endOfTrack⟩] ∧
        ∀ e ∈ events, e.message ≠ .endOfTrack) ∧
    ∀ p p' c' voice' track track',
      (tokensOf voice').map Token.timing = (tokensOf voice).map Token.timing →
      (compileVoice p c voice start).result = .ok track →
      (compileVoice p' c' voice' start).result = .ok track' →
      track'.getLast? = track.getLast? := by
  refine ⟨?_, ?_, ?_, ?_⟩
  · rw [exists_compileVoice_lenient_iff]
    exact Nat.lt_succ_iff
  · intro long
    cases result : (compileVoice .lenient c voice start).result with
    | ok track =>
      have fits := exists_compileVoice_lenient_iff.1 ⟨track, result⟩
      exact absurd (Nat.lt_succ_iff.1 fits) (Nat.not_le.2 long)
    | error fault =>
      rw [tooLong_of_compileVoice result]
      rfl
  · intro p track compiles
    obtain ⟨events, parts, played⟩ := ended_compileVoice compiles
    exact ⟨events, parts, fun e mem => (played e mem).ne_endOfTrack⟩
  · intro p p' c' voice' track track' timings compiles compiles'
    obtain ⟨events, rfl, -⟩ := ended_compileVoice compiles
    obtain ⟨events', rfl, -⟩ := ended_compileVoice compiles'
    have same : voiceEnd voice' start = voiceEnd voice start :=
      congrArg (Timing.ending start 96) timings
    rw [List.getLast?_concat, List.getLast?_concat, same]

/-- Two notes, a rest and a note by number: half, dotted quarter, eighth and eighth. -/
example : voiceEnd "c2&v9 o7 d4. l8 r n60" 100 = 100 + (192 + 144 + 48 + 48) + 48 := by
  decide +kernel

end MusicMacro
