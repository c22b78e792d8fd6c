import MusicMacro.Proofs.Voice.Pairs

/-!
# The events of a voice

`VoiceState.Valid` is kept by every token: the events so far are in order, none lies outside the
time from the start of the voice to now, each is a tempo or a note of the voice within bounds
(`Message.IsPlayed`), and a held key is one of the range.  At its end a voice therefore is a track
of such events with one end of track, and its notes come in pairs (`isVoice_compileVoice`).
-/

namespace MusicMacro

/-! ### Messages -/

/-- The messages that a voice can play in a setting. -/
def Message.IsPlayed (c : Setting) : Message → Prop
  | tempo t => 1 ≤ t.toNat ∧ t.toNat ≤ 15000000
  | noteOn channel key velocity =>
    channel = c.channel ∧ c.range.HasKey key ∧
      8 ∣ velocity.toNat ∧ 8 ≤ velocity.toNat ∧ velocity.toNat ≤ 120
  | noteOff channel key velocity => channel = c.channel ∧ c.range.HasKey key ∧ velocity = 0
  | _ => False

theorem Message.IsPlayed.ne_endOfTrack {c : Setting} {m : Message} (played : m.IsPlayed c) :
    m ≠ .endOfTrack := by
  rintro rfl
  exact played

/-- A tempo that is played lies between a microsecond and fifteen seconds for a quarter note: three
quarter notes in a minute are too slow for a tempo message. -/
theorem Token.tempo?_bounds {t : Token} {tempo : Tempo} (gives : t.tempo? = some tempo) :
    1 ≤ tempo.toNat ∧ tempo.toNat ≤ 15000000 := by
  obtain ⟨n, -, gives⟩ := Option.bind_eq_some_iff.1 gives
  split at gives
  · next positive =>
    have value := Word.ofNat?_eq_some_iff.1 gives
    have fits := tempo.isLt
    rw [value] at fits ⊢
    refine ⟨positive, ?_⟩
    unfold microsecondsPerMinute at positive fits ⊢
    have nonzero : 0 < n := by
      apply Nat.pos_of_ne_zero
      rintro rfl
      cases positive
    -- A tempo of three in a minute would be 20000000 and does not fit, so `n` is at least four.
    rw [Nat.div_lt_iff_lt_mul nonzero] at fits
    exact Nat.div_le_of_le_mul (by omega)
  · cases gives

theorem Message.isPlayed_noteOn {c : Setting} {key : DataByte} {volume : Nat}
    (inRange : c.range.HasKey key) (positive : 1 ≤ volume) (small : volume ≤ 15) :
    (noteOn c.channel key (VoiceState.velocity volume)).IsPlayed c := by
  refine ⟨rfl, inRange, ?_⟩
  rw [VoiceState.toNat_velocity small]
  exact ⟨Nat.dvd_mul_right 8 volume, by omega, by omega⟩

namespace VoiceState

/-! ### The invariant -/

/-- What holds of a voice at any time after its start. -/
structure Valid (c : Setting) (start : Nat) (s : VoiceState) : Prop where
  bounded : s.playhead.Bounded
  started : start ≤ s.time
  /-- The latest event comes first. -/
  ordered : s.events.Pairwise fun e f => f.time ≤ e.time
  within : ∀ e ∈ s.events, start ≤ e.time ∧ e.time ≤ s.time
  played : ∀ e ∈ s.events, e.message.IsPlayed c
  held : ∀ key ∈ s.tied, c.range.HasKey key

namespace Valid

variable {c : Setting} {start : Nat} {s s' : VoiceState}

theorem initial (c : Setting) (start : Nat) : ({ time := start } : VoiceState).Valid c start where
  bounded := Playhead.bounded_initial start
  started := Nat.le_refl start
  ordered := .nil
  within := by simp
  played := by simp
  held := by simp

/-- A message of the voice can be added at the current time. -/
theorem emit (valid : s.Valid c start) {m : Message} (played : m.IsPlayed c) :
    (s.emit m).Valid c start where
  bounded := valid.bounded
  started := valid.started
  ordered := List.pairwise_cons.2 ⟨fun e mem => (valid.within e mem).2, valid.ordered⟩
  within := List.forall_mem_cons.2 ⟨⟨valid.started, Nat.le_refl _⟩, valid.within⟩
  played := List.forall_mem_cons.2 ⟨played, valid.played⟩
  held := valid.held

/-- The playhead can move on within its bounds. -/
theorem moveTo (valid : s.Valid c start) {h : Playhead} (bounded : h.Bounded)
    (later : s.time ≤ h.time) : (s.moveTo h).Valid c start where
  bounded := bounded
  started := Nat.le_trans valid.started later
  ordered := valid.ordered
  within := fun e mem =>
    ⟨(valid.within e mem).1, Nat.le_trans (valid.within e mem).2 later⟩
  played := valid.played
  held := valid.held

/-- Time can pass. -/
theorem wait (valid : s.Valid c start) (ticks : Nat) :
    ({ s with time := s.time + ticks } : VoiceState).Valid c start := by
  obtain ⟨two, long, one, loud, high⟩ := valid.bounded
  exact valid.moveTo (h := ⟨s.octave, s.length, s.volume, s.time + ticks⟩)
    ⟨two, long, one, loud, high⟩ (Nat.le_add_right ..)

/-- A key of the range can be held, and a held key let go. -/
theorem hold (valid : s.Valid c start) {tied : Option DataByte}
    (held : ∀ key ∈ tied, c.range.HasKey key) : ({ s with tied } : VoiceState).Valid c start :=
  ⟨valid.bounded, valid.started, valid.ordered, valid.within, valid.played, held⟩

/-! ### Playing a key -/

theorem noteOff {key : DataByte} (inRange : c.range.HasKey key) :
    (Message.noteOff c.channel key 0).IsPlayed c :=
  ⟨rfl, inRange, rfl⟩

theorem releaseOther (valid : s.Valid c start) (key : DataByte) :
    (s.releaseOther c.channel key).Valid c start := by
  unfold VoiceState.releaseOther
  split
  · next held tied =>
    split
    · exact valid
    · exact (valid.emit (noteOff (valid.held held tied))).hold (by simp)
  · exact valid

theorem press (valid : s.Valid c start) {key : DataByte} (inRange : c.range.HasKey key) :
    (s.press c.channel key).Valid c start := by
  unfold VoiceState.press
  split
  · exact valid
  · exact valid.emit
      (Message.isPlayed_noteOn inRange valid.bounded.one_le_volume valid.bounded.volume_le)

theorem lift (valid : s.Valid c start) {key : DataByte} (inRange : c.range.HasKey key)
    (tie : Bool) : (s.lift c.channel key tie).Valid c start := by
  unfold VoiceState.lift
  split
  · exact valid.hold (by simpa using inRange)
  · exact (valid.emit (noteOff inRange)).hold (by simp)

theorem play (valid : s.Valid c start) {key : DataByte} (inRange : c.range.HasKey key)
    {ticks : Nat} {tie : Bool} (plays : s.play c.channel key ticks tie = .ok s') :
    s'.Valid c start := by
  obtain ⟨-, rfl⟩ := play_eq_ok_iff.1 plays
  have waited := ((valid.releaseOther key).press inRange).wait ticks
  rw [time_press_releaseOther] at waited
  exact waited.lift inRange tie

/-- The key that was released last is one of the range. -/
theorem lastReleased? (valid : s.Valid c start) {key : DataByte}
    (released : s.lastReleased? = some key) : c.range.HasKey key := by
  obtain ⟨e, mem, releases⟩ := List.exists_of_findSome?_eq_some released
  have played := valid.played e mem
  cases message : e.message with
  | noteOff channel key' velocity =>
    rw [message] at played releases
    cases releases
    exact played.2.1
  | _ =>
    rw [message] at releases
    cases releases

theorem tieBack (valid : s.Valid c start) : s.tieBack.Valid c start := by
  unfold VoiceState.tieBack
  split
  · exact valid
  · split
    · next key released =>
      -- An event is taken away and none is added or moved.
      have sub := List.eraseP_sublist (p := fun e : Event => e.message.releasedKey?.isSome)
        (l := s.events)
      exact {
        bounded := valid.bounded
        started := valid.started
        ordered := valid.ordered.sublist sub
        within := fun e mem => valid.within e (sub.mem mem)
        played := fun e mem => valid.played e (sub.mem mem)
        held := by simpa using valid.lastReleased? released }
    · exact valid

/-! ### Tokens -/

/-- **Every token keeps the invariant.** -/
theorem apply (valid : s.Valid c start) {t : Token} (plays : s.apply c t = .ok s') :
    s'.Valid c start := by
  have moved := valid.moveTo (valid.bounded.pass t) (s.playhead.time_le_pass t)
  cases takes_of_apply plays with
  | note note ends =>
    obtain ⟨-, -, ⟨raw, key⟩, -⟩ := Playhead.note?_spec note
    exact valid.play (key ▸ c.range.hasKey_key raw) ends
  | join => exact moved.tieBack
  | tempo _ _ gives => exact valid.emit (Token.tempo?_bounds gives)
  | move => exact moved

theorem applyAll (valid : s.Valid c start) {ts : List Token} (runs : s.applyAll c ts = .ok s') :
    s'.Valid c start :=
  applyAll_invariant (fun _ _ _ valid plays => valid.apply plays) valid runs

theorem releaseHeld (valid : s.Valid c start) : (s.releaseHeld c.channel).Valid c start := by
  unfold VoiceState.releaseHeld
  split
  · next key tied => exact (valid.emit (noteOff (valid.held key tied))).hold (by simp)
  · exact valid

end Valid

end VoiceState

/-! ### Whole voices -/

/-- The events of a voice that was played from a given time to its end. -/
structure Track.IsVoice (c : Setting) (start : Nat) (t : Track) : Prop where
  ended : ∃ events time, t = events ++ [⟨time, .endOfTrack⟩] ∧
    ∀ e ∈ events, e.message.IsPlayed c
  ordered : t.Pairwise fun e f => e.time ≤ f.time
  after : ∀ e ∈ t, start ≤ e.time
  paired : Paired t.noteEvents

/-- **A compiled voice** is a track of its own notes and tempos. -/
theorem isVoice_compileVoice {p : Policy} {c : Setting} {voice : String} {start : Nat}
    {track : Track} (compiles : (compileVoice p c voice start).result = .ok track) :
    track.IsVoice c start := by
  obtain ⟨s, runs, ends⟩ := compileVoice_eq_ok compiles
  have paired := paired_of_runs runs ends
  obtain ⟨-, parts⟩ := VoiceState.finish_eq_ok_iff.1 ends
  have valid := (((VoiceState.Valid.initial c start).applyAll runs).releaseHeld).wait s.length
  rw [← s.time_releaseHeld c.channel] at parts
  set last := s.releaseHeld c.channel
  refine ⟨⟨last.events.reverse, last.time + s.length, parts.symm, ?_⟩, ?_, ?_, paired⟩
  · intro e mem
    exact valid.played e (List.mem_reverse.1 mem)
  · rw [← parts, List.pairwise_append, List.pairwise_reverse]
    refine ⟨valid.ordered, List.pairwise_singleton .., ?_⟩
    intro e mem f mem'
    rw [List.mem_singleton.1 mem']
    exact (valid.within e (List.mem_reverse.1 mem)).2
  · intro e mem
    rw [← parts, List.mem_append, List.mem_reverse, List.mem_singleton] at mem
    rcases mem with mem | rfl
    · exact (valid.within e mem).1
    · exact valid.started

end MusicMacro
