import MusicMacro.Proofs.Voice.Ending

/-!
# Arrangements

The same voice played in another way: on other channels, at other volumes, later, or with some of
its messages replaced or left out.  A voice does not look at any of this again once it is played,
except that a length tie looks for the last release.  So an arrangement that keeps the releases
(`Arrangement.releasedKey?`) commutes with every step of a voice (`Arrangement.apply_state`), and
the arranged voice comes to the arranged track (`result_compileVoice_arranged`), as long as it does
not become too long by being played later.
-/

namespace MusicMacro

/-- A way to play the same voice. -/
structure Arrangement where
  /-- The channel to play on instead of another. -/
  channel : Channel → Channel
  /-- The volume to play at instead of another. -/
  volume : Nat → Nat
  /-- What is said instead of a message, if anything is. -/
  message? : Message → Option Message
  /-- How much later everything is played, in ticks. -/
  delay : Nat
  volume_initial : volume 8 = 8
  noteOn (on : Channel) (key : DataByte) (v : Nat) :
    message? (.noteOn on key (VoiceState.velocity v)) =
      some (.noteOn (channel on) key (VoiceState.velocity (volume v)))
  noteOff (on : Channel) (key : DataByte) :
    message? (.noteOff on key 0) = some (.noteOff (channel on) key 0)
  endOfTrack : message? .endOfTrack = some .endOfTrack
  /-- What is said instead of a message releases the key that the message releases, if any. -/
  releasedKey? (m : Message) : (message? m).bind Message.releasedKey? = m.releasedKey?

namespace Arrangement

/-- The arrangement in which everything stays as it is. -/
def plain : Arrangement where
  channel on := on
  volume v := v
  message? := some
  delay := 0
  volume_initial := rfl
  noteOn _ _ _ := rfl
  noteOff _ _ := rfl
  endOfTrack := rfl
  releasedKey? _ := rfl

/-- An event in an arrangement, if it has one. -/
def event? (a : Arrangement) (e : Event) : Option Event :=
  (a.message? e.message).map fun m => ⟨e.time + a.delay, m⟩

/-- The events of a track in an arrangement. -/
def track (a : Arrangement) (t : Track) : Track :=
  t.filterMap a.event?

/-- A voice that has been played in an arrangement. -/
def state (a : Arrangement) (s : VoiceState) : VoiceState :=
  { s with
    volume := a.volume s.volume
    time := s.time + a.delay
    events := a.track s.events }

/-- Where and how an arrangement is played. -/
def setting (a : Arrangement) (c : Setting) : Setting :=
  { c with channel := a.channel c.channel }

/-- Whether an arrangement leaves alone what a command sets. -/
def Keeps (a : Arrangement) : Command → Prop
  | .tempo => ∀ tempo, a.message? (.tempo tempo) = some (.tempo tempo)
  | .volume => ∀ v, a.volume v = v
  | _ => True

/-- An arrangement that leaves tempos and volumes alone leaves alone what any command sets. -/
theorem keeps_of_unchanged {a : Arrangement}
    (tempo : ∀ tempo, a.message? (.tempo tempo) = some (.tempo tempo))
    (volume : ∀ v, a.volume v = v) (command : Command) : a.Keeps command := by
  cases command with
  | tempo => exact tempo
  | volume => exact volume
  | _ => trivial

/-- Whether a time still fits if it comes later, unless nothing comes later. -/
def Fits (a : Arrangement) (time : Nat) : Prop :=
  a.delay = 0 ∨ time + a.delay < timeBound

theorem Fits.of_le {a : Arrangement} {time time' : Nat} (fits : a.Fits time') (le : time ≤ time') :
    a.Fits time := by
  unfold Fits at fits ⊢
  omega

/-! ### Releases -/

section

variable (a : Arrangement)

theorem releasedKey?_event? (e : Event) :
    ((a.event? e).bind fun e => e.message.releasedKey?) = e.message.releasedKey? := by
  have same := a.releasedKey? e.message
  unfold event?
  cases arranged : a.message? e.message with
  | none => rwa [arranged] at same
  | some m => rwa [arranged] at same

/-- The last release of a track is heard in its arrangement too. -/
theorem findSome?_track (t : Track) :
    ((a.track t).findSome? fun e => e.message.releasedKey?) =
      t.findSome? fun e => e.message.releasedKey? := by
  induction t with
  | nil => rfl
  | cons e t ih =>
    have same := a.releasedKey?_event? e
    unfold track at ih ⊢
    rw [List.filterMap_cons, List.findSome?_cons, ← same]
    cases a.event? e with
    | none => exact ih
    | some e' =>
      rw [List.findSome?_cons, Option.bind_some]
      cases e'.message.releasedKey? with
      | none => exact ih
      | some key => rfl

theorem eraseP_track (t : Track) :
    ((a.track t).eraseP fun e => e.message.releasedKey?.isSome) =
      a.track (t.eraseP fun e => e.message.releasedKey?.isSome) := by
  induction t with
  | nil => rfl
  | cons e t ih =>
    have same := a.releasedKey?_event? e
    unfold track at ih ⊢
    rw [List.eraseP_cons, List.filterMap_cons, ← same]
    cases arranged : a.event? e with
    | none =>
      -- An event that is left out releases nothing, so it is not the one that is erased.
      exact ih.trans (List.filterMap_cons_none arranged).symm
    | some e' =>
      rw [List.eraseP_cons, Option.bind_some]
      cases e'.message.releasedKey?.isSome with
      | true => rfl
      | false => exact (congrArg _ ih).trans (List.filterMap_cons_some arranged).symm

/-! ### Steps -/

variable (s : VoiceState)

theorem state_emit {m m' : Message} (arranged : a.message? m = some m') :
    a.state (s.emit m) = (a.state s).emit m' := by
  have event : a.event? ⟨s.time, m⟩ = some ⟨s.time + a.delay, m'⟩ := by
    rw [event?, arranged]
    rfl
  have events : a.track (s.emit m).events = ⟨s.time + a.delay, m'⟩ :: a.track s.events :=
    List.filterMap_cons_some event
  rw [state, events]
  rfl

/-- Releasing a key that is held no longer. -/
theorem state_release (on : Channel) (key : DataByte) :
    a.state { s.emit (.noteOff on key 0) with tied := none } =
      { (a.state s).emit (.noteOff (a.channel on) key 0) with tied := none } :=
  congrArg (fun s : VoiceState => { s with tied := none }) (a.state_emit s (a.noteOff on key))

theorem state_releaseOther (on : Channel) (key : DataByte) :
    a.state (s.releaseOther on key) = (a.state s).releaseOther (a.channel on) key := by
  have tied : (a.state s).tied = s.tied := rfl
  unfold VoiceState.releaseOther
  rw [tied]
  cases s.tied with
  | none => rfl
  | some held =>
    by_cases same : held = key
    · simp only [if_pos same]
    · simp only [if_neg same]
      exact a.state_release s on held

theorem state_press (on : Channel) (key : DataByte) :
    a.state (s.press on key) = (a.state s).press (a.channel on) key := by
  have tied : (a.state s).tied = s.tied := rfl
  unfold VoiceState.press
  rw [tied]
  split
  · rfl
  · exact a.state_emit s (a.noteOn on key s.volume)

theorem state_lift (on : Channel) (key : DataByte) (tie : Bool) :
    a.state (s.lift on key tie) = (a.state s).lift (a.channel on) key tie := by
  cases tie with
  | true => rfl
  | false => exact a.state_release s on key

theorem state_tieBack : a.state s.tieBack = (a.state s).tieBack := by
  have tied : (a.state s).tied = s.tied := rfl
  have released : (a.state s).lastReleased? = s.lastReleased? := a.findSome?_track s.events
  unfold VoiceState.tieBack
  rw [tied, released]
  split
  · rfl
  · cases s.lastReleased? with
    | none => rfl
    | some key =>
      exact congrArg (fun events => { a.state s with tied := some key, events })
        (a.eraseP_track s.events).symm

theorem state_releaseHeld (on : Channel) :
    a.state (s.releaseHeld on) = (a.state s).releaseHeld (a.channel on) := by
  have tied : (a.state s).tied = s.tied := rfl
  unfold VoiceState.releaseHeld
  rw [tied]
  cases s.tied with
  | none => rfl
  | some key => exact a.state_release s on key

end

/-! ### Steps that take time -/

section

variable {a : Arrangement} {s : VoiceState} {c : Setting}

theorem advance_state {ticks : Nat} (fits : a.Fits (s.time + ticks)) :
    (a.state s).advance ticks = (s.advance ticks).map a.state := by
  have time : (a.state s).time + ticks = s.time + ticks + a.delay := Nat.add_right_comm ..
  have same : s.time + ticks + a.delay < timeBound ↔ s.time + ticks < timeBound := by
    unfold Fits at fits
    omega
  unfold VoiceState.advance
  rw [time]
  simp only [same]
  split <;> rfl

theorem play_state {on : Channel} {key : DataByte} {ticks : Nat} {tie : Bool}
    (fits : a.Fits (s.time + ticks)) :
    (a.state s).play (a.channel on) key ticks tie = (s.play on key ticks tie).map a.state := by
  rw [← s.time_press_releaseOther on key] at fits
  unfold VoiceState.play
  rw [← state_releaseOther, ← state_press, advance_state fits, except_map_bind, except_bind_map]
  simp only [← state_lift]
  rfl

/-- **A token does in an arrangement what it does without it**, if the arrangement keeps what it
sets. -/
theorem apply_state {t : Token} (keeps : a.Keeps t.command)
    (fits : a.Fits (s.playhead.pass t).time) :
    (a.state s).apply (a.setting c) t = (s.apply c t).map a.state := by
  unfold Playhead.pass at fits
  unfold VoiceState.apply
  cases command : t.command with
  | note name =>
    rw [command] at fits
    exact play_state fits
  | key =>
    rw [command] at fits
    exact play_state fits
  | rest =>
    rw [command] at fits
    exact advance_state fits
  | length =>
    cases t.ticks? with
    | none => rfl
    | some ticks =>
      have tied := a.state_tieBack { s with length := withDot ticks t.dotted }
      cases t.tied with
      | true => exact congrArg Except.ok tied.symm
      | false => rfl
  | octave => rfl
  | octaveDown => rfl
  | octaveUp => rfl
  | tempo =>
    rw [command] at keeps
    cases t.tempo? with
    | none => rfl
    | some tempo => exact congrArg Except.ok (a.state_emit s (keeps tempo)).symm
  | volume =>
    rw [command] at keeps
    have volume := keeps (VoiceState.clampVolume (t.number?.getD 0))
    exact congrArg (fun v => Except.ok { a.state s with volume := v }) volume.symm

theorem finish_state (fits : a.Fits (s.time + s.length)) :
    (a.state s).finish (a.setting c) = (s.finish c).map a.track := by
  rw [← s.time_releaseHeld c.channel] at fits
  have released := a.state_releaseHeld s c.channel
  have channel : (a.setting c).channel = a.channel c.channel := rfl
  have length : (a.state s).length = s.length := rfl
  unfold VoiceState.finish
  rw [channel, length, ← released, advance_state fits, except_map_bind, except_bind_map]
  refine bind_congr fun last => ?_
  have events := congrArg VoiceState.events (a.state_emit last a.endOfTrack)
  rw [← events]
  exact congrArg Except.ok List.filterMap_reverse.symm

end

/-! ### Whole voices -/

/-- Lexemes that are judged and played to the end come to the arranged track, by induction on them:
no time on the way is later than the end, so what fits at the end fits at every step. -/
theorem foldlM_state {a : Arrangement} (p : Policy) (c : Setting) (s : VoiceState)
    (ls : List Lexeme) (keeps : ∀ t ∈ ls.filterMap Lexeme.token?, a.Keeps t.command)
    (fits : a.Fits (s.playhead.ending (ls.filterMap Lexeme.token?))) :
    ls.foldlM (fun s l => p.judge (l.defects c.range.highest) >>= fun _ =>
        s.applyLexeme (a.setting c) l) (a.state s) >>= VoiceState.finish (a.setting c) =
      (ls.foldlM (fun s l => p.judge (l.defects c.range.highest) >>= fun _ =>
        s.applyLexeme c l) s >>= VoiceState.finish c).map a.track := by
  induction ls generalizing s with
  | nil => exact finish_state fits
  | cons l ls ih =>
    rw [List.foldlM_cons, List.foldlM_cons]
    simp only [bind_assoc, except_bind_map] at ih ⊢
    refine bind_congr fun _ => ?_
    cases l with
    | unknown text => exact ih s keeps fits
    | token t =>
      obtain ⟨keep, keeps⟩ := List.forall_mem_cons.1 keeps
      have later : (s.playhead.pass t).ending (ls.filterMap Lexeme.token?) =
          s.playhead.ending (t :: ls.filterMap Lexeme.token?) := Playhead.ending_pass ..
      have now : (s.playhead.pass t).time ≤
          (s.playhead.pass t).ending (ls.filterMap Lexeme.token?) := Timing.start_le_ending ..
      have fits : a.Fits ((s.playhead.pass t).ending (ls.filterMap Lexeme.token?)) := by
        rw [later]
        exact fits
      have plays : (a.state s).applyLexeme (a.setting c) (.token t) = (s.apply c t).map a.state :=
        apply_state keep (fits.of_le now)
      rw [plays, except_map_bind]
      show _ = s.apply c t >>= _
      -- Where the token is played, the end is still the same; where it is not, both runs stop.
      cases result : s.apply c t with
      | error fault => rfl
      | ok s' =>
        rw [← VoiceState.playhead_apply result] at fits
        exact ih s' keeps fits

end Arrangement

/-- **A voice in an arrangement** comes to the arrangement of its track, if the arrangement keeps
what the tokens of the voice set and the voice does not become too long by it. -/
theorem result_compileVoice_arranged (a : Arrangement) (p : Policy) (c : Setting) (voice : String)
    (start : Nat) (keeps : ∀ t ∈ tokensOf voice, a.Keeps t.command)
    (fits : a.Fits (voiceEnd voice start)) :
    (compileVoice p (a.setting c) voice (start + a.delay)).result =
      (compileVoice p c voice start).result.map a.track := by
  have opening : a.state { time := start } = { time := start + a.delay } := by
    rw [Arrangement.state, a.volume_initial]
    rfl
  have range : (a.setting c).range = c.range := rfl
  have plays := Arrangement.foldlM_state p c { time := start } (Lexeme.ofVoice voice) keeps fits
  rw [opening] at plays
  rw [result_compileVoice, result_compileVoice, range]
  exact plays

end MusicMacro
