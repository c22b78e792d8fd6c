import MusicMacro.Proofs.Voice.Run

/-!
# The notes of a voice

The playhead is what decides how the next note sounds: octave, standard length, volume and time, and
nothing about ties or events.  It moves by itself (`Playhead.pass`).  `Playhead.notes` are the notes
of a voice as they are written, each with its key, its time and whether a tie joins it to what
follows.

`VoiceState.Takes` says in these terms all that a token can do to a voice (`takes_of_apply`): it
plays a note, joins the last one, sets the tempo or moves the playhead.  What a token preserves is
proved for these four cases; that the state of a voice moves with its playhead is the first example
(`VoiceState.playhead_apply`).
-/

namespace MusicMacro

/-- Where and how the next note is played. -/
@[ext]
structure Playhead where
  octave : Nat
  /-- The ticks of a note that gives no length. -/
  length : Nat
  volume : Nat
  /-- The time, in ticks. -/
  time : Nat
deriving DecidableEq, Repr

/-- A note as it is written. -/
structure Note where
  /-- When the note begins. -/
  start : Nat
  /-- How long the note lasts. -/
  ticks : Nat
  key : DataByte
  velocity : DataByte
  /-- Whether a tie joins the note to what follows. -/
  joined : Bool
deriving DecidableEq, Repr

/-- When a note ends, ties apart. -/
def Note.stop (x : Note) : Nat :=
  x.start + x.ticks

/-- A note that is joined also if a tie behind it says so. -/
def Note.joinedBy (x : Note) (tie : Bool) : Note :=
  { x with joined := x.joined || tie }

namespace Token

/-- The number of a token, if a whole note can be divided by it. -/
def divisor? (t : Token) : Option Nat :=
  t.number?.filter fun n => 1 ≤ n && n ≤ 192

/-- Whether the number of a token is a length. -/
def hasLength (t : Token) : Bool :=
  t.number?.any fun n => 1 ≤ n && n ≤ 192

theorem ticks?_eq (t : Token) : t.ticks? = t.divisor?.map fun n => 384 / n := by
  have valid (n : Nat) : ticksOfDivisor? n =
      if 1 ≤ n ∧ n ≤ 192 then some (384 / n) else none := rfl
  unfold ticks? divisor?
  cases t.number? with
  | none => rfl
  | some n =>
    rw [Option.bind_some, valid, Option.filter_some]
    by_cases fits : 1 ≤ n ∧ n ≤ 192 <;> simp [fits]

theorem isSome_ticks? (t : Token) : t.ticks?.isSome = t.hasLength := by
  rw [ticks?_eq, Option.isSome_map, divisor?, Option.isSome_filter, hasLength]

/-- Whether a token plays a note. -/
def isPlayed (t : Token) : Bool :=
  match t.command with
  | .note _ | .key => true
  | _ => false

/-- Whether a token is a length with a tie, which joins the note before it. -/
def joins (t : Token) : Bool :=
  t.command = .length && t.hasLength && t.tied

/-- Whether a length joins what stands before the tokens, no note being played in between. -/
def joinsBefore (ts : List Token) : Bool :=
  (ts.takeWhile fun t => !t.isPlayed).any joins

theorem joinsBefore_cons (t : Token) (ts : List Token) :
    joinsBefore (t :: ts) = (!t.isPlayed && (t.joins || joinsBefore ts)) := by
  unfold joinsBefore
  cases played : t.isPlayed <;> simp [played]

end Token

namespace Playhead

/-- The playhead of a voice that starts at a given time. -/
def initial (start : Nat) : Playhead where
  octave := 4
  length := ticksPerQuarter
  volume := 8
  time := start

/-- How a token moves the playhead. -/
def pass (h : Playhead) (t : Token) : Playhead :=
  match t.command with
  | .note _ | .rest => { h with time := h.time + t.ticks h.length }
  | .key => { h with time := h.time + h.length }
  | .length => { h with length := (t.ticks?.map fun ticks => withDot ticks t.dotted).getD h.length }
  | .octave => { h with octave := t.number?.getD 0 }
  | .octaveDown => { h with octave := h.octave - 1 }
  | .octaveUp => { h with octave := min (h.octave + 1) VoiceState.highestOctave }
  | .tempo => h
  | .volume => { h with volume := VoiceState.clampVolume (t.number?.getD 0) }

/-- How tokens move the playhead. -/
def passAll (h : Playhead) (ts : List Token) : Playhead :=
  ts.foldl pass h

/-- The note that a token plays, if it plays one. -/
def note? (range : NoteRange) (h : Playhead) (t : Token) : Option Note :=
  match t.command with
  | .note name =>
    let raw : Int :=
      12 * h.octave + (name.semitones + (t.accidental.map Accidental.semitones).getD 0)
    some ⟨h.time, t.ticks h.length, range.key raw, .ofNat 7 (8 * h.volume), t.tied⟩
  | .key =>
    let raw := VoiceState.keyNumber range.highest t.number?
    some ⟨h.time, h.length, range.key raw, .ofNat 7 (8 * h.volume), t.tied⟩
  | _ => none

/-- The notes of a voice, in order.  A note is joined by a tie of its own, or by one on a length
before the next note. -/
def notes (range : NoteRange) (h : Playhead) : List Token → List Note
  | [] => []
  | t :: ts =>
    match h.note? range t with
    | some x => x.joinedBy (Token.joinsBefore ts) :: notes range (h.pass t) ts
    | none => notes range (h.pass t) ts

theorem isSome_note? (range : NoteRange) (h : Playhead) (t : Token) :
    (h.note? range t).isSome = t.isPlayed := by
  unfold note? Token.isPlayed
  cases t.command <;> rfl

theorem note?_eq_none {range : NoteRange} {h : Playhead} {t : Token} (silent : t.isPlayed = false) :
    h.note? range t = none := by
  rw [← Option.not_isSome_iff_eq_none, isSome_note?, silent]
  exact Bool.false_ne_true

/-- What a note has from the playhead where it is played, and where the playhead stands after it. -/
theorem note?_spec {range : NoteRange} {h : Playhead} {t : Token} {x : Note}
    (plays : h.note? range t = some x) :
    x.start = h.time ∧ x.velocity = VoiceState.velocity h.volume ∧
      (∃ raw, x.key = range.key raw) ∧ (x.ticks = h.length ∨ x.ticks = t.ticks h.length) ∧
      h.pass t = { h with time := x.stop } := by
  unfold note? at plays
  unfold pass
  cases command : t.command with
  | note name =>
    rw [command] at plays
    cases plays
    exact ⟨rfl, rfl, ⟨_, rfl⟩, .inr rfl, rfl⟩
  | key =>
    rw [command] at plays
    cases plays
    exact ⟨rfl, rfl, ⟨_, rfl⟩, .inl rfl, rfl⟩
  | _ =>
    rw [command] at plays
    cases plays

end Playhead

namespace VoiceState

/-- The playhead of a voice. -/
def playhead (s : VoiceState) : Playhead :=
  ⟨s.octave, s.length, s.volume, s.time⟩

/-- A voice whose playhead is put somewhere else. -/
def moveTo (s : VoiceState) (h : Playhead) : VoiceState :=
  { s with octave := h.octave, length := h.length, volume := h.volume, time := h.time }

/-! ### Steps that leave the playhead where it is -/

@[simp]
theorem playhead_releaseOther (s : VoiceState) (channel : Channel) (key : DataByte) :
    (s.releaseOther channel key).playhead = s.playhead := by
  unfold releaseOther
  split
  · split <;> rfl
  · rfl

@[simp]
theorem playhead_press (s : VoiceState) (channel : Channel) (key : DataByte) :
    (s.press channel key).playhead = s.playhead := by
  unfold press
  split <;> rfl

@[simp]
theorem playhead_lift (s : VoiceState) (channel : Channel) (key : DataByte) (tie : Bool) :
    (s.lift channel key tie).playhead = s.playhead := by
  unfold lift
  split <;> rfl

@[simp]
theorem playhead_tieBack (s : VoiceState) : s.tieBack.playhead = s.playhead := by
  unfold tieBack
  split
  · rfl
  · split <;> rfl

@[simp]
theorem playhead_releaseHeld (s : VoiceState) (channel : Channel) :
    (s.releaseHeld channel).playhead = s.playhead := by
  unfold releaseHeld
  split <;> rfl

theorem time_press_releaseOther (s : VoiceState) (channel : Channel) (key : DataByte) :
    ((s.releaseOther channel key).press channel key).time = s.time := by
  have same : ((s.releaseOther channel key).press channel key).playhead = s.playhead := by simp
  exact congrArg Playhead.time same

theorem time_releaseHeld (s : VoiceState) (channel : Channel) :
    (s.releaseHeld channel).time = s.time :=
  congrArg Playhead.time (s.playhead_releaseHeld channel)

/-! ### Steps that take time -/

/-- Letting ticks pass moves the time alone, and succeeds iff the time still fits in 32 bits. -/
theorem advance_eq_ok_iff {s s' : VoiceState} {ticks : Nat} :
    s.advance ticks = .ok s' ↔
      s.time + ticks < timeBound ∧ { s with time := s.time + ticks } = s' := by
  unfold advance
  split
  · next fits =>
    rw [Except.ok.injEq]
    exact (and_iff_right fits).symm
  · next long =>
    constructor
    · intro h
      cases h
    · intro h
      exact absurd h.1 long

/-- Playing a key is releasing another one, starting it, letting its ticks pass and ending it. -/
theorem play_eq_ok_iff {s s' : VoiceState} {channel : Channel} {key : DataByte} {ticks : Nat}
    {tie : Bool} :
    s.play channel key ticks tie = .ok s' ↔
      s.time + ticks < timeBound ∧
        ({ (s.releaseOther channel key).press channel key with time := s.time + ticks } :
          VoiceState).lift channel key tie = s' := by
  have time := s.time_press_releaseOther channel key
  unfold play
  rw [except_bind_eq_ok_iff]
  constructor
  · rintro ⟨mid, advances, lifts⟩
    obtain ⟨fits, rfl⟩ := advance_eq_ok_iff.1 advances
    cases lifts
    rw [time] at fits ⊢
    exact ⟨fits, rfl⟩
  · rintro ⟨fits, rfl⟩
    refine ⟨_, advance_eq_ok_iff.2 ⟨by rwa [time], rfl⟩, ?_⟩
    rw [time]
    rfl

/-- Coming to an end is releasing the held key, letting a standard length pass and marking the end. -/
theorem finish_eq_ok_iff {c : Setting} {s : VoiceState} {track : Track} :
    s.finish c = .ok track ↔
      s.time + s.length < timeBound ∧
        (s.releaseHeld c.channel).events.reverse ++ [⟨s.time + s.length, .endOfTrack⟩] =
          track := by
  have time := s.time_releaseHeld c.channel
  unfold finish
  rw [except_bind_eq_ok_iff]
  constructor
  · rintro ⟨last, advances, ends⟩
    obtain ⟨fits, rfl⟩ := advance_eq_ok_iff.1 advances
    cases ends
    rw [time] at fits
    refine ⟨fits, ?_⟩
    rw [← time, ← List.reverse_cons]
    rfl
  · rintro ⟨fits, rfl⟩
    refine ⟨_, advance_eq_ok_iff.2 ⟨by rwa [time], rfl⟩, ?_⟩
    rw [← time, ← List.reverse_cons]
    rfl

theorem playhead_of_play {s s' : VoiceState} {channel : Channel} {key : DataByte} {ticks : Nat}
    {tie : Bool} (plays : s.play channel key ticks tie = .ok s') :
    s'.playhead = { s.playhead with time := s.time + ticks } := by
  obtain ⟨-, rfl⟩ := play_eq_ok_iff.1 plays
  have same : ((s.releaseOther channel key).press channel key).playhead = s.playhead := by simp
  rw [playhead_lift]
  exact congrArg (fun h : Playhead => { h with time := s.time + ticks }) same

/-- A token that plays a note is played as that note. -/
theorem apply_of_note? {c : Setting} {s : VoiceState} {t : Token} {x : Note}
    (plays : s.playhead.note? c.range t = some x) :
    s.apply c t = s.play c.channel x.key x.ticks x.joined := by
  unfold Playhead.note? at plays
  unfold apply
  cases command : t.command with
  | note name =>
    rw [command] at plays
    cases plays
    rfl
  | key =>
    rw [command] at plays
    cases plays
    rfl
  | _ =>
    rw [command] at plays
    cases plays

/-! ### Tokens -/

/-- What a token can do to a voice. -/
inductive Takes (c : Setting) (s : VoiceState) (t : Token) : VoiceState → Prop
  /-- It plays a note. -/
  | note {x : Note} {s' : VoiceState} (plays : s.playhead.note? c.range t = some x)
      (ends : s.play c.channel x.key x.ticks x.joined = .ok s') : Takes c s t s'
  /-- It is a length that joins the last note. -/
  | join (silent : t.isPlayed = false) (joins : t.joins = true) :
      Takes c s t (s.moveTo (s.playhead.pass t)).tieBack
  /-- It sets the tempo. -/
  | tempo {tempo : Tempo} (silent : t.isPlayed = false) (free : t.joins = false)
      (gives : t.tempo? = some tempo) (still : s.playhead.pass t = s.playhead) :
      Takes c s t (s.emit (.tempo tempo))
  /-- It moves the playhead and does nothing else; after a rest the time still fits. -/
  | move (silent : t.isPlayed = false) (free : t.joins = false)
      (fits : t.command = .rest → (s.playhead.pass t).time < timeBound) :
      Takes c s t (s.moveTo (s.playhead.pass t))

/-- **All that a token does**: a token is played in one of four ways. -/
theorem takes_of_apply {c : Setting} {s s' : VoiceState} {t : Token}
    (plays : s.apply c t = .ok s') : s.Takes c t s' := by
  have played := s.playhead.isSome_note? c.range t
  cases note : s.playhead.note? c.range t with
  | some x =>
    rw [apply_of_note? note] at plays
    exact .note note plays
  | none =>
    rw [note] at played
    have silent : t.isPlayed = false := played.symm
    have moves (free : t.joins = false) (h : Playhead) (pass : s.playhead.pass t = h)
        (fits : t.command = .rest → h.time < timeBound) : s.Takes c t (s.moveTo h) := by
      subst pass
      exact .move silent free fits
    -- Only a length with a tie joins, so for any other command `free` is settled by its name.
    have free (other : t.command ≠ .length) : t.joins = false := by
      unfold Token.joins
      rw [decide_eq_false other]
      rfl
    have pass := Playhead.pass.eq_def s.playhead t
    unfold apply at plays
    cases command : t.command with
    | note name =>
      rw [Token.isPlayed, command] at silent
      cases silent
    | key =>
      rw [Token.isPlayed, command] at silent
      cases silent
    | rest =>
      rw [command] at plays pass
      obtain ⟨fits, rfl⟩ := advance_eq_ok_iff.1 plays
      exact moves (free (by simp [command])) _ pass fun _ => fits
    | tempo =>
      rw [command] at plays pass
      cases tempo : t.tempo? with
      | none =>
        rw [tempo] at plays
        cases plays
        exact moves (free (by simp [command])) _ pass (by simp [command])
      | some tempo' =>
        rw [tempo] at plays
        cases plays
        exact .tempo silent (free (by simp [command])) tempo pass
    | length =>
      rw [command] at plays pass
      have length := t.isSome_ticks?
      cases ticks : t.ticks? with
      | none =>
        rw [ticks] at plays pass length
        cases plays
        exact moves (by simp [Token.joins, ← length]) _ pass (by simp [command])
      | some ticks' =>
        rw [ticks] at plays pass length
        cases tied : t.tied with
        | false =>
          rw [tied] at plays
          cases plays
          exact moves (by simp [Token.joins, tied]) _ pass (by simp [command])
        | true =>
          rw [tied] at plays
          cases plays
          have joins : t.joins = true := by simp [Token.joins, command, ← length, tied]
          have takes := Takes.join (c := c) (s := s) silent joins
          rw [pass] at takes
          exact takes
    | octave | octaveDown | octaveUp | volume =>
      rw [command] at plays pass
      cases plays
      exact moves (free (by simp [command])) _ pass (by simp [command])

/-- **A voice moves with its playhead.** -/
theorem playhead_apply {c : Setting} {s s' : VoiceState} {t : Token}
    (plays : s.apply c t = .ok s') : s'.playhead = s.playhead.pass t := by
  cases takes_of_apply plays with
  | note plays ends =>
    obtain ⟨start, -, -, -, pass⟩ := Playhead.note?_spec plays
    rw [playhead_of_play ends, pass, Note.stop, start]
    rfl
  | join => exact playhead_tieBack _
  | tempo _ _ _ still => exact still.symm
  | move => rfl

theorem playhead_applyAll {c : Setting} {s s' : VoiceState} {ts : List Token}
    (runs : s.applyAll c ts = .ok s') : s'.playhead = s.playhead.passAll ts := by
  induction ts generalizing s with
  | nil =>
    cases runs
    rfl
  | cons t ts ih =>
    obtain ⟨mid, plays, rest⟩ := applyAll_cons_eq_ok_iff.1 runs
    rw [ih rest, playhead_apply plays]
    rfl

end VoiceState

end MusicMacro
