import MusicMacro.Error
import MusicMacro.Midi.Event
import MusicMacro.Voice.Defect

/-!
# Playing a voice

The state of a voice and what a token does to it.  A tied note is held: it is released only when
another key is played, when an untied note of the same key ends, or when the voice ends.  A tie on a
length ties the note before it, whose release is taken back.

Nothing here looks for defects.  A token with a defect has the effect of what can be understood in
it: a length out of range counts as none, and a number that is missing or above the highest note
counts as zero.
-/

namespace MusicMacro

/-- Where and how a voice is played. -/
structure Setting where
  channel : Channel
  range : NoteRange := .standard
deriving DecidableEq, Repr

/-- Why a voice cannot be compiled. -/
inductive VoiceFault where
  /-- Something in the voice cannot be understood. -/
  | malformed (defect : Defect)
  /-- The time does not fit in 32 bits. -/
  | tooLong
deriving DecidableEq, Repr

/-- The error for a fault. -/
def VoiceFault.kind : VoiceFault → ErrorKind
  | malformed defect => .malformed defect.message
  | tooLong => .limit "voice is too long"

/-- The state of a voice between two tokens. -/
structure VoiceState where
  octave : Nat := 4
  /-- The ticks of a note that gives no length. -/
  length : Nat := ticksPerQuarter
  volume : Nat := 8
  /-- The key that a tie holds. -/
  tied : Option DataByte := none
  /-- The time, in ticks. -/
  time : Nat
  /-- The events so far, the latest first. -/
  events : List Event := []
deriving DecidableEq

namespace VoiceState

/-- The highest octave that can be reached by going up.  Going down ends at zero. -/
def highestOctave : Nat := 9

/-- The volume within its bounds that is nearest to a number. -/
def clampVolume (n : Nat) : Nat :=
  max 1 (min n 15)

/-- The velocity of the notes of a volume. -/
def velocity (volume : Nat) : DataByte :=
  .ofNat 7 (8 * volume)

/-- Adds a message at the current time. -/
def emit (s : VoiceState) (m : Message) : VoiceState :=
  { s with events := ⟨s.time, m⟩ :: s.events }

/-- Lets ticks pass. -/
def advance (s : VoiceState) (ticks : Nat) : Except VoiceFault VoiceState :=
  if s.time + ticks < timeBound then .ok { s with time := s.time + ticks } else .error .tooLong

/-- Releases the held key, unless it is the given one. -/
def releaseOther (s : VoiceState) (channel : Channel) (key : DataByte) : VoiceState :=
  match s.tied with
  | some held =>
    if held = key then s else { s.emit (.noteOff channel held 0) with tied := none }
  | none => s

/-- Starts a key, unless it is held. -/
def press (s : VoiceState) (channel : Channel) (key : DataByte) : VoiceState :=
  if s.tied.isSome then s else s.emit (.noteOn channel key (velocity s.volume))

/-- Ends a key, or holds it for the next note if there is a tie. -/
def lift (s : VoiceState) (channel : Channel) (key : DataByte) (tie : Bool) : VoiceState :=
  if tie then { s with tied := some key }
  else { s.emit (.noteOff channel key 0) with tied := none }

/-- Plays a key for some ticks. -/
def play (s : VoiceState) (channel : Channel) (key : DataByte) (ticks : Nat) (tie : Bool) :
    Except VoiceFault VoiceState := do
  let s ← ((s.releaseOther channel key).press channel key).advance ticks
  return s.lift channel key tie

/-- The key that was released last. -/
def lastReleased? (s : VoiceState) : Option DataByte :=
  s.events.findSome? fun e => e.message.releasedKey?

/-- Whether a tie on a length finds no note to tie. -/
def nothingToTie (s : VoiceState) : Bool :=
  s.tied.isNone && s.lastReleased?.isNone

/-- Takes back the last release and holds its key, unless a key is held already. -/
def tieBack (s : VoiceState) : VoiceState :=
  if s.tied.isSome then s
  else
    match s.lastReleased? with
    | some key =>
      { s with
        tied := some key
        events := s.events.eraseP fun e => e.message.releasedKey?.isSome }
    | none => s

/-- The raw note for a note name in the current octave. -/
def noteNumber (s : VoiceState) (name : NoteName) (accidental : Option Accidental) : Int :=
  12 * s.octave + (name.semitones + (accidental.map Accidental.semitones).getD 0)

/-- The raw note for a note by number. -/
def keyNumber (highest : Nat) (number? : Option Nat) : Nat :=
  match number? with
  | some n => if n ≤ highest then n else 0
  | none => 0

theorem keyNumber_le (highest : Nat) (number? : Option Nat) :
    keyNumber highest number? ≤ highest := by
  unfold keyNumber
  split
  · split
    · next low => exact low
    · exact Nat.zero_le _
  · exact Nat.zero_le _

/-- What a token does. -/
def apply (c : Setting) (s : VoiceState) (t : Token) : Except VoiceFault VoiceState :=
  match t.command with
  | .note name =>
    s.play c.channel (c.range.key (s.noteNumber name t.accidental)) (t.ticks s.length) t.tied
  | .key => s.play c.channel (c.range.key (keyNumber c.range.highest t.number?)) s.length t.tied
  | .rest => s.advance (t.ticks s.length)
  | .length =>
    match t.ticks? with
    | some ticks =>
      let s := { s with length := withDot ticks t.dotted }
      .ok (if t.tied then s.tieBack else s)
    | none => .ok s
  | .octave => .ok { s with octave := t.number?.getD 0 }
  | .octaveDown => .ok { s with octave := s.octave - 1 }
  | .octaveUp => .ok { s with octave := min (s.octave + 1) highestOctave }
  | .tempo =>
    match t.tempo? with
    | some tempo => .ok (s.emit (.tempo tempo))
    | none => .ok s
  | .volume => .ok { s with volume := clampVolume (t.number?.getD 0) }

/-- Whether a token ties a note that is not there. -/
def isLooseTie (s : VoiceState) (t : Token) : Bool :=
  t.command = .length && t.ticks?.isSome && t.tied && s.nothingToTie

/-- Releases the key that is held at the end. -/
def releaseHeld (s : VoiceState) (channel : Channel) : VoiceState :=
  match s.tied with
  | some key => { s.emit (.noteOff channel key 0) with tied := none }
  | none => s

/-- Ends a voice, one length after its last note: all its events, in order. -/
def finish (c : Setting) (s : VoiceState) : Except VoiceFault Track := do
  let s ← (s.releaseHeld c.channel).advance s.length
  return (s.emit .endOfTrack).events.reverse

end VoiceState

end MusicMacro
