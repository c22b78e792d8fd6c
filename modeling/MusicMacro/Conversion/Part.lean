import MusicMacro.Voice.Compilation

/-!
# Parts

A part plays the voices of one score on one channel.  Each voice becomes a track of its own, which
sets up the channel in the second half of its first whole note and starts to play after it.  The
first track of a file also has a preamble at its very start.
-/

namespace MusicMacro

/-- What is said at the very start of a file. -/
structure Preamble where
  text : String := "Yokoso Project(https://yoko.so/)"
  /-- The first tempo. -/
  tempo : Tempo := 500000
  /-- A message that resets the device, including its first byte `0xF0`. -/
  sysEx : Option ByteArray := some
    ⟨#[0xF0, 0x41, 0x10, 0x42, 0x12, 0x40, 0x00, 0x7F, 0x00, 0x41, 0xF7]⟩
deriving DecidableEq

/-- The events of a preamble. -/
def Preamble.events (p : Preamble) : List Event :=
  ⟨0, .text p.text⟩ :: ⟨0, .tempo p.tempo⟩ ::
    (p.sysEx.map fun data => (⟨0, .sysEx data⟩ : Event)).toList

/-- What the voices of a score share. -/
structure Part where
  channel : Channel
  /-- The number of the instrument. -/
  program : DataByte
  /-- The position between left and right; 64 is the middle. -/
  pan : DataByte := 64
  /-- The depth of the effect. -/
  effect : DataByte := 0
deriving DecidableEq, Repr

namespace Part

/-- The time of the change of instrument; the controllers are set in the two ticks after it. -/
def setupTime : Nat := 192

/-- The time at which a voice starts. -/
def bodyTime : Nat := ticksPerWhole

/-- The time at which a track without a voice ends. -/
def emptyEnd : Nat := bodyTime + 1

/-- The controller for the position between left and right. -/
def panController : DataByte := 10

/-- The controller for the depth of the effect. -/
def effectController : DataByte := 91

/-- The events that set up the channel. -/
def setup (p : Part) : List Event :=
  [⟨setupTime, .programChange p.channel p.program⟩,
    ⟨setupTime + 1, .controlChange p.channel panController p.pan⟩,
    ⟨setupTime + 2, .controlChange p.channel effectController p.effect⟩]

/-- The events of a voice behind the setup; nothing is played if the voice is blank. -/
def body (policy : Policy) (c : Setting) (voice : String) : Compilation Track :=
  if voice.toList.all isBlank then pure [⟨emptyEnd, .endOfTrack⟩]
  else compileVoice policy c voice bodyTime

/-- The track of a voice. -/
def compile (p : Part) (policy : Policy) (c : Setting) (voice : String)
    (preamble : Option Preamble) : Compilation Track := do
  let body ← body policy c voice
  let track := (preamble.map Preamble.events).getD [] ++ p.setup ++ body
  .say (.compiled p.channel track.length)
  return track

end Part

end MusicMacro
