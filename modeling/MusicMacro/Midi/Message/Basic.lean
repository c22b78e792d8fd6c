import MusicMacro.Midi.Channel
import MusicMacro.Numeric.Bytes

/-!
# Messages

What a track can say: the channel messages, the system exclusive message and the meta messages that
a compiled voice needs.  A message has no time; see `Event`.
-/

namespace MusicMacro

/-- What happens in a track. -/
inductive Message where
  /-- Sets the tempo. -/
  | tempo (tempo : Tempo)
  /-- Changes the instrument of a channel. -/
  | programChange (channel : Channel) (program : DataByte)
  /-- Sets a controller of a channel. -/
  | controlChange (channel : Channel) (controller value : DataByte)
  /-- Starts a note. -/
  | noteOn (channel : Channel) (key velocity : DataByte)
  /-- Ends a note. -/
  | noteOff (channel : Channel) (key velocity : DataByte)
  /-- A system exclusive message, including its first byte `0xF0`. -/
  | sysEx (data : ByteArray)
  /-- Data for one make of sequencer. -/
  | sequencerSpecific (data : ByteArray)
  /-- A text. -/
  | text (text : String)
  /-- The end of a track. -/
  | endOfTrack
deriving DecidableEq

/-- The key that a message releases, if it ends a note. -/
def Message.releasedKey? : Message → Option DataByte
  | noteOff _ key _ => some key
  | _ => none

/-- Whether a byte is the status byte of a channel message. -/
def isChannelStatus (b : UInt8) : Bool :=
  0x80 ≤ b && b ≤ 0xEF

end MusicMacro
