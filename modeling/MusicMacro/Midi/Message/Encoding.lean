import MusicMacro.Midi.Message.Basic
import MusicMacro.Midi.Quantity
import MusicMacro.Numeric.BigEndian
import MusicMacro.Numeric.Bytes
import MusicMacro.Transcript

/-!
# The binary form of messages

A channel message is a status byte and one or two data bytes.  The other messages carry their data
behind its size, a quantity of variable length.  `Message.encode` puts the bytes out piece by piece,
since a message that turns out to be too long has put out its first piece by then; `Message.bytes`
joins the pieces.
-/

namespace MusicMacro

/-- Why a message has no binary form. -/
inductive EncodingFault where
  /-- System exclusive data does not start with `0xF0`. -/
  | sysExStart
  /-- The size of the data is no quantity. -/
  | dataTooLong
deriving DecidableEq, Repr

/-- The text of a fault. -/
def EncodingFault.message : EncodingFault → String
  | sysExStart => "sysex data must start with 0xF0"
  | dataTooLong => "varlen slice exceeds 28 bits"

namespace Message

/-- Puts out data behind its size. -/
def encodeSized (data : ByteArray) : Transcript (List UInt8) EncodingFault Unit :=
  if data.size < Quantity.bound then do
    .say (Quantity.bytes data.size)
    .say (byteList data)
  else
    .fail .dataTooLong

/-- Puts out the binary form of a message, status byte included. -/
def encode : Message → Transcript (List UInt8) EncodingFault Unit
  | .tempo t => do
    .say [0xFF, 0x51, 0x03]
    .say (BigEndian.bytes 3 t.toNat)
  | .text s => do
    .say [0xFF, 0x01]
    encodeSized s.toUTF8
  | .sequencerSpecific data => do
    .say [0xFF, 0x7F]
    encodeSized data
  | .sysEx data =>
    if h : 0 < data.size then
      if data[0] = 0xF0 then do
        .say [0xF0]
        encodeSized (data.extract 1 data.size)
      else
        .fail .sysExStart
    else
      .fail .sysExStart
  | .programChange channel program => .say [channel.status 0xC0, program.toByte]
  | .controlChange channel controller value =>
    .say [channel.status 0xB0, controller.toByte, value.toByte]
  | .noteOn channel key velocity => .say [channel.status 0x90, key.toByte, velocity.toByte]
  | .noteOff channel key velocity => .say [channel.status 0x80, key.toByte, velocity.toByte]
  | .endOfTrack => .say [0xFF, 0x2F, 0x00]

/-- The bytes that a message puts out. -/
def bytes (m : Message) : List UInt8 :=
  m.encode.out.toList.flatten

end Message

end MusicMacro
