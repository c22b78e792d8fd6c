import MusicMacro.Midi.Message.Basic
import MusicMacro.Midi.Quantity
import MusicMacro.Numeric.BigEndian

/-!
# Reading messages

Takes a message from the front of a list of bytes, given its status byte.  A channel message has as
many data bytes as its status byte says; the other messages give the size of their data.
-/

namespace MusicMacro

namespace Message

/-- Takes a data byte. -/
def takeData? : List UInt8 → Option (DataByte × List UInt8)
  | b :: rest => if b < 0x80 then some (.ofNat 7 b.toNat, rest) else none
  | [] => none

/-- Takes data behind its size. -/
def takeSized? (l : List UInt8) : Option (List UInt8 × List UInt8) := do
  let (size, rest) ← Quantity.read? l
  if size ≤ rest.length then some (rest.take size, rest.drop size) else none

/-- Reads on in a channel message. -/
def readChannel? (status : UInt8) (l : List UInt8) : Option (Message × List UInt8) := do
  let channel : Channel := ⟨.ofNat 4 status.toNat⟩
  let (first, rest) ← takeData? l
  match status &&& 0xF0 with
  | 0xC0 => return (.programChange channel first, rest)
  | 0x80 =>
    let (second, rest) ← takeData? rest
    return (.noteOff channel first second, rest)
  | 0x90 =>
    let (second, rest) ← takeData? rest
    return (.noteOn channel first second, rest)
  | 0xB0 =>
    let (second, rest) ← takeData? rest
    return (.controlChange channel first second, rest)
  | _ => none

/-- The meta message of a type with the given data. -/
def ofMeta? (type : UInt8) (data : List UInt8) : Option Message :=
  match type with
  | 0x01 => (String.fromUTF8? data.toByteArray).map .text
  | 0x2F => if data.isEmpty then some .endOfTrack else none
  | 0x51 =>
    if data.length = 3 then some (.tempo (.ofNat 24 (BigEndian.value data))) else none
  | 0x7F => some (.sequencerSpecific data.toByteArray)
  | _ => none

/-- Reads on in a meta message. -/
def readMeta? : List UInt8 → Option (Message × List UInt8)
  | type :: rest => do
    let (data, rest) ← takeSized? rest
    return (← ofMeta? type data, rest)
  | [] => none

/-- Reads on in a system exclusive message. -/
def readSysEx? (l : List UInt8) : Option (Message × List UInt8) := do
  let (data, rest) ← takeSized? l
  return (.sysEx (0xF0 :: data).toByteArray, rest)

/-- Reads on in a message after its status byte. -/
def read? (status : UInt8) (l : List UInt8) : Option (Message × List UInt8) :=
  if isChannelStatus status then readChannel? status l
  else if status = 0xF0 then readSysEx? l
  else if status = 0xFF then readMeta? l
  else none

end Message

end MusicMacro
