import MusicMacro.Error
import MusicMacro.Midi.File.Basic
import MusicMacro.Midi.Message.Encoding
import MusicMacro.Sink

/-!
# The binary form of MIDI files

A file is a header chunk and one chunk for each track.  In a track each message stands behind the
ticks since the message before it, and a channel message leaves its status byte out if the message
before it has the same one.  A message without a binary form is skipped: the ticks to the next
message then count from the last one written.

`MidiFile.encode` puts out the portions of a file in order, and the events that are skipped between
them.  `MidiFile.deliver` hands the portions to a sink until the sink refuses one, and
`MidiFile.encodedSize` only counts them.
-/

namespace MusicMacro

/-- Why a file has no binary form. -/
inductive FileFault where
  /-- There are more than 65535 tracks. -/
  | tooManyTracks
  /-- An event lies before the last one written, or `2 ^ 28` ticks or more after it. -/
  | unordered
  /-- The size of the data of a message is no quantity. -/
  | dataTooLong
  /-- A track takes up `2 ^ 32` bytes or more. -/
  | chunkTooLong
deriving DecidableEq, Repr

/-- The text of a fault. -/
def FileFault.message : FileFault → String
  | tooManyTracks => "track count exceeds 16 bit range"
  | unordered => "track events out of order or too far apart"
  | dataTooLong => EncodingFault.dataTooLong.message
  | chunkTooLong => "midi chunk size exceeds 32 bit range"

/-- The error for a fault. -/
def FileFault.kind (f : FileFault) : ErrorKind :=
  .limit f.message

/-- What comes out while a file is encoded. -/
inductive Piece where
  /-- A portion of the file. -/
  | portion (bytes : List UInt8)
  /-- An event that is left out of the file. -/
  | skipped (event : Event)
deriving DecidableEq

namespace Piece

/-- The bytes of the file in a piece. -/
def bytes : Piece → List UInt8
  | portion l => l
  | skipped _ => []

/-- The event that a piece reports as skipped. -/
def skipped? : Piece → Option Event
  | portion _ => none
  | skipped e => some e

end Piece

/-! ### Tracks -/

/-- Where the encoding of a track stands. -/
structure Running where
  /-- The time of the last message written. -/
  time : Nat := 0
  /-- The status byte of the last message written, zero if there is none. -/
  status : UInt8 := 0
deriving DecidableEq, Repr

/-- The bytes of a message with the given status byte and data, which lie behind the message that
was written last. -/
def Running.elide (r : Running) (status : UInt8) (data : List UInt8) : List UInt8 :=
  if isChannelStatus status && status == r.status then data else status :: data

/-- Encodes the next event of a track. -/
def Running.step (r : Running) (e : Event) : Transcript Piece FileFault Running :=
  match e.message.encode.result with
  | .error .sysExStart => do
    .say (.skipped e)
    pure r
  | .error .dataTooLong => .fail .dataTooLong
  | .ok () =>
    match e.message.bytes with
    | [] => pure r
    | status :: data =>
      if r.time ≤ e.time ∧ e.time - r.time < Quantity.bound then do
        .say (.portion (Quantity.bytes (e.time - r.time) ++ r.elide status data))
        pure { time := e.time, status := status }
      else
        .fail .unordered

/-- The bound on the size of a chunk, which is written in four bytes. -/
def chunkBound : Nat := 4294967296

/-- Puts out the chunk of a track: the mark `MTrk`, the size and the messages. -/
def Track.encode (t : Track) : Transcript Piece FileFault Unit :=
  let body := Transcript.run Running.step {} t
  let payload := body.out.toList.flatMap Piece.bytes
  do
    .sayAll (body.out.filter fun p => p.skipped?.isSome)
    discard <| .ofExcept body.result
    if payload.length < chunkBound then
      .say (.portion "MTrk".toUTF8.data.toList)
      .say (.portion (BigEndian.bytes 4 payload.length))
      .say (.portion payload)
    else
      .fail .chunkTooLong

/-! ### Files -/

/-- The header chunk of a file with `count` tracks. -/
def Header.bytes (h : Header) (count : Nat) : List UInt8 :=
  "MThd".toUTF8.data.toList ++ BigEndian.bytes 4 6 ++ BigEndian.bytes 2 h.format.code ++
    BigEndian.bytes 2 count ++ BigEndian.bytes 2 h.division.toNat

namespace MidiFile

/-- The bound on the number of tracks, which is written in two bytes. -/
def trackBound : Nat := 65536

/-- Puts out the portions of a file. -/
def encode (f : MidiFile) : Transcript Piece FileFault Unit :=
  if f.tracks.length < trackBound then do
    .say (.portion (f.header.bytes f.tracks.length))
    .run (fun _ => Track.encode) () f.tracks
  else
    .fail .tooManyTracks

/-- Hands portions to a sink until one is refused, and collects the skipped events before it. -/
def handOver {σ ε : Type} [Sink σ ε] (s : σ) (skipped : Array Event) :
    List Piece → σ × Transcript Event ε Unit
  | [] => (s, ⟨skipped, .ok ()⟩)
  | .skipped e :: rest => handOver s (skipped.push e) rest
  | .portion l :: rest =>
    match Sink.write s l with
    | (s, .ok ()) => handOver s skipped rest
    | (s, .error why) => (s, ⟨skipped, .error why⟩)

/-- Writes a file into a sink: the sink afterwards, with the events that were skipped on the way. -/
def deliver {σ ε : Type} [Sink σ ε] (f : MidiFile) (s : σ) :
    σ × Transcript Event (DeliveryFault ε FileFault) Unit :=
  let t := f.encode
  let (s, handed) := handOver s #[] t.out.toList
  (s, do
    handed.mapError .refused
    .ofExcept (t.result.mapError .invalid))

/-- Writes a file into a sink that refuses nothing. -/
def deliverAll {σ : Type} [Sink σ Empty] (f : MidiFile) (s : σ) :
    σ × Transcript Event FileFault Unit :=
  let (s, t) := f.deliver s
  (s, t.mapError fun
    | .refused why => nomatch why
    | .invalid why => why)

/-- The number of bytes in a file. -/
def encodedSize (f : MidiFile) : Transcript Event FileFault Nat :=
  let (s, t) := f.deliverAll ({} : ByteCount)
  t >>= fun _ => pure s.count

end MidiFile

end MusicMacro
