import MusicMacro.Expect
import MusicMacro.Midi.File.Encoding
import MusicMacro.Midi.Message.Reading

/-!
# Reading MIDI files

Takes a file from the front of a list of bytes.  In a track the ticks before each message add up to
its time, and a message that starts with a data byte has the status byte of the channel message
before it; a message that is none of a channel leaves no status byte behind.
-/

namespace MusicMacro

/-! ### Tracks -/

/-- Takes the status byte of a message, which is the running one if the message starts with a data
byte. -/
def takeStatus? (running : UInt8) : List UInt8 → Option (UInt8 × List UInt8)
  | b :: rest =>
    if 0x80 ≤ b then some (b, rest)
    else if isChannelStatus running then some (running, b :: rest)
    else none
  | [] => none

/-- Takes the next event of a track. -/
def Running.read? (r : Running) (l : List UInt8) : Option (Event × Running × List UInt8) := do
  let (ticks, rest) ← Quantity.read? l
  let (status, rest) ← takeStatus? r.status rest
  let (message, rest) ← Message.read? status rest
  return (⟨r.time + ticks, message⟩, ⟨r.time + ticks, status⟩, rest)

/-- Reads a track to the end of its bytes, with at most `fuel` events. -/
def Track.readEvents? : (fuel : Nat) → Running → List UInt8 → Option Track
  | _, _, [] => some []
  | 0, _, _ :: _ => none
  | fuel + 1, r, b :: l => do
    let (event, r, rest) ← r.read? (b :: l)
    return event :: (← Track.readEvents? fuel r rest)

/-- Takes the chunk of a track. -/
def Track.read? (l : List UInt8) : Option (Track × List UInt8) := do
  let rest ← expect "MTrk".toUTF8.data.toList l
  let (size, rest) ← BigEndian.take? 4 rest
  if size ≤ rest.length then
    return (← Track.readEvents? size {} (rest.take size), rest.drop size)
  else
    none

/-- Takes the chunks of some tracks. -/
def Track.readMany? : (count : Nat) → List UInt8 → Option (List Track × List UInt8)
  | 0, l => some ([], l)
  | count + 1, l => do
    let (track, rest) ← Track.read? l
    let (tracks, rest) ← Track.readMany? count rest
    return (track :: tracks, rest)

/-! ### Files -/

/-- The format that a number in a header stands for. -/
def Format.ofCode? : Nat → Option Format
  | 0 => some singleTrack
  | 1 => some parallel
  | _ => none

@[simp]
theorem Format.ofCode?_code (f : Format) : ofCode? f.code = some f := by
  cases f <;> rfl

/-- Takes a file. -/
def MidiFile.read? (l : List UInt8) : Option (MidiFile × List UInt8) := do
  let rest ← expect ("MThd".toUTF8.data.toList ++ BigEndian.bytes 4 6) l
  let (code, rest) ← BigEndian.take? 2 rest
  let (count, rest) ← BigEndian.take? 2 rest
  let (division, rest) ← BigEndian.take? 2 rest
  let header : Header := ⟨← Format.ofCode? code, ← Word.ofNat? 15 division⟩
  let (tracks, rest) ← Track.readMany? count rest
  return (⟨header, tracks⟩, rest)

end MusicMacro
