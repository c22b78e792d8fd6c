import MusicMacro.Conversion.Part
import MusicMacro.Midi.File.Encoding
import MusicMacro.Score

/-!
# Conversions

Scores become a MIDI file: score `i` is played on channel `i + 1` by its instrument, and each of its
three voices is a track.  Either all scores are converted or none.

The counts are looked at first, then the note range, and then one score after the other with its
voices in order; the first failure ends the conversion.
-/

namespace MusicMacro

/-- What all tracks of a file share. -/
structure Options where
  /-- The ticks in a quarter note that the header declares.  The times of the events do not depend
  on it. -/
  division : Division := 96
  pan : DataByte := 64
  effect : DataByte := 0
  /-- The lowest note. -/
  lowest : UInt8 := 0
  /-- The highest note. -/
  highest : UInt8 := 96
  preamble : Option Preamble := some {}
deriving DecidableEq

/-- Scores with the instruments that play them. -/
structure Conversion where
  scores : List String
  instruments : List DataByte
  options : Options := {}
deriving DecidableEq

namespace Conversion

/-- The conversion of one score. -/
def single (score : String) (instrument : DataByte) : Conversion where
  scores := [score]
  instruments := [instrument]

/-- The number of scores that have a channel each. -/
def largestCount : Nat := 16

/-- The error for a score that has no channel. -/
def noChannel : ErrorKind :=
  .limit "more scores than midi channels"

/-- Looks at the counts of scores and instruments. -/
def checkCounts (c : Conversion) : Except Error Unit :=
  if c.scores.isEmpty then
    .error (ErrorKind.grammar "no scores to convert")
  else if c.scores.length ≠ c.instruments.length then
    .error (ErrorKind.arity c.scores.length c.instruments.length)
  else if largestCount < c.scores.length then
    .error noChannel
  else
    .ok ()

/-! ### Scores -/

/-- The channel of a score. -/
def channelOf (score : Nat) : Except Error Channel :=
  match Channel.ofNumber? (score + 1) with
  | some channel => .ok channel
  | none => .error (.inScore noChannel score)

/-- The note range of a conversion. -/
def rangeOf (o : Options) : Except Error NoteRange :=
  (NoteRange.ofBounds o.lowest o.highest).mapError fun fault => fault.kind

/-- The voices of a score. -/
def voicesOf (score : Nat) (text : String) : Except Error Score :=
  (Score.ofText text).mapError fun kind => .inScore kind score

/-- The preamble of a track: it stands in the first voice of the first score. -/
def preambleOf (o : Options) (score voice : Nat) : Option Preamble :=
  if score = 0 ∧ voice = 0 then o.preamble else none

/-- The track of one voice of a score. -/
def compileTrack (p : Policy) (o : Options) (part : Part) (range : NoteRange) (score voice : Nat)
    (text : String) : Transcript Diagnostic Error Track :=
  (part.compile p ⟨part.channel, range⟩ text (preambleOf o score voice)).mapError
    fun fault => .inVoice fault.kind score voice

/-- The tracks of one score. -/
def compileScore (p : Policy) (o : Options) (score : Nat) (text : String) (program : DataByte) :
    Transcript Diagnostic Error (List Track) := do
  let channel ← .ofExcept (channelOf score)
  let range ← .ofExcept (rangeOf o)
  let s ← .ofExcept (voicesOf score text)
  let part : Part := { channel, program, pan := o.pan, effect := o.effect }
  s.voices.zipIdx.mapM fun (text, voice) => compileTrack p o part range score voice text

/-! ### Files -/

/-- The file of a conversion, in memory. -/
def toFile (p : Policy) (c : Conversion) : Transcript Diagnostic Error MidiFile := do
  .ofExcept c.checkCounts
  let parts ← (c.scores.zip c.instruments).zipIdx.mapM fun ((text, program), score) =>
    compileScore p c.options score text program
  let tracks := parts.flatten
  .say (.converted c.scores.length tracks.length)
  return ⟨⟨.ofTrackCount tracks.length, c.options.division⟩, tracks⟩

/-- Reports the events that are skipped while a file is encoded, and its fault as an error. -/
def report {α : Type} (t : Transcript Event FileFault α) : Transcript Diagnostic Error α :=
  (t.mapOut .skipping).mapError fun fault => fault.kind

/-- The number of bytes in the file of a conversion. -/
def encodedSize (p : Policy) (c : Conversion) : Transcript Diagnostic Error Nat := do
  let file ← c.toFile p
  report file.encodedSize

/-- The bytes of the file of a conversion.  The file is encoded twice, first for its size alone. -/
def toBytes (p : Policy) (c : Conversion) : Transcript Diagnostic Error ByteArray := do
  let file ← c.toFile p
  let _ ← report file.encodedSize
  let (buffer, t) := file.deliverAll Buffer.empty
  report t
  .say (.encoded file.tracks.length buffer.size)
  return buffer.bytes

end Conversion

end MusicMacro
