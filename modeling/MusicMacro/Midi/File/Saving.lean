import MusicMacro.Midi.File.Encoding

/-!
# Saving MIDI files

Saving creates a file or replaces what it held.  What was written before a failure stays in the
file.  Nothing is written at a place that has no directory.
-/

namespace MusicMacro

/-- A place for a file. -/
inductive Place where
  /-- The directory of the place does not exist. -/
  | missing
  /-- A directory with the content of the file, if it is there. -/
  | directory (content : Option ByteArray)
deriving DecidableEq

/-- What a place holds. -/
def Place.content? : Place → Option ByteArray
  | missing => none
  | directory content => content

/-- Why a file was not saved. -/
inductive SavingFault where
  /-- The directory of the place does not exist. -/
  | notFound
  /-- The file has no binary form. -/
  | invalid (why : FileFault)
deriving DecidableEq, Repr

/-- Saves a file at a place: the place afterwards, with the events that were skipped. -/
def MidiFile.save (f : MidiFile) : Place → Place × Transcript Event SavingFault Unit
  | .missing => (.missing, .fail .notFound)
  | .directory _ =>
    let (bytes, t) := f.deliverAll ByteArray.empty
    (.directory (some bytes), t.mapError .invalid)

end MusicMacro
