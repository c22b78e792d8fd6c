import MusicMacro.Midi.File.Basic

/-!
# Listings

A MIDI file as lines of text: the header, then every track between two marks with one line for each
event.
-/

namespace MusicMacro

/-- The lines of one track. -/
def Track.listing (t : Track) : List String :=
  "MTrk" :: t.map Event.description ++ ["TrkEnd"]

/-- The lines of a file. -/
def MidiFile.listing (f : MidiFile) : List String :=
  s!"MFile {f.header.format.code} {f.tracks.length} {f.header.division.toNat}" ::
    f.tracks.flatMap Track.listing

end MusicMacro
