import MusicMacro.Midi.Event

/-!
# MIDI files

A header and a list of tracks.
-/

namespace MusicMacro

/-- How the tracks of a file are laid out in time. -/
inductive Format where
  /-- There is one track. -/
  | singleTrack
  /-- All tracks are played at once. -/
  | parallel
deriving DecidableEq, Repr

namespace Format

/-- The format for a number of tracks. -/
def ofTrackCount (n : Nat) : Format :=
  if n = 1 then singleTrack else parallel

/-- The number that stands for a format in a header. -/
def code : Format → Nat
  | singleTrack => 0
  | parallel => 1

end Format

/-- The header of a file. -/
structure Header where
  format : Format
  /-- The ticks in a quarter note. -/
  division : Division
deriving DecidableEq, Repr

/-- A MIDI file in memory. -/
structure MidiFile where
  header : Header
  tracks : List Track
deriving DecidableEq

end MusicMacro
