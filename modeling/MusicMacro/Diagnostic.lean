import MusicMacro.Error
import MusicMacro.Midi.Event
import MusicMacro.Midi.Message.Encoding
import MusicMacro.Voice.Defect

/-!
# Diagnostics

What a conversion reports while it runs, apart from its result.
-/

namespace MusicMacro

/-- How much a report matters. -/
inductive Level where
  | warn | debug | trace
deriving DecidableEq, Repr

namespace Level

/-- The rank of a level: the less a report matters, the higher. -/
def rank : Level → Nat
  | warn => 0
  | debug => 1
  | trace => 2

/-- The name of a level in a report. -/
def name : Level → String
  | warn => "WARN"
  | debug => "DEBUG"
  | trace => "TRACE"

end Level

/-- A report. -/
inductive Diagnostic where
  /-- A token is about to be played, in a given state. -/
  | playing (token : Token) (time octave length volume : Nat)
  /-- A text has a defect, and what cannot be understood in it is dropped. -/
  | dropping (text : List Char) (defect : Defect)
  /-- A tie finds no note to tie. -/
  | looseTie
  /-- A voice has become a track. -/
  | compiled (channel : Channel) (events : Nat)
  /-- Scores have become tracks. -/
  | converted (scores tracks : Nat)
  /-- Tracks have become bytes. -/
  | encoded (tracks bytes : Nat)
  /-- An event is left out of a file. -/
  | skipping (event : Event)
deriving DecidableEq

namespace Diagnostic

/-- The level of a report. -/
def level : Diagnostic → Level
  | playing .. | compiled .. => .trace
  | dropping .. | looseTie | converted .. | encoded .. => .debug
  | skipping .. => .warn

/-- The error that an event without a binary form would be. -/
def unencodable : ErrorKind :=
  .encoding EncodingFault.sysExStart.message

/-- The text of a report. -/
def message : Diagnostic → String
  | playing token time octave length volume =>
    quoted (String.ofList token.text) ++
      s!" at tick {time} (o{octave} l{length} v{volume})"
  | dropping text defect =>
    "dropping mml " ++ quoted (String.ofList text) ++ ": " ++ defect.message
  | looseTie => "length tie with no previous note, ignoring"
  | compiled channel events => s!"compiled voice on channel {channel} into {events} events"
  | converted scores tracks => s!"converted {scores} scores into {tracks} tracks"
  | encoded tracks bytes => s!"encoded {tracks} tracks into {bytes} bytes"
  | skipping event => "skipping event \"" ++ event.description ++ "\": " ++ unencodable.text

/-- A report in one line, with its level. -/
def line (d : Diagnostic) : String :=
  d.level.name ++ " " ++ d.message

/-- Whether a report matters at least as much as a level. -/
def reaches (d : Diagnostic) (l : Level) : Bool :=
  d.level.rank ≤ l.rank

end Diagnostic

end MusicMacro
