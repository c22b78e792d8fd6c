import MusicMacro.Buffer
import MusicMacro.Conversion.Basic
import MusicMacro.Conversion.Part
import MusicMacro.Diagnostic
import MusicMacro.Error
import MusicMacro.Expect
import MusicMacro.Midi.Channel
import MusicMacro.Midi.Event
import MusicMacro.Midi.File.Basic
import MusicMacro.Midi.File.Encoding
import MusicMacro.Midi.File.Listing
import MusicMacro.Midi.File.Reading
import MusicMacro.Midi.File.Saving
import MusicMacro.Midi.Message.Basic
import MusicMacro.Midi.Message.Description
import MusicMacro.Midi.Message.Encoding
import MusicMacro.Midi.Message.Reading
import MusicMacro.Midi.Quantity
import MusicMacro.Midi.Word
import MusicMacro.Numeric.BigEndian
import MusicMacro.Numeric.Bytes
import MusicMacro.Proofs.Buffer
import MusicMacro.Proofs.Conversion.Bodies
import MusicMacro.Proofs.Conversion.Concatenation
import MusicMacro.Proofs.Conversion.Dropping
import MusicMacro.Proofs.Conversion.Encoding
import MusicMacro.Proofs.Conversion.Faults
import MusicMacro.Proofs.Conversion.Options
import MusicMacro.Proofs.Conversion.Tracks
import MusicMacro.Proofs.Conversion.WellFormed
import MusicMacro.Proofs.Midi.Canonical
import MusicMacro.Proofs.Midi.Chunks
import MusicMacro.Proofs.Midi.Delimiting
import MusicMacro.Proofs.Midi.Delivery
import MusicMacro.Proofs.Midi.File
import MusicMacro.Proofs.Midi.Frames
import MusicMacro.Proofs.Midi.Message
import MusicMacro.Proofs.Midi.Quantity
import MusicMacro.Proofs.Midi.RoundTrip
import MusicMacro.Proofs.Midi.Sinks
import MusicMacro.Proofs.Midi.Size
import MusicMacro.Proofs.Midi.Skipping
import MusicMacro.Proofs.Midi.Timing
import MusicMacro.Proofs.Midi.Track
import MusicMacro.Proofs.Score
import MusicMacro.Proofs.Text
import MusicMacro.Proofs.Transcript
import MusicMacro.Proofs.Voice.Arithmetic
import MusicMacro.Proofs.Voice.Arrangement
import MusicMacro.Proofs.Voice.Bounds
import MusicMacro.Proofs.Voice.Cleaning
import MusicMacro.Proofs.Voice.Delay
import MusicMacro.Proofs.Voice.Dropping
import MusicMacro.Proofs.Voice.Ending
import MusicMacro.Proofs.Voice.Events
import MusicMacro.Proofs.Voice.Folding
import MusicMacro.Proofs.Voice.Lexing
import MusicMacro.Proofs.Voice.Melody
import MusicMacro.Proofs.Voice.NoteRange
import MusicMacro.Proofs.Voice.Octaves
import MusicMacro.Proofs.Voice.Pairs
import MusicMacro.Proofs.Voice.Partition
import MusicMacro.Proofs.Voice.Playhead
import MusicMacro.Proofs.Voice.Renaming
import MusicMacro.Proofs.Voice.Result
import MusicMacro.Proofs.Voice.Run
import MusicMacro.Proofs.Voice.Spelling
import MusicMacro.Proofs.Voice.Ties
import MusicMacro.Score
import MusicMacro.Sink
import MusicMacro.Text.Blank
import MusicMacro.Text.Hex
import MusicMacro.Text.Printable
import MusicMacro.Text.Quoted
import MusicMacro.Transcript
import MusicMacro.Voice.Command
import MusicMacro.Voice.Compilation
import MusicMacro.Voice.Defect
import MusicMacro.Voice.Duration
import MusicMacro.Voice.Lexeme
import MusicMacro.Voice.NoteRange
import MusicMacro.Voice.State
import MusicMacro.Voice.Token
import MusicMacro.Proofs.Midi.Listing
