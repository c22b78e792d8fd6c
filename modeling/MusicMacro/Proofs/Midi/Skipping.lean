import MusicMacro.Proofs.Midi.Chunks
import MusicMacro.Proofs.Midi.RoundTrip
import MusicMacro.Proofs.Midi.Timing

/-!
# Events that are skipped

Whether a track can be written depends on the events that are kept alone: on the ticks between them
and on the data that they carry (`Track.IsWritable`).  What is skipped changes neither that nor a
byte of the file, wherever it stands and at whatever time (`MidiFile.deliverAll_kept`), since an
event that is skipped leaves the state of the writer as it is: the ticks to the next message count
from the last one written, and so does its status byte (`Track.run_kept`).
-/

namespace MusicMacro

/-! ### Messages -/

/-- How many bytes a message carries behind their number. -/
def Message.carried : Message → Nat
  | .text s => s.toUTF8.size
  | .sequencerSpecific data => data.size
  | .sysEx data => data.size - 1
  | _ => 0

theorem Message.not_isOversized_iff {m : Message} (start : m.isEncodable) :
    ¬ m.isOversized ↔ m.carried < Quantity.bound := by
  have positive : 0 < Quantity.bound := by decide
  cases m with
  | text s => simp [isOversized, carried]
  | sequencerSpecific data => simp [isOversized, carried]
  | sysEx data =>
    rw [isOversized, start, Bool.true_and, decide_eq_true_eq, carried]
    omega
  | _ => exact iff_of_true Bool.false_ne_true positive

/-! ### Tracks -/

namespace Track

/-- Whether a track can be written, all of whose events have a place in a file: it starts soon
enough, each event follows the one before it in time and soon enough, and none carries too much.
All three are a matter of 28 bits. -/
structure IsWritable (t : Track) : Prop where
  first : ∀ e ∈ t.head?, e.time < 268435456
  steps : t.IsChain fun e f => e.time ≤ f.time ∧ f.time - e.time < 268435456
  carried : ∀ e ∈ t, e.message.carried < 268435456

theorem isTimed_zero_iff {t : Track} :
    IsTimed 0 t ↔ (∀ e ∈ t.kept.head?, e.time < Quantity.bound) ∧
      t.kept.IsChain fun e f => e.time ≤ f.time ∧ f.time - e.time < Quantity.bound := by
  show (0 :: t.kept.map Event.time).IsChain _ ↔ _
  rw [List.isChain_cons, List.isChain_map, List.head?_map]
  refine and_congr_left' ?_
  simp

/-- The condition on a track is one on the events that are kept. -/
theorem isWritable_kept_iff {t : Track} :
    t.kept.IsWritable ↔ IsTimed 0 t ∧ ∀ e ∈ t, ¬ e.message.isOversized := by
  have carried : (∀ e ∈ t.kept, e.message.carried < Quantity.bound) ↔
      ∀ e ∈ t, ¬ e.message.isOversized := by
    constructor
    · intro small e mem large
      have start := Message.isEncodable_of_isOversized large
      exact (Message.not_isOversized_iff start).2 (small e (List.mem_filter.2 ⟨mem, start⟩)) large
    · intro small e mem
      obtain ⟨mem, start⟩ := List.mem_filter.1 mem
      exact (Message.not_isOversized_iff start).1 (small e mem)
  rw [isTimed_zero_iff, ← carried]
  constructor
  · intro ⟨first, steps, small⟩
    exact ⟨⟨first, steps⟩, small⟩
  · intro ⟨⟨first, steps⟩, small⟩
    exact ⟨first, steps, small⟩

/-- **What is skipped leaves no trace** in the run over a track: by induction on the track, where an
event that is skipped leaves the state as it is. -/
theorem run_kept (r : Running) (t : Track) :
    (Transcript.run Running.step r t.kept).result = (Transcript.run Running.step r t).result ∧
      payloadFrom r t.kept = payloadFrom r t := by
  unfold kept
  induction t generalizing r with
  | nil => exact ⟨rfl, rfl⟩
  | cons e t ih =>
    by_cases kept : isKept e
    · rw [List.filter_cons_of_pos kept]
      rcases steps : (r.step e).result with fault | r'
      · unfold payloadFrom
        rw [Transcript.run_cons, Transcript.run_cons, Transcript.bind_of_error steps,
          Transcript.bind_of_error steps]
        exact ⟨rfl, rfl⟩
      · obtain ⟨result, out⟩ := run_cons_of_ok steps t
        obtain ⟨result', out'⟩ := run_cons_of_ok steps (t.filter isKept)
        obtain ⟨same, same'⟩ := ih r'
        rw [result, out, result', out', same, same']
        exact ⟨rfl, rfl⟩
    · obtain ⟨result, out⟩ := run_cons_of_skipped r kept t
      rw [List.filter_cons_of_neg kept, result, out]
      exact ih r

theorem payload_kept (t : Track) : t.kept.payload = t.payload :=
  (run_kept {} t).2

theorem result_encode_kept (t : Track) : t.kept.encode.result = t.encode.result := by
  have run := (run_kept {} t).1
  rcases ends : (Transcript.run Running.step {} t).result with fault | r
  · rw [(encode_of_error ends).1, (encode_of_error (run.trans ends)).1]
  · rcases Nat.lt_or_ge t.payload.length chunkBound with short | long
    · have short' := short
      rw [← payload_kept] at short'
      rw [(encode_of_ok ends short).1, (encode_of_ok (run.trans ends) short').1]
    · have long' := long
      rw [← payload_kept] at long'
      rw [(encode_of_long ends long).1, (encode_of_long (run.trans ends) long').1]

theorem bytes_encode_kept (t : Track) :
    t.kept.encode.out.toList.flatMap Piece.bytes = t.encode.out.toList.flatMap Piece.bytes := by
  have result := t.result_encode_kept
  rcases ends : t.encode.result with fault | _
  · rw [bytes_encode_of_error ends, bytes_encode_of_error (result.trans ends)]
  · rw [bytes_encode ends, bytes_encode (result.trans ends), chunk, chunk, payload_kept]

end Track

/-! ### Files -/

namespace MidiFile

theorem run_tracks_kept (ts : List Track) :
    (Transcript.run (fun _ => Track.encode) () (ts.map Track.kept)).result =
        (Transcript.run (fun _ => Track.encode) () ts).result ∧
      (Transcript.run (fun _ => Track.encode) () (ts.map Track.kept)).out.toList.flatMap
          Piece.bytes =
        (Transcript.run (fun _ => Track.encode) () ts).out.toList.flatMap Piece.bytes := by
  induction ts with
  | nil => exact ⟨rfl, rfl⟩
  | cons t ts ih =>
    obtain ⟨result, out⟩ := ih
    have first := t.result_encode_kept
    rw [List.map_cons, Transcript.run_cons, Transcript.run_cons]
    rcases ends : t.encode.result with fault | _
    · rw [Transcript.bind_of_error ends, Transcript.bind_of_error (first.trans ends)]
      exact ⟨rfl, t.bytes_encode_kept⟩
    · rw [Transcript.bind_of_ok ends, Transcript.bind_of_ok (first.trans ends)]
      refine ⟨result, ?_⟩
      simp only [Array.toList_append, List.flatMap_append, t.bytes_encode_kept, out]

/-- A file and the file without the events that are skipped in it come out the same. -/
theorem encode_kept (f : MidiFile) :
    f.kept.encode.result = f.encode.result ∧ f.kept.bytes = f.bytes := by
  have count : f.kept.tracks.length = f.tracks.length := List.length_map ..
  obtain ⟨result, out⟩ := run_tracks_kept f.tracks
  rcases Nat.lt_or_ge f.tracks.length trackBound with few | many
  · obtain ⟨runs, written⟩ := encode_of_few few
    obtain ⟨runs', written'⟩ := encode_of_few (count ▸ few : f.kept.tracks.length < trackBound)
    rw [runs, runs', written, written', count]
    exact ⟨result, congrArg _ out⟩
  · obtain ⟨fails, silent⟩ := encode_of_many many
    obtain ⟨fails', silent'⟩ := encode_of_many (count ▸ many : trackBound ≤ f.kept.tracks.length)
    rw [fails, fails', silent, silent']
    exact ⟨rfl, rfl⟩

/-- **When one track can be written**: if its messages take up less than a chunk can hold, it is
written into memory iff the events of it that are kept start soon enough, follow one another in time
and soon enough, and carry no more data than a quantity can count.  What is skipped in a track, long
or short, changes neither the result nor a byte. -/
theorem deliverAll_kept (h : Header) (t : Track) :
    (t.payload.length < 4294967296 →
        (((⟨h, [t]⟩ : MidiFile).deliverAll ByteArray.empty).2.result = .ok () ↔
          t.kept.IsWritable)) ∧
      ((⟨h, [t.kept]⟩ : MidiFile).deliverAll ByteArray.empty).1 =
        ((⟨h, [t]⟩ : MidiFile).deliverAll ByteArray.empty).1 ∧
      ((⟨h, [t.kept]⟩ : MidiFile).deliverAll ByteArray.empty).2.result =
        ((⟨h, [t]⟩ : MidiFile).deliverAll ByteArray.empty).2.result := by
  obtain ⟨result, out⟩ := encode_kept ⟨h, [t]⟩
  have alone : (⟨h, [t]⟩ : MidiFile).encode.result = t.encode.result :=
    result_encode_alone ⟨h, [t]⟩ t
  simp only [deliverAll_snd, deliverAll_byteArray]
  refine ⟨?_, congrArg List.toByteArray out, result⟩
  intro short
  rw [alone, Track.result_encode_iff_of_short short, Track.isWritable_kept_iff]

/-- A track with skipped events out of order, at its start, in a row, and between two messages with
the same status byte. -/
def interrupted : Track :=
  [⟨900, .sysEx ⟨#[]⟩⟩, ⟨96, .noteOn ⟨0⟩ 60 64⟩, ⟨5, .sysEx ⟨#[0x41]⟩⟩, ⟨800, .sysEx ⟨#[0xF7]⟩⟩,
    ⟨192, .noteOn ⟨0⟩ 60 0⟩, ⟨192, .sysEx ⟨#[0xF0, 0x41]⟩⟩, ⟨192, .endOfTrack⟩]

theorem deliverAll_kept_interrupted :
    interrupted.payload.length < 4294967296 ∧ interrupted.kept.IsWritable ∧
      ((⟨⟨.singleTrack, 96⟩, [interrupted.kept]⟩ : MidiFile).deliverAll ByteArray.empty).1 =
        ((⟨⟨.singleTrack, 96⟩, [interrupted]⟩ : MidiFile).deliverAll ByteArray.empty).1 := by
  have short : interrupted.payload.length < 4294967296 := by decide +kernel
  have written : ((⟨⟨.singleTrack, 96⟩, [interrupted]⟩ : MidiFile).deliverAll
      ByteArray.empty).2.result = .ok () := by decide +kernel
  obtain ⟨writable, same, -⟩ := deliverAll_kept ⟨.singleTrack, 96⟩ interrupted
  exact ⟨short, (writable short).1 written, same⟩

end MidiFile

end MusicMacro
