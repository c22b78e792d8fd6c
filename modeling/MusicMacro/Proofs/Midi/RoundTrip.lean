import MusicMacro.Proofs.Midi.File

/-!
# Reading files back

`MidiFile.read?_deliverAll`: a file that was written into memory is read back from there, to the
last byte, with its header, its tracks in order and in each track the events that can be written, at
their times.  The reader follows the file from left to right, so each part is read back in front of
any rest: a number of fixed width (`BigEndian.take?_bytes_of_lt`), a track
(`Track.read?_chunk_append`), the tracks (`Track.readMany?_chunks_append`) and the file
(`MidiFile.read?_bytes_append`).
-/

namespace MusicMacro

/-- A number that fits in `w` bytes is read back from them. -/
theorem BigEndian.take?_bytes_of_lt {w n : Nat} (fits : n < 2 ^ (8 * w)) (rest : List UInt8) :
    take? w (bytes w n ++ rest) = some (n, rest) := by
  have same : (BitVec.ofNat (8 * w) n).toNat = n := by
    rw [BitVec.toNat_ofNat, Nat.mod_eq_of_lt fits]
  have reads := take?_bytes_append (BitVec.ofNat (8 * w) n) rest
  rwa [same] at reads

/-! ### Tracks -/

/-- The events of a track that have a place in a file. -/
def Track.kept (t : Track) : Track :=
  t.filter isKept

/-- The chunk of a track is read as the events that are not skipped. -/
theorem Track.read?_chunk_append {t : Track} (encodes : t.encode.result = .ok ())
    (rest : List UInt8) : Track.read? (t.chunk ++ rest) = some (t.kept, rest) := by
  obtain ⟨⟨r, runs⟩, short⟩ := Track.result_encode_eq_ok_iff.1 encodes
  have fits : t.payload.length ≤ (t.payload ++ rest).length := by
    rw [List.length_append]
    exact Nat.le_add_right ..
  have events : readEvents? t.payload.length {} t.payload = some t.kept :=
    readEvents?_payloadFrom runs (Nat.le_refl _)
  unfold Track.read? chunk
  rw [List.append_assoc, List.append_assoc, expect_append, Option.bind_eq_bind, Option.bind_some,
    BigEndian.take?_bytes_of_lt short, Option.bind_eq_bind, Option.bind_some]
  simp only [if_pos fits, List.take_left, List.drop_left, events]
  rfl

theorem Track.readMany?_chunks_append {ts : List Track}
    (encode : ∀ t ∈ ts, t.encode.result = .ok ()) (rest : List UInt8) :
    Track.readMany? ts.length (ts.flatMap chunk ++ rest) = some (ts.map kept, rest) := by
  induction ts with
  | nil => rfl
  | cons t ts ih =>
    obtain ⟨first, others⟩ := List.forall_mem_cons.1 encode
    rw [List.flatMap_cons, List.append_assoc, List.length_cons, readMany?,
      Track.read?_chunk_append first, Option.bind_eq_bind, Option.bind_some]
    simp only [ih others]
    rfl

/-! ### Files -/

namespace MidiFile

/-- A file without the events that have no place in it. -/
def kept (f : MidiFile) : MidiFile :=
  { f with tracks := f.tracks.map Track.kept }

theorem read?_bytes_append {f : MidiFile} (encodes : f.encode.result = .ok ())
    (rest : List UInt8) : read? (f.bytes ++ rest) = some (f.kept, rest) := by
  obtain ⟨few, all⟩ := result_encode_eq_ok_iff.1 encodes
  -- The three numbers of the header fit in two bytes each.
  have count : f.tracks.length < 2 ^ (8 * 2) := few
  have code : f.header.format.code < 2 ^ (8 * 2) := by cases f.header.format <;> decide
  have division : f.header.division.toNat < 2 ^ (8 * 2) :=
    Nat.lt_trans f.header.division.isLt (by decide)
  unfold read?
  rw [bytes_eq encodes]
  unfold Header.bytes
  simp only [List.append_assoc]
  rw [← List.append_assoc "MThd".toUTF8.data.toList]
  simp only [expect_append, BigEndian.take?_bytes_of_lt code, BigEndian.take?_bytes_of_lt count,
    BigEndian.take?_bytes_of_lt division, Format.ofCode?_code, Word.ofNat?_toNat,
    Track.readMany?_chunks_append all, Option.bind_eq_bind, Option.bind_some]
  rfl

/-- **Files are read back**: what memory holds after a file was written there, as an array or as a
buffer, is read to the last byte as the header, the tracks and the events that were written. -/
theorem read?_deliverAll {f : MidiFile}
    (written : (f.deliverAll ByteArray.empty).2.result = .ok ()) :
    read? (byteList (f.deliverAll ByteArray.empty).1) = some (f.kept, []) ∧
      (f.deliverAll Buffer.empty).2.result = .ok () ∧
      read? (byteList (f.deliverAll Buffer.empty).1.bytes) = some (f.kept, []) := by
  have encodes : f.encode.result = .ok () := by rwa [deliverAll_snd] at written
  have reads := read?_bytes_append encodes []
  rw [List.append_nil] at reads
  rw [deliverAll_byteArray, deliverAll_buffer, deliverAll_snd, byteList_toByteArray]
  exact ⟨reads, encodes, reads⟩

/-- A track in which status bytes are left out, put back behind a text, and kept over an event that
is skipped. -/
def twoNotes : MidiFile where
  header := ⟨.singleTrack, 96⟩
  tracks :=
    [[⟨0, .noteOn ⟨0⟩ 60 64⟩, ⟨10, .sysEx ⟨#[0x41]⟩⟩, ⟨96, .noteOn ⟨0⟩ 60 0⟩, ⟨96, .text "é"⟩,
      ⟨500, .noteOn ⟨0⟩ 62 64⟩, ⟨500, .sysEx ⟨#[0xF0, 0x41]⟩⟩, ⟨501, .endOfTrack⟩]]

theorem read?_deliverAll_twoNotes :
    (twoNotes.deliverAll ByteArray.empty).2.result = .ok () ∧
      read? (byteList (twoNotes.deliverAll ByteArray.empty).1) = some (twoNotes.kept, []) :=
  have written : (twoNotes.deliverAll ByteArray.empty).2.result = .ok () := by decide +kernel
  ⟨written, (read?_deliverAll written).1⟩

end MidiFile

end MusicMacro
