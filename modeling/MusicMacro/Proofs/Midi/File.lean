import MusicMacro.Proofs.Midi.Delivery
import MusicMacro.Proofs.Midi.Track

/-!
# The binary form of files

A file has a binary form iff it has few enough tracks and each of them has one
(`MidiFile.result_encode_eq_ok_iff`); its bytes are then its header and the chunks of its tracks
(`MidiFile.bytes_eq`).  If it has none, the fault is the number of its tracks or that of its first
track with a fault, and only the chunks before that track come out (`MidiFile.exists_first_fault`).
-/

namespace MusicMacro

/-- A track has a binary form iff its events have one and its chunk is not too long. -/
theorem Track.result_encode_eq_ok_iff {t : Track} :
    t.encode.result = .ok () ↔
      (∃ r, (Transcript.run Running.step {} t).result = .ok r) ∧ t.payload.length < chunkBound := by
  rcases ends : (Transcript.run Running.step {} t).result with fault | r
  · simp [Track.encode_of_error ends]
  · by_cases short : t.payload.length < chunkBound
    · simp [(Track.encode_of_ok ends short).1, short]
    · simp [Track.encode_of_long ends (Nat.not_lt.1 short), short]

theorem Track.bytes_encode {t : Track} (encodes : t.encode.result = .ok ()) :
    t.encode.out.toList.flatMap Piece.bytes = t.chunk := by
  obtain ⟨⟨r, ends⟩, short⟩ := Track.result_encode_eq_ok_iff.1 encodes
  exact (Track.encode_of_ok ends short).2

/-- Nothing of a track comes out before the whole track is known to have a binary form. -/
theorem Track.bytes_encode_of_error {t : Track} {fault : FileFault}
    (fails : t.encode.result = .error fault) :
    t.encode.out.toList.flatMap Piece.bytes = [] := by
  rcases ends : (Transcript.run Running.step {} t).result with fault' | r
  · exact (Track.encode_of_error ends).2
  · by_cases short : t.payload.length < chunkBound
    · rw [(Track.encode_of_ok ends short).1] at fails
      cases fails
    · exact (Track.encode_of_long ends (Nat.not_lt.1 short)).2

/-! ### The header -/

/-- The division is the last two bytes of a header. -/
theorem Header.exists_front (h : Header) (count : Nat) :
    ∃ front : List UInt8, front.length = 12 ∧ ∀ division : Division,
      bytes { h with division := division } count =
        front ++ BigEndian.bytes 2 division.toNat := by
  have mark : "MThd".toUTF8.data.toList.length = 4 := rfl
  refine ⟨"MThd".toUTF8.data.toList ++ BigEndian.bytes 4 6 ++ BigEndian.bytes 2 h.format.code ++
    BigEndian.bytes 2 count, ?_, fun _ => rfl⟩
  simp only [List.length_append, BigEndian.length_bytes, mark]

theorem Header.length_bytes (h : Header) (count : Nat) : (h.bytes count).length = 14 := by
  obtain ⟨front, length, bytes⟩ := h.exists_front count
  have split : h.bytes count = front ++ BigEndian.bytes 2 h.division.toNat := bytes h.division
  rw [split, List.length_append, length, BigEndian.length_bytes]

namespace MidiFile

/-! ### All tracks -/

theorem run_tracks_eq_ok_iff {ts : List Track} :
    (Transcript.run (fun _ => Track.encode) () ts).result = .ok () ↔
      ∀ t ∈ ts, t.encode.result = .ok () := by
  induction ts with
  | nil => simp
  | cons t ts ih =>
    rw [Transcript.run_cons, Transcript.result_bind, List.forall_mem_cons, ← ih]
    rcases t.encode.result with fault | _
    · show (Except.error fault : Except FileFault Unit) = .ok () ↔ _
      simp
    · exact (and_iff_right rfl).symm

/-- Tracks that are written one after the other stop at the first that has a fault, behind the
chunks of those before it. -/
theorem exists_first_fault_of_run {ts : List Track} {fault : FileFault}
    (fails : (Transcript.run (fun _ => Track.encode) () ts).result = .error fault) :
    ∃ before t after, ts = before ++ t :: after ∧ (∀ u ∈ before, u.encode.result = .ok ()) ∧
      t.encode.result = .error fault ∧
      (Transcript.run (fun _ => Track.encode) () ts).out.toList.flatMap Piece.bytes =
        before.flatMap Track.chunk := by
  induction ts with
  | nil => cases fails
  | cons t ts ih =>
    rw [Transcript.run_cons] at fails ⊢
    rcases ends : t.encode.result with fault' | _
    · rw [Transcript.bind_of_error ends] at fails ⊢
      cases fails
      exact ⟨[], t, ts, rfl, List.forall_mem_nil _, ends, Track.bytes_encode_of_error ends⟩
    · rw [Transcript.bind_of_ok ends] at fails ⊢
      obtain ⟨before, u, after, rfl, first, fails', out⟩ := ih fails
      refine ⟨t :: before, u, after, rfl, List.forall_mem_cons.2 ⟨ends, first⟩, fails', ?_⟩
      rw [Array.toList_append, List.flatMap_append, Track.bytes_encode ends, out, List.flatMap_cons]

theorem bytes_run_tracks {ts : List Track} (encode : ∀ t ∈ ts, t.encode.result = .ok ()) :
    (Transcript.run (fun _ => Track.encode) () ts).out.toList.flatMap Piece.bytes =
      ts.flatMap Track.chunk := by
  induction ts with
  | nil => rfl
  | cons t ts ih =>
    obtain ⟨first, rest⟩ := List.forall_mem_cons.1 encode
    rw [Transcript.run_cons, Transcript.bind_of_ok first, Array.toList_append, List.flatMap_append,
      Track.bytes_encode first, ih rest, List.flatMap_cons]

/-! ### The file -/

/-- With too many tracks nothing is written at all. -/
theorem encode_of_many {f : MidiFile} (many : trackBound ≤ f.tracks.length) :
    f.encode.result = .error .tooManyTracks ∧ f.bytes = [] := by
  unfold bytes encode
  rw [if_neg (Nat.not_lt.2 many)]
  exact ⟨rfl, rfl⟩

/-- With few enough tracks the header is written, and one track after the other behind it. -/
theorem encode_of_few {f : MidiFile} (few : f.tracks.length < trackBound) :
    f.encode.result = (Transcript.run (fun _ => Track.encode) () f.tracks).result ∧
      f.bytes = f.header.bytes f.tracks.length ++
        (Transcript.run (fun _ => Track.encode) () f.tracks).out.toList.flatMap Piece.bytes := by
  unfold bytes encode
  rw [if_pos few, Transcript.say_bind]
  refine ⟨rfl, ?_⟩
  rw [Array.toList_append, List.flatMap_append]
  simp [Piece.bytes]

/-- A file has a binary form iff it has few enough tracks and each of them has one. -/
theorem result_encode_eq_ok_iff {f : MidiFile} :
    f.encode.result = .ok () ↔
      f.tracks.length < trackBound ∧ ∀ t ∈ f.tracks, t.encode.result = .ok () := by
  by_cases few : f.tracks.length < trackBound
  · rw [(encode_of_few few).1, run_tracks_eq_ok_iff]
    exact (and_iff_right few).symm
  · rw [(encode_of_many (Nat.not_lt.1 few)).1]
    refine iff_of_false ?_ fun all => few all.1
    intro same
    cases same

/-- The fault of a file that has few enough tracks is that of its first track with a fault, and the
chunks before that track are written. -/
theorem exists_first_fault {f : MidiFile} {fault : FileFault}
    (few : f.tracks.length < trackBound) (fails : f.encode.result = .error fault) :
    ∃ before t after, f.tracks = before ++ t :: after ∧
      (∀ u ∈ before, u.encode.result = .ok ()) ∧ t.encode.result = .error fault ∧
      f.bytes = f.header.bytes f.tracks.length ++ before.flatMap Track.chunk := by
  obtain ⟨result, out⟩ := encode_of_few few
  rw [result] at fails
  obtain ⟨before, t, after, parts, first, fails', chunks⟩ := exists_first_fault_of_run fails
  exact ⟨before, t, after, parts, first, fails', by rw [out, chunks]⟩

/-- The bytes of a file are its header and the chunks of its tracks. -/
theorem bytes_eq {f : MidiFile} (encodes : f.encode.result = .ok ()) :
    f.bytes = f.header.bytes f.tracks.length ++ f.tracks.flatMap Track.chunk := by
  obtain ⟨few, all⟩ := result_encode_eq_ok_iff.1 encodes
  rw [(encode_of_few few).2, bytes_run_tracks all]

/-- A file with another division differs in the last two bytes of its header. -/
theorem bytes_division {f : MidiFile} (encodes : f.encode.result = .ok ()) (division : Division) :
    (encode { f with header.division := division }).result = .ok () ∧
      bytes { f with header.division := division } =
        f.bytes.take 12 ++ BigEndian.bytes 2 division.toNat ++ f.bytes.drop 14 := by
  have encodes' : (encode { f with header.division := division }).result = .ok () := by
    rw [result_encode_eq_ok_iff] at encodes ⊢
    exact encodes
  obtain ⟨front, length, bytes⟩ := f.header.exists_front f.tracks.length
  have header : f.header.bytes f.tracks.length =
      front ++ BigEndian.bytes 2 f.header.division.toNat := bytes f.header.division
  have take : (f.header.bytes f.tracks.length ++ f.tracks.flatMap Track.chunk).take 12 = front := by
    rw [header, List.append_assoc, List.take_left' length]
  have drop : (f.header.bytes f.tracks.length ++ f.tracks.flatMap Track.chunk).drop 14 =
      f.tracks.flatMap Track.chunk := List.drop_left' (f.header.length_bytes _)
  refine ⟨encodes', ?_⟩
  rw [bytes_eq encodes', bytes_eq encodes, take, drop]
  show Header.bytes { f.header with division := division } f.tracks.length ++ _ = _
  rw [bytes division]

end MidiFile

end MusicMacro
