import MusicMacro.Proofs.Conversion.WellFormed
import MusicMacro.Proofs.Midi.Timing

/-!
# Which conversions have bytes

`Conversion.toBytes_of_toFile`: a file that was converted is encoded, unless two of its events are
too far apart or its preamble is too large.  Its tracks are in order and few, and what is skipped in
them is a preamble message without its first byte, which stands at the very start; so the only other
faults of a file, in `Track.fault_of_encode` and `MidiFile.result_encode_eq_ok_iff`, never occur.
-/

namespace MusicMacro

/-! ### The messages of a track -/

/-- Whether the data of a preamble is too large to be written, its size needing more than 28 bits:
its text, or what stands behind the first byte of its system exclusive data.  Data without that byte
is never written. -/
def Preamble.IsOversized (q : Preamble) : Prop :=
  268435456 ≤ q.text.toUTF8.size ∨
    ∃ data rest, q.sysEx = some data ∧ byteList data = 0xF0 :: rest ∧ 268435456 ≤ rest.length

/-- System exclusive data is too large iff what stands behind its first byte is. -/
theorem Message.isOversized_sysEx_iff {data : ByteArray} :
    isOversized (.sysEx data) ↔
      ∃ rest, byteList data = 0xF0 :: rest ∧ Quantity.bound ≤ rest.length := by
  have size := length_byteList data
  constructor
  · intro large
    have start := isEncodable_of_isOversized large
    rw [isOversized_sysEx start, ← length_byteList, byteList_extract_one] at large
    have head : (byteList data).head? = some 0xF0 := by simpa [isEncodable] using start
    obtain ⟨rest, split⟩ := List.head?_eq_some_iff.1 head
    rw [split, List.tail_cons] at large
    exact ⟨rest, split, large⟩
  · rintro ⟨rest, split, large⟩
    have start : isEncodable (.sysEx data) := by
      rw [isEncodable, split]
      rfl
    rwa [isOversized_sysEx start, ← length_byteList, byteList_extract_one, split, List.tail_cons]

/-- A preamble is too large iff one of its messages is. -/
theorem Preamble.exists_isOversized_iff {q : Preamble} :
    (∃ e ∈ q.events, e.message.isOversized) ↔ q.IsOversized := by
  unfold IsOversized
  have text : (Message.text q.text).isOversized ↔ Quantity.bound ≤ q.text.toUTF8.size :=
    decide_eq_true_iff
  have tempo : ¬ (Message.tempo q.tempo).isOversized := Bool.false_ne_true
  constructor
  · rintro ⟨e, mem, large⟩
    rcases List.mem_cons.1 mem with rfl | mem
    · exact .inl (text.1 large)
    · rcases List.mem_cons.1 mem with rfl | mem
      · exact absurd large tempo
      · rw [Option.mem_toList, Option.map_eq_some_iff] at mem
        obtain ⟨data, some, rfl⟩ := mem
        obtain ⟨rest, split, large⟩ := Message.isOversized_sysEx_iff.1 large
        exact .inr ⟨data, rest, some, split, large⟩
  · rintro (large | ⟨data, rest, some, split, large⟩)
    · exact ⟨⟨0, .text q.text⟩, List.mem_cons_self, text.2 large⟩
    · refine ⟨⟨0, .sysEx data⟩, ?_, Message.isOversized_sysEx_iff.2 ⟨rest, split, large⟩⟩
      unfold events
      rw [some]
      exact List.mem_cons_of_mem _ (List.mem_cons_of_mem _ List.mem_cons_self)

/-- What a voice plays has a binary form. -/
theorem Message.IsPlayed.result_encode {c : Setting} {m : Message} (played : m.IsPlayed c) :
    m.encode.result = .ok () := by
  cases m with
  | noteOn | noteOff | tempo => rfl
  | _ => exact played.elim

theorem Track.IsVoice.result_encode {c : Setting} {start : Nat} {body : Track}
    (voice : body.IsVoice c start) : ∀ e ∈ body, e.message.encode.result = .ok () := by
  obtain ⟨events, time, rfl, played⟩ := voice.ended
  exact List.forall_mem_append.2
    ⟨fun e mem => (played e mem).result_encode, List.forall_mem_singleton.2 rfl⟩

theorem Part.result_encode_setup (part : Part) :
    ∀ e ∈ part.setup, e.message.encode.result = .ok () := by
  intro e mem
  simp [setup] at mem
  rcases mem with rfl | rfl | rfl <;> rfl

/-- An event of a track that has no binary form is one of the preamble. -/
theorem Part.mem_preamble_of_not_encode {c : Setting} {part : Part} {preamble : Option Preamble}
    {body : Track} (voice : body.IsVoice c bodyTime) {e : Event}
    (mem : e ∈ part.opening preamble ++ body) (fails : e.message.encode.result ≠ .ok ()) :
    ∃ q, preamble = some q ∧ e ∈ q.events := by
  rcases List.mem_append.1 mem with mem | mem
  · rcases List.mem_append.1 mem with mem | mem
    · cases preamble with
      | none => cases mem
      | some q => exact ⟨q, rfl, mem⟩
    · exact absurd (part.result_encode_setup e mem) fails
  · exact absurd (voice.result_encode e mem) fails

/-! ### The faults of a track -/

/-- A track has a message that is too large iff its preamble is too large. -/
theorem Part.exists_isOversized_iff {c : Setting} {part : Part} {preamble : Option Preamble}
    {body : Track} (voice : body.IsVoice c bodyTime) :
    (∃ e ∈ part.opening preamble ++ body, e.message.isOversized) ↔
      ∃ q, preamble = some q ∧ q.IsOversized := by
  constructor
  · rintro ⟨e, mem, large⟩
    have fails : e.message.encode.result ≠ .ok () := fun encodes =>
      (Message.result_encode_eq_ok_iff.1 encodes).2 large
    obtain ⟨q, some, mem⟩ := mem_preamble_of_not_encode voice mem fails
    exact ⟨q, some, Preamble.exists_isOversized_iff.1 ⟨e, mem, large⟩⟩
  · rintro ⟨q, rfl, large⟩
    obtain ⟨e, mem, large⟩ := Preamble.exists_isOversized_iff.2 large
    exact ⟨e, List.mem_append_left _ (List.mem_append_left _ mem), large⟩

/-- The ticks in a track can be written iff it has no gap: it starts before its voice, and only a
message of the preamble can be skipped. -/
theorem Part.isTimed_iff {c : Setting} (part : Part) (preamble : Option Preamble) {body : Track}
    (voice : body.IsVoice c bodyTime) :
    Track.IsTimed 0 (part.opening preamble ++ body) ↔
      ¬ Track.HasGap (part.opening preamble ++ body) := by
  have opens := part.isOpening_opening preamble
  refine Track.isTimed_iff_not_hasGap (opens.ordered_append voice) ?_ ?_
  · intro e first
    have nonempty : part.opening preamble ≠ [] :=
      List.append_ne_nil_of_right_ne_nil _ (List.cons_ne_nil _ _)
    rw [List.head?_append_of_ne_nil _ nonempty] at first
    have small : bodyTime < Quantity.bound := by decide
    exact Nat.lt_trans (opens.before e (List.mem_of_head? first)) small
  · intro e mem skipped
    have fails : e.message.encode.result ≠ .ok () := fun encodes =>
      skipped (Message.result_encode_eq_ok_iff.1 encodes).1
    obtain ⟨q, -, mem⟩ := mem_preamble_of_not_encode voice mem fails
    exact Preamble.time_of_mem_events mem

namespace Conversion

variable {p : Policy} {c : Conversion} {file : MidiFile}

/-! ### The faults of a file -/

theorem length_tracks_lt (converts : (c.toFile p).result = .ok file) :
    file.tracks.length < MidiFile.trackBound := by
  obtain ⟨length, -⟩ := exists_voice_of_track converts
  obtain ⟨-, -, few⟩ := checkCounts_eq_ok (toFile_eq_ok converts).1
  unfold largestCount at few
  unfold MidiFile.trackBound
  omega

theorem ordered_of_toFile (converts : (c.toFile p).result = .ok file) {t : Track}
    (mem : t ∈ file.tracks) : t.Pairwise fun e f => e.time ≤ f.time := by
  obtain ⟨i, at_i⟩ := List.getElem?_of_mem mem
  obtain ⟨part, range, voice, body, -, -, plays, rfl⟩ := (exists_voice_of_track converts).2 i t at_i
  exact (part.isOpening_opening _).ordered_append (Part.isVoice_body plays)

/-- The ticks in the tracks of a converted file can be written iff there are no gaps. -/
theorem isTimed_iff_of_toFile (converts : (c.toFile p).result = .ok file) {t : Track}
    (mem : t ∈ file.tracks) : t.IsTimed 0 ↔ ¬ t.HasGap := by
  obtain ⟨i, at_i⟩ := List.getElem?_of_mem mem
  obtain ⟨part, range, voice, body, -, -, plays, rfl⟩ := (exists_voice_of_track converts).2 i t at_i
  exact part.isTimed_iff _ (Part.isVoice_body plays)

/-- A converted file has a message that is too large iff its preamble is too large. -/
theorem exists_isOversized_iff (converts : (c.toFile p).result = .ok file) :
    (∃ t ∈ file.tracks, ∃ e ∈ t, e.message.isOversized) ↔
      ∃ q, c.options.preamble = some q ∧ q.IsOversized := by
  obtain ⟨length, tracks⟩ := exists_voice_of_track converts
  constructor
  · rintro ⟨t, mem, large⟩
    obtain ⟨i, at_i⟩ := List.getElem?_of_mem mem
    obtain ⟨part, range, voice, body, -, -, plays, rfl⟩ := tracks i t at_i
    obtain ⟨q, some, large⟩ := (Part.exists_isOversized_iff (Part.isVoice_body plays)).1 large
    unfold preambleOf at some
    split at some
    · exact ⟨q, some, large⟩
    · cases some
  · rintro ⟨q, some, large⟩
    -- The first track is there, as there is a score, and has the preamble.
    obtain ⟨scored, -⟩ := checkCounts_eq_ok (toFile_eq_ok converts).1
    have nonempty : 0 < file.tracks.length := by
      have positive := List.length_pos_iff.2 scored
      omega
    have first : file.tracks[0]? = .some file.tracks[0] := List.getElem?_eq_getElem nonempty
    refine ⟨file.tracks[0], List.getElem_mem nonempty, ?_⟩
    obtain ⟨part, range, voice, body, -, -, plays, same⟩ := tracks 0 _ first
    rw [same]
    exact (Part.exists_isOversized_iff (Part.isVoice_body plays)).2 ⟨q, some, large⟩

/-- A converted file is encoded unless there is a gap in it or its preamble is too large. -/
theorem result_encode_iff_of_toFile (converts : (c.toFile p).result = .ok file)
    (short : ∀ t ∈ file.tracks, t.payload.length < chunkBound) :
    file.encode.result = .ok () ↔
      ¬ ((∃ t ∈ file.tracks, t.HasGap) ∨ ∃ q, c.options.preamble = some q ∧ q.IsOversized) := by
  rw [MidiFile.result_encode_eq_ok_iff, and_iff_right (length_tracks_lt converts), not_or,
    ← exists_isOversized_iff converts]
  constructor
  · intro encode
    constructor
    · rintro ⟨t, mem, gap⟩
      obtain ⟨timed, -⟩ := (Track.result_encode_iff_of_short (short t mem)).1 (encode t mem)
      exact (isTimed_iff_of_toFile converts mem).1 timed gap
    · rintro ⟨t, mem, e, mem', large⟩
      obtain ⟨-, small⟩ := (Track.result_encode_iff_of_short (short t mem)).1 (encode t mem)
      exact small e mem' large
  · rintro ⟨noGap, small⟩ t mem
    refine (Track.result_encode_iff_of_short (short t mem)).2 ⟨?_, ?_⟩
    · exact (isTimed_iff_of_toFile converts mem).2 fun gap => noGap ⟨t, mem, gap⟩
    · exact fun e mem' large => small ⟨t, mem, e, mem', large⟩

/-- The fault of a converted file says whether there is a gap in it or its preamble is too large. -/
theorem fault_of_toFile (converts : (c.toFile p).result = .ok file)
    (short : ∀ t ∈ file.tracks, t.payload.length < chunkBound) {fault : FileFault}
    (fails : file.encode.result = .error fault) :
    fault = .unordered ∧ (∃ t ∈ file.tracks, t.HasGap) ∨
      fault = .dataTooLong ∧ ∃ q, c.options.preamble = some q ∧ q.IsOversized := by
  obtain ⟨before, t, after, parts, -, fails, -⟩ :=
    MidiFile.exists_first_fault (length_tracks_lt converts) fails
  have mem : t ∈ file.tracks := parts ▸ List.mem_append_right _ List.mem_cons_self
  rcases Track.fault_of_encode (short t mem) fails with ⟨same, far⟩ | ⟨same, e, mem', large⟩
  · rw [isTimed_iff_of_toFile converts mem, not_not] at far
    exact .inl ⟨same, t, mem, far⟩
  · exact .inr ⟨same, (exists_isOversized_iff converts).1 ⟨t, mem, e, mem', large⟩⟩

/-! ### Bytes -/

/-- The bytes of a conversion are those of its file, and its fault is an error with no location. -/
theorem result_toBytes (converts : (c.toFile p).result = .ok file) :
    (c.toBytes p).result =
      match file.encode.result with
      | .ok () => .ok file.bytes.toByteArray
      | .error fault => .error ⟨fault.kind, none⟩ := by
  -- The file is encoded twice, into a counter and into a buffer, and ends in the same way.
  have size : (report file.encodedSize).result =
      (file.encode.result.map fun _ => file.bytes.length).mapError fun fault =>
        (fault.kind : Error) := by
    rw [← file.result_encodedSize]
    rfl
  have delivery : (report (file.deliverAll Buffer.empty).2).result =
      file.encode.result.mapError fun fault => (fault.kind : Error) := by
    rw [file.deliverAll_snd]
    rfl
  unfold toBytes
  simp only [Transcript.result_bind, converts]
  show ((report file.encodedSize).result >>= fun _ =>
    (report (file.deliverAll Buffer.empty).2).result >>= fun _ =>
      (.ok (file.deliverAll Buffer.empty).1.bytes : Except Error ByteArray)) = _
  rw [size, delivery, file.deliverAll_buffer]
  cases file.encode.result <;> rfl

/-- A conversion has bytes iff it has a file and that has a binary form. -/
theorem result_toBytes_eq_ok_iff {bytes : ByteArray} :
    (c.toBytes p).result = .ok bytes ↔
      ∃ file, (c.toFile p).result = .ok file ∧ file.encode.result = .ok () ∧
        bytes = file.bytes.toByteArray := by
  rcases converts : (c.toFile p).result with why | file
  · have fails : (c.toBytes p).result = .error why := by
      unfold toBytes
      rw [Transcript.result_bind, converts]
      rfl
    rw [fails]
    simp
  · rw [result_toBytes converts]
    constructor
    · intro succeeds
      rcases ends : file.encode.result with fault | _
      · rw [ends] at succeeds
        cases succeeds
      · rw [ends] at succeeds
        cases succeeds
        exact ⟨file, rfl, ends, rfl⟩
    · rintro ⟨file', same, encodes, rfl⟩
      cases same
      rw [encodes]

/-- **What compiles can be encoded, except for its size**: a converted file, none of whose tracks is
too long for a chunk, has no bytes iff two of its events, one right after the other, are too far
apart or its preamble is too large.  The error is a limit without a location, and says which of the
two; as the tracks are in order, no event ever lies before the one written last.  Otherwise the
bytes are those that the file writes into memory, and their number is the size of the file. -/
theorem toBytes_of_toFile {p : Policy} {c : Conversion} {file : MidiFile}
    (converts : (c.toFile p).result = .ok file)
    (short : ∀ t ∈ file.tracks, t.payload.length < 4294967296) :
    ((∃ why, (c.toBytes p).result = .error why) ↔
        (∃ t ∈ file.tracks, t.HasGap) ∨ ∃ q, c.options.preamble = some q ∧ q.IsOversized) ∧
      (∀ why, (c.toBytes p).result = .error why →
        why = ⟨.limit FileFault.unordered.message, none⟩ ∧ (∃ t ∈ file.tracks, t.HasGap) ∨
          why = ⟨.limit FileFault.dataTooLong.message, none⟩ ∧
            ∃ q, c.options.preamble = some q ∧ q.IsOversized) ∧
      (∀ t ∈ file.tracks, t.Pairwise fun e f => e.time ≤ f.time) ∧
      ∀ bytes, (c.toBytes p).result = .ok bytes →
        (file.deliverAll ByteArray.empty).1 = bytes ∧
          (file.deliverAll ByteArray.empty).2.result = .ok () ∧
          file.encodedSize.result = .ok bytes.size := by
  have result := result_toBytes converts
  refine ⟨?_, ?_, fun t mem => ordered_of_toFile converts mem, ?_⟩
  · have encodes := result_encode_iff_of_toFile converts short
    rcases ends : file.encode.result with fault | _
    · rw [ends] at result encodes
      refine iff_of_true ⟨_, result⟩ (not_not.1 (mt encodes.2 ?_))
      intro same
      cases same
    · rw [ends] at result encodes
      refine iff_of_false ?_ (encodes.1 rfl)
      rintro ⟨why, fails⟩
      rw [result] at fails
      cases fails
  · intro why fails
    rcases ends : file.encode.result with fault | _
    · rw [result, ends] at fails
      cases fails
      rcases fault_of_toFile converts short ends with ⟨rfl, gap⟩ | ⟨rfl, large⟩
      · exact .inl ⟨rfl, gap⟩
      · exact .inr ⟨rfl, large⟩
    · rw [result, ends] at fails
      cases fails
  · intro bytes succeeds
    rcases ends : file.encode.result with fault | _
    · rw [result, ends] at succeeds
      cases succeeds
    · rw [result, ends] at succeeds
      cases succeeds
      refine ⟨file.deliverAll_byteArray, ?_, ?_⟩
      · rw [file.deliverAll_snd, ends]
      · rw [file.result_encodedSize, ends, List.size_toByteArray]
        rfl

theorem toBytes_of_toFile_duet :
    (duet.toFile .strict).result = .ok duetFile ∧
      (∀ t ∈ duetFile.tracks, t.payload.length < 4294967296) ∧
      ((∃ why, (duet.toBytes .strict).result = .error why) ↔
        (∃ t ∈ duetFile.tracks, t.HasGap) ∨
          ∃ q, duet.options.preamble = some q ∧ q.IsOversized) :=
  have converts : (duet.toFile .strict).result = .ok duetFile := by decide +kernel
  have short : ∀ t ∈ duetFile.tracks, t.payload.length < 4294967296 := by decide +kernel
  ⟨converts, short, (toBytes_of_toFile converts short).1⟩

end Conversion

end MusicMacro
