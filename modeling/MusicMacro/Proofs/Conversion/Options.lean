import MusicMacro.Proofs.Conversion.Bodies
import MusicMacro.Proofs.Conversion.Encoding
import MusicMacro.Proofs.Midi.Chunks
import MusicMacro.Proofs.Midi.Frames

/-!
# Options touch only their own bytes

Of two conversions that differ in one option alone, the bytes differ in what the option stands for:
two bytes of the header for the division, one byte of each track for a controller, one byte of each
track of a score for its instrument, and the front of the first track for the preamble
(`Conversion.toBytes_options`).

The tracks of such conversions have the same bodies (`Conversion.toFile_of_alike`), so they differ
in their openings alone, and there in the last byte of one message (`Track.exists_frame`) or in the
messages at the start (`Track.encode_start_append`).
-/

namespace MusicMacro

theorem mapIdx_map_range {α β : Type} (f : Nat → α → β) (g : Nat → α) (n : Nat) :
    ((List.range n).map g).mapIdx f = (List.range n).map fun i => f i (g i) := by
  refine List.ext_getElem ?_ fun i _ _ => ?_
  · rw [List.length_mapIdx, List.length_map, List.length_map]
  · rw [List.getElem_mapIdx, List.getElem_map, List.getElem_map, List.getElem_range]

/-! ### Preambles -/

/-- The bytes of a preamble: its text, its tempo, and its system exclusive data if that starts with
`0xF0`, all with no ticks before them. -/
def Preamble.bytes (q : Preamble) : List UInt8 :=
  let reset := q.sysEx.filter fun data => (byteList data).head? = some 0xF0
  (.text q.text :: .tempo q.tempo :: (reset.map .sysEx).toList : List Message).flatMap fun m =>
    Quantity.bytes 0 ++ m.bytes

theorem Preamble.untimedBytes_events (q : Preamble) : Track.untimedBytes q.events = q.bytes := by
  have text : Track.isKept ⟨0, .text q.text⟩ := rfl
  have tempo : Track.isKept ⟨0, .tempo q.tempo⟩ := rfl
  unfold Track.untimedBytes events bytes
  rw [List.filter_cons_of_pos text, List.filter_cons_of_pos tempo]
  cases q.sysEx with
  | none => rfl
  | some data =>
    -- The data is kept iff it starts with the byte that is asked for.
    have kept : Track.isKept ⟨0, .sysEx data⟩ = decide ((byteList data).head? = some 0xF0) := rfl
    by_cases start : (byteList data).head? = some 0xF0 <;>
      simp [kept, start, Option.filter]

theorem Preamble.start_of_mem_events {q : Preamble} {e : Event} (mem : e ∈ q.events) :
    e.time = 0 ∧ ¬ isChannelStatus e.message.status := by
  have system : ¬ isChannelStatus 0xFF ∧ ¬ isChannelStatus 0xF0 := by decide
  refine ⟨q.time_of_mem_events mem, ?_⟩
  obtain ⟨text, tempo, _ | data⟩ := q
  · simp [events] at mem
    rcases mem with rfl | rfl <;> exact system.1
  · simp [events] at mem
    rcases mem with rfl | rfl | rfl
    · exact system.1
    · exact system.1
    · exact system.2

/-! ### Openings -/

/-- Each value of a part is that of one message in the openings of its tracks. -/
theorem Part.exists_splits (part : Part) (preamble : Option Preamble) :
    (∃ front time back, ∀ x, opening { part with program := x } preamble =
      front ++ ⟨time, .programChange part.channel x⟩ :: back) ∧
    (∃ front time back, ∀ x, opening { part with pan := x } preamble =
      front ++ ⟨time, .controlChange part.channel panController x⟩ :: back) ∧
    ∃ front time back, ∀ x, opening { part with effect := x } preamble =
      front ++ ⟨time, .controlChange part.channel effectController x⟩ :: back := by
  let events := (preamble.map Preamble.events).getD []
  let program : Event := ⟨setupTime, .programChange part.channel part.program⟩
  let pan : Event := ⟨setupTime + 1, .controlChange part.channel panController part.pan⟩
  let effect : Event := ⟨setupTime + 2, .controlChange part.channel effectController part.effect⟩
  refine ⟨⟨events, setupTime, [pan, effect], fun x => rfl⟩, ?_, ?_⟩
  · refine ⟨events ++ [program], setupTime + 1, [effect], fun x => ?_⟩
    rw [List.append_assoc]
    rfl
  · refine ⟨events ++ [program, pan], setupTime + 2, [], fun x => ?_⟩
    rw [List.append_assoc]
    rfl

namespace Conversion

variable {p : Policy} {c : Conversion} {file : MidiFile}

/-- The instrument of a score is that of its part alone. -/
theorem partOf_set {score : Nat} (reached : score < c.instruments.length) (x : DataByte)
    (score' : Nat) :
    partOf { c with instruments := c.instruments.set score x } score' =
      if score' = score then { c.partOf score' with program := x } else c.partOf score' := by
  have program : (c.instruments.set score x).getD score' 0 =
      if score' = score then x else c.instruments.getD score' 0 := by
    rw [List.getD_eq_getElem?_getD, List.getElem?_set]
    split_ifs with same same' same'
    · rfl
    · exact absurd same.symm same'
    · exact absurd same'.symm same
    · exact (List.getD_eq_getElem?_getD ..).symm
  unfold partOf
  rw [program]
  split_ifs <;> rfl

/-- A preamble stands in front of what the first track has without it, and nowhere else. -/
theorem openingOf_preamble (without : c.options.preamble = none) (q : Preamble) (i : Nat) :
    openingOf { c with options.preamble := some q } i =
      (if i = 0 then q.events else []) ++ c.openingOf i := by
  have none : preambleOf c.options (i / 3) (i % 3) = none := by
    unfold preambleOf
    rw [without, ite_self]
  have first : (i / 3 = 0 ∧ i % 3 = 0) ↔ i = 0 := by omega
  unfold openingOf
  rw [none]
  unfold preambleOf
  simp only [first]
  split_ifs <;> rfl

/-! ### Files with the same bodies -/

/-- A file without a preamble has a first track, and with a preamble that track alone starts with
it. -/
theorem exists_tracks_fileOf (scored : c.scores ≠ []) (without : c.options.preamble = none)
    (body : Nat → Track) :
    ∃ first others, (c.fileOf body).tracks = first :: others ∧ ∀ q,
      (fileOf { c with options.preamble := some q } body).tracks =
        (q.events ++ first) :: others := by
  obtain ⟨k, count⟩ : ∃ k, 3 * c.scores.length = k + 1 := by
    have positive := List.length_pos_iff.2 scored
    exact ⟨3 * c.scores.length - 1, by omega⟩
  refine ⟨c.openingOf 0 ++ body 0,
    (List.range k).map fun i => c.openingOf (i + 1) ++ body (i + 1), ?_, fun q => ?_⟩
  · unfold fileOf
    rw [count, List.range_succ_eq_map, List.map_cons, List.map_map]
    rfl
  · unfold fileOf
    simp only [openingOf_preamble without]
    rw [count, List.range_succ_eq_map, List.map_cons, List.map_map, if_pos rfl, List.append_assoc]
    rfl

theorem result_encode_fileOf_iff (few : 3 * c.scores.length < MidiFile.trackBound)
    {body : Nat → Track} :
    (c.fileOf body).encode.result = .ok () ↔
      ∀ i < 3 * c.scores.length, (c.openingOf i ++ body i).encode.result = .ok () := by
  rw [MidiFile.result_encode_eq_ok_iff, length_fileOf, and_iff_right few]
  constructor
  · intro encode i reached
    exact encode _ (List.mem_of_getElem? (getElem?_fileOf reached body))
  · intro encode t mem
    obtain ⟨i, reached, rfl⟩ := List.mem_map.1 mem
    exact encode i (List.mem_range.1 reached)

theorem few_of_toFile (converts : (c.toFile p).result = .ok file) :
    3 * c.scores.length < MidiFile.trackBound := by
  rw [← (exists_voice_of_track converts).1]
  exact length_tracks_lt converts

/-- The bytes of a conversion alike to one that has a file. -/
theorem result_toBytes_iff_of_alike {c' : Conversion} (alike : c.Alike c')
    (converts : (c.toFile p).result = .ok file) {bytes : ByteArray} :
    (c'.toBytes p).result = .ok bytes ↔
      (c'.fileOf (c.bodyOf p)).encode.result = .ok () ∧
        bytes = (c'.fileOf (c.bodyOf p)).bytes.toByteArray := by
  rw [result_toBytes_eq_ok_iff, toFile_of_alike alike converts]
  constructor
  · rintro ⟨file', same, encodes⟩
    cases same
    exact encodes
  · intro encodes
    exact ⟨_, rfl, encodes⟩

/-! ### One byte in each of some tracks -/

/-- What makes an option of a conversion one data byte in some of the tracks: with other values the
conversion is alike, and the openings of those tracks differ in the last byte of one message. -/
structure IsByteOption (c : Conversion) (alter : DataByte → Conversion) (value : DataByte)
    (touched : Nat → Prop) (m : Nat → DataByte → Message) : Prop where
  current : alter value = c
  alike : ∀ x, c.Alike (alter x)
  division : ∀ x, (alter x).options.division = c.options.division
  differ : ∀ i, Message.DifferInLast (m i)
  splits : ∀ i, touched i →
    ∃ front time back, ∀ x, (alter x).openingOf i = front ++ ⟨time, m i x⟩ :: back
  others : ∀ i, ¬ touched i → ∀ x, (alter x).openingOf i = c.openingOf i

theorem isByteOption_pan (c : Conversion) :
    c.IsByteOption (fun x => { c with options.pan := x }) c.options.pan (fun _ => True)
      fun i => .controlChange ⟨.ofNat 4 (i / 3)⟩ Part.panController where
  current := rfl
  alike _ := ⟨rfl, rfl, rfl, rfl⟩
  division _ := rfl
  differ _ := Message.differInLast_controlChange ..
  splits i _ := ((c.partOf (i / 3)).exists_splits (preambleOf c.options (i / 3) (i % 3))).2.1
  others _ untouched := absurd trivial untouched

theorem isByteOption_effect (c : Conversion) :
    c.IsByteOption (fun x => { c with options.effect := x }) c.options.effect (fun _ => True)
      fun i => .controlChange ⟨.ofNat 4 (i / 3)⟩ Part.effectController where
  current := rfl
  alike _ := ⟨rfl, rfl, rfl, rfl⟩
  division _ := rfl
  differ _ := Message.differInLast_controlChange ..
  splits i _ := ((c.partOf (i / 3)).exists_splits (preambleOf c.options (i / 3) (i % 3))).2.2
  others _ untouched := absurd trivial untouched

theorem isByteOption_instrument {score : Nat} {program : DataByte}
    (hasProgram : c.instruments[score]? = some program) :
    c.IsByteOption (fun x => { c with instruments := c.instruments.set score x }) program
      (fun i => i / 3 = score) fun i => .programChange ⟨.ofNat 4 (i / 3)⟩ := by
  obtain ⟨reached, same⟩ := List.getElem?_eq_some_iff.1 hasProgram
  refine ⟨?_, fun x => ⟨rfl, List.length_set .., rfl, rfl⟩, fun _ => rfl,
    fun _ => Message.differInLast_programChange _, ?_, ?_⟩
  · rw [← same, List.set_getElem_self]
  · intro i touches
    obtain ⟨front, time, back, parts⟩ :=
      ((c.partOf (i / 3)).exists_splits (preambleOf c.options (i / 3) (i % 3))).1
    refine ⟨front, time, back, fun x => ?_⟩
    rw [openingOf, partOf_set reached, if_pos touches]
    exact parts x
  · intro i untouched x
    rw [openingOf, partOf_set reached, if_neg untouched]
    rfl

namespace IsByteOption

variable {alter : DataByte → Conversion} {value : DataByte} {touched : Nat → Prop}
  {m : Nat → DataByte → Message}

/-- Each of the tracks has a frame in which the byte is open. -/
theorem exists_track_frames (option : c.IsByteOption alter value touched m) {body : Nat → Track}
    (encode : ∀ i < 3 * c.scores.length, (c.openingOf i ++ body i).encode.result = .ok ()) :
    ∃ frame : Nat → Frame, ∀ i, i < 3 * c.scores.length → touched i →
      (frame i).OpensEnd (c.openingOf i ++ body i) (m i value) value.toByte ∧
        ∀ x, ((alter x).openingOf i ++ body i).encode.result = .ok () ∧
          Track.chunk ((alter x).openingOf i ++ body i) = (frame i).fill x.toByte := by
  -- A track without the byte has no frame, so one is chosen for every number.
  have each (i : Nat) : ∃ frame : Frame, i < 3 * c.scores.length → touched i →
      frame.OpensEnd (c.openingOf i ++ body i) (m i value) value.toByte ∧
        ∀ x, ((alter x).openingOf i ++ body i).encode.result = .ok () ∧
          Track.chunk ((alter x).openingOf i ++ body i) = frame.fill x.toByte := by
    by_cases small : i < 3 * c.scores.length ∧ touched i
    · obtain ⟨front, time, back, parts⟩ := option.splits i small.2
      have now : c.openingOf i ++ body i = front ++ ⟨time, m i value⟩ :: (back ++ body i) := by
        rw [← option.current, parts, List.append_assoc, List.cons_append]
      have encodes := encode i small.1
      rw [now] at encodes
      obtain ⟨frame, opens, fills⟩ := Track.exists_frame (option.differ i) encodes
      refine ⟨frame, fun _ _ => ⟨now ▸ opens, fun x => ?_⟩⟩
      rw [parts, List.append_assoc, List.cons_append]
      exact fills x
    · exact ⟨⟨[], []⟩, fun reached touches => absurd ⟨reached, touches⟩ small⟩
  choose frame fills using each
  exact ⟨frame, fills⟩

/-- **An option that is one data byte**: with another value the conversion has the same bytes, but
for that byte in each of the tracks that have it. -/
theorem exists_frames (option : c.IsByteOption alter value touched m) [DecidablePred touched]
    (converts : (c.toFile p).result = .ok file) (encodes : file.encode.result = .ok ()) :
    ∃ frame : Nat → Frame,
      (∀ (i : Nat) (track : Track), file.tracks[i]? = some track → touched i →
        (frame i).OpensEnd track (m i value) value.toByte) ∧
      ∀ x, ((alter x).toBytes p).result =
        .ok (file.header.bytes file.tracks.length ++
          (file.tracks.mapIdx fun i t =>
            if touched i then (frame i).fill x.toByte else t.chunk).flatten).toByteArray := by
  have few := few_of_toFile converts
  cases eq_fileOf converts
  set body := c.bodyOf p
  have encode := (result_encode_fileOf_iff few).1 encodes
  obtain ⟨frame, frames⟩ := option.exists_track_frames encode
  refine ⟨frame, fun i track at_i touches => ?_, fun x => ?_⟩
  · obtain ⟨reached, -⟩ := List.getElem?_eq_some_iff.1 at_i
    rw [length_fileOf] at reached
    rw [getElem?_fileOf reached] at at_i
    cases at_i
    exact (frames i reached touches).1
  · have alike := option.alike x
    -- Another value changes a chunk in its frame or not at all, so all tracks can still be written.
    have chunk (i : Nat) (reached : i < 3 * c.scores.length) :
        ((alter x).openingOf i ++ body i).encode.result = .ok () ∧
          Track.chunk ((alter x).openingOf i ++ body i) =
            if touched i then (frame i).fill x.toByte
            else Track.chunk (c.openingOf i ++ body i) := by
      by_cases touches : touched i
      · rw [if_pos touches]
        exact (frames i reached touches).2 x
      · rw [if_neg touches, option.others i touches]
        exact ⟨encode i reached, rfl⟩
    have encodes' : ((alter x).fileOf body).encode.result = .ok () := by
      rw [result_encode_fileOf_iff (alike.scores ▸ few), alike.scores]
      exact fun i reached => (chunk i reached).1
    have chunks : ((alter x).fileOf body).tracks.map Track.chunk =
        (c.fileOf body).tracks.mapIdx fun i t =>
          if touched i then (frame i).fill x.toByte else t.chunk := by
      unfold fileOf
      rw [mapIdx_map_range, List.map_map, alike.scores]
      exact List.map_congr_left fun i mem => (chunk i (List.mem_range.1 mem)).2
    refine (result_toBytes_iff_of_alike alike converts).2 ⟨encodes', ?_⟩
    rw [MidiFile.bytes_eq encodes', alike.header_fileOf (option.division x), length_fileOf,
      length_fileOf, alike.scores, List.flatMap_def, chunks]

/-- An option that is one data byte in every track. -/
theorem exists_frames_of_all (option : c.IsByteOption alter value (fun _ => True) m)
    (converts : (c.toFile p).result = .ok file) (encodes : file.encode.result = .ok ()) :
    ∃ frame : Nat → Frame,
      (∀ (i : Nat) (track : Track), file.tracks[i]? = some track →
        (frame i).OpensEnd track (m i value) value.toByte) ∧
      ∀ x, ((alter x).toBytes p).result =
        .ok (file.header.bytes file.tracks.length ++
          (file.tracks.mapIdx fun i _ => (frame i).fill x.toByte).flatten).toByteArray := by
  obtain ⟨frame, opens, fills⟩ := option.exists_frames converts encodes
  exact ⟨frame, fun i track at_i => opens i track at_i trivial, fills⟩

end IsByteOption

/-! ### Options -/

/-- The division is two bytes of the header. -/
theorem result_toBytes_division (converts : (c.toFile p).result = .ok file)
    (encodes : file.encode.result = .ok ()) (division : Division) :
    (toBytes p { c with options.division := division }).result =
      .ok (file.bytes.take 12 ++ BigEndian.bytes 2 division.toNat ++
        file.bytes.drop 14).toByteArray := by
  cases eq_fileOf converts
  obtain ⟨encodes', bytes⟩ := MidiFile.bytes_division encodes division
  have alike : c.Alike { c with options.division := division } := ⟨rfl, rfl, rfl, rfl⟩
  exact (result_toBytes_iff_of_alike alike converts).2
    ⟨encodes', congrArg List.toByteArray bytes.symm⟩

/-- A preamble comes out in front of what the first track has without it, unless it is too large or
makes that track too long. -/
theorem result_toBytes_preamble (converts : (c.toFile p).result = .ok file)
    (encodes : file.encode.result = .ok ()) (without : c.options.preamble = none) :
    ∃ first others, file.tracks = first :: others ∧ ∀ q,
      ((∃ bytes, (toBytes p { c with options.preamble := some q }).result = .ok bytes) ↔
        ¬ q.IsOversized ∧ (q.bytes ++ first.payload).length < chunkBound) ∧
      ∀ bytes, (toBytes p { c with options.preamble := some q }).result = .ok bytes →
        byteList bytes = file.header.bytes file.tracks.length ++
          ("MTrk".toUTF8.data.toList ++ BigEndian.bytes 4 (q.bytes ++ first.payload).length ++
            (q.bytes ++ first.payload)) ++ others.flatMap Track.chunk := by
  obtain ⟨scored, -⟩ := checkCounts_eq_ok (toFile_eq_ok converts).1
  have few := length_tracks_lt converts
  cases eq_fileOf converts
  set body := c.bodyOf p
  obtain ⟨first, others, tracks, tracks'⟩ := exists_tracks_fileOf scored without body
  refine ⟨first, others, tracks, fun q => ?_⟩
  have alike : c.Alike { c with options.preamble := some q } := ⟨rfl, rfl, rfl, rfl⟩
  have start := fun e (mem : e ∈ q.events) => Preamble.start_of_mem_events mem
  obtain ⟨iff, split⟩ := Track.encode_start_append start (u := first)
  rw [q.untimedBytes_events] at iff split
  -- The other tracks can be written as it is, so it depends on the first one alone.
  have encodes' : (fileOf { c with options.preamble := some q } body).encode.result = .ok () ↔
      (Track.encode (q.events ++ first)).result = .ok () := by
    rw [MidiFile.result_encode_eq_ok_iff, tracks, List.forall_mem_cons] at encodes
    rw [MidiFile.result_encode_eq_ok_iff, tracks', List.forall_mem_cons,
      and_iff_left encodes.2.2]
    rw [tracks] at few
    exact and_iff_right few
  have bytesEq (written : (Track.encode (q.events ++ first)).result = .ok ()) :
      (fileOf { c with options.preamble := some q } body).bytes =
        (c.fileOf body).header.bytes (c.fileOf body).tracks.length ++
          ("MTrk".toUTF8.data.toList ++ BigEndian.bytes 4 (q.bytes ++ first.payload).length ++
            (q.bytes ++ first.payload)) ++ others.flatMap Track.chunk := by
    rw [MidiFile.bytes_eq (encodes'.2 written), alike.header_fileOf rfl, length_fileOf,
      length_fileOf, alike.scores, tracks', List.flatMap_cons, Track.chunk, split written,
      ← List.append_assoc]
  constructor
  · have small : (∀ e ∈ q.events, ¬ e.message.isOversized) ↔ ¬ q.IsOversized := by
      rw [← Preamble.exists_isOversized_iff]
      simp only [not_exists, not_and]
    have first' : first.encode.result = .ok () := by
      refine (MidiFile.result_encode_eq_ok_iff.1 encodes).2 first ?_
      rw [tracks]
      exact List.mem_cons_self
    simp only [result_toBytes_iff_of_alike alike converts, exists_and_left, exists_eq, and_true]
    rw [encodes', iff, small, and_iff_right first']
  · intro bytes succeeds
    obtain ⟨written, rfl⟩ := (result_toBytes_iff_of_alike alike converts).1 succeeds
    rw [byteList_toByteArray, bytesEq (encodes'.1 written)]

/-- **Options touch only their own bytes.**  Of a conversion that has bytes, the division changes
two bytes of the header.  The position and the effect each change one byte of each track, and the
instrument of a score one byte of each track of that score, which is the last byte of the message
that they are for.  A preamble, if the conversion has none, comes out in front of what the first
track says, and changes nothing else. -/
theorem toBytes_options {p : Policy} {c : Conversion} {bytes : ByteArray}
    (succeeds : (c.toBytes p).result = .ok bytes) :
    ∃ file, (c.toFile p).result = .ok file ∧
      let header := file.header.bytes file.tracks.length
      byteList bytes = header ++ file.tracks.flatMap Track.chunk ∧
      (∀ division, (toBytes p { c with options.division := division }).result =
        .ok ((byteList bytes).take 12 ++ BigEndian.bytes 2 division.toNat ++
          (byteList bytes).drop 14).toByteArray) ∧
      (∃ frame : Nat → Frame,
        (∀ (i : Nat) (track : Track), file.tracks[i]? = some track →
          (frame i).OpensEnd track
            (.controlChange ⟨.ofNat 4 (i / 3)⟩ Part.panController c.options.pan)
            c.options.pan.toByte) ∧
        ∀ pan, (toBytes p { c with options.pan := pan }).result =
          .ok (header ++
            (file.tracks.mapIdx fun i _ => (frame i).fill pan.toByte).flatten).toByteArray) ∧
      (∃ frame : Nat → Frame,
        (∀ (i : Nat) (track : Track), file.tracks[i]? = some track →
          (frame i).OpensEnd track
            (.controlChange ⟨.ofNat 4 (i / 3)⟩ Part.effectController c.options.effect)
            c.options.effect.toByte) ∧
        ∀ effect, (toBytes p { c with options.effect := effect }).result =
          .ok (header ++
            (file.tracks.mapIdx fun i _ => (frame i).fill effect.toByte).flatten).toByteArray) ∧
      (∀ score program, c.instruments[score]? = some program → ∃ frame : Nat → Frame,
        (∀ (i : Nat) (track : Track), file.tracks[i]? = some track → i / 3 = score →
          (frame i).OpensEnd track (.programChange ⟨.ofNat 4 (i / 3)⟩ program) program.toByte) ∧
        ∀ program', (toBytes p { c with
            instruments := c.instruments.set score program' }).result =
          .ok (header ++ (file.tracks.mapIdx fun i t =>
            if i / 3 = score then (frame i).fill program'.toByte
            else t.chunk).flatten).toByteArray) ∧
      (c.options.preamble = none → ∃ first others, file.tracks = first :: others ∧ ∀ q,
        ((∃ bytes', (toBytes p { c with options.preamble := some q }).result = .ok bytes') ↔
          ¬ q.IsOversized ∧ (q.bytes ++ first.payload).length < 4294967296) ∧
        ∀ bytes', (toBytes p { c with options.preamble := some q }).result = .ok bytes' →
          byteList bytes' = header ++
            ("MTrk".toUTF8.data.toList ++ BigEndian.bytes 4 (q.bytes ++ first.payload).length ++
              (q.bytes ++ first.payload)) ++ others.flatMap Track.chunk) := by
  obtain ⟨file, converts, encodes, rfl⟩ := result_toBytes_eq_ok_iff.1 succeeds
  refine ⟨file, converts, ?_⟩
  intro header
  rw [byteList_toByteArray]
  exact ⟨MidiFile.bytes_eq encodes, result_toBytes_division converts encodes,
    (isByteOption_pan c).exists_frames_of_all converts encodes,
    (isByteOption_effect c).exists_frames_of_all converts encodes,
    fun _ _ hasProgram => (isByteOption_instrument hasProgram).exists_frames converts encodes,
    result_toBytes_preamble converts encodes⟩

/-- The two scores without a preamble. -/
def plainDuet : Conversion :=
  { duet with options.preamble := none }

theorem toBytes_options_plainDuet :
    ∃ bytes, (plainDuet.toBytes .strict).result = .ok bytes ∧
      (toBytes .strict { plainDuet with options.division := 480 }).result =
        .ok ((byteList bytes).take 12 ++ [0x01, 0xE0] ++ (byteList bytes).drop 14).toByteArray ∧
      plainDuet.instruments[1]? = some 40 ∧ plainDuet.options.preamble = none ∧
      ∃ file, (plainDuet.toFile .strict).result = .ok file ∧
        ∃ first others, file.tracks = first :: others ∧ ∀ q bytes',
          (toBytes .strict { plainDuet with options.preamble := some q }).result = .ok bytes' →
            byteList bytes' = file.header.bytes file.tracks.length ++
              ("MTrk".toUTF8.data.toList ++ BigEndian.bytes 4 (q.bytes ++ first.payload).length ++
                (q.bytes ++ first.payload)) ++ others.flatMap Track.chunk := by
  have sound : faultOf (plainDuet.toBytes .strict).result = none := by decide +kernel
  obtain ⟨bytes, succeeds⟩ := faultOf_eq_none_iff.1 sound
  obtain ⟨file, converts, -, division, -, -, -, preamble⟩ := toBytes_options succeeds
  obtain ⟨first, others, tracks, behind⟩ := preamble rfl
  exact ⟨bytes, succeeds, division 480, rfl, rfl, file, converts, first, others, tracks,
    fun q => (behind q).2⟩

end Conversion

end MusicMacro
