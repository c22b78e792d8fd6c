import MusicMacro.Proofs.Midi.Delivery

/-!
# Every sink sees the same file

What a file puts into memory decides what any other sink gets and how the delivery ends
(`MidiFile.deliver_eq_deliverAll`): a buffer and a stream that appends hold the same bytes, a counter
counts them, and a bounded sink keeps those that fit.  The bounded sink fails of its own accord iff
there are more bytes than it can take, also where a later track turns out to have no binary form;
`MidiFile.handOver_boundedSink` follows it portion by portion through the room that is left.
-/

namespace MusicMacro

/-- Whether a byte stream takes every portion and puts it behind its content. -/
def ByteStream.Appends {τ ε : Type} [ByteStream τ ε] (content : τ → ByteArray) : Prop :=
  ∀ (s : τ) (l : List UInt8),
    (writeAll s l).2 = .ok () ∧ content (writeAll s l).1 = content s ++ l.toByteArray

/-- A stream that appends is a sink that appends. -/
theorem ByteStream.Appends.wrapped {τ ε : Type} [ByteStream τ ε] {content : τ → ByteArray}
    (appends : Appends content) :
    Sink.Appends fun s : Wrapped τ => content s.stream :=
  fun s l => appends s.stream l

namespace BoundedSink

theorem bytes_write (s : BoundedSink) (l : List UInt8) :
    byteList (Sink.write s l).1.bytes = byteList s.bytes ++ l.take s.room := by
  show byteList (s.bytes ++ (l.take s.room).toByteArray) = _
  rw [byteList_append, byteList_toByteArray]

theorem room_write {s : BoundedSink} {l : List UInt8} (fits : l.length ≤ s.room) :
    (Sink.write s l).1.room = s.room - l.length := by
  have size : (Sink.write s l).1.bytes.size = s.bytes.size + l.length := by
    rw [← length_byteList, bytes_write, List.take_of_length_le fits, List.length_append,
      length_byteList]
  show s.capacity - (Sink.write s l).1.bytes.size = s.capacity - s.bytes.size - l.length
  rw [size, Nat.sub_add_eq]

theorem write_snd (s : BoundedSink) (l : List UInt8) :
    (Sink.write s l).2 = if l.length ≤ s.room then .ok () else .error .full :=
  rfl

end BoundedSink

namespace MidiFile

/-- A bounded sink keeps the first bytes, as many as it has room for, and refuses iff there are
more: by induction on the pieces, where each portion takes up a part of the room. -/
theorem handOver_boundedSink (s : BoundedSink) (seen : Array Event) (pieces : List Piece) :
    byteList (handOver s seen pieces).1.bytes =
        byteList s.bytes ++ (pieces.flatMap Piece.bytes).take s.room ∧
      (handOver s seen pieces).2.result =
        if (pieces.flatMap Piece.bytes).length ≤ s.room then .ok () else .error .full := by
  induction pieces generalizing s seen with
  | nil =>
    rw [List.flatMap_nil, List.take_nil, List.append_nil, List.length_nil, if_pos (Nat.zero_le _)]
    exact ⟨rfl, rfl⟩
  | cons p rest ih =>
    cases p with
    | skipped e => exact ih s (seen.push e)
    | portion l =>
      have held := s.bytes_write l
      have ends := s.write_snd l
      rw [List.flatMap_cons, Piece.bytes, List.length_append]
      by_cases fits : l.length ≤ s.room
      · rw [if_pos fits] at ends
        obtain ⟨held', ends'⟩ := ih (Sink.write s l).1 seen
        rw [BoundedSink.room_write fits] at held' ends'
        rw [handOver_portion_of_ok ends, held', held, ends', List.take_append, List.append_assoc]
        exact ⟨rfl, if_congr (by omega) rfl rfl⟩
      · rw [if_neg fits] at ends
        -- The portion alone fills the room, so nothing behind it matters.
        rw [handOver_portion_of_error ends, held, List.take_append_of_le_length (by omega),
          if_neg (by omega)]
        exact ⟨rfl, rfl⟩

/-- A delivery ends with the refusal of the sink, and as the encoding does without one. -/
theorem result_deliver {σ ε : Type} [Sink σ ε] (f : MidiFile) (s : σ) :
    (f.deliver s).2.result =
      (handOver s #[] f.encode.out.toList).2.result.mapError .refused >>=
        fun _ => f.encode.result.mapError .invalid := by
  unfold deliver
  rw [Transcript.result_bind]
  rfl

/-- What a bounded sink without content holds in the end, and how the delivery ends. -/
theorem deliver_boundedSink (f : MidiFile) (capacity : Nat) :
    byteList (f.deliver ({ capacity } : BoundedSink)).1.bytes = f.bytes.take capacity ∧
      (f.deliver ({ capacity } : BoundedSink)).2.result =
        if capacity < f.bytes.length then .error (.refused .full)
        else f.encode.result.mapError .invalid := by
  obtain ⟨held, ends⟩ := handOver_boundedSink { capacity } #[] f.encode.out.toList
  have room : ({ capacity } : BoundedSink).room = capacity := rfl
  rw [room] at held ends
  refine ⟨held, ?_⟩
  rw [result_deliver, ends, ← bytes]
  by_cases fits : f.bytes.length ≤ capacity
  · rw [if_pos fits, if_neg (Nat.not_lt.2 fits)]
    rfl
  · rw [if_neg fits, if_pos (Nat.not_le.1 fits)]
    rfl

/-- **Every sink sees the same file.**  Let a file be written into memory, whether it turns out to
have a binary form or not.  A buffer, and any stream that appends, then gets the same bytes and ends
in the same way; the size of the file is their number if it has a binary form, and fails in the same
way if not; and a sink of any capacity keeps the first bytes up to its capacity, where it fails of
its own accord if there are more and ends in the same way otherwise. -/
theorem deliver_eq_deliverAll {τ ε : Type} [ByteStream τ ε] {content : τ → ByteArray}
    (appends : ByteStream.Appends content) {s : τ} (start : content s = .empty) (f : MidiFile)
    (capacity : Nat) :
    let bytes := (f.deliverAll ByteArray.empty).1
    let result := (f.deliverAll ByteArray.empty).2.result
    ((f.deliverAll Buffer.empty).1.bytes = bytes ∧ (f.deliverAll Buffer.empty).2.result = result) ∧
      (content (f.deliver (⟨s⟩ : Wrapped τ)).1.stream = bytes ∧
        (f.deliver (⟨s⟩ : Wrapped τ)).2.result = result.mapError .invalid) ∧
      f.encodedSize.result = (result.map fun _ => bytes.size) ∧
      byteList (f.deliver ({ capacity } : BoundedSink)).1.bytes = (byteList bytes).take capacity ∧
      (f.deliver ({ capacity } : BoundedSink)).2.result =
        if capacity < bytes.size then .error (.refused .full) else result.mapError .invalid := by
  intro bytes result
  have hasBytes : bytes = f.bytes.toByteArray := f.deliverAll_byteArray
  have hasResult : result = f.encode.result := congrArg Transcript.result (f.deliverAll_snd _)
  have size : bytes.size = f.bytes.length := by rw [hasBytes, List.size_toByteArray]
  obtain ⟨held, ends⟩ := f.deliver_boundedSink capacity
  rw [size, hasResult, hasBytes, byteList_toByteArray]
  refine ⟨⟨f.deliverAll_buffer, ?_⟩, ⟨?_, ?_⟩, f.result_encodedSize, held, ends⟩
  · rw [deliverAll_snd]
  · have content_eq := deliver_of_appends appends.wrapped f ⟨s⟩
    rwa [start, ByteArray.empty_append] at content_eq
  · rw [deliver_snd appends.wrapped.takesAll]

/-- A file whose second track is out of order. -/
def lateFault : MidiFile where
  header := ⟨.parallel, 96⟩
  tracks := [[⟨0, .noteOn ⟨0⟩ 60 64⟩, ⟨96, .endOfTrack⟩], [⟨5, .text "é"⟩, ⟨3, .endOfTrack⟩]]

/-- The first chunk of the file does not fit in twenty bytes, so the second one is not looked at. -/
theorem deliver_eq_deliverAll_lateFault :
    ByteStream.Appends (τ := ByteArray) id ∧ id ByteArray.empty = .empty ∧
      (lateFault.deliverAll ByteArray.empty).2.result = .error .unordered ∧
      (lateFault.deliver (⟨.empty⟩ : Wrapped ByteArray)).1.stream =
        (lateFault.deliverAll ByteArray.empty).1 ∧
      (lateFault.deliver (⟨.empty⟩ : Wrapped ByteArray)).2.result = .error (.invalid .unordered) ∧
      (lateFault.deliver ({ capacity := 20 } : BoundedSink)).2.result =
        .error (.refused .full) := by
  have appends : ByteStream.Appends (τ := ByteArray) id := fun _ _ => ⟨rfl, rfl⟩
  have fails : (lateFault.deliverAll ByteArray.empty).2.result = .error .unordered := by
    decide +kernel
  have long : 20 < (lateFault.deliverAll ByteArray.empty).1.size := by decide +kernel
  obtain ⟨-, ⟨held, ends⟩, -, -, refuses⟩ := deliver_eq_deliverAll appends rfl lateFault 20
  rw [fails] at ends
  rw [if_pos long] at refuses
  exact ⟨appends, rfl, fails, held, ends, refuses⟩

end MidiFile

end MusicMacro
