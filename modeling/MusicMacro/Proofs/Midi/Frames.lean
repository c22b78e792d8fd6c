import MusicMacro.Proofs.Midi.Timing

/-!
# What one event changes in a chunk

Messages that differ in their last byte alone change that byte of the chunk of their track and no
other (`Track.exists_frame`): what the encoding knows of an event behind it is its time and its
status byte, which such messages share.

Messages at the very start of a track that are no channel messages come out in front of all others
and change nothing behind them (`Track.encode_start_append`): a track starts at time zero, and
behind such a message no status byte is left out, as at the start of a track.
-/

namespace MusicMacro

/-! ### Bytes with an open place -/

/-- Bytes with one place left open. -/
structure Frame where
  /-- What stands before the open place. -/
  before : List UInt8
  /-- What stands behind the open place. -/
  after : List UInt8

/-- The bytes with a byte in the open place. -/
def Frame.fill (frame : Frame) (b : UInt8) : List UInt8 :=
  frame.before ++ b :: frame.after

theorem Frame.length_fill (frame : Frame) (b : UInt8) :
    (frame.fill b).length = frame.before.length + frame.after.length + 1 := by
  rw [fill, List.length_append, List.length_cons]
  omega

/-- Whether a frame is the chunk of a track in which the last byte of one of its messages is open:
the bytes before it and the byte itself are the mark and the size of the chunk and what the events
up to that message put out. -/
structure Frame.OpensEnd (frame : Frame) (t : Track) (m : Message) (value : UInt8) : Prop where
  chunk : frame.fill value = t.chunk
  place : ∃ front time back, t = front ++ ⟨time, m⟩ :: back ∧
    frame.before ++ [value] =
      "MTrk".toUTF8.data.toList ++ BigEndian.bytes 4 t.payload.length ++
        Track.payload (front ++ [⟨time, m⟩])

/-! ### What is left out -/

namespace Running

theorem elide_append (r : Running) (status : UInt8) (data rest : List UInt8) :
    r.elide status (data ++ rest) = r.elide status data ++ rest := by
  unfold elide
  split <;> rfl

/-- Only behind a channel message is a status byte left out. -/
theorem elide_of_not_isChannelStatus {r : Running} (system : ¬ isChannelStatus r.status)
    (status : UInt8) (data : List UInt8) : r.elide status data = status :: data := by
  refine if_neg ?_
  rw [Bool.and_eq_true, beq_iff_eq]
  rintro ⟨channel, rfl⟩
  exact system channel

end Running

/-! ### Messages that differ in one byte -/

/-- Whether messages for data bytes differ in their last byte alone, which is that data byte. -/
def Message.DifferInLast (m : DataByte → Message) : Prop :=
  ∃ status data, ∀ x, (m x).encode.result = .ok () ∧ (m x).status = status ∧
    (m x).data = data ++ [x.toByte]

theorem Message.differInLast_programChange (channel : Channel) :
    DifferInLast (.programChange channel) :=
  ⟨channel.status 0xC0, [], fun _ => ⟨rfl, rfl, rfl⟩⟩

theorem Message.differInLast_controlChange (channel : Channel) (controller : DataByte) :
    DifferInLast (.controlChange channel controller) :=
  ⟨channel.status 0xB0, [controller.toByte], fun _ => ⟨rfl, rfl, rfl⟩⟩

namespace Track

/-- The payload of a track with an event in the middle that can be written: what the event leaves
behind is its time and its status alone. -/
theorem run_append_cons {front back : Track} {e : Event} {r r' : Running}
    (runs : (Transcript.run Running.step {} front).result = .ok r)
    (encodes : e.message.encode.result = .ok ()) (reach : r.reaches e)
    (rest : (Transcript.run Running.step ⟨e.time, e.message.status⟩ back).result = .ok r') :
    (Transcript.run Running.step {} (front ++ e :: back)).result = .ok r' ∧
      payload (front ++ [e]) = payload front ++ r.written e ∧
      payload (front ++ e :: back) =
        payload (front ++ [e]) ++ payloadFrom ⟨e.time, e.message.status⟩ back := by
  obtain ⟨result, out⟩ := run_append_of_ok runs (e :: back)
  obtain ⟨-, alone⟩ := run_append_of_ok runs [e]
  obtain ⟨result', out'⟩ := run_cons_of_reaches encodes reach back
  obtain ⟨-, alone'⟩ := run_cons_of_reaches encodes reach []
  have silent : payloadFrom (Running.after e) [] = [] := rfl
  have middle : payload (front ++ [e]) = payload front ++ r.written e := by
    unfold payload
    rw [alone, alone', silent, List.append_nil]
  refine ⟨?_, middle, ?_⟩
  · rw [result, result']
    exact rest
  · rw [middle, List.append_assoc]
    unfold payload
    rw [out, out']
    rfl

/-- The payload of a track that can be written has a place for the last byte of a message, and other
values of that byte can be written as well. -/
theorem exists_payload_frame {m : DataByte → Message} (differ : Message.DifferInLast m)
    {front back : Track} {time : Nat} {value : DataByte} {r' : Running}
    (runs : (Transcript.run Running.step {} (front ++ ⟨time, m value⟩ :: back)).result = .ok r') :
    ∃ frame : Frame, ∀ x,
      (Transcript.run Running.step {} (front ++ ⟨time, m x⟩ :: back)).result = .ok r' ∧
        payload (front ++ [⟨time, m x⟩]) = frame.before ++ [x.toByte] ∧
        payload (front ++ ⟨time, m x⟩ :: back) = frame.fill x.toByte := by
  obtain ⟨status, data, differ⟩ := differ
  -- The run over the track is one up to the event, one over the event and one over those behind it.
  rw [Transcript.run_append, Transcript.result_bind, except_bind_eq_ok_iff] at runs
  obtain ⟨r, before, runs⟩ := runs
  obtain ⟨encodes, same, -⟩ := differ value
  obtain ⟨skips, -⟩ | ⟨-, -, reach, behind, -⟩ := run_cons_eq_ok runs
  · exact absurd (Message.result_encode_eq_ok_iff.1 encodes).1 skips
  unfold Running.after at behind
  rw [same] at behind
  refine ⟨⟨payload front ++ (Quantity.bytes (time - r.time) ++ r.elide status data),
    payloadFrom ⟨time, status⟩ back⟩, fun x => ?_⟩
  obtain ⟨encodes', status', data'⟩ := differ x
  have written : r.written ⟨time, m x⟩ =
      Quantity.bytes (time - r.time) ++ r.elide status data ++ [x.toByte] := by
    unfold Running.written
    rw [status', data', Running.elide_append, List.append_assoc]
  obtain ⟨result, middle, out⟩ :=
    run_append_cons before encodes' reach (e := ⟨time, m x⟩) (status' ▸ behind)
  rw [written, ← List.append_assoc] at middle
  refine ⟨result, middle, ?_⟩
  rw [out, middle, status', List.append_assoc]
  rfl

/-- **One data byte of one message** of a track that can be written: another value of it can be
written as well, and changes that byte of the chunk and no other. -/
theorem exists_frame {m : DataByte → Message} (differ : Message.DifferInLast m)
    {front back : Track} {time : Nat} {value : DataByte}
    (encodes : (encode (front ++ ⟨time, m value⟩ :: back)).result = .ok ()) :
    ∃ frame : Frame,
      frame.OpensEnd (front ++ ⟨time, m value⟩ :: back) (m value) value.toByte ∧
        ∀ x, (encode (front ++ ⟨time, m x⟩ :: back)).result = .ok () ∧
          chunk (front ++ ⟨time, m x⟩ :: back) = frame.fill x.toByte := by
  obtain ⟨⟨r', runs⟩, short⟩ := result_encode_eq_ok_iff.1 encodes
  obtain ⟨opened, fills⟩ := exists_payload_frame differ runs
  -- The byte takes up its place whatever it is, so the size of the chunk stays the same.
  have length (x : DataByte) : (payload (front ++ ⟨time, m x⟩ :: back)).length =
      (payload (front ++ ⟨time, m value⟩ :: back)).length := by
    rw [(fills x).2.2, (fills value).2.2, Frame.length_fill, Frame.length_fill]
  let start := "MTrk".toUTF8.data.toList ++
    BigEndian.bytes 4 (payload (front ++ ⟨time, m value⟩ :: back)).length
  let frame : Frame := ⟨start ++ opened.before, opened.after⟩
  have chunkEq (x : DataByte) : chunk (front ++ ⟨time, m x⟩ :: back) = frame.fill x.toByte := by
    unfold chunk Frame.fill
    rw [length, (fills x).2.2, Frame.fill, ← List.append_assoc]
  refine ⟨frame, ⟨(chunkEq value).symm, front, time, back, rfl, ?_⟩, fun x => ⟨?_, chunkEq x⟩⟩
  · rw [(fills value).2.1, ← List.append_assoc]
  · exact result_encode_eq_ok_iff.2 ⟨⟨r', (fills x).1⟩, by rw [length]; exact short⟩

/-! ### Messages at the start -/

/-- The bytes of the events of a track that are kept, with no ticks before any of them. -/
def untimedBytes (t : Track) : List UInt8 :=
  (t.filter isKept).flatMap fun e => Quantity.bytes 0 ++ e.message.bytes

/-- Behind a message that is no channel message it does not matter which one it was: by induction on
the track, until an event is kept. -/
theorem payloadFrom_of_not_isChannelStatus {time : Nat} {status status' : UInt8}
    (system : ¬ isChannelStatus status) (system' : ¬ isChannelStatus status') {t : Track}
    {r : Running} (runs : (Transcript.run Running.step ⟨time, status⟩ t).result = .ok r) :
    payloadFrom ⟨time, status⟩ t = payloadFrom ⟨time, status'⟩ t := by
  induction t with
  | nil => rfl
  | cons e t ih =>
    obtain ⟨skips, runs, out⟩ | ⟨-, encodes, reach, -, out⟩ := run_cons_eq_ok runs
    · obtain ⟨-, out'⟩ := run_cons_of_skipped ⟨time, status'⟩ skips t
      rw [out, out']
      exact ih runs
    · -- Whether an event is near enough depends on the time alone, and behind it the states agree.
      have reach' : Running.reaches ⟨time, status'⟩ e := reach
      obtain ⟨-, out'⟩ := run_cons_of_reaches encodes reach' t
      rw [out, out', Running.written, Running.written,
        Running.elide_of_not_isChannelStatus system, Running.elide_of_not_isChannelStatus system']

section

variable {t u : Track} (start : ∀ e ∈ t, e.time = 0 ∧ ¬ isChannelStatus e.message.status)

include start

/-- Events at the very start take up no time. -/
theorem isTimed_start_append : IsTimed 0 (t ++ u) ↔ IsTimed 0 u := by
  induction t with
  | nil => exact Iff.rfl
  | cons e t ih =>
    obtain ⟨⟨now, -⟩, start⟩ := List.forall_mem_cons.1 start
    rw [List.cons_append, ← ih start]
    by_cases kept : isKept e
    · rw [isTimed_cons_of_kept kept, now]
      exact and_iff_right ⟨Nat.le_refl 0, by decide⟩
    · exact isTimed_cons_of_skipped kept

/-- Each event at the very start that is kept comes out with no ticks before it and with its status
byte: by induction on those events, behind each of which no status byte is left out. -/
theorem payloadFrom_start_append {status : UInt8} (system : ¬ isChannelStatus status) {r : Running}
    (runs : (Transcript.run Running.step ⟨0, status⟩ (t ++ u)).result = .ok r) :
    payloadFrom ⟨0, status⟩ (t ++ u) = untimedBytes t ++ payload u := by
  induction t generalizing status with
  | nil =>
    have none : ¬ isChannelStatus 0 := by decide
    exact payloadFrom_of_not_isChannelStatus system none runs
  | cons e t ih =>
    obtain ⟨⟨now, system'⟩, start⟩ := List.forall_mem_cons.1 start
    unfold untimedBytes at ih ⊢
    rw [List.cons_append] at runs ⊢
    obtain ⟨skips, runs, out⟩ | ⟨kept, encodes, -, runs, out⟩ := run_cons_eq_ok runs
    · rw [out, List.filter_cons_of_neg skips]
      exact ih start system runs
    · have after : Running.after e = ⟨0, e.message.status⟩ := by rw [Running.after, now]
      have written : Running.written ⟨0, status⟩ e = Quantity.bytes 0 ++ e.message.bytes := by
        rw [Running.written, now, Running.elide_of_not_isChannelStatus system,
          Message.bytes_eq_cons encodes]
        rfl
      rw [after] at runs out
      rw [out, written, ih start system' runs, List.filter_cons_of_pos kept, List.flatMap_cons,
        List.append_assoc, List.append_assoc, List.append_assoc]

/-- **Messages at the very start of a track** that are no channel messages come out in front of the
others, which come out as they do without them.  They can be written if the others can be, unless
one of them carries too much data or the chunk becomes too long. -/
theorem encode_start_append :
    ((encode (t ++ u)).result = .ok () ↔
        (∀ e ∈ t, ¬ e.message.isOversized) ∧ u.encode.result = .ok () ∧
          (untimedBytes t ++ payload u).length < chunkBound) ∧
      ((encode (t ++ u)).result = .ok () → payload (t ++ u) = untimedBytes t ++ payload u) := by
  have none : ¬ isChannelStatus 0 := by decide
  have payloadEq : (∃ r, (Transcript.run Running.step {} (t ++ u)).result = .ok r) →
      payload (t ++ u) = untimedBytes t ++ payload u := by
    rintro ⟨r, runs⟩
    exact payloadFrom_start_append start none runs
  rw [result_encode_eq_ok_iff, result_encode_eq_ok_iff]
  refine ⟨⟨?_, ?_⟩, fun encodes => payloadEq encodes.1⟩
  · rintro ⟨runs, short⟩
    rw [payloadEq runs] at short
    obtain ⟨timed, small⟩ := exists_run_iff.1 runs
    obtain ⟨small, small'⟩ := List.forall_mem_append.1 small
    refine ⟨small, ⟨exists_run_iff.2 ⟨(isTimed_start_append start).1 timed, small'⟩, ?_⟩, short⟩
    rw [List.length_append] at short
    omega
  · rintro ⟨small, ⟨runs, -⟩, short⟩
    obtain ⟨timed, small'⟩ := exists_run_iff.1 runs
    have runs' : ∃ r, (Transcript.run Running.step {} (t ++ u)).result = .ok r :=
      exists_run_iff.2
        ⟨(isTimed_start_append start).2 timed, List.forall_mem_append.2 ⟨small, small'⟩⟩
    rw [payloadEq runs']
    exact ⟨runs', short⟩

end

end Track

end MusicMacro
