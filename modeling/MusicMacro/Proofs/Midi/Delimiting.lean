import MusicMacro.Proofs.Midi.Delivery
import MusicMacro.Proofs.Midi.Size
import MusicMacro.Proofs.Transcript

/-!
# Messages tell where they end

The bytes of a message tell the message and where it ends, whatever follows them
(`Message.receive_encode_delimited`): the reader gives back the message and leaves the rest
(`Message.read?_data_append`), and what it reads cannot depend on which message was meant, so no two
kinds of messages need to be compared.  The first byte tells the channel messages from the others,
and no other byte of a channel message can be taken for a first one.

A message that lacks its first byte fails before it puts anything out, so that no sink hears of it
(`Message.encode_of_sysExStart`).
-/

namespace MusicMacro

/-! ### What sinks receive -/

namespace Sink

variable {σ ε φ : Type} [Sink σ ε]

/-- A sink that appends takes one portion after the other. -/
theorem writeAll_of_appends {content : σ → ByteArray} (appends : Appends content) (s : σ)
    (portions : List (List UInt8)) :
    (writeAll s portions).2 = .ok () ∧
      content (writeAll s portions).1 = content s ++ portions.flatten.toByteArray := by
  induction portions generalizing s with
  | nil => exact ⟨rfl, ByteArray.append_empty.symm⟩
  | cons l rest ih =>
    obtain ⟨taken, held⟩ := appends s l
    rcases written : (write s l : σ × Except ε Unit) with ⟨s', r⟩
    rw [written] at taken held
    cases taken
    obtain ⟨taken', held'⟩ := ih s'
    rw [writeAll, written]
    refine ⟨taken', ?_⟩
    rw [held', held, List.flatten_cons, List.toByteArray_append, ByteArray.append_assoc]

/-- A sink that appends receives all that a transcript puts out, and the transcript ends as it
does. -/
theorem receive_of_appends {content : σ → ByteArray} (appends : Appends content) (s : σ)
    (t : Transcript (List UInt8) φ Unit) :
    (receive s t).2 = t.result.mapError .invalid ∧
      content (receive s t).1 = content s ++ t.out.toList.flatten.toByteArray := by
  obtain ⟨taken, held⟩ := writeAll_of_appends appends s t.out.toList
  rcases written : (writeAll s t.out.toList : σ × Except ε Unit) with ⟨s', r⟩
  rw [written] at taken held
  cases taken
  rw [receive, written]
  exact ⟨rfl, held⟩

/-- A fault that is not of the sink is one of the transcript. -/
theorem result_of_receive {s : σ} {t : Transcript (List UInt8) φ Unit} {why : φ}
    (fails : (receive s t).2 = .error (.invalid why)) : t.result = .error why := by
  unfold receive at fails
  split at fails
  · obtain ⟨why', fails, same⟩ := except_mapError_eq_error_iff.1 fails
    cases same
    exact fails
  · cases fails

end Sink

namespace Message

/-! ### The bytes of a message -/

/-- The first portion of a message comes first, however the message goes on. -/
theorem flatten_out_say_bind (l : List UInt8)
    (f : Unit → Transcript (List UInt8) EncodingFault Unit) :
    (Transcript.say l >>= f).out.toList.flatten = l ++ (f ()).out.toList.flatten := by
  simp [Transcript.say_bind]

/-- A message puts out its status byte first, also if it turns out to be too long. -/
theorem exists_bytes_eq_cons {m : Message} (start : m.isEncodable) :
    ∃ rest, m.bytes = m.status :: rest := by
  cases m with
  | sysEx data => exact ⟨_, by rw [bytes, encode_sysEx start, flatten_out_say_bind]; rfl⟩
  | text _ | sequencerSpecific _ =>
    exact ⟨_, by rw [bytes, encode, flatten_out_say_bind]; rfl⟩
  | _ => exact ⟨_, rfl⟩

/-- **The bytes of messages are told apart**, whatever follows them. -/
theorem bytes_append_inj {m n : Message} (encodes : m.encode.result = .ok ())
    (encodes' : n.encode.result = .ok ()) {x y : List UInt8}
    (same : m.bytes ++ x = n.bytes ++ y) : m = n ∧ x = y := by
  rw [bytes_eq_cons encodes, bytes_eq_cons encodes', List.cons_append, List.cons_append] at same
  obtain ⟨status, behind⟩ := List.cons.inj same
  have reads := read?_data_append encodes x
  rw [status, behind, read?_data_append encodes' y] at reads
  cases reads
  exact ⟨rfl, rfl⟩

/-! ### Channel messages and others -/

theorem status_of_isChannel {m : Message} (channel : m.isChannel) :
    0x80 ≤ m.status ∧ m.status ≤ 0xEF := by
  have status := m.isChannelStatus_status
  rw [channel, isChannelStatus, Bool.and_eq_true, decide_eq_true_eq, decide_eq_true_eq] at status
  exact status

theorem status_of_not_isChannel {m : Message} (system : ¬ m.isChannel) :
    m.status = 0xF0 ∨ m.status = 0xFF := by
  rw [← isChannelStatus_status] at system
  exact m.status_eq.resolve_left system

/-- What stands behind the status byte of a channel message are data bytes. -/
theorem lt_of_mem_data {m : Message} (channel : m.isChannel) : ∀ b ∈ m.data, b < 0x80 := by
  cases m with
  | programChange _ _ | controlChange _ _ _ | noteOn _ _ _ | noteOff _ _ _ =>
    simp [data, DataByte.toByte_lt]
  | _ => cases channel

theorem isEncodable_of_result_ne {m : Message} (starts : m.encode.result ≠ .error .sysExStart) :
    m.isEncodable := by
  by_contra start
  apply starts
  rw [result_encode, if_pos start]

/-- A message that lacks its first byte puts nothing out. -/
theorem encode_of_sysExStart {m : Message} (fails : m.encode.result = .error .sysExStart) :
    m.encode = .fail .sysExStart := by
  have start : ¬ m.isEncodable := by
    intro start
    rw [result_encode, if_neg (not_not.2 start)] at fails
    split at fails <;> cases fails
  cases m with
  | sysEx data => exact encode_sysEx_of_not start
  | _ => exact absurd rfl start

/-- **Messages tell where they end.**  Into an empty sink that takes everything, let messages be
encoded.  Two that succeed are told apart by what the sink received, whatever bytes stand behind
that, and these are told apart as well.  A channel message succeeds; its first byte is from `0x80`
to `0xEF`, and all others are below `0x80`.  The first byte of any other message is `0xF0` or
`0xFF`, unless the message lacks the byte that starts it.  Of such a message no sink receives
anything. -/
theorem receive_encode_delimited {σ ε : Type} [Sink σ ε] {content : σ → ByteArray}
    (appends : Sink.Appends content) {s : σ} (start : content s = .empty) :
    let received (m : Message) := byteList (content (Sink.receive s m.encode).1)
    let result (m : Message) := (Sink.receive s m.encode).2
    (∀ m n x y, result m = .ok () → result n = .ok () → received m ++ x = received n ++ y →
        m = n ∧ x = y) ∧
      (∀ m, m.isChannel → result m = .ok () ∧ ∃ first rest, received m = first :: rest ∧
        (0x80 ≤ first ∧ first ≤ 0xEF) ∧ ∀ b ∈ rest, b < 0x80) ∧
      (∀ m, ¬ m.isChannel → result m ≠ .error (.invalid .sysExStart) →
        ∃ first rest, received m = first :: rest ∧ (first = 0xF0 ∨ first = 0xFF)) ∧
      ∀ {τ δ : Type} [Sink τ δ] (t : τ) (m : Message),
        (Sink.receive t m.encode).2 = .error (.invalid .sysExStart) →
          (Sink.receive t m.encode).1 = t := by
  intro received result
  have hasBytes (m : Message) : received m = m.bytes := by
    have held := (Sink.receive_of_appends appends s m.encode).2
    rw [start, ByteArray.empty_append] at held
    exact (congrArg byteList held).trans (byteList_toByteArray _)
  have hasResult (m : Message) : result m = m.encode.result.mapError .invalid :=
    (Sink.receive_of_appends appends s m.encode).1
  simp only [hasBytes, hasResult, except_mapError_eq_ok_iff]
  refine ⟨?_, ?_, ?_, ?_⟩
  · intro m n x y encodes encodes' same
    exact bytes_append_inj encodes encodes' same
  · intro m channel
    have encodes := result_encode_of_isChannel channel
    exact ⟨encodes, m.status, m.data, bytes_eq_cons encodes, status_of_isChannel channel,
      lt_of_mem_data channel⟩
  · intro m system starts
    have starts' : m.encode.result ≠ .error .sysExStart := by
      intro fails
      apply starts
      rw [fails]
      rfl
    obtain ⟨rest, bytes⟩ := exists_bytes_eq_cons (isEncodable_of_result_ne starts')
    exact ⟨m.status, rest, bytes, status_of_not_isChannel system⟩
  · intro τ δ _ t m fails
    rw [encode_of_sysExStart (Sink.result_of_receive fails)]
    rfl

/-- A text is not taken for the front of a longer one, nor does a sink hear of data that would have
to start with `0xF0`. -/
theorem receive_encode_delimited_texts :
    Sink.Appends (σ := ByteArray) id ∧ id ByteArray.empty = ByteArray.empty ∧
      (Sink.receive ByteArray.empty (text "é").encode).2 = .ok () ∧
      (∀ x y, byteList (Sink.receive ByteArray.empty (text "é").encode).1 ++ x ≠
        byteList (Sink.receive ByteArray.empty (text "éé").encode).1 ++ y) ∧
      (Sink.receive ({ capacity := 3 } : BoundedSink) (sysEx ⟨#[0x7E]⟩).encode).1 =
        { capacity := 3 } := by
  have short : (Sink.receive ByteArray.empty (text "é").encode).2 = .ok () := by decide +kernel
  have long : (Sink.receive ByteArray.empty (text "éé").encode).2 = .ok () := by decide +kernel
  obtain ⟨apart, -, -, nothing⟩ := receive_encode_delimited Sink.appends_byteArray rfl
  refine ⟨Sink.appends_byteArray, rfl, short, fun x y same => ?_, nothing _ _ rfl⟩
  exact absurd (apart _ _ x y short long same).1 (by decide)

end Message

end MusicMacro
