import MusicMacro.Proofs.Midi.RoundTrip

/-!
# The size of a file

`MidiFile.result_encodedSize_eq_ok`: the size of a file that has a binary form is that of its header
and its chunks, and the size of a chunk is counted event by event from the track alone.  Every event
that is kept takes up the fewest bytes for the ticks since the one before it and the bytes of its
message, less the status byte where both are channel messages that share it.

The writer knows of the event before only its time and its status byte (`Running.behind`); that is
enough to tell when it leaves a status byte out (`Running.written_behind`).
-/

namespace MusicMacro

/-! ### One event behind another -/

/-- Whether a message is one of a channel. -/
def Message.isChannel : Message → Bool
  | programChange .. | controlChange .. | noteOn .. | noteOff .. => true
  | _ => false

namespace Event

/-- Whether two events are channel messages with the same status byte. -/
def sharesStatus (e f : Event) : Bool :=
  e.message.isChannel && f.message.isChannel && e.message.bytes.head? = f.message.bytes.head?

/-- The ticks from the event before an event, and from the start of a track if there is none. -/
def ticksSince (before : Option Event) (e : Event) : Nat :=
  e.time - (before.map Event.time).getD 0

/-- The bytes of an event behind the one before it: the ticks between the two and the message, whose
status byte is left out if the two share it. -/
def bytesBehind (before : Option Event) (e : Event) : List UInt8 :=
  Quantity.bytes (e.ticksSince before) ++
    if before.any (sharesStatus · e) then e.message.bytes.tail else e.message.bytes

end Event

theorem Message.isChannelStatus_status (m : Message) : isChannelStatus m.status = m.isChannel := by
  cases m with
  | programChange channel _ => exact (channel.status_spec 0xC0 (by decide)).1
  | controlChange channel _ _ => exact (channel.status_spec 0xB0 (by decide)).1
  | noteOn channel _ _ => exact (channel.status_spec 0x90 (by decide)).1
  | noteOff channel _ _ => exact (channel.status_spec 0x80 (by decide)).1
  | _ => rfl

theorem Message.result_encode_of_isChannel {m : Message} (channel : m.isChannel) :
    m.encode.result = .ok () := by
  cases m with
  | programChange _ _ | controlChange _ _ _ | noteOn _ _ _ | noteOff _ _ _ => rfl
  | _ => cases channel

/-- Messages with a binary form share a status byte iff theirs is the same one of a channel. -/
theorem Event.sharesStatus_iff {e f : Event} (encodes : e.message.encode.result = .ok ())
    (encodes' : f.message.encode.result = .ok ()) :
    e.sharesStatus f ↔ isChannelStatus f.message.status ∧ f.message.status = e.message.status := by
  have head : e.message.bytes.head? = some e.message.status := by
    rw [Message.bytes_eq_cons encodes, List.head?_cons]
  have head' : f.message.bytes.head? = some f.message.status := by
    rw [Message.bytes_eq_cons encodes', List.head?_cons]
  have channel := e.message.isChannelStatus_status
  have channel' := f.message.isChannelStatus_status
  unfold sharesStatus
  rw [head, head', ← channel, ← channel', Bool.and_eq_true, Bool.and_eq_true, decide_eq_true_eq,
    Option.some.injEq]
  constructor
  · rintro ⟨⟨-, here⟩, same⟩
    exact ⟨here, same.symm⟩
  · rintro ⟨here, same⟩
    exact ⟨⟨same ▸ here, here⟩, same.symm⟩

/-- Where the encoding of a track stands behind an event, and at its start if there is none. -/
def Running.behind : Option Event → Running
  | none => {}
  | some e => after e

/-- What an event puts out behind another one. -/
theorem Running.written_behind {before : Option Event} {e : Event}
    (encodes : ∀ b ∈ before, b.message.encode.result = .ok ())
    (encodes' : e.message.encode.result = .ok ()) :
    (behind before).written e = e.bytesBehind before := by
  have bytes := Message.bytes_eq_cons encodes'
  unfold written elide Event.bytesBehind Event.ticksSince
  rw [bytes, List.tail_cons]
  cases before with
  | none =>
    -- At the start of a track the status byte before is zero, which no channel message has.
    have whole : ¬ (isChannelStatus e.message.status &&
        e.message.status == (behind none).status) := by
      rw [Bool.and_eq_true, beq_iff_eq]
      rintro ⟨channel, zero⟩
      rw [zero] at channel
      exact absurd channel (by decide)
    rw [if_neg whole]
    rfl
  | some b =>
    have shares := Event.sharesStatus_iff (encodes b rfl) encodes'
    show Quantity.bytes (e.time - b.time) ++ (if _ then _ else _) =
      Quantity.bytes (e.time - b.time) ++ (if b.sharesStatus e then _ else _)
    refine congrArg _ (if_congr ?_ rfl rfl)
    rw [shares, Bool.and_eq_true, beq_iff_eq]
    rfl

/-! ### Tracks -/

namespace Track

/-- The events of a track, each with the one before it; `before` stands before the first. -/
def withBefore (before : Option Event) (t : Track) : List (Option Event × Event) :=
  (before :: t.map some).zip t

/-- The size of the messages of a track if no status byte is left out: for each event the fewest
bytes for the ticks since the event before it, and the bytes of its message. -/
def fullSize (t : Track) : Nat :=
  ((t.withBefore none).map fun (before, e) =>
    Quantity.width (e.ticksSince before) + e.message.bytes.length).sum

/-- How many events of a track share their status byte with the event right before them. -/
def sharedCount (t : Track) : Nat :=
  (t.withBefore none).countP fun (before, e) => before.any (·.sharesStatus e)

/-- The size of the messages of a track. -/
def runningSize (t : Track) : Nat :=
  t.fullSize - t.sharedCount

theorem withBefore_cons (before : Option Event) (e : Event) (t : Track) :
    withBefore before (e :: t) = (before, e) :: withBefore (some e) t :=
  rfl

/-- **The messages of a track** come out one behind the other: by induction on the track, where the
writer stands behind the last event that was kept. -/
theorem payloadFrom_behind {before : Option Event} {t : Track} {r : Running}
    (encodes : ∀ b ∈ before, b.message.encode.result = .ok ())
    (runs : (Transcript.run Running.step (.behind before) t).result = .ok r) :
    payloadFrom (.behind before) t =
      (t.kept.withBefore before).flatMap fun (before, e) => e.bytesBehind before := by
  unfold kept
  induction t generalizing before with
  | nil => rfl
  | cons e t ih =>
    obtain ⟨skips, runs', same⟩ | ⟨keeps, encodes', reach, runs', puts⟩ := run_cons_eq_ok runs
    · rw [same, List.filter_cons_of_neg skips]
      exact ih encodes runs'
    · have encodes'' : ∀ b ∈ some e, b.message.encode.result = .ok () := by
        intro b here
        cases here
        exact encodes'
      have rest : payloadFrom (Running.after e) t = _ := ih encodes'' runs'
      rw [puts, List.filter_cons_of_pos keeps, withBefore_cons, List.flatMap_cons,
        Running.written_behind encodes encodes', rest]

/-- An event takes up all its bytes but the status byte that it shares. -/
theorem length_bytesBehind (before : Option Event) (e : Event) :
    (e.bytesBehind before).length + (if before.any (·.sharesStatus e) then 1 else 0) =
      Quantity.width (e.ticksSince before) + e.message.bytes.length := by
  unfold Event.bytesBehind
  rw [List.length_append, Quantity.length_bytes]
  split
  · next shares =>
    obtain ⟨b, -, shares⟩ := (Option.any_eq_true ..).1 shares
    have channel : e.message.isChannel := by
      unfold Event.sharesStatus at shares
      rw [Bool.and_eq_true, Bool.and_eq_true] at shares
      exact shares.1.2
    have bytes := Message.bytes_eq_cons (Message.result_encode_of_isChannel channel)
    rw [bytes, List.tail_cons, List.length_cons]
    omega
  · omega

theorem length_flatMap_bytesBehind (l : List (Option Event × Event)) :
    (l.flatMap fun (before, e) => e.bytesBehind before).length +
        l.countP (fun (before, e) => before.any (·.sharesStatus e)) =
      (l.map fun (before, e) =>
        Quantity.width (e.ticksSince before) + e.message.bytes.length).sum := by
  induction l with
  | nil => rfl
  | cons x l ih =>
    obtain ⟨before, e⟩ := x
    have first := length_bytesBehind before e
    rw [List.flatMap_cons, List.length_append, List.countP_cons, List.map_cons, List.sum_cons]
    simp only at ih ⊢
    omega

/-- The messages of a track take up all their bytes but the status bytes that they share. -/
theorem payload_eq {t : Track} (encodes : t.encode.result = .ok ()) :
    t.payload = (t.kept.withBefore none).flatMap (fun (before, e) => e.bytesBehind before) ∧
      t.payload.length + t.kept.sharedCount = t.kept.fullSize := by
  obtain ⟨⟨r, runs⟩, -⟩ := result_encode_eq_ok_iff.1 encodes
  have start : ∀ b ∈ (none : Option Event), b.message.encode.result = .ok () := by
    intro b here
    cases here
  have payload : t.payload = _ := payloadFrom_behind start runs
  refine ⟨payload, ?_⟩
  rw [payload]
  exact length_flatMap_bytesBehind _

theorem length_payload {t : Track} (encodes : t.encode.result = .ok ()) :
    t.payload.length = t.kept.runningSize := by
  have size := (payload_eq encodes).2
  unfold runningSize
  omega

theorem length_chunk (t : Track) : t.chunk.length = 8 + t.payload.length := by
  have mark : "MTrk".toUTF8.data.toList.length = 4 := rfl
  unfold chunk
  rw [List.length_append, List.length_append, mark, BigEndian.length_bytes]

end Track

/-! ### Files -/

namespace MidiFile

/-- **The size of a file** is that of its header and its chunks.  A chunk has its mark and its size
in front, and takes up the bytes of all its events, less a status byte for each two of them in a row
that share it; no other status byte is left out. -/
theorem result_encodedSize_eq_ok {f : MidiFile} {n : Nat} (counts : f.encodedSize.result = .ok n) :
    n = 14 + (f.tracks.map fun t => 8 + t.kept.runningSize).sum ∧
      (∀ t ∈ f.tracks, t.kept.sharedCount ≤ t.kept.fullSize ∧ t.kept.runningSize < 4294967296) ∧
      byteList (f.deliverAll ByteArray.empty).1 =
        f.header.bytes f.tracks.length ++ f.tracks.flatMap fun t =>
          let messages := (t.kept.withBefore none).flatMap fun (before, e) => e.bytesBehind before
          "MTrk".toUTF8.data.toList ++ BigEndian.bytes 4 t.kept.runningSize ++ messages := by
  rw [result_encodedSize] at counts
  obtain ⟨encodes, size⟩ : f.encode.result = .ok () ∧ f.bytes.length = n := by
    rcases ends : f.encode.result with fault | _
    · rw [ends] at counts
      cases counts
    · rw [ends] at counts
      cases counts
      exact ⟨rfl, rfl⟩
  obtain ⟨few, all⟩ := result_encode_eq_ok_iff.1 encodes
  have bytes := bytes_eq encodes
  refine ⟨?_, ?_, ?_⟩
  · have chunks : f.tracks.map (fun t => t.chunk.length) =
        f.tracks.map fun t => 8 + t.kept.runningSize := by
      apply List.map_congr_left
      intro t mem
      rw [Track.length_chunk, Track.length_payload (all t mem)]
    rw [← size, bytes, List.length_append, Header.length_bytes, List.length_flatMap, chunks]
  · intro t mem
    have short : t.payload.length < 4294967296 := (Track.result_encode_eq_ok_iff.1 (all t mem)).2
    have whole := (Track.payload_eq (all t mem)).2
    rw [← Track.length_payload (all t mem)]
    omega
  · rw [deliverAll_byteArray, byteList_toByteArray, bytes]
    apply congrArg
    apply List.flatMap_congr
    intro t mem
    have messages := (Track.payload_eq (all t mem)).1
    rw [Track.chunk, Track.length_payload (all t mem), messages]

/-- A file in which one of three notes leaves its status byte out. -/
theorem result_encodedSize_eq_ok_twoNotes :
    twoNotes.encodedSize.result = .ok 48 ∧
      48 = 14 + (twoNotes.tracks.map fun t => 8 + t.kept.runningSize).sum := by
  have counts : twoNotes.encodedSize.result = .ok 48 := by decide +kernel
  exact ⟨counts, (result_encodedSize_eq_ok counts).1⟩

end MidiFile

end MusicMacro
