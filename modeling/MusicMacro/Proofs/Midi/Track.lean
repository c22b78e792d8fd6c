import MusicMacro.Midi.File.Reading
import MusicMacro.Proofs.Midi.Message

/-!
# The binary form of tracks

`Running.step_eq` says everything that one event does to the encoding of a track; all else about the
writer follows from it.  `Running.read?_written_append` turns one step around: what an event puts
out is read as that event, in the state of the reader that equals the state of the writer.  By
induction the payload of a track is read as the events that are not skipped
(`Track.readEvents?_payloadFrom`).

`Track.encode_of_ok`, `Track.encode_of_error` and `Track.encode_of_long` are the three ways in which
a whole chunk can end.
-/

namespace MusicMacro

/-! ### One event -/

namespace Running

/-- Whether the ticks from the last message to an event are a quantity. -/
def reaches (r : Running) (e : Event) : Prop :=
  r.time ≤ e.time ∧ e.time - r.time < Quantity.bound

instance (r : Running) (e : Event) : Decidable (r.reaches e) :=
  inferInstanceAs (Decidable (_ ∧ _))

/-- The bytes of an event behind the last message. -/
def written (r : Running) (e : Event) : List UInt8 :=
  Quantity.bytes (e.time - r.time) ++ r.elide e.message.status e.message.data

/-- Where the encoding of a track stands behind an event. -/
def after (e : Event) : Running :=
  ⟨e.time, e.message.status⟩

/-- **What one event does** to the encoding of a track. -/
theorem step_eq (r : Running) (e : Event) :
    r.step e =
      if ¬ e.message.isEncodable then ⟨#[.skipped e], .ok r⟩
      else if e.message.isOversized then .fail .dataTooLong
      else if r.reaches e then ⟨#[.portion (r.written e)], .ok (after e)⟩
      else .fail .unordered := by
  have ending := e.message.result_encode
  -- The message is encoded first; the time is looked at only if that succeeds.
  unfold step
  by_cases start : e.message.isEncodable
  · rw [if_neg (not_not.2 start)] at ending ⊢
    by_cases large : e.message.isOversized
    · rw [if_pos large] at ending ⊢
      rw [ending]
    · rw [if_neg large] at ending ⊢
      rw [ending, Message.bytes_eq_cons ending]
      rfl
  · rw [if_pos start] at ending ⊢
    rw [ending]
    rfl

/-- An event that is skipped leaves the state as it is. -/
theorem step_of_skipped (r : Running) {e : Event} (skipped : ¬ e.message.isEncodable) :
    r.step e = ⟨#[.skipped e], .ok r⟩ := by
  rw [step_eq, if_pos skipped]

theorem step_of_reaches {r : Running} {e : Event} (encodes : e.message.encode.result = .ok ())
    (reach : r.reaches e) : r.step e = ⟨#[.portion (r.written e)], .ok (after e)⟩ := by
  obtain ⟨start, small⟩ := Message.result_encode_eq_ok_iff.1 encodes
  rw [step_eq, if_neg (not_not.2 start), if_neg small, if_pos reach]

/-- The status byte of a message can be left out only where the reader puts it back. -/
theorem takeStatus?_elide_append (r : Running) (m : Message) (rest : List UInt8) :
    takeStatus? r.status (r.elide m.status m.data ++ rest) = some (m.status, m.data ++ rest) := by
  unfold elide
  split
  · next elided =>
    rw [Bool.and_eq_true, beq_iff_eq] at elided
    obtain ⟨channel, same⟩ := elided
    -- What follows is below `0x80`, so the reader knows that the status byte was left out.
    obtain ⟨b, tail, data, low⟩ := Message.exists_dataByte channel
    rw [data, List.cons_append, takeStatus?, if_neg (UInt8.not_le.2 low), ← same, if_pos channel]
  · rw [List.cons_append, takeStatus?, if_pos m.le_status]

/-- What an event puts out is read as that event, and reader and writer stay in step. -/
theorem read?_written_append {r : Running} {e : Event} (encodes : e.message.encode.result = .ok ())
    (reach : r.reaches e) (rest : List UInt8) :
    r.read? (r.written e ++ rest) = some (e, after e, rest) := by
  have time : r.time + (e.time - r.time) = e.time := Nat.add_sub_cancel' reach.1
  unfold read? written
  simp only [List.append_assoc, Quantity.read?_bytes_append reach.2, takeStatus?_elide_append,
    Message.read?_data_append encodes, time, Option.bind_eq_bind, Option.bind_some]
  rfl

theorem written_ne_nil (r : Running) (e : Event) : r.written e ≠ [] := by
  unfold written
  simp [Quantity.bytes_ne_nil]

end Running

/-! ### All events -/

namespace Track

/-- Whether an event has a place in a file. -/
def isKept (e : Event) : Bool :=
  e.message.isEncodable

/-- What the events of a track put out, from where the encoding stands. -/
def payloadFrom (r : Running) (t : Track) : List UInt8 :=
  (Transcript.run Running.step r t).out.toList.flatMap Piece.bytes

/-- The messages of a track, as they stand in its chunk. -/
def payload (t : Track) : List UInt8 :=
  payloadFrom {} t

/-- The chunk of a track. -/
def chunk (t : Track) : List UInt8 :=
  "MTrk".toUTF8.data.toList ++ BigEndian.bytes 4 t.payload.length ++ t.payload

/-- What comes out for a track comes out for its first event and then for the others. -/
theorem run_cons_of_ok {r r' : Running} {e : Event} (steps : (r.step e).result = .ok r')
    (t : Track) :
    (Transcript.run Running.step r (e :: t)).result = (Transcript.run Running.step r' t).result ∧
      payloadFrom r (e :: t) =
        (r.step e).out.toList.flatMap Piece.bytes ++ payloadFrom r' t := by
  unfold payloadFrom
  rw [Transcript.run_cons, Transcript.bind_of_ok steps]
  refine ⟨rfl, ?_⟩
  rw [Array.toList_append, List.flatMap_append]

theorem run_cons_of_skipped (r : Running) {e : Event} (skipped : ¬ isKept e) (t : Track) :
    (Transcript.run Running.step r (e :: t)).result = (Transcript.run Running.step r t).result ∧
      payloadFrom r (e :: t) = payloadFrom r t := by
  have step := r.step_of_skipped skipped
  obtain ⟨result, out⟩ := run_cons_of_ok (congrArg Transcript.result step) t
  refine ⟨result, ?_⟩
  rw [out, step]
  rfl

theorem run_cons_of_reaches {r : Running} {e : Event} (encodes : e.message.encode.result = .ok ())
    (reach : r.reaches e) (t : Track) :
    (Transcript.run Running.step r (e :: t)).result =
        (Transcript.run Running.step (Running.after e) t).result ∧
      payloadFrom r (e :: t) = r.written e ++ payloadFrom (Running.after e) t := by
  have step := Running.step_of_reaches encodes reach
  obtain ⟨result, out⟩ := run_cons_of_ok (congrArg Transcript.result step) t
  refine ⟨result, ?_⟩
  rw [out, step]
  simp [Piece.bytes]

/-- What the first event of a track does where the whole track has a binary form: it is skipped, or
it puts out its bytes. -/
theorem run_cons_eq_ok {r r' : Running} {e : Event} {t : Track}
    (runs : (Transcript.run Running.step r (e :: t)).result = .ok r') :
    (¬ isKept e ∧ (Transcript.run Running.step r t).result = .ok r' ∧
        payloadFrom r (e :: t) = payloadFrom r t) ∨
      (isKept e ∧ e.message.encode.result = .ok () ∧ r.reaches e ∧
        (Transcript.run Running.step (Running.after e) t).result = .ok r' ∧
        payloadFrom r (e :: t) = r.written e ++ payloadFrom (Running.after e) t) := by
  by_cases start : e.message.isEncodable
  · have steps := runs
    rw [Transcript.run_cons, Transcript.result_bind, except_bind_eq_ok_iff] at steps
    obtain ⟨r₁, steps, -⟩ := steps
    rw [Running.step_eq, if_neg (not_not.2 start)] at steps
    by_cases large : e.message.isOversized
    · rw [if_pos large] at steps
      cases steps
    · rw [if_neg large] at steps
      by_cases reach : r.reaches e
      · have encodes := Message.result_encode_eq_ok_iff.2 ⟨start, large⟩
        obtain ⟨result, out⟩ := run_cons_of_reaches encodes reach t
        exact .inr ⟨start, encodes, reach, result ▸ runs, out⟩
      · rw [if_neg reach] at steps
        cases steps
  · obtain ⟨result, out⟩ := run_cons_of_skipped r start t
    exact .inl ⟨start, result ▸ runs, out⟩

/-- The events of a track put out their bytes from where those before them have ended. -/
theorem run_append_of_ok {r r' : Running} {t : Track}
    (runs : (Transcript.run Running.step r t).result = .ok r') (u : Track) :
    (Transcript.run Running.step r (t ++ u)).result = (Transcript.run Running.step r' u).result ∧
      payloadFrom r (t ++ u) = payloadFrom r t ++ payloadFrom r' u := by
  unfold payloadFrom
  rw [Transcript.run_append, Transcript.bind_of_ok runs]
  refine ⟨rfl, ?_⟩
  rw [Array.toList_append, List.flatMap_append]

theorem readEvents?_append {fuel : Nat} {r r' : Running} {l rest : List UInt8} {e : Event}
    (nonempty : l ≠ []) (reads : r.read? (l ++ rest) = some (e, r', rest)) :
    readEvents? (fuel + 1) r (l ++ rest) = (readEvents? fuel r' rest).map (e :: ·) := by
  obtain ⟨b, tail, rfl⟩ := List.exists_cons_of_ne_nil nonempty
  rw [List.cons_append] at reads ⊢
  rw [readEvents?, reads]
  show ((readEvents? fuel r' rest).bind fun events => some (e :: events)) = _
  rw [Option.map_eq_bind]
  rfl

/-- **The payload of a track is read as the events that are not skipped**: by induction on the
track, where the reader starts from the state in which the writer stands. -/
theorem readEvents?_payloadFrom {t : Track} {r r' : Running} {fuel : Nat}
    (runs : (Transcript.run Running.step r t).result = .ok r')
    (enough : (payloadFrom r t).length ≤ fuel) :
    readEvents? fuel r (payloadFrom r t) = some (t.filter isKept) := by
  induction t generalizing r fuel with
  | nil =>
    show readEvents? fuel r [] = some []
    cases fuel <;> rfl
  | cons e t ih =>
    obtain ⟨skips, runs', same⟩ | ⟨kept, encodes, reach, runs', puts⟩ := run_cons_eq_ok runs
    · rw [same] at enough ⊢
      rw [List.filter_cons_of_neg skips]
      exact ih runs' enough
    · rw [puts, List.length_append] at enough
      rw [puts, List.filter_cons_of_pos kept]
      -- Every event takes up a byte, so one unit of fuel can be spent on it.
      have nonempty := r.written_ne_nil e
      have positive := List.length_pos_iff.2 nonempty
      obtain ⟨fuel, rfl⟩ : ∃ n, fuel = n + 1 := ⟨fuel - 1, by omega⟩
      rw [readEvents?_append nonempty (Running.read?_written_append encodes reach _),
        ih runs' (by omega)]
      rfl

/-! ### Chunks -/

/-- The events that are skipped are reported before the chunk, and add no bytes to it. -/
theorem bytes_reports (pieces : Array Piece) :
    (pieces.filter fun p => p.skipped?.isSome).toList.flatMap Piece.bytes = [] := by
  rw [List.flatMap_eq_nil_iff]
  intro p mem
  rw [Array.toList_filter, List.mem_filter] at mem
  cases p with
  | portion l => exact absurd mem.2 Bool.false_ne_true
  | skipped e => rfl

/-- A track fails as its events do, and puts out no bytes then. -/
theorem encode_of_error {t : Track} {fault : FileFault}
    (ends : (Transcript.run Running.step {} t).result = .error fault) :
    t.encode.result = .error fault ∧ t.encode.out.toList.flatMap Piece.bytes = [] := by
  have fails : discard (.ofExcept (.error fault : Except FileFault Running)) =
      (.ofExcept (.error fault) : Transcript Piece FileFault Unit) := rfl
  unfold encode
  simp only [ends, fails, Transcript.sayAll_bind]
  refine ⟨rfl, ?_⟩
  rw [Array.toList_append, List.flatMap_append, bytes_reports]
  rfl

theorem encode_of_long {t : Track} {r : Running}
    (ends : (Transcript.run Running.step {} t).result = .ok r)
    (long : chunkBound ≤ t.payload.length) :
    t.encode.result = .error .chunkTooLong ∧ t.encode.out.toList.flatMap Piece.bytes = [] := by
  have passes : discard (.ofExcept (.ok r)) =
      (.ofExcept (.ok ()) : Transcript Piece FileFault Unit) := rfl
  unfold encode
  unfold payload payloadFrom at long
  simp only [ends, if_neg (Nat.not_lt.2 long), passes, Transcript.sayAll_bind,
    Transcript.ofExcept_ok_bind]
  refine ⟨rfl, ?_⟩
  rw [Array.toList_append, List.flatMap_append, bytes_reports]
  rfl

/-- A track that has a binary form puts out its chunk, and the events it skips before that. -/
theorem encode_of_ok {t : Track} {r : Running}
    (ends : (Transcript.run Running.step {} t).result = .ok r)
    (short : t.payload.length < chunkBound) :
    t.encode.result = .ok () ∧ t.encode.out.toList.flatMap Piece.bytes = t.chunk := by
  have passes : discard (.ofExcept (.ok r)) =
      (.ofExcept (.ok ()) : Transcript Piece FileFault Unit) := rfl
  unfold chunk encode
  unfold payload payloadFrom at short ⊢
  simp only [ends, if_pos short, passes, Transcript.sayAll_bind, Transcript.ofExcept_ok_bind,
    Transcript.say_bind]
  refine ⟨rfl, ?_⟩
  rw [Array.toList_append, List.flatMap_append, bytes_reports]
  simp [Piece.bytes, Transcript.say]

end Track

end MusicMacro
