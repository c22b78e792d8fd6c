import MusicMacro.Midi.File.Encoding
import Mathlib.Data.List.Basic

/-!
# Delivery to sinks that refuse nothing

A sink that refuses nothing ends up with all portions of a file, also of one that turns out to have
no binary form (`view_deliver`), and the events skipped and the result do not depend on it
(`deliver_snd`).  For a sink that appends to what it holds this gives the bytes of the file
(`deliver_of_appends`), so also for memory (`deliverAll_byteArray`, `deliverAll_buffer`), and for a
counter their number (`result_encodedSize`).
-/

namespace MusicMacro

namespace Sink

variable {σ ε : Type}

/-- Whether a sink refuses no portion. -/
def TakesAll (σ : Type) {ε : Type} [Sink σ ε] : Prop :=
  ∀ (s : σ) (l : List UInt8), (write s l).2 = .ok ()

/-- Whether a sink takes every portion and puts it behind its content. -/
def Appends [Sink σ ε] (content : σ → ByteArray) : Prop :=
  ∀ (s : σ) (l : List UInt8),
    (write s l).2 = .ok () ∧ content (write s l).1 = content s ++ l.toByteArray

/-- Without a reason to refuse, nothing is refused. -/
theorem takesAll_of_empty [Sink σ Empty] : TakesAll σ := by
  intro s l
  rcases (write s l : σ × Except Empty Unit) with ⟨s', why | _⟩
  · exact why.elim
  · rfl

theorem Appends.takesAll [Sink σ ε] {content : σ → ByteArray} (appends : Appends content) :
    TakesAll σ :=
  fun s l => (appends s l).1

theorem appends_byteArray : Appends (σ := ByteArray) id :=
  fun _ _ => ⟨rfl, rfl⟩

theorem appends_buffer : Appends Buffer.bytes :=
  fun _ _ => ⟨rfl, rfl⟩

end Sink

namespace MidiFile

/-- The bytes that come out while a file is encoded. -/
def bytes (f : MidiFile) : List UInt8 :=
  f.encode.out.toList.flatMap Piece.bytes

/-- The events that are left out while a file is encoded. -/
def skipped (f : MidiFile) : Array Event :=
  (f.encode.out.toList.filterMap Piece.skipped?).toArray

/-! ### Sinks that refuse nothing -/

section

variable {σ ε : Type} [Sink σ ε]

theorem handOver_portion_of_ok {s : σ} {l : List UInt8} (taken : (Sink.write s l).2 = .ok ())
    (seen : Array Event) (rest : List Piece) :
    handOver s seen (.portion l :: rest) = handOver (Sink.write s l).1 seen rest := by
  rcases written : (Sink.write s l : σ × Except ε Unit) with ⟨s', r⟩
  rw [written] at taken
  cases taken
  rw [handOver, written]

theorem handOver_portion_of_error {s : σ} {l : List UInt8} {why : ε}
    (refused : (Sink.write s l).2 = .error why) (seen : Array Event) (rest : List Piece) :
    handOver s seen (.portion l :: rest) = ((Sink.write s l).1, ⟨seen, .error why⟩) := by
  rcases written : (Sink.write s l : σ × Except ε Unit) with ⟨s', r⟩
  rw [written] at refused
  cases refused
  rw [handOver, written]

/-- A sink that refuses nothing takes all portions, whatever is looked at in it. -/
theorem view_handOver {β : Type} (takesAll : Sink.TakesAll σ) (view : σ → β)
    (grow : β → List UInt8 → β) (grow_nil : ∀ b, grow b [] = b)
    (grow_append : ∀ b l l', grow b (l ++ l') = grow (grow b l) l')
    (view_write : ∀ (s : σ) l, view (Sink.write s l).1 = grow (view s) l)
    (s : σ) (seen : Array Event) (pieces : List Piece) :
    view (handOver s seen pieces).1 = grow (view s) (pieces.flatMap Piece.bytes) := by
  induction pieces generalizing s seen with
  | nil => exact (grow_nil (view s)).symm
  | cons p rest ih =>
    cases p with
    | skipped e => exact ih s (seen.push e)
    | portion l =>
      rw [handOver_portion_of_ok (takesAll s l), ih, view_write, List.flatMap_cons, grow_append]
      rfl

theorem handOver_snd (takesAll : Sink.TakesAll σ) (s : σ) (seen : Array Event)
    (pieces : List Piece) :
    (handOver s seen pieces).2 =
      ⟨seen ++ (pieces.filterMap Piece.skipped?).toArray, .ok ()⟩ := by
  induction pieces generalizing s seen with
  | nil => simp [handOver]
  | cons p rest ih =>
    cases p with
    | skipped e =>
      rw [handOver, ih s (seen.push e)]
      simp [Piece.skipped?]
    | portion l =>
      rw [handOver_portion_of_ok (takesAll s l)]
      exact ih (Sink.write s l).1 seen

/-- What a sink that refuses nothing is left with. -/
theorem view_deliver {β : Type} (takesAll : Sink.TakesAll σ) (view : σ → β)
    (grow : β → List UInt8 → β) (grow_nil : ∀ b, grow b [] = b)
    (grow_append : ∀ b l l', grow b (l ++ l') = grow (grow b l) l')
    (view_write : ∀ (s : σ) l, view (Sink.write s l).1 = grow (view s) l)
    (f : MidiFile) (s : σ) : view (f.deliver s).1 = grow (view s) f.bytes :=
  view_handOver takesAll view grow grow_nil grow_append view_write s #[] f.encode.out.toList

/-- Which events are skipped and how the delivery ends does not depend on the sink. -/
theorem deliver_snd (takesAll : Sink.TakesAll σ) (f : MidiFile) (s : σ) :
    (f.deliver s).2 = ⟨f.skipped, f.encode.result.mapError .invalid⟩ := by
  have handed := handOver_snd takesAll s #[] f.encode.out.toList
  rw [Array.empty_append] at handed
  unfold deliver
  simp only [handed]
  exact Transcript.ext (Array.append_empty ..) rfl

/-- What a sink that appends holds in the end. -/
theorem deliver_of_appends {content : σ → ByteArray} (appends : Sink.Appends content)
    (f : MidiFile) (s : σ) : content (f.deliver s).1 = content s ++ f.bytes.toByteArray :=
  view_deliver appends.takesAll content (fun b l => b ++ l.toByteArray)
    (fun b => ByteArray.append_empty)
    (fun b l l' => by rw [List.toByteArray_append, ByteArray.append_assoc])
    (fun s l => (appends s l).2) f s

end

/-! ### Memory and counters -/

/-- Which events are skipped and how the delivery ends does not depend on the sink. -/
theorem deliverAll_snd {σ : Type} [Sink σ Empty] (f : MidiFile) (s : σ) :
    (f.deliverAll s).2 = ⟨f.skipped, f.encode.result⟩ := by
  unfold deliverAll
  simp only [deliver_snd Sink.takesAll_of_empty]
  rcases f.encode.result with why | _ <;> rfl

theorem deliverAll_byteArray (f : MidiFile) :
    (f.deliverAll ByteArray.empty).1 = f.bytes.toByteArray := by
  rw [← ByteArray.empty_append (b := f.bytes.toByteArray)]
  exact deliver_of_appends Sink.appends_byteArray f ByteArray.empty

theorem deliverAll_buffer (f : MidiFile) :
    (f.deliverAll Buffer.empty).1.bytes = f.bytes.toByteArray := by
  rw [← ByteArray.empty_append (b := f.bytes.toByteArray)]
  exact deliver_of_appends Sink.appends_buffer f Buffer.empty

/-- The size of a file is the number of its bytes, if it has a binary form. -/
theorem result_encodedSize (f : MidiFile) :
    f.encodedSize.result = f.encode.result.map fun _ => f.bytes.length := by
  have count : (f.deliverAll ({} : ByteCount)).1.count = f.bytes.length := by
    rw [← Nat.zero_add f.bytes.length]
    exact view_deliver Sink.takesAll_of_empty ByteCount.count (fun n l => n + l.length)
      (fun _ => rfl) (fun n l l' => by rw [List.length_append, Nat.add_assoc]) (fun s l => rfl) f {}
  show ((f.deliverAll ({} : ByteCount)).2 >>= fun _ =>
    pure (f.deliverAll ({} : ByteCount)).1.count).result = _
  rw [deliverAll_snd, count, Transcript.result_bind]
  cases f.encode.result <;> rfl

end MidiFile

end MusicMacro
