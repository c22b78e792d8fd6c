import MusicMacro.Buffer
import MusicMacro.Transcript

/-!
# Sinks

A sink takes bytes in portions.  Memory takes everything; a bounded sink keeps what still fits and
refuses the rest; a counter keeps only the number of bytes; a byte stream of the system becomes a
sink by being wrapped.  `Sink.writeAll` hands over one portion after the other until one is refused,
and `Sink.receive` does so with what a transcript put out.
-/

namespace MusicMacro

/-- A destination for bytes, with the way it may refuse them. -/
class Sink (σ : Type) (ε : outParam Type) where
  /-- Hands over one portion; the sink is returned also when it refuses a part of it. -/
  write : σ → List UInt8 → σ × Except ε Unit

namespace Sink

/-- Hands over portions in order until one is refused. -/
def writeAll {σ ε : Type} [Sink σ ε] (s : σ) : List (List UInt8) → σ × Except ε Unit
  | [] => (s, .ok ())
  | l :: rest =>
    match write s l with
    | (s, .ok ()) => writeAll s rest
    | (s, .error e) => (s, .error e)

end Sink

/-- Why something did not reach a sink. -/
inductive DeliveryFault (ε φ : Type) where
  /-- The sink refused a portion. -/
  | refused (why : ε)
  /-- What was to be written has no binary form. -/
  | invalid (why : φ)
deriving DecidableEq, Repr

namespace Sink

/-- Hands over what a transcript put out, and fails as the transcript does if the sink takes it
all. -/
def receive {σ ε φ : Type} [Sink σ ε] (s : σ) (t : Transcript (List UInt8) φ Unit) :
    σ × Except (DeliveryFault ε φ) Unit :=
  match writeAll s t.out.toList with
  | (s, .ok ()) => (s, t.result.mapError .invalid)
  | (s, .error why) => (s, .error (.refused why))

end Sink

/-! ### Memory -/

instance : Sink ByteArray Empty where
  write s l := (s ++ l.toByteArray, .ok ())

instance : Sink Buffer Empty where
  write s l := (s.append l.toByteArray, .ok ())

/-! ### Counting -/

/-- How many bytes have been written. -/
structure ByteCount where
  count : Nat := 0
deriving DecidableEq, Repr

instance : Sink ByteCount Empty where
  write s l := (⟨s.count + l.length⟩, .ok ())

/-! ### Byte streams -/

/-- A byte stream of the system, with the way it may fail. -/
class ByteStream (τ : Type) (ε : outParam Type) where
  /-- Writes one portion; the stream is returned also when it fails within it. -/
  writeAll : τ → List UInt8 → τ × Except ε Unit

/-- Memory, as a byte stream. -/
instance : ByteStream ByteArray Empty where
  writeAll s l := (s ++ l.toByteArray, .ok ())

/-- A byte stream that serves as a sink. -/
structure Wrapped (τ : Type) where
  stream : τ

instance {τ ε : Type} [ByteStream τ ε] : Sink (Wrapped τ) ε where
  write s l :=
    let (stream, result) := ByteStream.writeAll s.stream l
    (⟨stream⟩, result)

/-! ### Bounded sinks -/

/-- The refusal of a bounded sink. -/
inductive SinkFull where
  | full
deriving DecidableEq, Repr

/-- The text of a refusal. -/
def SinkFull.message : SinkFull → String
  | full => "sink is full"

/-- A sink with room for at most `capacity` bytes. -/
structure BoundedSink where
  capacity : Nat
  bytes : ByteArray := .empty
deriving DecidableEq

/-- The bytes that a bounded sink can still take. -/
def BoundedSink.room (s : BoundedSink) : Nat :=
  s.capacity - s.bytes.size

instance : Sink BoundedSink SinkFull where
  write s l :=
    ({ s with bytes := s.bytes ++ (l.take s.room).toByteArray },
      if l.length ≤ s.room then .ok () else .error .full)

end MusicMacro
