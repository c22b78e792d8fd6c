import MusicMacro.Sink
import Mathlib.Data.List.DropRight

/-!
# What a buffer remembers

Buffers are used in any order of operations, and copied.  A session keeps, next to a buffer, the log
of all that was done to it and of every byte that it answered with; a copy takes the log of its
original along.  The log alone says what the buffer must hold (`contentsOf`) and what must have been
read from it since its cursor last stood at the front (`readOf`).  Each operation keeps the two in
step (`Session.Sound.act`), so they are in step in every session (`sessions_sound`).
-/

namespace MusicMacro

/-! ### Whole numbers -/

/-- The whole number with the given big-endian bytes, in two's complement if it is signed. -/
def BigEndian.number (signed : Bool) (l : List UInt8) : Int :=
  if signed then (BitVec.ofNat (8 * l.length) (value l)).toInt else value l

/-- Fixed-width integers that are whole numbers, with or without a sign. -/
class FixedWidth.Number (α : Type) [FixedWidth α] where
  signed : Bool
  toInt : α → Int
  toInt_eq (x : α) : toInt x = if signed then (toBits x).toInt else (toBits x).toNat
  toInt_inj {x y : α} : toInt x = toInt y ↔ x = y

namespace FixedWidth

instance : Number UInt8 :=
  ⟨false, fun x => x.toNat, fun _ => rfl, Int.ofNat_inj.trans UInt8.toNat_inj⟩
instance : Number UInt16 :=
  ⟨false, fun x => x.toNat, fun _ => rfl, Int.ofNat_inj.trans UInt16.toNat_inj⟩
instance : Number UInt32 :=
  ⟨false, fun x => x.toNat, fun _ => rfl, Int.ofNat_inj.trans UInt32.toNat_inj⟩
instance : Number UInt64 :=
  ⟨false, fun x => x.toNat, fun _ => rfl, Int.ofNat_inj.trans UInt64.toNat_inj⟩
instance : Number Int8 := ⟨true, Int8.toInt, fun _ => rfl, Int8.toInt_inj⟩
instance : Number Int16 := ⟨true, Int16.toInt, fun _ => rfl, Int16.toInt_inj⟩
instance : Number Int32 := ⟨true, Int32.toInt, fun _ => rfl, Int32.toInt_inj⟩
instance : Number Int64 := ⟨true, Int64.toInt, fun _ => rfl, Int64.toInt_inj⟩
instance : Number (BitVec 24) :=
  ⟨false, fun x => x.toNat, fun _ => rfl, Int.ofNat_inj.trans BitVec.toNat_inj⟩

/-- The bytes of an integer are those of its number. -/
theorem number_bytes {α : Type} [FixedWidth α] [Number α] (x : α) :
    BigEndian.number (Number.signed α) (bytes x) = Number.toInt x := by
  have bits : BitVec.ofNat (8 * width α) (BigEndian.value (bytes x)) = toBits x := by
    rw [value_bytes, BitVec.ofNat_toNat, BitVec.setWidth_eq]
  rw [Number.toInt_eq, BigEndian.number, length_bytes, bits, value_bytes]

end FixedWidth

open FixedWidth (Number)

namespace Buffer

/-! ### Operations -/

/-- The bytes of a buffer, in order. -/
def contents (b : Buffer) : List UInt8 :=
  byteList b.bytes

/-- The bytes in front of the cursor of a buffer. -/
def taken (b : Buffer) : List UInt8 :=
  b.contents.take b.cursor

/-- What can be done to a buffer. -/
inductive Operation : Type 1 where
  /-- Appends a fixed-width integer. -/
  | put {α : Type} [FixedWidth α] [Number α] (x : α)
  | putByte (x : UInt8)
  | putBytes (data : ByteArray)
  | putText (s : String)
  /-- Hands over a portion to the buffer as a sink. -/
  | write (portion : List UInt8)
  /-- Reads the byte at a position. -/
  | get (i : Nat)
  /-- Reads the byte under the cursor. -/
  | next
  | rewind
  | clear

namespace Operation

/-- Does an operation: the byte that is read, if one is, and the buffer behind it. -/
def perform (b : Buffer) : Operation → Option UInt8 × Buffer
  | put x => (none, b.put x)
  | putByte x => (none, b.push x)
  | putBytes data => (none, b.append data)
  | putText s => (none, b.putText s)
  | write portion => (none, (Sink.write b portion).1)
  | get i => (b.get? i, b)
  | next =>
    match b.next? with
    | some (x, rest) => (some x, rest)
    | none => (none, b)
  | rewind => (none, b.rewind)
  | clear => (none, b.clear)

/-- The bytes that an operation appends, if it is one that appends. -/
def appended? : Operation → Option (List UInt8)
  | put x => some (FixedWidth.bytes x)
  | putByte x => some [x]
  | putBytes data => some (byteList data)
  | putText s => some (byteList s.toUTF8)
  | write portion => some portion
  | get _ | next | rewind | clear => none

/-- Whether an operation removes all bytes. -/
def clears : Operation → Bool
  | clear => true
  | _ => false

/-- Whether an operation puts the cursor to the front. -/
def returns : Operation → Bool
  | rewind | clear => true
  | _ => false

/-- Whether an operation reads the byte under the cursor. -/
def advances : Operation → Bool
  | next => true
  | _ => false

end Operation

/-! ### Logs -/

/-- Something that was done to a buffer, with the byte that was read. -/
structure Entry where
  operation : Operation
  answer : Option UInt8

/-- The bytes that were appended. -/
def Entry.appended (e : Entry) : List UInt8 :=
  e.operation.appended?.getD []

/-- The byte that was read under the cursor. -/
def Entry.read? (e : Entry) : Option UInt8 :=
  if e.operation.advances then e.answer else none

/-- What was appended since all bytes were removed. -/
def contentsOf (log : List Entry) : List UInt8 :=
  (log.rtakeWhile fun e => !e.operation.clears).flatMap Entry.appended

/-- What was read under the cursor since it was put to the front. -/
def readOf (log : List Entry) : List UInt8 :=
  (log.rtakeWhile fun e => !e.operation.returns).filterMap Entry.read?

/-- A buffer with the log of all that was done to it. -/
structure Session where
  buffer : Buffer
  log : List Entry

namespace Session

/-- The session of an empty buffer. -/
def start (capacity : Nat) : Session :=
  ⟨withCapacity capacity, []⟩

/-- Goes on with an operation. -/
def act (s : Session) (op : Operation) : Session where
  buffer := (op.perform s.buffer).2
  log := s.log ++ [⟨op, (op.perform s.buffer).1⟩]

end Session

/-- A step with several buffers. -/
inductive Step : Type 1 where
  /-- Does something to one of them. -/
  | act (i : Nat) (op : Operation)
  /-- Copies one of them. -/
  | copy (i : Nat)

/-- Takes a step: a copy is put behind all buffers there are. -/
def Step.take (sessions : List Session) : Step → List Session
  | act i op => sessions.modify i fun s => s.act op
  | copy i => sessions ++ sessions[i]?.toList

/-- What becomes of an empty buffer and its copies. -/
def sessions (capacity : Nat) (steps : List Step) : List Session :=
  steps.foldl Step.take [.start capacity]

/-! ### Reading a buffer -/

theorem length_contents (b : Buffer) : b.contents.length = b.size :=
  length_byteList b.bytes

theorem get?_eq (b : Buffer) (i : Nat) : b.get? i = b.contents[i]? := by
  unfold get?
  split
  · next inside => exact (List.getElem?_eq_getElem (l := b.contents) inside).symm
  · next beyond => exact (List.getElem?_eq_none (l := b.contents) (Nat.not_lt.1 beyond)).symm

theorem next?_eq_none_iff {b : Buffer} : b.next? = none ↔ b.cursor = b.size := by
  have bound : b.cursor ≤ b.size := b.cursor_le_size
  unfold next?
  split
  · next inside =>
    have less : b.cursor < b.size := inside
    simp only [reduceCtorEq, false_iff]
    omega
  · next beyond =>
    have notLess : ¬ b.cursor < b.size := beyond
    simp only [true_iff]
    omega

/-- Reading under the cursor takes the byte there and moves on, and leaves the bytes alone. -/
theorem next?_spec {b rest : Buffer} {x : UInt8} (reads : b.next? = some (x, rest)) :
    b.contents[b.cursor]? = some x ∧ rest.contents = b.contents ∧ rest.cursor = b.cursor + 1 := by
  rw [← get?_eq]
  unfold next? at reads
  unfold get?
  split at reads
  · next inside =>
    cases reads
    exact ⟨dif_pos inside, rfl, rfl⟩
  · cases reads

/-! ### What an operation does -/

namespace Operation

/-- An operation that appends puts its bytes behind those there are and leaves the cursor alone. -/
theorem perform_of_appended {op : Operation} {l : List UInt8} (appends : op.appended? = some l)
    (b : Buffer) :
    (op.perform b).2.contents = b.contents ++ l ∧ (op.perform b).2.cursor = b.cursor := by
  cases op with
  | put x =>
    cases appends
    exact ⟨by simp [perform, Buffer.put, append, contents], rfl⟩
  | putByte x =>
    cases appends
    exact ⟨by simp [perform, push, contents, byteList], rfl⟩
  | putBytes data =>
    cases appends
    exact ⟨by simp [perform, append, contents], rfl⟩
  | putText s =>
    cases appends
    exact ⟨by simp [perform, Buffer.putText, append, contents], rfl⟩
  | write portion =>
    cases appends
    exact ⟨by simp [perform, Sink.write, append, contents], rfl⟩
  | get _ | next | rewind | clear => cases appends

/-- What a buffer holds behind an operation. -/
theorem contents_perform (op : Operation) (b : Buffer) :
    (op.perform b).2.contents =
      if op.clears then [] else b.contents ++ op.appended?.getD [] := by
  cases appends : op.appended? with
  | some l =>
    have keeps : op.clears = false := by
      cases op <;> first | rfl | cases appends
    rw [(perform_of_appended appends b).1, keeps]
    rfl
  | none =>
    cases op with
    | next =>
      show (perform b next).2.contents = b.contents ++ []
      rw [List.append_nil, perform]
      split
      · next reads => exact (next?_spec reads).2.1
      · rfl
    | get _ | rewind => exact (List.append_nil _).symm
    | clear => rfl
    | put _ | putByte _ | putBytes _ | putText _ | write _ => cases appends

/-- What was read from the front of a buffer, behind an operation. -/
theorem taken_perform (op : Operation) (b : Buffer) :
    (op.perform b).2.taken =
      if op.returns then [] else b.taken ++ (Entry.read? ⟨op, (op.perform b).1⟩).toList := by
  cases appends : op.appended? with
  | some l =>
    obtain ⟨holds, stays⟩ := perform_of_appended appends b
    have inside : b.cursor ≤ b.contents.length := b.length_contents ▸ b.cursor_le_size
    have keeps : op.returns = false ∧ op.advances = false := by
      cases op <;> first | exact ⟨rfl, rfl⟩ | cases appends
    -- What was read lies in front of what is appended.
    rw [taken, holds, stays, List.take_append_of_le_length inside, keeps.1, Entry.read?, keeps.2]
    exact (List.append_nil _).symm
  | none =>
    cases op with
    | next =>
      show (perform b next).2.taken = b.taken ++ (perform b next).1.toList
      rw [perform]
      split
      · next reads =>
        obtain ⟨byte, holds, moves⟩ := next?_spec reads
        rw [taken, holds, moves, List.take_add_one, byte]
        rfl
      · exact (List.append_nil _).symm
    | get _ => exact (List.append_nil _).symm
    | rewind | clear => rfl
    | put _ | putByte _ | putBytes _ | putText _ | write _ => cases appends

end Operation

/-! ### Logs and sessions -/

theorem contentsOf_concat (log : List Entry) (e : Entry) :
    contentsOf (log ++ [e]) =
      if e.operation.clears then [] else contentsOf log ++ e.appended := by
  unfold contentsOf
  rw [List.rtakeWhile_concat]
  cases e.operation.clears <;> simp

theorem readOf_concat (log : List Entry) (e : Entry) :
    readOf (log ++ [e]) =
      if e.operation.returns then [] else readOf log ++ e.read?.toList := by
  unfold readOf
  rw [List.rtakeWhile_concat]
  cases e.operation.returns
  · cases reads : e.read? <;> simp [reads]
  · simp

/-- As long as nothing is removed, bytes are only ever added at the end. -/
theorem contentsOf_append (log : List Entry) {later : List Entry}
    (kept : ∀ e ∈ later, e.operation.clears = false) :
    contentsOf (log ++ later) = contentsOf log ++ later.flatMap Entry.appended := by
  have all : ∀ e ∈ later.reverse, (!e.operation.clears) = true := by
    intro e mem
    rw [kept e (List.mem_reverse.1 mem)]
    rfl
  unfold contentsOf List.rtakeWhile
  rw [List.reverse_append, List.takeWhile_append_of_pos all, List.reverse_append,
    List.reverse_reverse, List.flatMap_append]

/-- A session whose buffer is as its log says. -/
structure Session.Sound (s : Session) : Prop where
  contents : s.buffer.contents = contentsOf s.log
  taken : s.buffer.taken = readOf s.log

theorem Session.sound_start (capacity : Nat) : (Session.start capacity).Sound :=
  ⟨rfl, rfl⟩

/-- **Every operation keeps a buffer in step with its log.** -/
theorem Session.Sound.act {s : Session} (sound : s.Sound) (op : Operation) : (s.act op).Sound where
  contents := by
    show (op.perform s.buffer).2.contents = contentsOf (s.log ++ [_])
    rw [Operation.contents_perform, contentsOf_concat, sound.contents]
    rfl
  taken := by
    show (op.perform s.buffer).2.taken = readOf (s.log ++ [_])
    rw [Operation.taken_perform, readOf_concat, sound.taken]

theorem Step.sound_take {sessions : List Session} (sound : ∀ s ∈ sessions, s.Sound) (step : Step) :
    ∀ s ∈ step.take sessions, s.Sound := by
  intro s mem
  cases step with
  | act i op =>
    obtain ⟨j, here⟩ := List.mem_iff_getElem?.1 mem
    rw [take, List.getElem?_modify] at here
    obtain ⟨old, before, rfl⟩ := Option.map_eq_some_iff.1 here
    have was := sound old (List.mem_of_getElem? before)
    split
    · exact was.act op
    · exact was
  | copy i =>
    rcases List.mem_append.1 mem with mem | mem
    · exact sound s mem
    · exact sound s (List.mem_of_getElem? (Option.mem_toList.1 mem))

/-- Steps keep all buffers in step with their logs, by induction over the steps. -/
theorem sound_foldl_take {now : List Session} (sound : ∀ s ∈ now, s.Sound) (steps : List Step) :
    ∀ s ∈ steps.foldl Step.take now, s.Sound := by
  induction steps generalizing now with
  | nil => exact sound
  | cons step steps ih => exact ih (step.sound_take sound)

theorem sound_of_mem_sessions {capacity : Nat} {steps : List Step} {s : Session}
    (mem : s ∈ sessions capacity steps) : s.Sound :=
  sound_foldl_take (List.forall_mem_singleton.2 (Session.sound_start capacity)) steps s mem

/-- What was put into a buffer stands where the buffer ended then, as long as nothing is removed. -/
theorem Session.Sound.put_back {s : Session} (sound : s.Sound) {α : Type} [FixedWidth α] [Number α]
    {x : α} {before after : List Entry} {answer : Option UInt8}
    (done : s.log = before ++ ⟨.put x, answer⟩ :: after)
    (kept : ∀ e ∈ after, e.operation.clears = false) :
    (s.buffer.contents.drop (contentsOf before).length).take (FixedWidth.width α) =
      FixedWidth.bytes x := by
  have holds : s.buffer.contents =
      contentsOf before ++ (FixedWidth.bytes x ++ after.flatMap Entry.appended) := by
    rw [sound.contents, done, contentsOf_append _ (List.forall_mem_cons.2 ⟨rfl, kept⟩)]
    rfl
  rw [holds, List.drop_left, ← FixedWidth.length_bytes x, List.take_left]

/-- **Buffers are what was done to them.**  Take any steps with an empty buffer of any capacity and
its copies, and one of the buffers there are then, with its log.  It holds what was appended since
all bytes were last removed.  Its cursor is not beyond its end, and the bytes in front of the cursor
are those that were read under it since it was last put to the front, whatever was appended
meanwhile.  A read under the cursor has no answer iff the cursor is at the end, and then changes
nothing; a read at a position answers with the byte there and changes nothing either.  An operation
that appends leaves alone the cursor and all bytes there are.  A fixed-width integer takes up as
many bytes as its width says, and where it was put, as many bytes are still found that stand for its
number and for no other, unless all bytes were removed since. -/
theorem sessions_sound {capacity i : Nat} {steps : List Step} {s : Session}
    (here : (sessions capacity steps)[i]? = some s) :
    s.buffer.contents = contentsOf s.log ∧
      s.buffer.cursor ≤ s.buffer.size ∧
      readOf s.log = s.buffer.contents.take s.buffer.cursor ∧
      ((Operation.next.perform s.buffer).1 = none ↔ s.buffer.cursor = s.buffer.size) ∧
      ((Operation.next.perform s.buffer).1 = none →
        (Operation.next.perform s.buffer).2 = s.buffer) ∧
      (∀ j, (Operation.get j).perform s.buffer = ((contentsOf s.log)[j]?, s.buffer)) ∧
      (∀ (op : Operation) (l : List UInt8), op.appended? = some l →
        (op.perform s.buffer).2.cursor = s.buffer.cursor ∧
          ∀ j < s.buffer.size, (op.perform s.buffer).2.get? j = s.buffer.get? j) ∧
      ∀ (α : Type) [FixedWidth α] [Number α] (x : α),
        (s.buffer.put x).size = s.buffer.size + FixedWidth.width α ∧
          ∀ before answer after, s.log = before ++ ⟨.put x, answer⟩ :: after →
            (∀ e ∈ after, e.operation.clears = false) →
            let back := (s.buffer.contents.drop (contentsOf before).length).take
              (FixedWidth.width α)
            back.length = FixedWidth.width α ∧
              ∀ y : α, Number.toInt y = BigEndian.number (Number.signed α) back ↔ y = x := by
  have sound := sound_of_mem_sessions (List.mem_of_getElem? here)
  have reads : Operation.next.perform s.buffer =
      match s.buffer.next? with
      | some (x, rest) => (some x, rest)
      | none => (none, s.buffer) := rfl
  refine ⟨sound.contents, s.buffer.cursor_le_size, sound.taken.symm, ?_, ?_, ?_, ?_, ?_⟩
  · rw [← next?_eq_none_iff, reads]
    cases s.buffer.next? <;> simp
  · rw [reads]
    cases s.buffer.next? <;> simp
  · intro j
    rw [← sound.contents, ← get?_eq]
    rfl
  · intro op l appends
    obtain ⟨holds, stays⟩ := Operation.perform_of_appended appends s.buffer
    refine ⟨stays, fun j inside => ?_⟩
    rw [← length_contents] at inside
    rw [get?_eq, get?_eq, holds, List.getElem?_append_left inside]
  · intro α _ _ x
    refine ⟨?_, ?_⟩
    · have holds : (s.buffer.put x).contents = s.buffer.contents ++ FixedWidth.bytes x :=
        (Operation.perform_of_appended (show (Operation.put x).appended? = some _ from rfl)
          s.buffer).1
      rw [← length_contents, ← length_contents, holds, List.length_append, FixedWidth.length_bytes]
    · intro before answer after done kept
      have back := sound.put_back done kept
      simp only [back, FixedWidth.length_bytes, FixedWidth.number_bytes, Number.toInt_inj,
        implies_true, and_self]

/-- A copy goes on where its original was, though that is emptied. -/
theorem sessions_sound_copied :
    ∃ s, (sessions 4 [.act 0 (.put (258 : UInt16)), .act 0 .next, .copy 0, .act 0 .clear,
        .act 1 (.putByte 7), .act 1 .next])[1]? = some s ∧
      s.buffer.contents = [1, 2, 7] ∧ s.buffer.cursor = 2 ∧ readOf s.log = [1, 2] ∧
      ∀ y : UInt16, Number.toInt y = BigEndian.number false (s.buffer.contents.take 2) ↔ y = 258 := by
  let copied := ((Session.start 4).act (.put (258 : UInt16))).act .next
  let last := (copied.act (.putByte 7)).act .next
  have here : (sessions 4 [.act 0 (.put (258 : UInt16)), .act 0 .next, .copy 0, .act 0 .clear,
      .act 1 (.putByte 7), .act 1 .next])[1]? = some last := rfl
  obtain ⟨holds, -, read, -, -, -, -, found⟩ := sessions_sound here
  have cursor : last.buffer.cursor = 2 := rfl
  have contents : last.buffer.contents = [1, 2, 7] := by
    rw [holds]
    decide +kernel
  refine ⟨last, here, contents, cursor, ?_, ?_⟩
  · rw [read, contents, cursor]
    rfl
  · have done : last.log = [] ++ ⟨.put (258 : UInt16), none⟩ ::
        [⟨.next, some 1⟩, ⟨.putByte 7, none⟩, ⟨.next, some 2⟩] := rfl
    exact ((found UInt16 258).2 _ _ _ done (by simp [Operation.clears])).2

end Buffer

end MusicMacro
