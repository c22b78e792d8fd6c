import MusicMacro.Numeric.BigEndian
import MusicMacro.Numeric.Bytes
import MusicMacro.Text.Hex

/-!
# Byte buffers

A buffer grows at its end only.  What it holds can be read back by position, or from the front
through a cursor of its own that appending leaves alone.  The cursor never runs past the end: the
type carries that invariant.
-/

namespace MusicMacro

/-- Bytes that are appended at the end and read back from the front. -/
structure Buffer where
  /-- The bytes so far. -/
  bytes : ByteArray
  /-- How many bytes have been read from the front. -/
  cursor : Nat
  cursor_le_size : cursor ≤ bytes.size

namespace Buffer

/-- The buffer that holds nothing. -/
def empty : Buffer where
  bytes := .empty
  cursor := 0
  cursor_le_size := Nat.zero_le _

/-- The buffer that holds nothing, with room set aside for a number of bytes. -/
def withCapacity (capacity : Nat) : Buffer where
  bytes := .emptyWithCapacity capacity
  cursor := 0
  cursor_le_size := Nat.zero_le _

instance : EmptyCollection Buffer := ⟨empty⟩

instance : Inhabited Buffer := ⟨empty⟩

/-- How many bytes a buffer holds. -/
def size (b : Buffer) : Nat :=
  b.bytes.size

/-- Whether a buffer holds nothing. -/
def isEmpty (b : Buffer) : Bool :=
  b.size = 0

/-- Appends an array of bytes. -/
def append (b : Buffer) (data : ByteArray) : Buffer where
  bytes := b.bytes ++ data
  cursor := b.cursor
  cursor_le_size := by
    rw [ByteArray.size_append]
    exact Nat.le_trans b.cursor_le_size (Nat.le_add_right ..)

/-- Appends one byte. -/
def push (b : Buffer) (x : UInt8) : Buffer where
  bytes := b.bytes.push x
  cursor := b.cursor
  cursor_le_size := by
    rw [ByteArray.size_push]
    exact Nat.le_succ_of_le b.cursor_le_size

/-- Appends the big-endian bytes of a fixed-width integer. -/
def put {α : Type} [FixedWidth α] (b : Buffer) (x : α) : Buffer :=
  b.append (FixedWidth.bytes x).toByteArray

/-- Appends a text in UTF-8. -/
def putText (b : Buffer) (s : String) : Buffer :=
  b.append s.toUTF8

/-- The byte at a position. -/
def get? (b : Buffer) (i : Nat) : Option UInt8 :=
  if h : i < b.bytes.size then some b.bytes[i] else none

/-- The byte under the cursor, and the buffer with the cursor behind it. -/
def next? (b : Buffer) : Option (UInt8 × Buffer) :=
  if h : b.cursor < b.bytes.size then
    some (b.bytes[b.cursor], { b with cursor := b.cursor + 1, cursor_le_size := h })
  else
    none

/-- The buffer with its cursor at the front. -/
def rewind (b : Buffer) : Buffer :=
  { b with cursor := 0, cursor_le_size := Nat.zero_le _ }

/-- The empty buffer, with its cursor at the front. -/
def clear (_ : Buffer) : Buffer :=
  empty

/-- Buffers are compared by what they hold, wherever their cursors are. -/
instance : BEq Buffer := ⟨fun b c => b.bytes = c.bytes⟩

/-- The size of a buffer and its bytes in hexadecimal. -/
def description (b : Buffer) : String :=
  Hex.labelled s!"ByteSink[{b.size}]" b.bytes

instance : ToString Buffer := ⟨description⟩

end Buffer

end MusicMacro
