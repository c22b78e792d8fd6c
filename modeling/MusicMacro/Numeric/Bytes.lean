/-!
# Byte arrays

Byte arrays hold the data of messages and the content of sinks.  Their list of bytes is the view
that statements are made in.
-/

namespace MusicMacro

/-- The bytes of an array, in order. -/
def byteList (data : ByteArray) : List UInt8 :=
  data.data.toList

/-- Byte arrays are compared byte by byte. -/
instance (priority := 1100) instDecidableEqBytes : DecidableEq ByteArray := ByteArray.decEq

@[simp]
theorem byteList_append (a b : ByteArray) : byteList (a ++ b) = byteList a ++ byteList b := by
  simp [byteList]

@[simp]
theorem byteList_toByteArray (l : List UInt8) : byteList l.toByteArray = l := by
  simp [byteList]

@[simp]
theorem length_byteList (data : ByteArray) : (byteList data).length = data.size :=
  rfl

end MusicMacro
