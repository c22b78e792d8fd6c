/-!
# Blank characters

The characters that a voice ignores and that may surround a score: those with the Unicode property
`White_Space`, of which the white space of the core library is only a part.
-/

namespace MusicMacro

/-- The code points with the property `White_Space`, as inclusive ranges in increasing order. -/
def blankRanges : List (Nat × Nat) :=
  [(0x0009, 0x000D), (0x0020, 0x0020), (0x0085, 0x0085), (0x00A0, 0x00A0), (0x1680, 0x1680),
    (0x2000, 0x200A), (0x2028, 0x2029), (0x202F, 0x202F), (0x205F, 0x205F), (0x3000, 0x3000)]

/-- Whether a character counts as blank. -/
def isBlank (c : Char) : Bool :=
  blankRanges.any fun (lo, hi) => lo ≤ c.toNat && c.toNat ≤ hi

/-- The characters of a text that are not blank, in order. -/
def unblank (s : List Char) : List Char :=
  s.filter fun c => !isBlank c

@[simp]
theorem unblank_append (s t : List Char) : unblank (s ++ t) = unblank s ++ unblank t :=
  List.filter_append ..

end MusicMacro
