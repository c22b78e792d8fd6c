import MusicMacro.Voice.Token

/-!
# Durations

Lengths are given as the number that divides a whole note, and times are counted in ticks, 96 to a
quarter note.  A dot makes a length half as long again.
-/

namespace MusicMacro

/-- The ticks in a quarter note. -/
def ticksPerQuarter : Nat := 96

/-- The ticks in a whole note. -/
def ticksPerWhole : Nat := 4 * ticksPerQuarter

/-- The largest number that can divide a whole note. -/
def largestDivisor : Nat := 2 * ticksPerQuarter

/-- The bound on times, which are counted in 32 bits. -/
def timeBound : Nat := 4294967296

/-- The ticks of a note that a number divides a whole note into, if it may. -/
def ticksOfDivisor? (n : Nat) : Option Nat :=
  if 1 ≤ n ∧ n ≤ largestDivisor then some (ticksPerWhole / n) else none

/-- A length with its dot, if it has one: half as long again, rounded down. -/
def withDot (ticks : Nat) (dotted : Bool) : Nat :=
  if dotted then ticks + ticks / 2 else ticks

namespace Token

/-- The ticks that the number of a token stands for as a length, without the dot. -/
def ticks? (t : Token) : Option Nat :=
  t.number?.bind ticksOfDivisor?

/-- The ticks of a note or a rest where a length of `standard` ticks is set. -/
def ticks (t : Token) (standard : Nat) : Nat :=
  withDot (t.ticks?.getD standard) t.dotted

end Token

end MusicMacro
