/-!
# Commands

A voice is written in commands of one character: seven note names, a note by number, a rest, and the
settings of length, octave, tempo and volume.  Letters stand for the same command in both cases.
-/

namespace MusicMacro

/-- The seven note names. -/
inductive NoteName where
  | c | d | e | f | g | a | b
deriving DecidableEq, Repr

/-- How many semitones a note lies above the `c` of its octave. -/
def NoteName.semitones : NoteName → Int
  | c => 0
  | d => 2
  | e => 4
  | f => 5
  | g => 7
  | a => 9
  | b => 11

/-- A shift of a note by a semitone, as it is written. -/
inductive Accidental where
  | plus | sharp | minus
deriving DecidableEq, Repr

namespace Accidental

/-- The accidental that a character stands for. -/
def ofChar? : Char → Option Accidental
  | '+' => some plus
  | '#' => some sharp
  | '-' => some minus
  | _ => none

/-- The character for an accidental. -/
def toChar : Accidental → Char
  | plus => '+'
  | sharp => '#'
  | minus => '-'

/-- How many semitones an accidental adds. -/
def semitones : Accidental → Int
  | plus | sharp => 1
  | minus => -1

theorem ofChar?_eq_some_iff {c : Char} {a : Accidental} : ofChar? c = some a ↔ a.toChar = c := by
  constructor
  · unfold ofChar?
    split <;> intro h <;> cases h <;> rfl
  · rintro rfl
    cases a <;> rfl

end Accidental

/-- What a character tells a voice to do. -/
inductive Command where
  /-- Plays a note of the current octave. -/
  | note (name : NoteName)
  /-- Plays a note by its number. -/
  | key
  /-- Sets the length of notes that give none. -/
  | length
  /-- Sets the octave. -/
  | octave
  /-- Goes down an octave. -/
  | octaveDown
  /-- Goes up an octave. -/
  | octaveUp
  /-- Waits. -/
  | rest
  /-- Sets the tempo. -/
  | tempo
  /-- Sets the volume. -/
  | volume
deriving DecidableEq, Repr

namespace Command

/-- The command that a character stands for. -/
def ofChar? (c : Char) : Option Command :=
  match c.toLower with
  | 'c' => some (note .c)
  | 'd' => some (note .d)
  | 'e' => some (note .e)
  | 'f' => some (note .f)
  | 'g' => some (note .g)
  | 'a' => some (note .a)
  | 'b' => some (note .b)
  | 'n' => some key
  | 'l' => some length
  | 'o' => some octave
  | '<' => some octaveDown
  | '>' => some octaveUp
  | 'r' => some rest
  | 't' => some tempo
  | 'v' => some volume
  | _ => none

/-- Whether an accidental may follow. -/
def isNote : Command → Bool
  | note _ => true
  | _ => false

end Command

end MusicMacro
