import MusicMacro.Voice.Duration
import MusicMacro.Voice.NoteRange

/-!
# Defects

What cannot be understood in a voice.  A token may have more than one defect; `Token.defects` lists
them in the order in which they are reported.  They depend on the token and the highest note alone,
never on what was played before.
-/

namespace MusicMacro

/-- What cannot be understood in a voice. -/
inductive Defect where
  /-- Text that belongs to no command. -/
  | unknownCommand
  /-- A length that does not divide a whole note, or none where one is set. -/
  | lengthOutOfRange
  /-- A dot or a tie on a command that takes no time. -/
  | dotOrTie
  /-- An octave is set without a number. -/
  | missingOctave
  /-- A step by one octave has a number. -/
  | shiftWithNumber
  /-- A tempo that is no tempo. -/
  | tempoOutOfRange
  /-- A volume is set without a number. -/
  | missingVolume
  /-- A rest is tied. -/
  | tiedRest
  /-- The number of a note lies above the highest one. -/
  | keyOutOfRange
  /-- A note by number has no number. -/
  | missingKey
  /-- A note by number has a dot. -/
  | dottedKey
deriving DecidableEq, Repr

/-- The text of a defect. -/
def Defect.message : Defect → String
  | unknownCommand => "unknown command"
  | lengthOutOfRange => "note length out of range"
  | dotOrTie => "dot or tie on a command without length"
  | missingOctave => "missing octave"
  | shiftWithNumber => "octave shifts take no value"
  | tempoOutOfRange => "tempo out of range"
  | missingVolume => "missing volume"
  | tiedRest => "rests cannot be tied"
  | keyOutOfRange => "note number out of range"
  | missingKey => "missing note number"
  | dottedKey => "note numbers take no dot"

/-- The microseconds in a minute. -/
def microsecondsPerMinute : Nat := 60000000

namespace Token

/-- The tempo for the number of a token, in quarter notes per minute: at least a microsecond for
each, and no more than a tempo message can hold. -/
def tempo? (t : Token) : Option Tempo :=
  t.number?.bind fun n =>
    if 0 < microsecondsPerMinute / n then Word.ofNat? 24 (microsecondsPerMinute / n) else none

/-- A defect that stands for a condition. -/
def defectIf (condition : Bool) (d : Defect) : List Defect :=
  if condition then [d] else []

/-- The defect of a command that takes no time but has a dot or a tie. -/
def timeDefects (t : Token) : List Defect :=
  defectIf (t.dotted || t.tied) .dotOrTie

/-- The defect of a note or a rest with a number that is no length. -/
def lengthDefects (t : Token) : List Defect :=
  defectIf (t.number?.isSome && t.ticks?.isNone) .lengthOutOfRange

/-- The defect in the number of a note by number. -/
def keyDefects (t : Token) (highest : Nat) : List Defect :=
  match t.number? with
  | some n => defectIf (highest < n) .keyOutOfRange
  | none => [.missingKey]

/-- The defects of a token where `highest` is the highest note, in order. -/
def defects (t : Token) (highest : Nat) : List Defect :=
  match t.command with
  | .note _ => t.lengthDefects
  | .key => t.keyDefects highest ++ defectIf t.dotted .dottedKey
  | .rest => defectIf t.tied .tiedRest ++ t.lengthDefects
  | .length => defectIf t.ticks?.isNone .lengthOutOfRange
  | .octave => t.timeDefects ++ defectIf t.number?.isNone .missingOctave
  | .octaveDown | .octaveUp => defectIf t.number?.isSome .shiftWithNumber ++ t.timeDefects
  | .tempo => t.timeDefects ++ defectIf t.tempo?.isNone .tempoOutOfRange
  | .volume => t.timeDefects ++ defectIf t.number?.isNone .missingVolume

end Token

end MusicMacro
