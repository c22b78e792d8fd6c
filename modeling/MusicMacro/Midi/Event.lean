import MusicMacro.Midi.Message.Description

/-!
# Events

A message at a time.  Times count ticks from the start of a track; the distances between events are
taken only when a track is written.
-/

namespace MusicMacro

/-- A message at a time, counted in ticks from the start of its track. -/
structure Event where
  time : Nat
  message : Message
deriving DecidableEq

/-- An event in one line of text. -/
def Event.description (e : Event) : String :=
  toString e.time ++ " " ++ e.message.description

instance : ToString Event := ⟨Event.description⟩

/-- The events of one track. -/
abbrev Track := List Event

end MusicMacro
