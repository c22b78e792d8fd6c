import MusicMacro.Diagnostic
import MusicMacro.Transcript
import MusicMacro.Voice.Lexeme
import MusicMacro.Voice.State

/-!
# Compiling a voice

A voice is compiled by playing its lexemes in order.  A defect is reported and otherwise passed over
under the lenient policy, and ends the compilation under the strict one.
-/

namespace MusicMacro

/-- What to do about something that cannot be understood. -/
inductive Policy where
  /-- Drop it, with a report. -/
  | lenient
  /-- Fail. -/
  | strict
deriving DecidableEq, Repr

/-- A voice on its way to events: the reports so far, and how it stands. -/
abbrev Compilation (α : Type) := Transcript Diagnostic VoiceFault α

/-- Handles one defect of a text. -/
def Policy.handle (p : Policy) (text : List Char) (d : Defect) : Compilation Unit :=
  match p with
  | lenient => .say (.dropping text d)
  | strict => .fail (.malformed d)

namespace VoiceState

/-- The report that a token is about to be played. -/
def announce (s : VoiceState) (t : Token) : Diagnostic :=
  .playing t s.time s.octave s.length s.volume

/-- Plays one token, after a look at its defects. -/
def stepToken (p : Policy) (c : Setting) (s : VoiceState) (t : Token) :
    Compilation VoiceState := do
  .say (s.announce t)
  (t.defects c.range.highest).forM (p.handle t.text)
  .sayAll (if s.isLooseTie t then #[.looseTie] else #[])
  .ofExcept (s.apply c t)

/-- Plays one lexeme. -/
def step (p : Policy) (c : Setting) (s : VoiceState) : Lexeme → Compilation VoiceState
  | .token t => s.stepToken p c t
  | .unknown text => do
    p.handle text .unknownCommand
    pure s

end VoiceState

/-- The events of a voice that starts at a given time. -/
def compileVoice (p : Policy) (c : Setting) (voice : String) (start : Nat) : Compilation Track := do
  let s ← Transcript.run (VoiceState.step p c) { time := start } (Lexeme.ofVoice voice)
  .ofExcept (s.finish c)

end MusicMacro
