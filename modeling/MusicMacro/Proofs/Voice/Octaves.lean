import MusicMacro.Proofs.Voice.Playhead
import Mathlib.Data.List.Induction

/-!
# Octaves

The octave of a voice depends on its tokens alone, and `Token.octaveAfter` says how
(`octave_of_reaches`).  A step up never leads above the ninth octave, and a step down never below
octave zero, but a step down from an octave that was set is not cut off at nine: it leads to the
octave below, however high that is.

`Token.boundedOctave` is the octave with both steps cut off at both ends.  The two agree all through
a voice iff every step down starts from octave ten at most (`octave_eq_boundedOctave_iff`).  A
higher octave can only be one that was set, with nothing but steps down behind it.
-/

namespace MusicMacro

/-- The octave behind a token, where `octave` is the one before it. -/
def Token.octaveAfter (octave : Nat) (t : Token) : Nat :=
  match t.command with
  | .octave => t.number?.getD 0
  | .octaveDown => octave - 1
  | .octaveUp => min (octave + 1) 9
  | _ => octave

/-- The octave from zero to nine that is nearest to a number. -/
def nearestOctave (n : Int) : Int :=
  max 0 (min n 9)

/-- The octave behind a token if a step in any direction leads to the nearest octave from zero to
nine. -/
def Token.boundedOctave (octave : Int) (t : Token) : Int :=
  match t.command with
  | .octave => t.number?.getD 0
  | .octaveDown => nearestOctave (octave - 1)
  | .octaveUp => nearestOctave (octave + 1)
  | _ => octave

/-- A token leads to its bounded octave unless it steps down from above octave ten. -/
theorem Token.octaveAfter_eq_boundedOctave_iff {octave : Nat} {t : Token} :
    (t.octaveAfter octave : Int) = t.boundedOctave octave ↔
      (t.command = .octaveDown → octave ≤ 10) := by
  unfold octaveAfter boundedOctave nearestOctave
  cases t.command with
  | octaveDown =>
    simp only [forall_const]
    omega
  | octaveUp =>
    simp only [reduceCtorEq, false_implies, iff_true]
    omega
  | _ => simp

/-! ### The playhead -/

theorem Playhead.octave_pass (h : Playhead) (t : Token) :
    (h.pass t).octave = t.octaveAfter h.octave := by
  unfold pass Token.octaveAfter
  cases t.command <;> rfl

theorem Playhead.octave_passAll (h : Playhead) (ts : List Token) :
    (h.passAll ts).octave = ts.foldl Token.octaveAfter h.octave := by
  induction ts generalizing h with
  | nil => rfl
  | cons t ts ih =>
    rw [List.foldl_cons, ← octave_pass]
    exact ih (h.pass t)

/-! ### States on the way -/

/-- Whether a voice is in a state behind its first lexemes `ls`. -/
def Reaches (p : Policy) (c : Setting) (voice : String) (start : Nat) (ls : List Lexeme)
    (s : VoiceState) : Prop :=
  ls <+: Lexeme.ofVoice voice ∧
    (Transcript.run (VoiceState.step p c) { time := start } ls).result = .ok s

section

variable {p : Policy} {c : Setting} {voice : String} {start : Nat} {ls : List Lexeme}
  {s s' : VoiceState}

theorem reaches_nil : Reaches p c voice start [] s ↔ s = { time := start } := by
  constructor
  · rintro ⟨-, passes⟩
    cases passes
    rfl
  · rintro rfl
    exact ⟨List.nil_prefix, rfl⟩

/-- A state behind a lexeme is one to which the lexeme leads from a state before it. -/
theorem reaches_concat {l : Lexeme} (reaches : Reaches p c voice start (ls ++ [l]) s') :
    ∃ s, Reaches p c voice start ls s ∧ (s.step p c l).result = .ok s' := by
  obtain ⟨front, passes⟩ := reaches
  rw [Transcript.run_append, Transcript.result_bind, except_bind_eq_ok_iff] at passes
  obtain ⟨s, before, passes⟩ := passes
  rw [Transcript.run_cons, Transcript.result_bind, except_bind_eq_ok_iff] at passes
  obtain ⟨s', steps, same⟩ := passes
  cases same
  exact ⟨s, ⟨(List.prefix_append ls [l]).trans front, before⟩, steps⟩

/-- The octave of a voice is that of its tokens. -/
theorem octave_of_reaches (reaches : Reaches p c voice start ls s) :
    s.octave = (ls.filterMap Lexeme.token?).foldl Token.octaveAfter 4 := by
  have moved := VoiceState.playhead_applyAll (VoiceState.applyAll_of_run reaches.2)
  have octave := congrArg Playhead.octave moved
  rwa [Playhead.octave_passAll] at octave

/-- A lexeme leads from octave to octave as its token does, if it is one. -/
theorem octave_of_reaches_concat {l : Lexeme} (reaches : Reaches p c voice start ls s)
    (reaches' : Reaches p c voice start (ls ++ [l]) s') :
    s'.octave = ([l].filterMap Lexeme.token?).foldl Token.octaveAfter s.octave := by
  rw [octave_of_reaches reaches', List.filterMap_append, List.foldl_append,
    ← octave_of_reaches reaches]

/-- The octave is bounded all through a voice iff no step down starts above octave ten. -/
theorem octave_eq_boundedOctave_iff :
    (∀ ls s, Reaches p c voice start ls s →
      (s.octave : Int) = (ls.filterMap Lexeme.token?).foldl Token.boundedOctave 4) ↔
    ∀ ls t s s', Reaches p c voice start ls s → Reaches p c voice start (ls ++ [.token t]) s' →
      t.command = .octaveDown → s.octave ≤ 10 := by
  constructor
  · intro agree ls t s s' reaches reaches'
    have before := agree ls s reaches
    have after := agree _ s' reaches'
    rw [octave_of_reaches_concat reaches reaches', List.filterMap_append, List.foldl_append,
      ← before] at after
    exact Token.octaveAfter_eq_boundedOctave_iff.1 after
  · intro low ls
    -- From lexeme to lexeme: where the octaves agree before a token, they agree behind it.
    induction ls using List.reverseRecOn with
    | nil =>
      intro s reaches
      rw [reaches_nil.1 reaches]
      rfl
    | append_singleton ls l ih =>
      intro s' reaches'
      obtain ⟨s, reaches, -⟩ := reaches_concat reaches'
      have before := ih s reaches
      rw [octave_of_reaches_concat reaches reaches', List.filterMap_append, List.foldl_append,
        ← before]
      cases l with
      | unknown text => rfl
      | token t => exact Token.octaveAfter_eq_boundedOctave_iff.2 (low ls t s s' reaches reaches')

end

/-! ### Whole voices -/

/-- **The octaves of a voice**: behind any of its lexemes a voice is in the octave to which its
tokens lead from octave four.  These octaves are the bounded ones, all through the voice, iff no
step down starts above octave ten.  Behind a step up the octave is nine at most, and behind a step
down it is if the step starts from ten at most, and only then. -/
theorem octaves_compileVoice (p : Policy) (c : Setting) (voice : String) (start : Nat) :
    (∀ ls s, Reaches p c voice start ls s →
      s.octave = (ls.filterMap Lexeme.token?).foldl Token.octaveAfter 4) ∧
    ((∀ ls s, Reaches p c voice start ls s →
        (s.octave : Int) = (ls.filterMap Lexeme.token?).foldl Token.boundedOctave 4) ↔
      ∀ ls t s s', Reaches p c voice start ls s → Reaches p c voice start (ls ++ [.token t]) s' →
        t.command = .octaveDown → s.octave ≤ 10) ∧
    ∀ ls t s s', Reaches p c voice start ls s → Reaches p c voice start (ls ++ [.token t]) s' →
      (t.command = .octaveUp → s'.octave ≤ 9) ∧
      (t.command = .octaveDown → (s'.octave ≤ 9 ↔ s.octave ≤ 10)) := by
  refine ⟨fun ls s => octave_of_reaches, octave_eq_boundedOctave_iff, ?_⟩
  intro ls t s s' reaches reaches'
  have after : s'.octave = t.octaveAfter s.octave := octave_of_reaches_concat reaches reaches'
  rw [after, Token.octaveAfter]
  refine ⟨fun up => ?_, fun down => ?_⟩
  · simp only [up]
    omega
  · simp only [down]
    omega

/-- **A step down is not bounded from above**: three steps down from octave eleven lead to octave
eight, with bounds they would lead to seven, and the note that follows is another one. -/
theorem not_boundedOctave_compileVoice :
    (¬ ∀ p c voice start ls s, Reaches p c voice start ls s →
      (s.octave : Int) = (ls.filterMap Lexeme.token?).foldl Token.boundedOctave 4) ∧
    (tokensOf "o11<<<").foldl Token.boundedOctave 4 = 7 ∧
    (compileVoice .lenient ⟨⟨0⟩, .standard⟩ "o11<<<c" 0).result =
      .ok [⟨0, .noteOn ⟨0⟩ 108 64⟩, ⟨96, .noteOff ⟨0⟩ 108 0⟩, ⟨192, .endOfTrack⟩] ∧
    NoteRange.standard.key (12 * 7) = 96 := by
  refine ⟨fun bounded => ?_, by decide +kernel, by decide +kernel, by decide⟩
  have octave := bounded .lenient ⟨⟨0⟩, .standard⟩ "o11<" 0 (Lexeme.ofVoice "o11<")
    { octave := 10, time := 0 } ⟨List.prefix_refl _, by decide +kernel⟩
  exact absurd octave (by decide +kernel)

end MusicMacro
