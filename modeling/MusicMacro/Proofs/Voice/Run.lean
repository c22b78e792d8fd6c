import MusicMacro.Voice.Compilation
import Mathlib.Data.List.Basic

/-!
# Runs of a voice

A compiled voice has played its tokens in order and then come to its end, whatever the policy
(`compileVoice_eq_ok`): reports and unknown text leave the state alone.  What one token preserves,
all tokens preserve (`VoiceState.applyAll_invariant`).
-/

namespace MusicMacro

/-- The token of a lexeme, if it is one. -/
def Lexeme.token? : Lexeme → Option Token
  | token t => some t
  | unknown _ => none

/-- The tokens of a voice, in order. -/
def tokensOf (voice : String) : List Token :=
  (Lexeme.ofVoice voice).filterMap Lexeme.token?

theorem mem_tokensOf_iff {voice : String} {t : Token} :
    t ∈ tokensOf voice ↔ .token t ∈ Lexeme.ofVoice voice := by
  constructor
  · intro mem
    obtain ⟨l, mem, same⟩ := List.mem_filterMap.1 mem
    cases l with
    | unknown text => cases same
    | token t' =>
      cases same
      exact mem
  · intro mem
    exact List.mem_filterMap.2 ⟨_, mem, rfl⟩

/-- The tokens of a voice that holds nothing else. -/
theorem tokensOf_of_ofVoice {voice : String} {ts : List Token}
    (reads : Lexeme.ofVoice voice = ts.map .token) : tokensOf voice = ts := by
  have token : Lexeme.token? ∘ Lexeme.token = some := rfl
  rw [tokensOf, reads, List.filterMap_map, token, List.filterMap_some]

namespace VoiceState

/-- Plays tokens in order. -/
def applyAll (c : Setting) (s : VoiceState) (ts : List Token) : Except VoiceFault VoiceState :=
  ts.foldlM (apply c) s

theorem applyAll_cons (c : Setting) (s : VoiceState) (t : Token) (ts : List Token) :
    s.applyAll c (t :: ts) = s.apply c t >>= fun mid => mid.applyAll c ts :=
  rfl

theorem applyAll_cons_eq_ok_iff {c : Setting} {s s' : VoiceState} {t : Token} {ts : List Token} :
    s.applyAll c (t :: ts) = .ok s' ↔ ∃ mid, s.apply c t = .ok mid ∧ mid.applyAll c ts = .ok s' :=
  except_bind_eq_ok_iff

/-- What one token preserves, all tokens preserve. -/
theorem applyAll_invariant {c : Setting} {P : VoiceState → Prop}
    (step : ∀ s t s', P s → s.apply c t = .ok s' → P s') {s s' : VoiceState} {ts : List Token}
    (start : P s) (runs : s.applyAll c ts = .ok s') : P s' := by
  induction ts generalizing s with
  | nil =>
    cases runs
    exact start
  | cons t ts ih =>
    obtain ⟨mid, plays, rest⟩ := applyAll_cons_eq_ok_iff.1 runs
    exact ih (step s t mid start plays) rest

/-- A token that is passed without a failure has had its effect. -/
theorem apply_of_stepToken {p : Policy} {c : Setting} {s s' : VoiceState} {t : Token}
    (passes : (s.stepToken p c t).result = .ok s') : s.apply c t = .ok s' := by
  unfold stepToken at passes
  simp only [Transcript.result_bind, except_bind_eq_ok_iff] at passes
  obtain ⟨-, -, -, -, -, -, plays⟩ := passes
  exact plays

/-- Lexemes that are passed without a failure have played their tokens. -/
theorem applyAll_of_run {p : Policy} {c : Setting} {s s' : VoiceState} {ls : List Lexeme}
    (passes : (Transcript.run (step p c) s ls).result = .ok s') :
    s.applyAll c (ls.filterMap Lexeme.token?) = .ok s' := by
  induction ls generalizing s with
  | nil => exact passes
  | cons l ls ih =>
    rw [Transcript.run_cons, Transcript.result_bind, except_bind_eq_ok_iff] at passes
    obtain ⟨mid, first, rest⟩ := passes
    cases l with
    | token t =>
      exact applyAll_cons_eq_ok_iff.2 ⟨mid, apply_of_stepToken first, ih rest⟩
    | unknown text =>
      rw [step, Transcript.result_bind, except_bind_eq_ok_iff] at first
      obtain ⟨-, -, same⟩ := first
      cases same
      exact ih rest

end VoiceState

/-- **A compiled voice** has played all its tokens and come to its end. -/
theorem compileVoice_eq_ok {p : Policy} {c : Setting} {voice : String} {start : Nat}
    {events : Track} (compiles : (compileVoice p c voice start).result = .ok events) :
    ∃ s, ({ time := start } : VoiceState).applyAll c (tokensOf voice) = .ok s ∧
      s.finish c = .ok events := by
  unfold compileVoice at compiles
  rw [Transcript.result_bind, except_bind_eq_ok_iff] at compiles
  obtain ⟨s, passes, ends⟩ := compiles
  exact ⟨s, VoiceState.applyAll_of_run passes, ends⟩

end MusicMacro
