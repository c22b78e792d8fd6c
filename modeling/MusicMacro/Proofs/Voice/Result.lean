import MusicMacro.Proofs.Transcript
import MusicMacro.Proofs.Voice.Run

/-!
# The result of a voice

What a voice comes to is decided lexeme by lexeme, and apart from the reports: a policy judges the
defects of a lexeme, which are known before anything is played, and then the lexeme is played
(`result_compileVoice`).  Under the lenient policy only the tokens matter
(`result_compileVoice_lenient`), and so they do under any policy where nothing has a defect
(`result_compileVoice_of_sound`).  Under the strict policy nothing may have one
(`defects_of_compileVoice_strict`).
-/

namespace MusicMacro

/-- The defects of a lexeme where `highest` is the highest note. -/
def Lexeme.defects (highest : Nat) : Lexeme → List Defect
  | token t => t.defects highest
  | unknown _ => [.unknownCommand]

/-- What a policy makes of defects: the strict one fails on the first of them. -/
def Policy.judge : Policy → List Defect → Except VoiceFault Unit
  | lenient, _ => .ok ()
  | strict, [] => .ok ()
  | strict, d :: _ => .error (.malformed d)

theorem Policy.judge_nil (p : Policy) : p.judge [] = .ok () := by
  cases p <;> rfl

theorem Policy.judge_strict_eq_ok_iff {ds : List Defect} :
    strict.judge ds = .ok () ↔ ds = [] := by
  cases ds <;> simp [judge]

theorem Policy.result_forM_handle (p : Policy) (text : List Char) (ds : List Defect) :
    (ds.forM (p.handle text)).result = p.judge ds := by
  cases p with
  | lenient =>
    induction ds with
    | nil => rfl
    | cons d ds ih =>
      rw [List.forM, Transcript.result_bind]
      exact ih
  | strict => cases ds <;> rfl

namespace VoiceState

/-- What a lexeme does to a voice, its defects apart: unknown text does nothing. -/
def applyLexeme (c : Setting) (s : VoiceState) : Lexeme → Except VoiceFault VoiceState
  | .token t => s.apply c t
  | .unknown _ => .ok s

theorem result_step (p : Policy) (c : Setting) (s : VoiceState) (l : Lexeme) :
    (s.step p c l).result =
      p.judge (l.defects c.range.highest) >>= fun _ => s.applyLexeme c l := by
  cases l with
  | token t =>
    unfold step stepToken
    simp only [Transcript.result_bind, Policy.result_forM_handle, Transcript.result_say,
      Transcript.result_sayAll, Transcript.result_ofExcept, except_ok_bind]
    rfl
  | unknown text => cases p <;> rfl

theorem foldlM_applyLexeme (c : Setting) (s : VoiceState) (ls : List Lexeme) :
    ls.foldlM (applyLexeme c) s = s.applyAll c (ls.filterMap Lexeme.token?) := by
  induction ls generalizing s with
  | nil => rfl
  | cons l ls ih =>
    cases l with
    | token t =>
      have rest : (fun s => List.foldlM (applyLexeme c) s ls) =
          fun s => s.applyAll c (ls.filterMap Lexeme.token?) := funext ih
      rw [List.foldlM_cons, rest]
      rfl
    | unknown text => exact ih s

end VoiceState

/-- **The result of a voice**: each lexeme is judged and then played, up to the first failure. -/
theorem result_compileVoice (p : Policy) (c : Setting) (voice : String) (start : Nat) :
    (compileVoice p c voice start).result =
      (Lexeme.ofVoice voice).foldlM
          (fun s l => p.judge (l.defects c.range.highest) >>= fun _ => s.applyLexeme c l)
          ({ time := start } : VoiceState) >>=
        VoiceState.finish c := by
  unfold compileVoice
  simp only [Transcript.result_bind, Transcript.result_run, VoiceState.result_step,
    Transcript.result_ofExcept]

/-- Lexemes that are judged and played have been judged well. -/
theorem VoiceState.judge_of_foldlM {judge : Lexeme → Except VoiceFault Unit} {c : Setting}
    {s s' : VoiceState} {ls : List Lexeme}
    (runs : ls.foldlM (fun s l => judge l >>= fun _ => s.applyLexeme c l) s = .ok s') :
    ∀ l ∈ ls, judge l = .ok () := by
  induction ls generalizing s with
  | nil => exact List.forall_mem_nil _
  | cons l ls ih =>
    rw [List.foldlM_cons] at runs
    obtain ⟨mid, first, rest⟩ := except_bind_eq_ok_iff.1 runs
    obtain ⟨⟨⟩, judged, -⟩ := except_bind_eq_ok_iff.1 first
    exact List.forall_mem_cons.2 ⟨judged, ih rest⟩

/-- A voice that the strict policy compiles has no defects. -/
theorem defects_of_compileVoice_strict {c : Setting} {voice : String} {start : Nat}
    {track : Track} (compiles : (compileVoice .strict c voice start).result = .ok track) :
    ∀ l ∈ Lexeme.ofVoice voice, l.defects c.range.highest = [] := by
  rw [result_compileVoice] at compiles
  obtain ⟨s, runs, -⟩ := except_bind_eq_ok_iff.1 compiles
  intro l mem
  exact Policy.judge_strict_eq_ok_iff.1 (VoiceState.judge_of_foldlM runs l mem)

/-- A voice without defects comes to the same under every policy: its tokens are played. -/
theorem result_compileVoice_of_sound {c : Setting} {voice : String}
    (sound : ∀ l ∈ Lexeme.ofVoice voice, l.defects c.range.highest = []) (p : Policy)
    (start : Nat) :
    (compileVoice p c voice start).result =
      ({ time := start } : VoiceState).applyAll c (tokensOf voice) >>= VoiceState.finish c := by
  have judged (x : Except VoiceFault VoiceState) (l : Lexeme) (mem : l ∈ Lexeme.ofVoice voice) :
      (x >>= fun s => p.judge (l.defects c.range.highest) >>= fun _ => s.applyLexeme c l) =
        x >>= fun s => s.applyLexeme c l := by
    rw [sound l mem, p.judge_nil]
    rfl
  rw [result_compileVoice, tokensOf, ← VoiceState.foldlM_applyLexeme, List.foldlM_eq_foldl,
    List.foldlM_eq_foldl, List.foldl_ext _ _ _ judged]

/-- The lenient policy plays the tokens and minds nothing else. -/
theorem result_compileVoice_lenient (c : Setting) (voice : String) (start : Nat) :
    (compileVoice .lenient c voice start).result =
      ({ time := start } : VoiceState).applyAll c (tokensOf voice) >>= VoiceState.finish c := by
  rw [result_compileVoice, tokensOf, ← VoiceState.foldlM_applyLexeme]
  rfl

/-! ### Failures -/

namespace VoiceState

theorem tooLong_of_advance {s : VoiceState} {ticks : Nat} {fault : VoiceFault}
    (fails : s.advance ticks = .error fault) : fault = .tooLong := by
  unfold advance at fails
  split at fails
  · cases fails
  · cases fails
    rfl

theorem tooLong_of_play {s : VoiceState} {channel : Channel} {key : DataByte} {ticks : Nat}
    {tie : Bool} {fault : VoiceFault} (fails : s.play channel key ticks tie = .error fault) :
    fault = .tooLong := by
  unfold play at fails
  rcases except_bind_eq_error_iff.1 fails with fails | ⟨s', -, fails⟩
  · exact tooLong_of_advance fails
  · cases fails

/-- A token that cannot be played takes too long. -/
theorem tooLong_of_apply {c : Setting} {s : VoiceState} {t : Token} {fault : VoiceFault}
    (fails : s.apply c t = .error fault) : fault = .tooLong := by
  unfold apply at fails
  split at fails
  · exact tooLong_of_play fails
  · exact tooLong_of_play fails
  · exact tooLong_of_advance fails
  · split at fails <;> cases fails
  · cases fails
  · cases fails
  · cases fails
  · split at fails <;> cases fails
  · cases fails

theorem tooLong_of_applyAll {c : Setting} {s : VoiceState} {ts : List Token} {fault : VoiceFault}
    (fails : s.applyAll c ts = .error fault) : fault = .tooLong := by
  induction ts generalizing s with
  | nil => cases fails
  | cons t ts ih =>
    rcases except_bind_eq_error_iff.1 fails with fails | ⟨s', -, fails⟩
    · exact tooLong_of_apply fails
    · exact ih fails

theorem tooLong_of_finish {c : Setting} {s : VoiceState} {fault : VoiceFault}
    (fails : s.finish c = .error fault) : fault = .tooLong := by
  unfold finish at fails
  rcases except_bind_eq_error_iff.1 fails with fails | ⟨s', -, fails⟩
  · exact tooLong_of_advance fails
  · cases fails

end VoiceState

/-- Under the lenient policy a voice fails only if it is too long. -/
theorem tooLong_of_compileVoice {c : Setting} {voice : String} {start : Nat} {fault : VoiceFault}
    (fails : (compileVoice .lenient c voice start).result = .error fault) : fault = .tooLong := by
  rw [result_compileVoice_lenient] at fails
  rcases except_bind_eq_error_iff.1 fails with fails | ⟨s, -, fails⟩
  · exact VoiceState.tooLong_of_applyAll fails
  · exact VoiceState.tooLong_of_finish fails

end MusicMacro
