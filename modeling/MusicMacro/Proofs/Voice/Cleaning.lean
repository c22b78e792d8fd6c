import MusicMacro.Proofs.Voice.Lexing
import MusicMacro.Proofs.Voice.Playhead
import MusicMacro.Proofs.Voice.Result

/-!
# Cleaning a voice

What the lenient policy drops can be dropped from the text instead: `cleanVoice` takes out of a
voice the text between its tokens, the tokens that have no effect, and what cannot be understood in
the others.  The lenient policy makes of a voice what the strict one makes of the cleaned voice
(`result_compileVoice_cleanVoice`), in which there are no defects.

A token does the same to every state as its cleaned form (`VoiceState.apply_clean?`), and the
cleaned tokens are read back as they are written; what is left is an induction over the tokens.
-/

namespace MusicMacro

namespace Token

/-! ### Cleaned tokens -/

/-- Whether the number of a token is a tempo: the microseconds for each quarter note are neither
none nor more than 24 bits. -/
def hasTempo (t : Token) : Bool :=
  t.number?.any fun n => 0 < n && 0 < 60000000 / n && 60000000 / n ≤ 16777215

/-- A token without its dot and its tie. -/
def unmarked (t : Token) : Token :=
  { t with dotted := false, tied := false }

/-- A token without its number, unless that is a length. -/
def withLength (t : Token) : Token :=
  { t with digits := if t.hasLength then t.digits else [] }

/-- A token with the number zero if it has none. -/
def withNumber (t : Token) : Token :=
  { t with digits := if t.digits = [] then ['0'] else t.digits }

/-- A token with the number zero if it has none or one above the highest note. -/
def withKey (highest : Nat) (t : Token) : Token :=
  { t with digits := if t.number?.any (· ≤ highest) then t.digits else ['0'] }

/-- A token without what cannot be understood in it, where `highest` is the highest note.  Nothing
is left of a length or a tempo whose number is none. -/
def clean? (highest : Nat) (t : Token) : Option Token :=
  match t.command with
  | .length => if t.hasLength then some t else none
  | .tempo => if t.hasTempo then some t.unmarked else none
  | .octave | .volume => some t.withNumber.unmarked
  | .octaveDown | .octaveUp => some { t.unmarked with digits := [] }
  | .rest => some { t.withLength with tied := false }
  | .note _ => some t.withLength
  | .key => some { t.withKey highest with dotted := false }

/-! ### Numbers -/

theorem isSome_tempo? (t : Token) : t.tempo?.isSome = t.hasTempo := by
  have fits (us : Nat) : (Word.ofNat? 24 us).isSome = decide (us ≤ 16777215) := by
    have value : (BitVec.ofNat 24 us).toNat = us % 16777216 := BitVec.toNat_ofNat us 24
    rw [Word.ofNat?, value]
    split <;> simp <;> omega
  unfold tempo? hasTempo microsecondsPerMinute
  cases t.number? with
  | none => rfl
  | some n =>
    rw [Option.bind_some, Option.any_some]
    by_cases slow : 0 < 60000000 / n
    · have positive : 0 < n := by
        by_contra zero
        rw [Nat.eq_zero_of_not_pos zero] at slow
        cases slow
      simp [slow, positive, fits]
    · simp [slow]

/-- The number of a token depends on its digits alone. -/
theorem number?_congr {t t' : Token} (digits : t'.digits = t.digits) : t'.number? = t.number? := by
  rw [number?, digits, number?]

theorem number?_of_nil {t : Token} (digits : t.digits = []) : t.number? = none := by
  rw [number?, digits]
  rfl

theorem number?_of_zero {t : Token} (digits : t.digits = ['0']) : t.number? = some 0 := by
  rw [number?, digits]
  rfl

theorem isSome_number?_iff {t : Token} : t.number?.isSome ↔ t.digits ≠ [] := by
  unfold number?
  split <;> simp_all

theorem number?_withLength (t : Token) :
    t.withLength.number? = if t.hasLength then t.number? else none := by
  unfold withLength
  split
  · exact number?_congr rfl
  · exact number?_of_nil rfl

/-- A number that is no length may as well be missing. -/
theorem ticks?_withLength (t : Token) : t.withLength.ticks? = t.ticks? := by
  rw [ticks?, number?_withLength]
  split
  · rfl
  · next other =>
    have nothing : t.ticks? = none := by
      rw [← Option.not_isSome_iff_eq_none, isSome_ticks?]
      exact other
    rw [nothing]
    rfl

theorem number?_withNumber (t : Token) : t.withNumber.number? = some (t.number?.getD 0) := by
  unfold withNumber
  split
  · next empty =>
    rw [number?_of_zero rfl, number?_of_nil empty]
    rfl
  · next given =>
    obtain ⟨n, reads⟩ := Option.isSome_iff_exists.1 (isSome_number?_iff.2 given)
    rw [number?_congr (t := t) rfl, reads]
    rfl

theorem number?_withKey (highest : Nat) (t : Token) :
    (t.withKey highest).number? = some (VoiceState.keyNumber highest t.number?) := by
  unfold withKey VoiceState.keyNumber
  cases valid : t.number?.any (· ≤ highest) with
  | true =>
    obtain ⟨n, reads, low⟩ := (Option.any_eq_true ..).1 valid
    rw [if_pos rfl, number?_congr (t := t) rfl, reads]
    simp [of_decide_eq_true low]
  | false =>
    rw [if_neg Bool.false_ne_true, number?_of_zero rfl]
    cases reads : t.number? with
    | none => rfl
    | some n =>
      rw [reads] at valid
      simp [of_decide_eq_false valid]

/-! ### What is left of a token -/

theorem defectIf_eq_nil_iff {condition : Bool} {d : Defect} :
    defectIf condition d = [] ↔ condition = false := by
  cases condition <;> simp [defectIf]

theorem keyDefects_withKey (highest : Nat) (t : Token) :
    (t.withKey highest).keyDefects highest = [] := by
  have low := VoiceState.keyNumber_le highest t.number?
  rw [keyDefects, number?_withKey, defectIf_eq_nil_iff]
  exact decide_eq_false (Nat.not_lt.2 low)

theorem lengthDefects_withLength (t : Token) : t.withLength.lengthDefects = [] := by
  rw [lengthDefects, defectIf_eq_nil_iff, ticks?_withLength, number?_withLength]
  split
  · next valid =>
    rw [← Option.not_isSome, isSome_ticks?, valid, Bool.not_true, Bool.and_false]
  · rfl

/-- A cleaned token has no defect. -/
theorem defects_clean? {highest : Nat} {t t' : Token} (left : t.clean? highest = some t') :
    t'.defects highest = [] := by
  have number : t.withNumber.number?.isNone = false := by rw [number?_withNumber]; rfl
  have lengths := t.lengthDefects_withLength
  have keys := t.keyDefects_withKey highest
  obtain ⟨command, head, accidental, digits, dotted, tied⟩ := t
  cases command with
  | note name =>
    cases left
    exact lengths
  | rest =>
    cases left
    exact lengths
  | key =>
    cases left
    exact List.append_eq_nil_iff.2 ⟨keys, rfl⟩
  | octave =>
    cases left
    exact defectIf_eq_nil_iff.2 number
  | volume =>
    cases left
    exact defectIf_eq_nil_iff.2 number
  | octaveDown =>
    cases left
    rfl
  | octaveUp =>
    cases left
    rfl
  | length =>
    simp only [clean?] at left
    split at left
    · next valid =>
      cases left
      refine defectIf_eq_nil_iff.2 ?_
      rw [← Option.not_isSome, isSome_ticks?]
      exact congrArg not valid
    · cases left
  | tempo =>
    simp only [clean?] at left
    split at left
    · next valid =>
      cases left
      refine defectIf_eq_nil_iff.2 ?_
      rw [← Option.not_isSome, isSome_tempo?]
      exact congrArg not valid
    · cases left

/-- Cleaning leaves a token its command, and its number holds no new digit but a zero. -/
theorem eq_of_clean? {highest : Nat} {t t' : Token} (left : t.clean? highest = some t') :
    t'.command = t.command ∧ t'.head = t.head ∧ t'.accidental = t.accidental ∧
      ∀ c ∈ t'.digits, c ∈ t.digits ∨ c = '0' := by
  have unchanged : ∀ c ∈ t.digits, c ∈ t.digits ∨ c = '0' := fun c mem => .inl mem
  have empty : ∀ c ∈ [], c ∈ t.digits ∨ c = '0' := fun c mem => nomatch mem
  have zero : ∀ c ∈ ['0'], c ∈ t.digits ∨ c = '0' := fun c mem => .inr (List.mem_singleton.1 mem)
  have length : ∀ c ∈ t.withLength.digits, c ∈ t.digits ∨ c = '0' := by
    unfold withLength
    split <;> assumption
  have number : ∀ c ∈ t.withNumber.digits, c ∈ t.digits ∨ c = '0' := by
    unfold withNumber
    split <;> assumption
  have key : ∀ c ∈ (t.withKey highest).digits, c ∈ t.digits ∨ c = '0' := by
    unfold withKey
    split <;> assumption
  unfold clean? at left
  split at left
  case h_1 | h_2 =>
    split at left <;> cases left
    exact ⟨rfl, rfl, rfl, unchanged⟩
  all_goals
    cases left
    refine ⟨rfl, rfl, rfl, ?_⟩
    assumption

theorem WellFormed.of_clean? {highest : Nat} {t t' : Token} (formed : t.WellFormed)
    (left : t.clean? highest = some t') : t'.WellFormed := by
  obtain ⟨command, head, accidental, digits⟩ := eq_of_clean? left
  refine ⟨?_, ?_, fun c mem => ?_⟩
  · rw [head, command]
    exact formed.head
  · rw [accidental, command]
    exact formed.accidental
  · rcases digits c mem with mem | rfl
    · exact formed.digits c mem
    · decide

end Token

namespace VoiceState

/-- A token does to a voice what its cleaned form does, and nothing if there is none. -/
theorem apply_clean? (c : Setting) (s : VoiceState) (t : Token) :
    ((t.clean? c.range.highest).map (s.apply c)).getD (.ok s) = s.apply c t := by
  have number : t.withNumber.number?.getD 0 = t.number?.getD 0 := by
    rw [t.number?_withNumber]
    rfl
  have key : keyNumber c.range.highest (t.withKey c.range.highest).number? =
      keyNumber c.range.highest t.number? := by
    rw [t.number?_withKey]
    exact if_pos (keyNumber_le ..)
  have ticks := t.ticks?_withLength
  have length := t.isSome_ticks?
  have tempo := t.isSome_tempo?
  obtain ⟨command, head, accidental, digits, dotted, tied⟩ := t
  -- For each command, what it reads of the token is the same in the cleaned one.
  cases command with
  | note name =>
    exact congrArg (fun ticks? : Option Nat =>
      s.play c.channel (c.range.key (s.noteNumber name accidental))
        (withDot (ticks?.getD s.length) dotted) tied) ticks
  | rest =>
    exact congrArg (fun ticks? : Option Nat =>
      s.advance (withDot (ticks?.getD s.length) dotted)) ticks
  | key => exact congrArg (fun n : Nat => s.play c.channel (c.range.key n) s.length tied) key
  | octave => exact congrArg (fun n => Except.ok { s with octave := n }) number
  | volume => exact congrArg (fun n => Except.ok { s with volume := clampVolume n }) number
  | octaveDown => rfl
  | octaveUp => rfl
  | length =>
    simp only [Token.clean?, ← length, apply]
    split
    · rfl
    · next other =>
      rw [Option.not_isSome_iff_eq_none] at other
      simp only [other]
      rfl
  | tempo =>
    simp only [Token.clean?, ← tempo, apply]
    split
    · rfl
    · next other =>
      rw [Option.not_isSome_iff_eq_none] at other
      simp only [other]
      rfl

theorem applyAll_clean? (c : Setting) (s : VoiceState) (ts : List Token) :
    s.applyAll c (ts.filterMap (Token.clean? c.range.highest)) = s.applyAll c ts := by
  induction ts generalizing s with
  | nil => rfl
  | cons t ts ih =>
    have first := s.apply_clean? c t
    have rest : (fun s : VoiceState => s.applyAll c (ts.filterMap (Token.clean? c.range.highest))) =
        fun s => s.applyAll c ts := funext ih
    rw [applyAll_cons, ← first, ← rest]
    cases left : t.clean? c.range.highest with
    | none =>
      rw [List.filterMap_cons_none left]
      rfl
    | some t' =>
      rw [List.filterMap_cons_some left]
      rfl

end VoiceState

/-! ### Cleaned voices -/

/-- A voice without what cannot be understood in it, where `highest` is the highest note. -/
def cleanVoice (highest : Nat) (voice : String) : String :=
  writeTokens ((tokensOf voice).filterMap (Token.clean? highest))

/-- The cleaned tokens are read back. -/
theorem ofVoice_cleanVoice (highest : Nat) (voice : String) :
    Lexeme.ofVoice (cleanVoice highest voice) =
      ((tokensOf voice).filterMap (Token.clean? highest)).map .token := by
  refine ofVoice_writeTokens fun t mem => ?_
  obtain ⟨t', mem, left⟩ := List.mem_filterMap.1 mem
  exact (wellFormed_of_mem_tokensOf mem).of_clean? left

theorem tokensOf_cleanVoice (highest : Nat) (voice : String) :
    tokensOf (cleanVoice highest voice) =
      (tokensOf voice).filterMap (Token.clean? highest) :=
  tokensOf_of_ofVoice (ofVoice_cleanVoice highest voice)

/-- A cleaned voice has no defect. -/
theorem defects_of_mem_cleanVoice {highest : Nat} {voice : String} {l : Lexeme}
    (mem : l ∈ Lexeme.ofVoice (cleanVoice highest voice)) : l.defects highest = [] := by
  rw [ofVoice_cleanVoice] at mem
  obtain ⟨t, kept, rfl⟩ := List.mem_map.1 mem
  obtain ⟨t', -, left⟩ := List.mem_filterMap.1 kept
  exact Token.defects_clean? left

/-- **Dropping is cleaning**: the lenient policy makes of a voice what the strict one makes of the
cleaned voice, in which the strict policy finds no defect. -/
theorem result_compileVoice_cleanVoice (c : Setting) (voice : String) (start : Nat) :
    (compileVoice .lenient c voice start).result =
        (compileVoice .strict c (cleanVoice c.range.highest voice) start).result ∧
      ∀ d, (compileVoice .strict c (cleanVoice c.range.highest voice) start).result ≠
        .error (.malformed d) := by
  have same : (compileVoice .strict c (cleanVoice c.range.highest voice) start).result =
      (compileVoice .lenient c voice start).result := by
    rw [result_compileVoice_of_sound (fun l mem => defects_of_mem_cleanVoice mem),
      tokensOf_cleanVoice, VoiceState.applyAll_clean?, result_compileVoice_lenient]
  refine ⟨same.symm, fun d fails => ?_⟩
  rw [same] at fails
  cases tooLong_of_compileVoice fails

/-- Loose text, tied rests, dotted tempos and what has no number where it needs one. -/
example : cleanVoice 96 "x l&c200.&r4&o<3t60.n." = "c.&r4o0<t60n0" := by decide +kernel

end MusicMacro
