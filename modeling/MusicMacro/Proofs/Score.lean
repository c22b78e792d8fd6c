import MusicMacro.Score
import MusicMacro.Proofs.Voice.Lexing
import MusicMacro.Proofs.Voice.Result

/-!
# The grammar of scores

A score is read back from any way to write it, with any blanks before it, with or without a
semicolon behind its first voice and with any text behind it, and nothing else is read as a score
(`Score.ofText_grammar`).  Neither a comma nor a semicolon can stand in a voice, so each voice ends
where it seems to.

The characters of a voice are listed apart from those of tokens; that none is missing is
`isVoice_of_strict`: whatever the strict policy compiles may stand in a score.
-/

namespace MusicMacro

namespace Score

/-! ### The characters of voices -/

/-- The characters that a voice may be made of, blanks apart. -/
def alphabet : List Char :=
  ['0', '1', '2', '3', '4', '5', '6', '7', '8', '9',
    'a', 'b', 'c', 'd', 'e', 'f', 'g', 'l', 'n', 'o', 'r', 't', 'v',
    'A', 'B', 'C', 'D', 'E', 'F', 'G', 'L', 'N', 'O', 'R', 'T', 'V',
    '#', '<', '>', '.', '&', '+', '-']

/-- Whether a text may stand as a voice. -/
def IsVoice (voice : String) : Prop :=
  ∀ c ∈ voice.toList, isBlank c ∨ c ∈ alphabet

theorem toNat_lt_of_isVoiceChar {c : Char} (voice : isVoiceChar c) (visible : ¬ isBlank c) :
    c.toNat < 128 := by
  simp only [isVoiceChar, Bool.or_eq_true, or_assoc] at voice
  rcases voice with blank | digit | mark
  · exact absurd blank visible
  · simp only [Char.isDigit, Bool.and_eq_true, decide_eq_true_eq] at digit
    exact Nat.lt_of_le_of_lt digit.2 (by decide)
  · have low : (voiceMarks.all fun m => m.toNat < 128) := by decide
    have lower := List.all_eq_true.1 low _ (List.contains_iff_mem.1 mark)
    exact toNat_lt_of_toLower (of_decide_eq_true lower)

theorem isVoiceChar_iff {c : Char} : isVoiceChar c ↔ isBlank c ∨ c ∈ alphabet := by
  constructor
  · intro voice
    by_cases blank : isBlank c
    · exact .inl blank
    · have ascii := toNat_lt_of_isVoiceChar voice blank
      exact .inr (char_of_toNat_lt (P := fun c => isVoiceChar c → ¬ isBlank c → c ∈ alphabet)
        (by decide +kernel) ascii voice blank)
  · rintro (blank | mem)
    · rw [isVoiceChar, blank, Bool.true_or, Bool.true_or]
    · have all : (alphabet.all isVoiceChar) := by decide
      exact List.all_eq_true.1 all c mem

theorem isVoice_iff {voice : String} : IsVoice voice ↔ ∀ c ∈ voice.toList, isVoiceChar c :=
  forall₂_congr fun _ _ => isVoiceChar_iff.symm

/-! ### Writing a score -/

/-- A score as it is written with something before it, behind its first voice and behind it. -/
def written (s : Score) (opening mark rest : String) : String :=
  opening ++ "MML@" ++ s.first ++ mark ++ "," ++ s.second ++ "," ++ s.third ++ ";" ++ rest

/-- Whether a text is a way to write a score. -/
def IsWritten (s : Score) (text : String) : Prop :=
  (∀ voice ∈ s.voices, IsVoice voice) ∧
    ∃ opening mark rest : String, (∀ c ∈ opening.toList, isBlank c) ∧
      (mark = "" ∨ mark = ";") ∧ text = s.written opening mark rest

theorem toList_written (s : Score) (opening mark rest : String) :
    (s.written opening mark rest).toList =
      opening.toList ++ (['M', 'M', 'L', '@'] ++ (s.first.toList ++ (mark.toList ++
        ',' :: (s.second.toList ++ ',' :: (s.third.toList ++ ';' :: rest.toList))))) := by
  have tag : "MML@".toList = ['M', 'M', 'L', '@'] := rfl
  have comma : ",".toList = [','] := rfl
  have semicolon : ";".toList = [';'] := rfl
  simp only [written, String.toList_append, tag, comma, semicolon, List.append_assoc,
    List.cons_append, List.nil_append]

/-! ### Reading a score -/

/-- The steps in which a score is read. -/
theorem ofText?_eq_some_iff {text : String} {s : Score} :
    ofText? text = some s ↔ ∃ tail behind tail' tail'' rest,
      text.toList.dropWhile isBlank = ['M', 'M', 'L', '@'] ++ tail ∧
        takeVoice tail = (s.first, behind) ∧ skipSemicolon behind = ',' :: tail' ∧
        takeVoice tail' = (s.second, ',' :: tail'') ∧
        takeVoice tail'' = (s.third, ';' :: rest) := by
  constructor
  · intro reads
    obtain ⟨tail, tag, reads⟩ := Option.bind_eq_some_iff.1 reads
    obtain ⟨tail', comma, reads⟩ := Option.bind_eq_some_iff.1 reads
    obtain ⟨tail'', comma', reads⟩ := Option.bind_eq_some_iff.1 reads
    obtain ⟨rest, semicolon, reads⟩ := Option.bind_eq_some_iff.1 reads
    cases reads
    exact ⟨tail, _, tail', tail'', rest, expect_eq_some_iff.1 tag, rfl,
      expect_eq_some_iff.1 comma, Prod.ext rfl (expect_eq_some_iff.1 comma'),
      Prod.ext rfl (expect_eq_some_iff.1 semicolon)⟩
  · rintro ⟨tail, behind, tail', tail'', rest, tag, first, comma, second, third⟩
    have mark (c : Char) (l : List Char) : expect [c] (c :: l) = some l := expect_append [c] l
    unfold ofText?
    rw [tag, expect_append, Option.bind_eq_bind, Option.bind_some, first]
    simp only [comma, mark, Option.bind_some, second, third]
    rfl

/-- A voice is taken up to a character that cannot stand in it. -/
theorem takeVoice_append {voice : String} (isVoice : IsVoice voice) {c : Char}
    (stops : isVoiceChar c = false) (rest : List Char) :
    takeVoice (voice.toList ++ c :: rest) = (voice, c :: rest) := by
  have chars := isVoice_iff.1 isVoice
  rw [takeVoice, List.takeWhile_append_of_pos chars, List.dropWhile_append_of_pos chars]
  simp [stops]

/-- A voice that is taken from a text is one, and stands at the front of the text. -/
theorem takeVoice_spec {text rest : List Char} {voice : String}
    (takes : takeVoice text = (voice, rest)) : IsVoice voice ∧ text = voice.toList ++ rest := by
  cases takes
  rw [isVoice_iff, String.toList_ofList, List.takeWhile_append_dropWhile]
  exact ⟨fun c mem => List.mem_takeWhile_imp mem, rfl⟩

theorem exists_mark_of_skipSemicolon {text rest : List Char}
    (skips : skipSemicolon text = rest) :
    ∃ mark : String, (mark = "" ∨ mark = ";") ∧ text = mark.toList ++ rest := by
  unfold skipSemicolon at skips
  cases starts : expect [';'] text with
  | none =>
    rw [starts] at skips
    exact ⟨"", .inl rfl, skips⟩
  | some rest' =>
    rw [starts] at skips
    cases skips
    exact ⟨";", .inr rfl, expect_eq_some_iff.1 starts⟩

theorem isWritten_of_ofText? {text : String} {s : Score} (reads : ofText? text = some s) :
    s.IsWritten text := by
  obtain ⟨tail, behind, tail', tail'', rest, tag, first, comma, second, third⟩ :=
    ofText?_eq_some_iff.1 reads
  obtain ⟨isVoice, rfl⟩ := takeVoice_spec first
  obtain ⟨isVoice', rfl⟩ := takeVoice_spec second
  obtain ⟨isVoice'', rfl⟩ := takeVoice_spec third
  obtain ⟨mark, stray, rfl⟩ := exists_mark_of_skipSemicolon comma
  have voices : ∀ voice ∈ s.voices, IsVoice voice := by
    simp only [Score.voices, List.forall_mem_cons]
    exact ⟨isVoice, isVoice', isVoice'', List.forall_mem_nil _⟩
  have front : text.toList = text.toList.takeWhile isBlank ++ text.toList.dropWhile isBlank :=
    List.takeWhile_append_dropWhile.symm
  refine ⟨voices, .ofList (text.toList.takeWhile isBlank), mark, .ofList rest, ?_, stray, ?_⟩
  · rw [String.toList_ofList]
    exact fun c mem => List.mem_takeWhile_imp mem
  · apply String.toList_injective
    rw [toList_written, String.toList_ofList, String.toList_ofList, ← tag]
    exact front

theorem ofText?_written {s : Score} (voices : ∀ voice ∈ s.voices, IsVoice voice)
    {opening mark : String} (blank : ∀ c ∈ opening.toList, isBlank c)
    (stray : mark = "" ∨ mark = ";") (rest : String) :
    ofText? (s.written opening mark rest) = some s := by
  simp only [Score.voices, List.forall_mem_cons] at voices
  obtain ⟨first, second, third, -⟩ := voices
  -- A voice ends at the first comma or semicolon, since neither can stand in it.
  have comma : isVoiceChar ',' = false := by decide
  have semicolon : isVoiceChar ';' = false := by decide
  have tagged (l : List Char) : (['M', 'M', 'L', '@'] ++ l).dropWhile isBlank =
      ['M', 'M', 'L', '@'] ++ l := List.dropWhile_cons_of_neg (by decide)
  have front := congrArg (List.dropWhile isBlank) (s.toList_written opening mark rest)
  rw [List.dropWhile_append_of_pos blank, tagged] at front
  have marked (l : List Char) : takeVoice (s.first.toList ++ (mark.toList ++ ',' :: l)) =
      (s.first, mark.toList ++ ',' :: l) ∧ skipSemicolon (mark.toList ++ ',' :: l) = ',' :: l := by
    rcases stray with rfl | rfl
    · exact ⟨takeVoice_append first comma l, rfl⟩
    · exact ⟨takeVoice_append first semicolon (',' :: l), rfl⟩
  exact ofText?_eq_some_iff.2 ⟨_, _, _, _, _, front, (marked _).1, (marked _).2,
    takeVoice_append second comma _, takeVoice_append third semicolon _⟩

/-- A text is read as a score iff it is a way to write the score. -/
theorem ofText_eq_ok_iff {text : String} {s : Score} : ofText text = .ok s ↔ s.IsWritten text := by
  have reads : ofText text = .ok s ↔ ofText? text = some s := by
    unfold ofText
    cases ofText? text <;> simp
  rw [reads]
  constructor
  · exact isWritten_of_ofText?
  · rintro ⟨voices, opening, mark, rest, blank, stray, rfl⟩
    exact ofText?_written voices blank stray rest

theorem ofText_of_not_isWritten {text : String} (other : ∀ s, ¬ IsWritten s text) :
    ofText text = .error formError := by
  have fails : ofText? text = none := by
    rw [Option.eq_none_iff_forall_ne_some]
    intro s reads
    exact other s (isWritten_of_ofText? reads)
  rw [ofText, fails]

end Score

/-! ### Compiled voices -/

/-- Tokens are made of characters that may stand in a voice. -/
theorem Token.WellFormed.isVoiceChar_of_mem_text {t : Token} (formed : t.WellFormed) {c : Char}
    (mem : c ∈ t.text) : Score.isVoiceChar c := by
  rcases formed.of_mem_text mem with letter | ⟨a, rfl⟩ | digit | rfl | rfl
  · have letters : (Command.chars.all Score.isVoiceChar) := by decide
    exact List.all_eq_true.1 letters c letter
  · cases a <;> decide
  · simp [Score.isVoiceChar, digit]
  · decide
  · decide

/-- **What the strict policy compiles may stand in a score.** -/
theorem isVoice_of_strict {c : Setting} {voice : String} {start : Nat} {track : Track}
    (compiles : (compileVoice .strict c voice start).result = .ok track) :
    Score.IsVoice voice := by
  have sound := defects_of_compileVoice_strict compiles
  rw [Score.isVoice_iff]
  intro x mem
  by_cases blank : isBlank x
  · simp [Score.isVoiceChar, blank]
  · have visible : x ∈ unblank voice.toList := List.mem_filter.2 ⟨mem, by simp [blank]⟩
    rw [← Lexeme.ofText_text (unblank voice.toList)] at visible
    obtain ⟨l, mem', inside⟩ := List.mem_flatMap.1 visible
    -- Text that belongs to no token is a defect, so the character is one of a token.
    cases l with
    | unknown text => cases sound _ mem'
    | token t =>
      have played : t ∈ tokensOf voice := mem_tokensOf_iff.2 mem'
      exact (wellFormed_of_mem_tokensOf played).isVoiceChar_of_mem_text inside

namespace Score

/-- **The grammar of scores**: a text is read as a score iff it is a way to write that score, which
no other score shares, and any other text is an error.  A voice that the strict policy compiles may
stand in a score, in every place, and is read back as it is. -/
theorem ofText_grammar :
    (∀ text s, ofText text = .ok s ↔ s.IsWritten text) ∧
    (∀ text s s', IsWritten s text → IsWritten s' text → s = s') ∧
    (∀ text, (∀ s, ¬ IsWritten s text) →
      ofText text = .error (.grammar "expected `MML@<voice>,<voice>,<voice>;`")) ∧
    ∀ c voice start track, (compileVoice .strict c voice start).result = .ok track →
      IsVoice voice ∧ ∀ s : Score, (∀ other ∈ s.voices, other = voice ∨ IsVoice other) →
        ∀ opening mark rest : String, (∀ c ∈ opening.toList, isBlank c) →
          (mark = "" ∨ mark = ";") → ofText (s.written opening mark rest) = .ok s := by
  refine ⟨fun _ _ => ofText_eq_ok_iff, ?_, fun _ => ofText_of_not_isWritten, ?_⟩
  · intro text s s' written written'
    rw [← ofText_eq_ok_iff] at written written'
    exact Except.ok.inj (written.symm.trans written')
  · intro c voice start track compiles
    have isVoice := isVoice_of_strict compiles
    refine ⟨isVoice, fun s each opening mark rest blank stray => ?_⟩
    have voices : ∀ other ∈ s.voices, IsVoice other := by
      intro other mem
      rcases each other mem with rfl | isVoice'
      · exact isVoice
      · exact isVoice'
    exact ofText_eq_ok_iff.2 ⟨voices, opening, mark, rest, blank, stray, rfl⟩

example : ofText " MML@t120 c;,\n d,; rest" = .ok ⟨"t120 c", "\n d", ""⟩ := by decide +kernel

end Score

end MusicMacro
