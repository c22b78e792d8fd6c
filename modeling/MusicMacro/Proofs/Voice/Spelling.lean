import MusicMacro.Proofs.Voice.Lexing
import MusicMacro.Proofs.Voice.Result

/-!
# The spelling of a voice

Blanks do not count in a voice, and a letter stands for the same command in both cases.  So voices
that are spelled alike, which is to say that they are the same text once blanks are taken out and
letters are made small, come to the same result under each policy, be it a track or a failure
(`result_compileVoice_congr_spelling`).

Only the letters from A to Z have other small letters here.  To make them small changes the text of
each lexeme and nothing else (`Lexeme.ofText_map_toLower`), and no text is looked at when a lexeme
is judged and played.
-/

namespace MusicMacro

/-! ### Small letters -/

/-- What relates each character to itself, and the first characters to their small letters, relates
all characters to their small letters. -/
theorem related_toLower {P : Char → Char → Prop} (same : ∀ c, P c c)
    (ascii : ∀ k < 128, P (Char.ofNat k) (Char.ofNat k).toLower) (c : Char) : P c c.toLower := by
  by_cases low : c.toNat < 128
  · exact char_of_toNat_lt (P := fun c => P c c.toLower) ascii low
  · have unchanged : c.toLower = c := by
      unfold Char.toLower
      split
      · next upper =>
        have letter : c.toNat ≤ 'Z'.toNat := UInt32.le_iff_toNat_le.1 upper.2
        exact absurd (Nat.lt_of_le_of_lt letter (by decide)) low
      · rfl
    rw [unchanged]
    exact same c

theorem Command.ofChar?_toLower (c : Char) : ofChar? c.toLower = ofChar? c :=
  related_toLower (P := fun c d => ofChar? d = ofChar? c) (fun _ => rfl) (by decide +kernel) c

theorem Accidental.ofChar?_toLower (c : Char) : ofChar? c.toLower = ofChar? c :=
  related_toLower (P := fun c d => ofChar? d = ofChar? c) (fun _ => rfl) (by decide +kernel) c

theorem isDigit_toLower (c : Char) : c.toLower.isDigit = c.isDigit :=
  related_toLower (P := fun c d => d.isDigit = c.isDigit) (fun _ => rfl) (by decide +kernel) c

theorem toLower_of_isDigit {c : Char} (digit : c.isDigit) : c.toLower = c :=
  related_toLower (P := fun c d => c.isDigit → d = c) (fun _ _ => rfl) (by decide +kernel) c digit

/-- No letter is made into a dot or a tie. -/
theorem toLower_eq_iff_of_mark {m : Char} (mark : m = '.' ∨ m = '&') (c : Char) :
    c.toLower = m ↔ c = m := by
  rcases mark with rfl | rfl
  · exact related_toLower (P := fun c d => d = '.' ↔ c = '.') (fun _ => .rfl) (by decide +kernel) c
  · exact related_toLower (P := fun c d => d = '&' ↔ c = '&') (fun _ => .rfl) (by decide +kernel) c

/-! ### Tokens -/

namespace Token

/-- A token with the letter of its command made small. -/
def toLower (t : Token) : Token :=
  { t with head := t.head.toLower }

theorem takeAccidental_map_toLower (l : List Char) :
    takeAccidental (l.map Char.toLower) =
      ((takeAccidental l).1, (takeAccidental l).2.map Char.toLower) := by
  cases l with
  | nil => rfl
  | cons c l =>
    have same := Accidental.ofChar?_toLower c
    rw [List.map_cons, takeAccidental, takeAccidental, same]
    cases Accidental.ofChar? c <;> rfl

theorem takeDigits_map_toLower (l : List Char) :
    (l.map Char.toLower).takeWhile Char.isDigit = l.takeWhile Char.isDigit ∧
      (l.map Char.toLower).dropWhile Char.isDigit =
        (l.dropWhile Char.isDigit).map Char.toLower := by
  have digit : Char.isDigit ∘ Char.toLower = Char.isDigit := funext isDigit_toLower
  have unchanged : (l.takeWhile Char.isDigit).map Char.toLower =
      (l.takeWhile Char.isDigit).map id :=
    List.map_congr_left fun c mem => toLower_of_isDigit (List.mem_takeWhile_imp mem)
  rw [List.takeWhile_map, List.dropWhile_map, digit, unchanged, List.map_id]
  exact ⟨rfl, rfl⟩

theorem takeChar_map_toLower {m : Char} (mark : m = '.' ∨ m = '&') (l : List Char) :
    takeChar m (l.map Char.toLower) = ((takeChar m l).1, (takeChar m l).2.map Char.toLower) := by
  cases l with
  | nil => rfl
  | cons c l =>
    have same := toLower_eq_iff_of_mark mark c
    rw [List.map_cons, takeChar, takeChar]
    simp only [same]
    split <;> rfl

theorem read_map_toLower (command : Command) (head : Char) (body : List Char) :
    read command head.toLower (body.map Char.toLower) =
      ((read command head body).1.toLower, (read command head body).2.map Char.toLower) := by
  have sign : (if command.isNote then takeAccidental (body.map Char.toLower)
      else (none, body.map Char.toLower)) =
        ((if command.isNote then takeAccidental body else (none, body)).1,
          (if command.isNote then takeAccidental body else (none, body)).2.map Char.toLower) := by
    split
    · exact takeAccidental_map_toLower body
    · rfl
  simp only [read, sign, takeDigits_map_toLower, takeChar_map_toLower (.inl rfl),
    takeChar_map_toLower (.inr rfl)]
  rfl

end Token

/-! ### Lexemes -/

namespace Lexeme

/-- A lexeme with its letters made small. -/
def toLower : Lexeme → Lexeme
  | token t => token t.toLower
  | unknown text => unknown (text.map Char.toLower)

theorem ofUnknown_map_toLower (l : List Char) :
    ofUnknown (l.map Char.toLower) = (ofUnknown l).map toLower := by
  cases l <;> rfl

theorem ofSegment_map_toLower (command : Command) (head : Char) (body : List Char) :
    ofSegment command head.toLower (body.map Char.toLower) =
      (ofSegment command head body).map toLower := by
  unfold ofSegment
  rw [Token.read_map_toLower, List.map_cons, ← ofUnknown_map_toLower]
  rfl

theorem split_map_toLower (l : List Char) :
    split (l.map Char.toLower) = ((split l).1.map Char.toLower, (split l).2.map toLower) := by
  induction l with
  | nil => rfl
  | cons c l ih =>
    have same := Command.ofChar?_toLower c
    rw [List.map_cons]
    cases stands : Command.ofChar? c with
    | some command =>
      rw [split_cons_of_command stands, split_cons_of_command (same.trans stands), ih,
        ofSegment_map_toLower, List.map_append]
      rfl
    | none =>
      rw [split_cons_of_none stands, split_cons_of_none (same.trans stands), ih]
      rfl

/-- **Small letters change no lexeme** but its text. -/
theorem ofText_map_toLower (l : List Char) :
    ofText (l.map Char.toLower) = (ofText l).map toLower := by
  unfold ofText
  rw [split_map_toLower, List.map_append, ← ofUnknown_map_toLower]

theorem defects_toLower (highest : Nat) (l : Lexeme) :
    l.toLower.defects highest = l.defects highest := by
  cases l <;> rfl

end Lexeme

theorem VoiceState.applyLexeme_toLower (c : Setting) (s : VoiceState) (l : Lexeme) :
    s.applyLexeme c l.toLower = s.applyLexeme c l := by
  cases l <;> rfl

/-! ### Whole voices -/

/-- What counts in the text of a voice, with its letters made small. -/
def spelling (voice : String) : List Char :=
  (visible voice).map Char.toLower

/-- The result of a voice depends on its spelling alone. -/
theorem result_compileVoice_eq_spelling (p : Policy) (c : Setting) (voice : String) (start : Nat) :
    (compileVoice p c voice start).result =
      (Lexeme.ofText (spelling voice)).foldlM
          (fun s l => p.judge (l.defects c.range.highest) >>= fun _ => s.applyLexeme c l)
          ({ time := start } : VoiceState) >>=
        VoiceState.finish c := by
  have reads : Lexeme.ofVoice voice = Lexeme.ofText (visible voice) := rfl
  rw [result_compileVoice, reads, spelling, Lexeme.ofText_map_toLower, List.foldlM_map]
  simp only [Lexeme.defects_toLower, VoiceState.applyLexeme_toLower]

/-- **Case and blanks never matter in a voice**: voices that are spelled alike come to the same
result under each policy. -/
theorem result_compileVoice_congr_spelling {voice voice' : String}
    (alike : spelling voice = spelling voice') (p : Policy) (c : Setting) (start : Nat) :
    (compileVoice p c voice start).result = (compileVoice p c voice' start).result := by
  rw [result_compileVoice_eq_spelling, result_compileVoice_eq_spelling, alike]

/-- Blanks of many kinds in the number, before the dot, the tie and the accidental of a note, and
text that the strict policy fails on. -/
theorem result_compileVoice_congr_spelling_scattered :
    spelling "C1\u3000 6\t. & D\u2028+\né É" = spelling "c16.&d+éÉ" ∧
      (compileVoice .lenient ⟨⟨0⟩, .standard⟩ "C1\u3000 6\t. & D\u2028+\né É" 96).result =
        (compileVoice .lenient ⟨⟨0⟩, .standard⟩ "c16.&d+éÉ" 96).result ∧
      (compileVoice .strict ⟨⟨0⟩, .standard⟩ "C1\u3000 6\t. & D\u2028+\né É" 96).result =
        (compileVoice .strict ⟨⟨0⟩, .standard⟩ "c16.&d+éÉ" 96).result :=
  have alike : spelling "C1\u3000 6\t. & D\u2028+\né É" = spelling "c16.&d+éÉ" := by
    decide +kernel
  ⟨alike, result_compileVoice_congr_spelling alike .lenient _ _,
    result_compileVoice_congr_spelling alike .strict _ _⟩

end MusicMacro
