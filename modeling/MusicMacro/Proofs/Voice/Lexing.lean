import MusicMacro.Voice.Lexeme
import MusicMacro.Proofs.Voice.Run
import Mathlib.Data.List.TakeWhile

/-!
# Reading tokens back

Tokens that are written one after the other are read back as they are
(`Lexeme.ofText_flatMap_text`): every command character opens a token, and no other character that a
token is made of does.  The tokens that are read from a text are all of this kind
(`wellFormed_of_mem_tokensOf`).
-/

namespace MusicMacro

/-! ### The characters of commands -/

/-- What holds of the first characters holds of each of them. -/
theorem char_of_toNat_lt {P : Char → Prop} {n : Nat} (all : ∀ k < n, P (Char.ofNat k)) {c : Char}
    (low : c.toNat < n) : P c := by
  have here := all c.toNat low
  rwa [Char.ofNat_toNat] at here

/-- Only letters have other small letters, and these are letters of the same range. -/
theorem toNat_lt_of_toLower {c : Char} (lower : c.toLower.toNat < 128) : c.toNat < 128 := by
  unfold Char.toLower at lower
  split at lower
  · next upper => exact Nat.lt_of_le_of_lt (UInt32.le_iff_toNat_le.1 upper.2) (by decide)
  · exact lower

namespace Command

/-- The characters that stand for commands. -/
def chars : List Char :=
  ['a', 'b', 'c', 'd', 'e', 'f', 'g', 'l', 'n', 'o', 'r', 't', 'v',
    'A', 'B', 'C', 'D', 'E', 'F', 'G', 'L', 'N', 'O', 'R', 'T', 'V', '<', '>']

theorem toNat_lt_of_isSome_ofChar? {c : Char} (stands : (ofChar? c).isSome) : c.toNat < 128 := by
  apply toNat_lt_of_toLower
  unfold ofChar? at stands
  split at stands
  case h_16 => cases stands
  all_goals next same => rw [same]; decide

theorem isSome_ofChar?_iff {c : Char} : (ofChar? c).isSome ↔ c ∈ chars := by
  constructor
  · intro stands
    exact char_of_toNat_lt (P := fun c => (ofChar? c).isSome → c ∈ chars) (by decide +kernel)
      (toNat_lt_of_isSome_ofChar? stands) stands
  · have all : (chars.all fun c => (ofChar? c).isSome) := by decide
    exact List.all_eq_true.1 all c

theorem mem_chars_iff {c : Char} : c ∈ chars ↔ ∃ command, ofChar? c = some command := by
  rw [← isSome_ofChar?_iff, Option.isSome_iff_exists]

theorem ofChar?_eq_none {c : Char} (other : c ∉ chars) : ofChar? c = none := by
  rw [← Option.not_isSome_iff_eq_none, isSome_ofChar?_iff]
  exact other

theorem not_mem_chars {c : Char} (other : ofChar? c = none) : c ∉ chars := by
  rw [← isSome_ofChar?_iff, Option.not_isSome_iff_eq_none]
  exact other

end Command

/-! ### Blanks and digits -/

/-- What counts in the text of a voice: all of it but the blanks. -/
def visible (voice : String) : List Char :=
  voice.toList.filter fun c => !isBlank c

theorem isBlank_eq_false_of_isDigit {c : Char} (digit : c.isDigit) : isBlank c = false := by
  unfold Char.isDigit at digit
  simp only [Bool.and_eq_true, decide_eq_true_eq, ge_iff_le, UInt32.le_iff_toNat_le] at digit
  have low : 48 ≤ c.toNat := digit.1
  have high : c.toNat < 58 := Nat.lt_succ_of_le digit.2
  exact char_of_toNat_lt (P := fun c => 48 ≤ c.toNat → isBlank c = false) (by decide +kernel)
    high low

theorem Accidental.ofChar?_eq_none_of_isDigit {c : Char} (digit : c.isDigit) :
    ofChar? c = none := by
  rw [Option.eq_none_iff_forall_ne_some]
  intro a reads
  rw [← ofChar?_eq_some_iff.1 reads] at digit
  cases a <;> cases digit

theorem Command.ofChar?_eq_none_of_isDigit {c : Char} (digit : c.isDigit) : ofChar? c = none := by
  have letters : (chars.all fun c => !c.isDigit) := by decide
  refine ofChar?_eq_none fun mem => ?_
  have letter := List.all_eq_true.1 letters c mem
  rw [digit] at letter
  cases letter

/-! ### Well-formed tokens -/

namespace Token

/-- Whether a token is one that can be read: its command is that of its character, only a note has
an accidental, and its digits are digits. -/
structure WellFormed (t : Token) : Prop where
  head : Command.ofChar? t.head = some t.command
  accidental : t.accidental.isSome → t.command.isNote
  digits : ∀ c ∈ t.digits, c.isDigit

/-- The dot and the tie of a token, as they are written. -/
def marks (t : Token) : List Char :=
  (if t.dotted then ['.'] else []) ++ (if t.tied then ['&'] else [])

/-- The text of a token behind the character of its command. -/
def body (t : Token) : List Char :=
  (t.accidental.map Accidental.toChar).toList ++ (t.digits ++ t.marks)

theorem text_eq_cons (t : Token) : t.text = t.head :: t.body := by
  simp only [text, body, marks, List.append_assoc]

theorem eq_or_eq_of_mem_marks {t : Token} {c : Char} (mem : c ∈ t.marks) : c = '.' ∨ c = '&' := by
  unfold marks at mem
  split at mem <;> split at mem <;> simp at mem <;> tauto

theorem wellFormed_read {command : Command} {head : Char}
    (stands : Command.ofChar? head = some command) (body : List Char) :
    (read command head body).1.WellFormed := by
  refine ⟨stands, ?_, fun c mem => List.mem_takeWhile_imp mem⟩
  unfold read
  cases note : command.isNote with
  | true => exact fun _ => rfl
  | false => simp

theorem takeAccidental_append {l : List Char} (other : ∀ c ∈ l, Accidental.ofChar? c = none)
    (a : Option Accidental) :
    takeAccidental ((a.map Accidental.toChar).toList ++ l) = (a, l) := by
  cases a with
  | some a =>
    have reads : Accidental.ofChar? a.toChar = some a := Accidental.ofChar?_eq_some_iff.2 rfl
    simp [takeAccidental, reads]
  | none =>
    cases l with
    | nil => rfl
    | cons c l => simp [takeAccidental, other c List.mem_cons_self]

theorem takeChar_append {c : Char} {l : List Char} (other : c ∉ l) (b : Bool) :
    takeChar c ((if b then [c] else []) ++ l) = (b, l) := by
  cases b with
  | true => simp [takeChar]
  | false =>
    cases l with
    | nil => rfl
    | cons d l =>
      have differ : d ≠ c := fun same => other (same ▸ List.mem_cons_self)
      simp [takeChar, differ]

theorem takeDigits_append {ds l : List Char} (digits : ∀ c ∈ ds, c.isDigit)
    (other : ∀ c ∈ l, c.isDigit = false) :
    (ds ++ l).takeWhile Char.isDigit = ds ∧ (ds ++ l).dropWhile Char.isDigit = l := by
  rw [List.takeWhile_append_of_pos digits, List.dropWhile_append_of_pos digits]
  cases l with
  | nil => simp
  | cons c l => simp [other c List.mem_cons_self]

theorem WellFormed.of_mem_body {t : Token} (formed : t.WellFormed) {c : Char}
    (mem : c ∈ t.body) : (∃ a, c = Accidental.toChar a) ∨ c.isDigit ∨ c = '.' ∨ c = '&' := by
  rw [body, List.mem_append, List.mem_append, Option.mem_toList, Option.map_eq_some_iff] at mem
  rcases mem with ⟨a, -, same⟩ | mem | mem
  · exact .inl ⟨a, same.symm⟩
  · exact .inr (.inl (formed.digits c mem))
  · exact .inr (.inr (eq_or_eq_of_mem_marks mem))

/-- Behind its first character a token holds no command. -/
theorem WellFormed.ofChar?_of_mem_body {t : Token} (formed : t.WellFormed) :
    ∀ c ∈ t.body, Command.ofChar? c = none := by
  intro c mem
  rcases formed.of_mem_body mem with ⟨a, rfl⟩ | digit | rfl | rfl
  · cases a <;> rfl
  · exact Command.ofChar?_eq_none_of_isDigit digit
  · rfl
  · rfl

/-- The characters that a token is made of. -/
theorem WellFormed.of_mem_text {t : Token} (formed : t.WellFormed) {c : Char} (mem : c ∈ t.text) :
    c ∈ Command.chars ∨ (∃ a, c = Accidental.toChar a) ∨ c.isDigit ∨ c = '.' ∨ c = '&' := by
  rw [text_eq_cons, List.mem_cons] at mem
  rcases mem with rfl | mem
  · exact .inl (Command.mem_chars_iff.2 ⟨_, formed.head⟩)
  · exact .inr (formed.of_mem_body mem)

theorem WellFormed.isBlank_of_mem_text {t : Token} (formed : t.WellFormed) :
    ∀ c ∈ t.text, isBlank c = false := by
  intro c mem
  rcases formed.of_mem_text mem with letter | ⟨a, rfl⟩ | digit | rfl | rfl
  · have letters : (Command.chars.all fun c => !isBlank c) := by decide
    have visible := List.all_eq_true.1 letters c letter
    rwa [Bool.not_eq_true'] at visible
  · cases a <;> decide
  · exact isBlank_eq_false_of_isDigit digit
  · decide
  · decide

/-- A token is read back from its text. -/
theorem WellFormed.read_body {t : Token} (formed : t.WellFormed) :
    read t.command t.head t.body = (t, []) := by
  have notDigit : ∀ c ∈ t.marks, c.isDigit = false := by
    intro c mem
    rcases eq_or_eq_of_mem_marks mem with rfl | rfl <;> decide
  have notAccidental : ∀ c ∈ t.digits ++ t.marks, Accidental.ofChar? c = none := by
    intro c mem
    rcases List.mem_append.1 mem with mem | mem
    · exact Accidental.ofChar?_eq_none_of_isDigit (formed.digits c mem)
    · rcases eq_or_eq_of_mem_marks mem with rfl | rfl <;> rfl
  have sign : (if t.command.isNote then takeAccidental t.body else (none, t.body)) =
      (t.accidental, t.digits ++ t.marks) := by
    split
    · exact takeAccidental_append notAccidental t.accidental
    · next other =>
      have bare : t.accidental = none := by
        rw [← Option.not_isSome_iff_eq_none]
        exact fun some => other (formed.accidental some)
      rw [body, bare]
      rfl
  have digits := takeDigits_append formed.digits notDigit
  have dot : takeChar '.' t.marks = (t.dotted, if t.tied then ['&'] else []) :=
    takeChar_append (by split <;> decide) t.dotted
  have tie : takeChar '&' (if t.tied then ['&'] else []) = (t.tied, []) := by
    have alone := takeChar_append (c := '&') List.not_mem_nil t.tied
    rwa [List.append_nil] at alone
  simp only [read, sign, digits, dot, tie]

end Token

/-! ### Splitting a text -/

namespace Lexeme

theorem split_cons_of_command {command : Command} {c : Char}
    (stands : Command.ofChar? c = some command) (l : List Char) :
    split (c :: l) = ([], ofSegment command c (split l).1 ++ (split l).2) := by
  have step : split (c :: l) = splitStep c (split l) := rfl
  rw [step, splitStep, stands]

theorem split_cons_of_none {c : Char} (other : Command.ofChar? c = none) (l : List Char) :
    split (c :: l) = (c :: (split l).1, (split l).2) := by
  have step : split (c :: l) = splitStep c (split l) := rfl
  rw [step, splitStep, other]

/-- Text without commands opens no lexeme. -/
theorem split_eq_of_none {l : List Char} (other : ∀ c ∈ l, Command.ofChar? c = none) :
    split l = (l, []) := by
  induction l with
  | nil => rfl
  | cons c l ih =>
    obtain ⟨first, rest⟩ := List.forall_mem_cons.1 other
    rw [split_cons_of_none first, ih rest]

/-- Where the second part of a text opens with a command, or is empty, the parts are split apart. -/
theorem split_append {a b : List Char} (opens : (split b).1 = []) :
    split (a ++ b) = ((split a).1, (split a).2 ++ (split b).2) := by
  induction a with
  | nil => exact Prod.ext opens rfl
  | cons c a ih =>
    rw [List.cons_append]
    cases stands : Command.ofChar? c with
    | some command =>
      rw [split_cons_of_command stands, split_cons_of_command stands, ih, List.append_assoc]
    | none => rw [split_cons_of_none stands, split_cons_of_none stands, ih]

theorem split_token {t : Token} (formed : t.WellFormed) : split t.text = ([], [token t]) := by
  rw [t.text_eq_cons, split_cons_of_command formed.head,
    split_eq_of_none formed.ofChar?_of_mem_body, ofSegment, formed.read_body]
  rfl

/-- Tokens that are written one after the other are what their text is split into. -/
theorem split_flatMap_text {ts : List Token} (formed : ∀ t ∈ ts, t.WellFormed) :
    split (ts.flatMap Token.text) = ([], ts.map token) := by
  induction ts with
  | nil => rfl
  | cons t ts ih =>
    obtain ⟨first, rest⟩ := List.forall_mem_cons.1 formed
    have opens : (split (ts.flatMap Token.text)).1 = [] := by rw [ih rest]
    rw [List.flatMap_cons, split_append opens, split_token first, ih rest]
    rfl

/-- **Tokens are read back** from their texts, one after the other. -/
theorem ofText_flatMap_text {ts : List Token} (formed : ∀ t ∈ ts, t.WellFormed) :
    ofText (ts.flatMap Token.text) = ts.map token := by
  rw [ofText, split_flatMap_text formed]
  rfl

/-! ### The tokens of a voice -/

theorem token_not_mem_ofUnknown (t : Token) (l : List Char) : token t ∉ ofUnknown l := by
  cases l <;> simp [ofUnknown]

theorem wellFormed_of_mem_split {l : List Char} {t : Token} (mem : token t ∈ (split l).2) :
    t.WellFormed := by
  induction l with
  | nil => cases mem
  | cons c l ih =>
    cases stands : Command.ofChar? c with
    | none =>
      rw [split_cons_of_none stands] at mem
      exact ih mem
    | some command =>
      rw [split_cons_of_command stands] at mem
      rcases List.mem_append.1 mem with mem | mem
      · unfold ofSegment at mem
        rcases List.mem_cons.1 mem with same | mem
        · cases same
          exact Token.wellFormed_read stands _
        · exact (token_not_mem_ofUnknown _ _ mem).elim
      · exact ih mem

end Lexeme

/-- The tokens of a voice can be read. -/
theorem wellFormed_of_mem_tokensOf {voice : String} {t : Token} (mem : t ∈ tokensOf voice) :
    t.WellFormed := by
  rcases List.mem_append.1 (mem_tokensOf_iff.1 mem) with mem | mem
  · exact (Lexeme.token_not_mem_ofUnknown _ _ mem).elim
  · exact Lexeme.wellFormed_of_mem_split mem

/-- Tokens that are written one after the other, as a voice. -/
def writeTokens (ts : List Token) : String :=
  .ofList (ts.flatMap Token.text)

/-- **Tokens are read back** from the voice in which they are written. -/
theorem ofVoice_writeTokens {ts : List Token} (formed : ∀ t ∈ ts, t.WellFormed) :
    Lexeme.ofVoice (writeTokens ts) = ts.map .token := by
  have unchanged : unblank (ts.flatMap Token.text) = ts.flatMap Token.text := by
    refine List.filter_eq_self.2 fun c mem => ?_
    obtain ⟨t, mem, mem'⟩ := List.mem_flatMap.1 mem
    rw [(formed t mem).isBlank_of_mem_text c mem', Bool.not_false]
  rw [Lexeme.ofVoice, writeTokens, String.toList_ofList, unchanged,
    Lexeme.ofText_flatMap_text formed]

end MusicMacro
