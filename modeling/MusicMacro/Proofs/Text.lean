import MusicMacro.Text.Quoted

/-!
# Reading printed text back

No two numbers, byte sequences or texts are printed alike.  Decimal digits are told apart from what
follows them by a separator that is no digit (`decimal_append_inj`), hexadecimal digits by how many
there are or by a brace.  A text between quotes is read one character after another: however it is
escaped, each is read back from the front of any text (`Quoted.read?_escape_append`), so no quote
in it is taken for the closing one.

Bytes and characters are words of a code that are told apart, whatever follows them, and so then are
sequences of words (`Delimited.flatMap`).
-/

namespace MusicMacro

variable {α β : Type}

/-! ### Words that are told apart -/

/-- Whether the words of a code are told apart, whatever follows them. -/
def Delimited (code : α → List β) : Prop :=
  ∀ a b x y, code a ++ x = code b ++ y → a = b ∧ x = y

/-- Sequences of words are told apart as well, if no word can start what follows them; by induction
over the words. -/
theorem Delimited.flatMap {code : α → List β} (delimited : Delimited code)
    (Closing : List β → Prop) (closing : ∀ a x, ¬ Closing (code a ++ x)) {s t : List α}
    {x y : List β} (ends : Closing x) (ends' : Closing y)
    (same : s.flatMap code ++ x = t.flatMap code ++ y) : s = t ∧ x = y := by
  induction s generalizing t with
  | nil =>
    cases t with
    | nil => exact ⟨rfl, same⟩
    | cons b t =>
      have starts : x = code b ++ (t.flatMap code ++ y) := by
        rw [← List.append_assoc, ← List.flatMap_cons]
        exact same
      exact absurd (starts ▸ ends) (closing b _)
  | cons a s ih =>
    cases t with
    | nil =>
      have starts : y = code a ++ (s.flatMap code ++ x) := by
        rw [← List.append_assoc, ← List.flatMap_cons]
        exact same.symm
      exact absurd (starts ▸ ends') (closing a _)
    | cons b t =>
      rw [List.flatMap_cons, List.flatMap_cons, List.append_assoc, List.append_assoc] at same
      obtain ⟨rfl, rest⟩ := delimited a b _ _ same
      obtain ⟨rfl, behind⟩ := ih rest
      exact ⟨rfl, behind⟩

theorem Delimited.flatMap_inj {code : α → List β} (delimited : Delimited code)
    (words : ∀ a, code a ≠ []) {s t : List α} : s.flatMap code = t.flatMap code ↔ s = t := by
  constructor
  · intro same
    have closing (a : α) (x : List β) : code a ++ x ≠ [] :=
      List.append_ne_nil_of_left_ne_nil (words a) x
    have same' : s.flatMap code ++ [] = t.flatMap code ++ [] := by
      rw [same]
    exact (delimited.flatMap (· = []) closing rfl rfl same').1
  · rintro rfl
    rfl

/-- A separator that is found in neither of two fronts tells them apart from what follows. -/
theorem append_cons_inj {sep : α} {u v x y : List α} (front : sep ∉ u)
    (front' : sep ∉ v) (same : u ++ sep :: x = v ++ sep :: y) : u = v ∧ x = y := by
  induction u generalizing v with
  | nil =>
    cases v with
    | nil => exact ⟨rfl, (List.cons.inj same).2⟩
    | cons b v =>
      have first : sep = b := (List.cons.inj same).1
      exact absurd (first ▸ List.mem_cons_self) front'
  | cons a u ih =>
    cases v with
    | nil =>
      have first : a = sep := (List.cons.inj same).1
      exact absurd (first ▸ List.mem_cons_self) front
    | cons b v =>
      obtain ⟨rfl, rest⟩ := List.cons.inj same
      obtain ⟨rfl, behind⟩ :=
        ih (List.not_mem_of_not_mem_cons front) (List.not_mem_of_not_mem_cons front') rest
      exact ⟨rfl, behind⟩

/-! ### Decimal numbers -/

/-- The decimal digits of a number. -/
def decimal (n : Nat) : List Char :=
  (toString n).toList

theorem decimal_eq (n : Nat) : decimal n = Nat.toDigits 10 n := by
  rw [decimal, Nat.toString_eq_repr, Nat.toList_repr]

theorem decimal_inj {m n : Nat} : decimal m = decimal n ↔ m = n := by
  constructor
  · intro same
    have value (k : Nat) : Nat.ofDigitChars 10 (decimal k) 0 = k := by
      rw [decimal_eq, Nat.ofDigitChars_toDigits (by decide) (by decide)]
    rw [← value m, same, value n]
  · rintro rfl
    rfl

theorem isDigit_of_mem_decimal {n : Nat} {c : Char} (mem : c ∈ decimal n) : c.isDigit := by
  rw [decimal_eq] at mem
  exact Nat.isDigit_of_mem_toDigits (by decide) (by decide) mem

/-- Numbers are told apart from what follows them by a separator that is no digit. -/
theorem decimal_append_inj {m n : Nat} {sep : Char} {x y : List Char}
    (separates : sep.isDigit = false) (same : decimal m ++ sep :: x = decimal n ++ sep :: y) :
    m = n ∧ x = y := by
  have notMem (k : Nat) : sep ∉ decimal k := by
    intro mem
    have digit := isDigit_of_mem_decimal mem
    rw [separates] at digit
    cases digit
  obtain ⟨digits, behind⟩ := append_cons_inj (notMem m) (notMem n) same
  exact ⟨decimal_inj.1 digits, behind⟩

/-! ### Hexadecimal numbers -/

namespace Hex

/-- What a hexadecimal digit stands for. -/
def digitValue (c : Char) : Nat :=
  if c.isDigit then c.toNat - '0'.toNat else c.toNat - 'a'.toNat + 10

/-- The number with the given hexadecimal digits. -/
def value (l : List Char) : Nat :=
  l.foldl (fun n c => 16 * n + digitValue c) 0

theorem digitValue_digitChar : ∀ d < 16, digitValue (Nat.digitChar d) = d := by
  decide

theorem value_concat (l : List Char) (c : Char) :
    value (l ++ [c]) = 16 * value l + digitValue c := by
  rw [value, List.foldl_append]
  rfl

/-- The digits of a number have it as their value, by induction over the quotients by sixteen. -/
theorem value_ofNat (n : Nat) : value (ofNat n) = n := by
  induction n using Nat.strongRecOn with
  | ind n ih =>
    unfold ofNat at ih ⊢
    by_cases single : n < 16
    · rw [Nat.toDigits_of_lt_base single, ← List.nil_append [_], value_concat,
        digitValue_digitChar n single]
      exact Nat.zero_add n
    · have last : n % 16 < 16 := Nat.mod_lt n (by decide)
      have front : value (Nat.toDigits 16 (n / 16)) = n / 16 := ih (n / 16) (by omega)
      rw [Nat.toDigits_of_base_le (by decide) (by omega), value_concat, front,
        digitValue_digitChar _ last]
      omega

theorem value_ofByte (b : UInt8) : value (ofByte b) = b.toNat := by
  have small : b.toNat < 256 := b.toNat_lt
  have high : digitValue (Nat.digitChar (b.toNat / 16)) = b.toNat / 16 :=
    digitValue_digitChar _ (by omega)
  have low : digitValue (Nat.digitChar (b.toNat % 16)) = b.toNat % 16 :=
    digitValue_digitChar _ (by omega)
  show 16 * (16 * 0 + digitValue (Nat.digitChar (b.toNat / 16))) +
    digitValue (Nat.digitChar (b.toNat % 16)) = b.toNat
  rw [high, low]
  omega

theorem ofByte_inj {a b : UInt8} : ofByte a = ofByte b ↔ a = b := by
  constructor
  · intro same
    have values := congrArg value same
    rw [value_ofByte, value_ofByte] at values
    exact UInt8.toNat_inj.1 values
  · rintro rfl
    rfl

theorem spaced_inj {l m : List UInt8} : spaced l = spaced m ↔ l = m := by
  have delimited : Delimited fun b => ' ' :: ofByte b := by
    intro a b x y same
    obtain ⟨digits, behind⟩ := List.append_inj (List.cons.inj same).2 rfl
    exact ⟨ofByte_inj.1 digits, behind⟩
  exact delimited.flatMap_inj fun b => List.cons_ne_nil ' ' (ofByte b)

/-- A brace is no digit. -/
theorem ne_brace_of_mem_ofNat {n : Nat} {c : Char} (mem : c ∈ ofNat n) : c ≠ '\x7d' := by
  induction n using Nat.strongRecOn with
  | ind n ih =>
    unfold ofNat at ih mem
    by_cases single : n < 16
    · rw [Nat.toDigits_of_lt_base single, List.mem_singleton] at mem
      exact mem ▸ Nat.digitChar_ne '\x7d' rfl
    · rw [Nat.toDigits_of_base_le (by decide) (by omega), List.mem_append,
        List.mem_singleton] at mem
      rcases mem with front | last
      · exact ih (n / 16) (by omega) front
      · exact last ▸ Nat.digitChar_ne '\x7d' rfl

end Hex

/-! ### Quoted text -/

namespace Quoted

/-- Reads a character that stands behind a backslash. -/
def readEscaped? : List Char → Option (Char × List Char)
  | [] => none
  | '0' :: rest => some ('\x00', rest)
  | 't' :: rest => some ('\t', rest)
  | 'n' :: rest => some ('\n', rest)
  | 'r' :: rest => some ('\r', rest)
  | 'u' :: '\x7b' :: rest =>
    let digits := rest.takeWhile (· != '\x7d')
    some (Char.ofNat (Hex.value digits), (rest.dropWhile (· != '\x7d')).tail)
  | c :: rest => some (c, rest)

/-- Reads the character at the front of what stands between quotes; `none` at the closing one. -/
def read? : List Char → Option (Char × List Char)
  | [] => none
  | c :: rest =>
    if c = '"' then none else if c = '\\' then readEscaped? rest else some (c, rest)

theorem read?_codePoint_append (c : Char) (rest : List Char) :
    read? (codePoint c ++ rest) = some (c, rest) := by
  have digits : ∀ d ∈ Hex.ofNat c.toNat, (d != '\x7d') = true :=
    fun d mem => bne_iff_ne.2 (Hex.ne_brace_of_mem_ofNat mem)
  have text : codePoint c ++ rest =
      '\\' :: 'u' :: '\x7b' :: (Hex.ofNat c.toNat ++ '\x7d' :: rest) := by
    simp [codePoint]
  have inner : (Hex.ofNat c.toNat ++ '\x7d' :: rest).takeWhile (· != '\x7d') =
      Hex.ofNat c.toNat := by
    rw [List.takeWhile_append_of_pos digits]
    exact List.append_nil _
  have outer : (Hex.ofNat c.toNat ++ '\x7d' :: rest).dropWhile (· != '\x7d') = '\x7d' :: rest :=
    List.dropWhile_append_of_pos digits
  rw [text]
  show some (Char.ofNat (Hex.value (List.takeWhile _ _)), (List.dropWhile _ _).tail) = _
  rw [inner, outer, Hex.value_ofNat, Char.ofNat_toNat]
  rfl

/-- Every character is read back, whatever follows it. -/
theorem read?_escape_append (c : Char) (rest : List Char) :
    read? (escape c ++ rest) = some (c, rest) := by
  unfold escape
  split
  · rfl
  · rfl
  · rfl
  · rfl
  · rfl
  · rfl
  · next quote backslash =>
    split
    · exact read?_codePoint_append c rest
    · show read? (c :: rest) = some (c, rest)
      rw [read?, if_neg quote, if_neg backslash]

theorem delimited_escape : Delimited escape := by
  intro c d x y same
  have next : some (c, x) = some (d, y) := by
    rw [← read?_escape_append, same, read?_escape_append]
  exact Prod.mk.inj (Option.some.inj next)

theorem quote_inj {s t : List Char} : quote s = quote t ↔ s = t := by
  constructor
  · intro same
    -- Nothing is read at the closing quote, so no character of a text starts there.
    have closing (c : Char) (x : List Char) : read? (escape c ++ x) ≠ none := by
      rw [read?_escape_append]
      exact Option.some_ne_none _
    exact (delimited_escape.flatMap (read? · = none) closing rfl rfl (List.cons.inj same).2).1
  · rintro rfl
    rfl

end Quoted

theorem quoted_inj {s t : String} : quoted s = quoted t ↔ s = t := by
  rw [quoted, quoted, String.ofList_inj, Quoted.quote_inj, String.toList_inj]

end MusicMacro
