import MusicMacro.Proofs.Voice.Lexing
import MusicMacro.Proofs.Voice.Result

/-!
# Voices fall apart at their commands

The lexemes of a voice make up its text, blanks apart, and the commands in the text are the first
characters of the tokens, each of exactly one of them: a token holds no other command, and unknown
text holds none (`ofVoice_partition`).  Each token is the longest that stands where it opens, since
what is read from a text does not change when more text follows, unless it was the whole text
(`Token.Greedy`).  The reports of a compilation name the lexemes one by one, so what they name is
the text as far as it was compiled (`Transcript.passes_compileVoice`).

A voice can therefore be cut before any of its commands (`Lexeme.ofVoice_append`), and the part
behind the cut is played from the state that the part before it comes to.
-/

namespace MusicMacro

/-! ### Greedy reading -/

namespace Token

/-- Whether taking something from the front of a text is greedy, `rest` being what it leaves: where
more text follows, it takes the same, or at least the same if it has taken the whole text. -/
structure Greedy (rest : List Char → List Char) : Prop where
  nil : rest [] = []
  append : ∀ l more, rest (l ++ more) = rest l ++ more ∨ rest l = [] ∧ rest (l ++ more) <:+ more

theorem Greedy.suffix {rest : List Char → List Char} (greedy : Greedy rest) (l : List Char) :
    rest l <:+ l := by
  rcases greedy.append [] l with same | ⟨-, suffix⟩
  · rw [greedy.nil] at same
    exact ⟨[], same⟩
  · exact suffix

theorem Greedy.comp {rest rest' : List Char → List Char} (first : Greedy rest)
    (next : Greedy rest') : Greedy fun l => rest' (rest l) := by
  refine ⟨(congrArg rest' first.nil).trans next.nil, fun l more => ?_⟩
  rcases first.append l more with same | ⟨all, suffix⟩
  · simp only [same]
    exact next.append (rest l) more
  · exact .inr ⟨(congrArg rest' all).trans next.nil, (next.suffix _).trans suffix⟩

theorem greedy_takeAccidental : Greedy fun l => (takeAccidental l).2 := by
  refine ⟨rfl, fun l more => ?_⟩
  cases l with
  | nil => exact .inr ⟨rfl, ⟨_, takeAccidental_text more⟩⟩
  | cons c l => cases reads : Accidental.ofChar? c <;> simp [takeAccidental, reads]

theorem greedy_dropDigits : Greedy fun l => l.dropWhile Char.isDigit := by
  refine ⟨rfl, fun l more => ?_⟩
  simp only [List.dropWhile_append, List.isEmpty_iff]
  split
  · next all => exact .inr ⟨all, List.dropWhile_suffix _⟩
  · exact .inl rfl

theorem greedy_takeChar (c : Char) : Greedy fun l => (takeChar c l).2 := by
  refine ⟨rfl, fun l more => ?_⟩
  cases l with
  | nil => exact .inr ⟨rfl, ⟨_, takeChar_text c more⟩⟩
  | cons d l => by_cases same : d = c <;> simp [takeChar, same]

theorem greedy_read (command : Command) (head : Char) :
    Greedy fun body => (read command head body).2 := by
  have suffix := (greedy_dropDigits.comp (greedy_takeChar '.')).comp (greedy_takeChar '&')
  unfold read
  cases command.isNote with
  | true => exact greedy_takeAccidental.comp suffix
  | false => exact suffix

/-- Reading splits the text behind a command into that of the token and what is left. -/
theorem body_read (command : Command) (head : Char) (body : List Char) :
    (read command head body).1.body ++ (read command head body).2 = body := by
  have whole := read_text command head body
  rw [text_eq_cons, List.cons_append, List.cons.injEq] at whole
  exact whole.2

/-- **No longer token** stands at the front of a text than the one that is read. -/
theorem WellFormed.prefix_read {t : Token} (formed : t.WellFormed) {body : List Char}
    (front : t.body <+: body) : t.body <+: (read t.command t.head body).1.body := by
  obtain ⟨more, rfl⟩ := front
  have alone : (read t.command t.head t.body).2 = [] := by rw [formed.read_body]
  have suffix : (read t.command t.head (t.body ++ more)).2 <:+ more := by
    rcases (greedy_read t.command t.head).append t.body more with same | ⟨-, suffix⟩
    · simp only [alone] at same
      exact ⟨[], same⟩
    · exact suffix
  obtain ⟨taken, parts⟩ := suffix
  have whole := body_read t.command t.head (t.body ++ more)
  -- Both sides end in what is left, so what is taken beyond the token is `taken`.
  nth_rewrite 3 [← parts] at whole
  rw [← List.append_assoc] at whole
  exact ⟨taken, (List.append_cancel_right whole).symm⟩

end Token

/-! ### Lexemes -/

namespace Lexeme

theorem ofText_eq (l : List Char) : ofText l = ofUnknown (split l).1 ++ (split l).2 := rfl

theorem ofChar?_of_mem_split {l : List Char} {c : Char} (mem : c ∈ (split l).1) :
    Command.ofChar? c = none := by
  induction l with
  | nil => cases mem
  | cons d l ih =>
    cases stands : Command.ofChar? d with
    | some command =>
      rw [split_cons_of_command stands] at mem
      cases mem
    | none =>
      rw [split_cons_of_none stands] at mem
      rcases List.mem_cons.1 mem with rfl | mem
      · exact stands
      · exact ih mem

/-- A text that starts with a command, or is empty, has nothing before its first command. -/
theorem split_eq_nil_of_head? {l : List Char} (opens : ∀ c ∈ l.head?, c ∈ Command.chars) :
    (split l).1 = [] := by
  cases l with
  | nil => rfl
  | cons c l =>
    obtain ⟨command, stands⟩ := Command.mem_chars_iff.1 (opens c rfl)
    rw [split_cons_of_command stands]

/-- A text can be cut before a command. -/
theorem ofText_append {a b : List Char} (opens : (split b).1 = []) :
    ofText (a ++ b) = ofText a ++ ofText b := by
  rw [ofText_eq, ofText_eq, ofText_eq, split_append opens, opens, List.append_assoc]
  rfl

theorem eq_of_mem_ofUnknown {x : Lexeme} {l : List Char} (mem : x ∈ ofUnknown l) :
    x = unknown l ∧ l ≠ [] := by
  cases l with
  | nil => cases mem
  | cons c l => exact ⟨List.mem_singleton.1 mem, List.cons_ne_nil c l⟩

/-- Unknown text is some text without commands. -/
theorem of_unknown_mem_split {l text : List Char} (mem : unknown text ∈ (split l).2) :
    text ≠ [] ∧ ∀ c ∈ text, Command.ofChar? c = none := by
  induction l with
  | nil => cases mem
  | cons c l ih =>
    cases stands : Command.ofChar? c with
    | none =>
      rw [split_cons_of_none stands] at mem
      exact ih mem
    | some command =>
      rw [split_cons_of_command stands] at mem
      rcases List.mem_append.1 mem with mem | mem
      · rcases List.mem_cons.1 mem with same | mem
        · cases same
        · obtain ⟨same, some⟩ := eq_of_mem_ofUnknown mem
          cases same
          refine ⟨some, fun d inside => ofChar?_of_mem_split (l := l) ?_⟩
          rw [← Token.body_read command c (split l).1]
          exact List.mem_append_right _ inside
      · exact ih mem

theorem of_unknown_mem_ofText {l text : List Char} (mem : unknown text ∈ ofText l) :
    text ≠ [] ∧ ∀ c ∈ text, Command.ofChar? c = none := by
  rcases List.mem_append.1 mem with mem | mem
  · obtain ⟨same, some⟩ := eq_of_mem_ofUnknown mem
    cases same
    exact ⟨some, fun c inside => ofChar?_of_mem_split inside⟩
  · exact of_unknown_mem_split mem

theorem text_ne_nil {l : List Char} {x : Lexeme} (mem : x ∈ ofText l) : x.text ≠ [] := by
  cases x with
  | token t => exact List.cons_ne_nil t.head _
  | unknown text => exact (of_unknown_mem_ofText mem).1

/-- Text without commands at the front of a text stands before its first command. -/
theorem prefix_split {l front : List Char} (others : ∀ c ∈ front, Command.ofChar? c = none)
    (stands : front <+: l) : front <+: (split l).1 := by
  induction l generalizing front with
  | nil => exact stands
  | cons c l ih =>
    cases front with
    | nil => exact List.nil_prefix
    | cons d front =>
      obtain ⟨rfl, behind⟩ := List.cons_prefix_cons.1 stands
      obtain ⟨first, others⟩ := List.forall_mem_cons.1 others
      rw [split_cons_of_none first]
      exact List.cons_prefix_cons.2 ⟨rfl, ih others behind⟩

/-- A command in a text opens a token there, the longest one that stands there. -/
theorem exists_token_of_command {c : Char} {command : Command}
    (stands : Command.ofChar? c = some command) (before after : List Char) :
    ∃ t rest, ofText (before ++ c :: after) = ofText before ++ token t :: rest ∧ t.head = c ∧
      ∀ t' : Token, t'.WellFormed → t'.text <+: c :: after → t'.text <+: t.text := by
  have opens : (split (c :: after)).1 = [] := by rw [split_cons_of_command stands]
  rw [ofText_append opens, ofText_eq (c :: after), split_cons_of_command stands]
  refine ⟨_, _, rfl, rfl, fun t' formed front => ?_⟩
  rw [t'.text_eq_cons] at front ⊢
  obtain ⟨rfl, behind⟩ := List.cons_prefix_cons.1 front
  obtain rfl : t'.command = command := Option.some.inj (formed.head.symm.trans stands)
  rw [Token.text_eq_cons]
  exact List.cons_prefix_cons.2
    ⟨rfl, formed.prefix_read (prefix_split formed.ofChar?_of_mem_body behind)⟩

/-- Where no lexeme is empty, the text before a lexeme tells which one it is. -/
theorem eq_of_flatMap_text_eq {ls ls' rest rest' : List Lexeme}
    (nonempty : ∀ l ∈ ls ++ rest, l.text ≠ []) (whole : ls ++ rest = ls' ++ rest')
    (texts : ls.flatMap text = ls'.flatMap text) : ls = ls' := by
  have nothing {mid : List Lexeme} (part : ∀ l ∈ mid, l ∈ ls ++ rest)
      (empty : mid.flatMap text = []) : mid = [] := by
    rw [List.eq_nil_iff_forall_not_mem]
    exact fun l mem => nonempty l (part l mem) (List.flatMap_eq_nil_iff.1 empty l mem)
  rcases List.append_eq_append_iff.1 whole with ⟨mid, rfl, rfl⟩ | ⟨mid, rfl, rfl⟩
  · rw [List.flatMap_append, List.self_eq_append_right] at texts
    have inside : ∀ l ∈ mid, l ∈ ls ++ (mid ++ rest') := fun l mem =>
      List.mem_append_right ls (List.mem_append_left rest' mem)
    rw [nothing inside texts, List.append_nil]
  · rw [List.flatMap_append, List.append_right_eq_self] at texts
    have inside : ∀ l ∈ mid, l ∈ ls' ++ mid ++ rest := fun l mem =>
      List.mem_append_left rest (List.mem_append_right ls' mem)
    rw [nothing inside texts, List.append_nil]

end Lexeme

/-! ### What the reports name -/

/-- The text that a report names as the next lexeme, if it does. -/
def Diagnostic.passed : Diagnostic → List Char
  | playing t .. => t.text
  | dropping text .unknownCommand => text
  | _ => []

namespace Transcript

variable {ε α β σ : Type}

/-- The text that the reports of a computation name, lexeme by lexeme. -/
def passed (t : Transcript Diagnostic ε α) : List Char :=
  t.out.toList.flatMap Diagnostic.passed

/-- Whether a computation names a text: all of it, or a front part if it fails. -/
def Passes (t : Transcript Diagnostic ε α) (text : List Char) : Prop :=
  t.passed <+: text ∧ ∀ a, t.result = .ok a → t.passed = text

theorem Passes.of_eq {t : Transcript Diagnostic ε α} {text : List Char} (names : t.passed = text) :
    t.Passes text :=
  ⟨names ▸ List.prefix_refl text, fun _ _ => names⟩

theorem Passes.ofExcept (r : Except ε α) : (ofExcept r : Transcript Diagnostic ε α).Passes [] :=
  .of_eq rfl

theorem Passes.bind {t : Transcript Diagnostic ε α} {f : α → Transcript Diagnostic ε β}
    {text text' : List Char} (first : t.Passes text) (rest : ∀ a, (f a).Passes text') :
    (t >>= f).Passes (text ++ text') := by
  obtain ⟨front, whole⟩ := first
  obtain ⟨out, e | a⟩ := t
  · exact ⟨front.trans (List.prefix_append ..), fun a ends => nomatch ends⟩
  · have names : passed (⟨out, .ok a⟩ >>= f : Transcript Diagnostic ε β) =
        text ++ (f a).passed := by
      rw [← whole a rfl, bind_ok, passed, Array.toList_append, List.flatMap_append]
      rfl
    obtain ⟨front', whole'⟩ := rest a
    refine ⟨?_, fun b ends => ?_⟩
    · rw [names]
      exact (List.prefix_append_right_inj text).2 front'
    · rw [names, whole' b ends]

/-- A run over a list names what its steps name. -/
theorem Passes.run {step : σ → α → Transcript Diagnostic ε σ} {view : α → List Char}
    (each : ∀ s a, (step s a).Passes (view a)) (s : σ) (l : List α) :
    (run step s l).Passes (l.flatMap view) := by
  induction l generalizing s with
  | nil => exact .of_eq rfl
  | cons a l ih =>
    rw [run_cons]
    exact (each s a).bind ih

end Transcript

theorem Token.unknownCommand_not_mem_defects (t : Token) (highest : Nat) :
    Defect.unknownCommand ∉ t.defects highest := by
  have other {condition : Bool} {d : Defect} (differs : d ≠ .unknownCommand) :
      Defect.unknownCommand ∉ defectIf condition d := by
    cases condition <;> simp [defectIf, differs.symm]
  have keys : Defect.unknownCommand ∉ t.keyDefects highest := by
    unfold keyDefects
    split
    · exact other (by decide)
    · decide
  unfold defects
  cases t.command <;> simp [timeDefects, lengthDefects, other, keys]

/-- Defects of a token name no lexeme of their own. -/
theorem Policy.passes_forM_handle (p : Policy) (text : List Char) {ds : List Defect}
    (known : .unknownCommand ∉ ds) : (ds.forM (p.handle text)).Passes [] := by
  induction ds with
  | nil => exact .of_eq rfl
  | cons d ds ih =>
    obtain ⟨first, rest⟩ := not_or.1 (mt List.mem_cons.2 known)
    have names : (p.handle text d).passed = [] := by
      cases p with
      | strict => rfl
      | lenient =>
        cases d with
        | unknownCommand => exact (first rfl).elim
        | _ => rfl
    exact Transcript.Passes.bind (.of_eq names) fun _ => ih rest

/-- A lexeme that is passed is named. -/
theorem VoiceState.passes_step (p : Policy) (c : Setting) (s : VoiceState) (l : Lexeme) :
    (s.step p c l).Passes l.text := by
  cases l with
  | token t =>
    have announced : (Transcript.say (s.announce t) : Compilation Unit).Passes t.text :=
      .of_eq (List.append_nil _)
    have defects := p.passes_forM_handle t.text (t.unknownCommand_not_mem_defects c.range.highest)
    have loose : (Transcript.sayAll (if s.isLooseTie t then #[.looseTie] else #[]) :
        Compilation Unit).Passes [] := by
      split <;> exact .of_eq rfl
    have played := announced.bind fun _ => defects.bind fun _ => loose.bind fun _ =>
      Transcript.Passes.ofExcept (s.apply c t)
    rwa [List.append_nil, List.append_nil, List.append_nil] at played
  | unknown text =>
    cases p with
    | lenient => exact .of_eq (List.append_nil _)
    | strict => exact ⟨List.nil_prefix, fun a ends => nomatch ends⟩

/-- The reports of a compilation name the text of the voice, as far as it is compiled. -/
theorem Transcript.passes_compileVoice (p : Policy) (c : Setting) (voice : String) (start : Nat) :
    (compileVoice p c voice start).Passes (visible voice) := by
  have run := Passes.run (VoiceState.passes_step p c) { time := start } (Lexeme.ofVoice voice)
  have compiles := run.bind fun s => Passes.ofExcept (s.finish c)
  rwa [List.append_nil, Lexeme.ofVoice, Lexeme.ofText_text] at compiles

/-! ### Whole voices -/

/-- A voice can be cut before a command. -/
theorem Lexeme.ofVoice_append (voice : String) {behind : String}
    (opens : ∀ ch ∈ (visible behind).head?, ch ∈ Command.chars) :
    ofVoice (voice ++ behind) = ofVoice voice ++ ofVoice behind := by
  have nothing : (split (unblank behind.toList)).1 = [] := split_eq_nil_of_head? opens
  rw [ofVoice, String.toList_append, unblank_append, ofText_append nothing]
  rfl

/-- **A voice falls apart at its commands.**  Its lexemes make up its text, and the reports of a
compilation name this text as far as it is compiled.  Each command in the text opens a token of its
own; a token holds its command and no other, and unknown text is some text without commands.  So
what stands behind a cut before a command is played from the state that is reached at the cut. -/
theorem ofVoice_partition (voice : String) :
    (Lexeme.ofVoice voice).flatMap Lexeme.text = visible voice ∧
    (∀ p c start, (compileVoice p c voice start).passed <+: visible voice ∧
      ∀ track, (compileVoice p c voice start).result = .ok track →
        (compileVoice p c voice start).passed = visible voice) ∧
    (∀ before ch after, visible voice = before ++ ch :: after → ch ∈ Command.chars →
      ∃! ls, ∃ t rest, Lexeme.ofVoice voice = ls ++ .token t :: rest ∧
        ls.flatMap Lexeme.text = before ∧ t.head = ch ∧
        ∀ t' : Token, t'.WellFormed → t'.text <+: ch :: after → t'.text <+: t.text) ∧
    (∀ t, .token t ∈ Lexeme.ofVoice voice → t.WellFormed ∧ t.head ∈ Command.chars ∧
      ∃ body, t.text = t.head :: body ∧ ∀ ch ∈ body, ch ∉ Command.chars) ∧
    (∀ text, .unknown text ∈ Lexeme.ofVoice voice → text ≠ [] ∧ ∀ ch ∈ text, ch ∉ Command.chars) ∧
    ∀ behind : String, (∀ ch ∈ (visible behind).head?, ch ∈ Command.chars) →
      ∀ p c s, Transcript.run (VoiceState.step p c) s (Lexeme.ofVoice (voice ++ behind)) =
        Transcript.run (VoiceState.step p c) s (Lexeme.ofVoice voice) >>= fun s' =>
          Transcript.run (VoiceState.step p c) s' (Lexeme.ofVoice behind) := by
  refine ⟨Lexeme.ofText_text _, fun p c start => Transcript.passes_compileVoice p c voice start,
    ?_, ?_, ?_, ?_⟩
  · intro before ch after text command
    obtain ⟨command, stands⟩ := Command.mem_chars_iff.1 command
    obtain ⟨t, rest, parts, opened⟩ := Lexeme.exists_token_of_command stands before after
    rw [← text] at parts
    refine ⟨Lexeme.ofText before, ⟨t, rest, parts, Lexeme.ofText_text before, opened⟩, ?_⟩
    rintro ls ⟨t', rest', parts', texts, -⟩
    refine Lexeme.eq_of_flatMap_text_eq (fun l mem => ?_) (parts'.symm.trans parts)
      (texts.trans (Lexeme.ofText_text before).symm)
    exact Lexeme.text_ne_nil (parts' ▸ mem)
  · intro t mem
    have formed : t.WellFormed := wellFormed_of_mem_tokensOf (mem_tokensOf_iff.2 mem)
    exact ⟨formed, Command.mem_chars_iff.2 ⟨_, formed.head⟩, t.body, t.text_eq_cons, fun ch mem =>
      Command.not_mem_chars (formed.ofChar?_of_mem_body ch mem)⟩
  · intro text mem
    obtain ⟨some, others⟩ := Lexeme.of_unknown_mem_ofText mem
    exact ⟨some, fun ch inside => Command.not_mem_chars (others ch inside)⟩
  · intro behind opens p c s
    rw [Lexeme.ofVoice_append voice opens, Transcript.run_append]

/-- A note whose number and tie are split by blanks, between text that belongs to no token, and a
cut before a rest. -/
theorem ofVoice_partition_aNote :
    visible "x c+1 6 &&" = ['x'] ++ 'c' :: ['+', '1', '6', '&', '&'] ∧
      'c' ∈ Command.chars ∧ (∀ ch ∈ (visible "\n r8.").head?, ch ∈ Command.chars) ∧
      (∃! ls, ∃ t rest, Lexeme.ofVoice "x c+1 6 &&" = ls ++ .token t :: rest ∧
        ls.flatMap Lexeme.text = ['x'] ∧ t.head = 'c' ∧
        ∀ t' : Token, t'.WellFormed → t'.text <+: ['c', '+', '1', '6', '&', '&'] →
          t'.text <+: t.text) ∧
      Transcript.run (VoiceState.step .lenient ⟨⟨0⟩, .standard⟩) { time := 0 }
          (Lexeme.ofVoice ("x c+1 6 &&" ++ "\n r8.")) =
        Transcript.run (VoiceState.step .lenient ⟨⟨0⟩, .standard⟩) { time := 0 }
          (Lexeme.ofVoice "x c+1 6 &&") >>= fun s =>
            Transcript.run (VoiceState.step .lenient ⟨⟨0⟩, .standard⟩) s
              (Lexeme.ofVoice "\n r8.") := by
  obtain ⟨-, -, opened, -, -, cut⟩ := ofVoice_partition "x c+1 6 &&"
  have text : visible "x c+1 6 &&" = ['x'] ++ 'c' :: ['+', '1', '6', '&', '&'] := by
    decide +kernel
  have opens : ∀ ch ∈ (visible "\n r8.").head?, ch ∈ Command.chars := by
    have first : (visible "\n r8.").head? = some 'r' := by decide +kernel
    rw [first]
    rintro ch ⟨⟩
    decide
  exact ⟨text, by decide, opens, opened _ _ _ text (by decide), cut _ opens _ _ _⟩

example : (Lexeme.ofVoice "x c+1 6 &&").map Lexeme.text =
    [['x'], ['c', '+', '1', '6', '&'], ['&']] := by
  decide +kernel

end MusicMacro
