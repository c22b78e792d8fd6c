import MusicMacro.Proofs.Voice.Result

/-!
# Dropping instead of failing

What the strict policy fails on is what the lenient one drops.  `Transcript.untilDrop` is the result
of a computation if the first drop that it reports is a failure, and for a voice under the lenient
policy this is the result under the strict one (`untilDrop_compileVoice`).

Every drop is counted with the voices that became tracks before it, from which the place of a drop
in a conversion can be told.  A voice alone reports no track.
-/

namespace MusicMacro

/-! ### Drops among reports -/

/-- The drops among reports, in order, each with the number of voices that became tracks before it,
of which the first `finished` did so before these reports. -/
def dropsFrom (finished : Nat) : List Diagnostic → List (Nat × Defect)
  | [] => []
  | .dropping _ d :: rest => (finished, d) :: dropsFrom finished rest
  | .compiled .. :: rest => dropsFrom (finished + 1) rest
  | _ :: rest => dropsFrom finished rest

/-- Whether a report says that a voice became a track. -/
def Diagnostic.isCompiled : Diagnostic → Bool
  | compiled .. => true
  | _ => false

theorem dropsFrom_append (n : Nat) (l l' : List Diagnostic) :
    dropsFrom n (l ++ l') =
      dropsFrom n l ++ dropsFrom (n + l.countP Diagnostic.isCompiled) l' := by
  induction l generalizing n with
  | nil => rfl
  | cons x l ih =>
    cases x with
    | dropping text d => exact congrArg (List.cons (n, d)) (ih n)
    | compiled channel events =>
      have count : n + (Diagnostic.compiled channel events :: l).countP Diagnostic.isCompiled =
          n + 1 + l.countP Diagnostic.isCompiled := by
        rw [List.countP_cons_of_pos rfl]
        omega
      rw [count]
      exact ih (n + 1)
    | _ => exact ih n

/-- Drops before the next track all have the same number of tracks before them. -/
theorem eq_of_mem_dropsFrom {n : Nat} {l : List Diagnostic}
    (quiet : l.countP Diagnostic.isCompiled = 0) {x : Nat × Defect} (mem : x ∈ dropsFrom n l) :
    x.1 = n := by
  induction l with
  | nil => cases mem
  | cons y l ih =>
    have rest : l.countP Diagnostic.isCompiled = 0 :=
      Nat.eq_zero_of_le_zero (quiet ▸ (List.sublist_cons_self y l).countP_le)
    cases y with
    | dropping text d =>
      rcases List.mem_cons.1 mem with rfl | mem
      · rfl
      · exact ih rest mem
    | compiled channel events =>
      rw [List.countP_cons_of_pos rfl] at quiet
      cases quiet
    | _ => exact ih rest mem

theorem exists_of_mem_dropsFrom {n : Nat} {l : List Diagnostic} {x : Nat × Defect}
    (mem : x ∈ dropsFrom n l) : ∃ skipped, .dropping skipped x.2 ∈ l := by
  induction l generalizing n with
  | nil => cases mem
  | cons y l ih =>
    have rest (mem : ∃ m, x ∈ dropsFrom m l) : ∃ skipped, .dropping skipped x.2 ∈ y :: l := by
      obtain ⟨m, mem⟩ := mem
      obtain ⟨skipped, mem⟩ := ih mem
      exact ⟨skipped, List.mem_cons_of_mem _ mem⟩
    cases y with
    | dropping text d =>
      rcases List.mem_cons.1 mem with rfl | mem
      · exact ⟨text, List.mem_cons_self⟩
      · exact rest ⟨n, mem⟩
    | compiled channel events => exact rest ⟨n + 1, mem⟩
    | _ => exact rest ⟨n, mem⟩

/-! ### Failing at the first drop -/

namespace Transcript

variable {ε δ α β σ : Type}

/-- The voices that became tracks during a computation. -/
def finished (t : Transcript Diagnostic ε α) : Nat :=
  t.out.toList.countP Diagnostic.isCompiled

/-- The drops in a computation, each with the number of voices that became tracks before it, of
which `n` did so before the computation. -/
def drops (n : Nat) (t : Transcript Diagnostic ε α) : List (Nat × Defect) :=
  dropsFrom n t.out.toList

/-- The result of a computation if its first drop is a failure, which depends on the defect and on
the number of tracks before it. -/
def untilDrop (fail : Nat → Defect → ε) (n : Nat) (t : Transcript Diagnostic ε α) : Except ε α :=
  match t.drops n with
  | [] => t.result
  | (k, d) :: _ => .error (fail k d)

section

variable {fail : Nat → Defect → ε} {n m : Nat}

theorem untilDrop_bind {t : Transcript Diagnostic ε α}
    (count : ∀ a, t.result = .ok a → t.finished = m) (f : α → Transcript Diagnostic ε β) :
    (t >>= f).untilDrop fail n =
      t.untilDrop fail n >>= fun a => (f a).untilDrop fail (n + m) := by
  obtain ⟨out, e | a⟩ := t
  · rw [bind_error]
    unfold untilDrop drops
    cases dropsFrom n out.toList <;> rfl
  · have tracks : out.toList.countP Diagnostic.isCompiled = m := count a rfl
    rw [bind_ok]
    unfold untilDrop drops
    simp only [Array.toList_append, dropsFrom_append, tracks]
    cases dropsFrom n out.toList <;> rfl

theorem mem_drops_bind {t : Transcript Diagnostic ε α}
    (count : ∀ a, t.result = .ok a → t.finished = m) {f : α → Transcript Diagnostic ε β}
    {x : Nat × Defect} (mem : x ∈ (t >>= f).drops n) :
    x ∈ t.drops n ∨ ∃ a, t.result = .ok a ∧ x ∈ (f a).drops (n + m) := by
  obtain ⟨out, e | a⟩ := t
  · exact .inl mem
  · have tracks : out.toList.countP Diagnostic.isCompiled = m := count a rfl
    rw [bind_ok, drops, Array.toList_append, dropsFrom_append, tracks] at mem
    exact (List.mem_append.1 mem).imp_right fun mem => ⟨a, rfl, mem⟩

theorem untilDrop_ofExcept_bind (r : Except ε α) (f : α → Transcript Diagnostic ε β) :
    (ofExcept r >>= f).untilDrop fail n = r >>= fun a => (f a).untilDrop fail n :=
  untilDrop_bind (fun _ _ => rfl) f

theorem mem_drops_ofExcept_bind {r : Except ε α} {f : α → Transcript Diagnostic ε β}
    {x : Nat × Defect} (mem : x ∈ (ofExcept r >>= f).drops n) :
    ∃ a, r = .ok a ∧ x ∈ (f a).drops n := by
  rcases mem_drops_bind (fun _ _ => rfl) mem with mem | later
  · cases mem
  · exact later

theorem untilDrop_mapError {fail' : Nat → Defect → δ} {t : Transcript Diagnostic ε α}
    (quiet : t.finished = 0) {g : ε → δ} (same : ∀ d, fail' n d = g (fail n d)) :
    (t.mapError g).untilDrop fail' n = (t.untilDrop fail n).mapError g := by
  unfold untilDrop mapError drops
  cases all : dropsFrom n t.out.toList with
  | nil => rfl
  | cons x rest =>
    obtain ⟨k, d⟩ := x
    have here : k = n := eq_of_mem_dropsFrom quiet (all ▸ List.mem_cons_self)
    rw [here]
    exact congrArg Except.error (same d)

end

/-! ### Counting tracks -/

theorem finished_bind_of_ok {t : Transcript Diagnostic ε α} {a : α} (ends : t.result = .ok a)
    (f : α → Transcript Diagnostic ε β) : (t >>= f).finished = t.finished + (f a).finished := by
  rw [bind_of_ok ends, finished, Array.toList_append, List.countP_append]
  rfl

theorem finished_bind_eq_zero {t : Transcript Diagnostic ε α} (quiet : t.finished = 0)
    {f : α → Transcript Diagnostic ε β} (quiet' : ∀ a, (f a).finished = 0) :
    (t >>= f).finished = 0 := by
  obtain ⟨out, e | a⟩ := t
  · exact quiet
  · rw [finished_bind_of_ok rfl, quiet, quiet' a]

theorem finished_run_eq_zero {step : σ → α → Transcript Diagnostic ε σ}
    (quiet : ∀ s a, (step s a).finished = 0) (s : σ) (l : List α) :
    (run step s l).finished = 0 := by
  induction l generalizing s with
  | nil => rfl
  | cons a l ih =>
    rw [run_cons]
    exact finished_bind_eq_zero (quiet s a) ih

/-! ### Traversals -/

section

variable {fail : Nat → Defect → ε} {n m : Nat} {f : α × Nat → Transcript Diagnostic ε β}
  (count : ∀ x b, (f x).result = .ok b → (f x).finished = m)

include count in
theorem finished_mapM {l : List (α × Nat)} {bs : List β} (ends : (l.mapM f).result = .ok bs) :
    (l.mapM f).finished = m * l.length := by
  induction l generalizing bs with
  | nil => rfl
  | cons x l ih =>
    rw [List.mapM_cons] at ends ⊢
    rw [result_bind, except_bind_eq_ok_iff] at ends
    obtain ⟨b, first, ends⟩ := ends
    rw [result_bind, except_bind_eq_ok_iff] at ends
    obtain ⟨bs', rest, -⟩ := ends
    rw [finished_bind_of_ok first, finished_bind_of_ok rest, count x b first, ih rest,
      List.length_cons, Nat.mul_succ, Nat.add_comm]
    rfl

include count in
/-- Where element `i` of a traversal has `m * i` tracks before it, the first drop is a failure of
the traversal if it is one of the element in which it occurs. -/
theorem untilDrop_mapM {g : α × Nat → Transcript Diagnostic ε β} (l : List α) (k : Nat)
    (each : ∀ x ∈ l.zipIdx k, (f x).untilDrop fail (n + m * x.2) = (g x).result) :
    ((l.zipIdx k).mapM f).untilDrop fail (n + m * k) = ((l.zipIdx k).mapM g).result := by
  induction l generalizing k with
  | nil => rfl
  | cons a l ih =>
    rw [List.zipIdx_cons] at each ⊢
    obtain ⟨first, rest⟩ := List.forall_mem_cons.1 each
    have next : n + m * k + m = n + m * (k + 1) := by rw [Nat.mul_succ, Nat.add_assoc]
    rw [List.mapM_cons, List.mapM_cons, untilDrop_bind (count _), result_bind, first]
    simp only [next, untilDrop_bind fun _ _ => rfl, result_bind, ih (k + 1) rest]
    rfl

include count in
/-- A drop in a traversal is one in an element, behind the tracks of the elements before it. -/
theorem mem_drops_mapM {l : List α} {k : Nat} {x : Nat × Defect}
    (mem : x ∈ ((l.zipIdx k).mapM f).drops (n + m * k)) :
    ∃ y ∈ l.zipIdx k, x ∈ (f y).drops (n + m * y.2) := by
  induction l generalizing k with
  | nil => cases mem
  | cons a l ih =>
    have next : n + m * k + m = n + m * (k + 1) := by rw [Nat.mul_succ, Nat.add_assoc]
    rw [List.zipIdx_cons, List.mapM_cons] at mem
    rcases mem_drops_bind (count _) mem with mem | ⟨b, -, mem⟩
    · exact ⟨_, List.mem_cons_self, mem⟩
    · rcases mem_drops_bind (fun _ _ => rfl) mem with mem | ⟨bs, -, mem⟩
      · rw [next] at mem
        obtain ⟨y, mem, mem'⟩ := ih mem
        exact ⟨y, List.mem_cons_of_mem _ mem, mem'⟩
      · cases mem

end

end Transcript

/-! ### Voices -/

/-- The failure of a voice that a drop is. -/
def VoiceFault.ofDrop (_ : Nat) (d : Defect) : VoiceFault :=
  .malformed d

namespace Policy

theorem untilDrop_handle (n : Nat) (text : List Char) (d : Defect) :
    (lenient.handle text d).untilDrop .ofDrop n = .error (.malformed d) := rfl

theorem untilDrop_forM_handle (n : Nat) (text : List Char) (ds : List Defect) :
    (ds.forM (lenient.handle text)).untilDrop .ofDrop n = strict.judge ds := by
  cases ds with
  | nil => rfl
  | cons d ds =>
    rw [List.forM, Transcript.untilDrop_bind fun _ _ => rfl, untilDrop_handle]
    rfl

theorem finished_forM_handle (p : Policy) (text : List Char) (ds : List Defect) :
    (ds.forM (p.handle text)).finished = 0 := by
  induction ds with
  | nil => rfl
  | cons d ds ih =>
    have quiet : (p.handle text d).finished = 0 := by cases p <;> rfl
    exact Transcript.finished_bind_eq_zero quiet fun _ => ih

end Policy

namespace VoiceState

theorem untilDrop_step (c : Setting) (s : VoiceState) (l : Lexeme) (n : Nat) :
    (s.step .lenient c l).untilDrop .ofDrop n = (s.step .strict c l).result := by
  rw [result_step]
  cases l with
  | token t =>
    -- A loose tie is reported, but drops nothing.
    have played (m : Nat) :
        (Transcript.sayAll (if s.isLooseTie t then #[.looseTie] else #[]) >>= fun _ =>
            (Transcript.ofExcept (s.apply c t) : Compilation VoiceState)).untilDrop .ofDrop m =
          s.apply c t := by
      split <;> rfl
    unfold step stepToken
    rw [Transcript.untilDrop_bind fun _ _ => rfl, Transcript.untilDrop_bind fun _ _ => rfl,
      Policy.untilDrop_forM_handle]
    simp only [played]
    rfl
  | unknown text => rfl

theorem finished_step (p : Policy) (c : Setting) (s : VoiceState) (l : Lexeme) :
    (s.step p c l).finished = 0 := by
  cases l with
  | token t =>
    refine Transcript.finished_bind_eq_zero rfl fun _ =>
      Transcript.finished_bind_eq_zero (p.finished_forM_handle _ _) fun _ =>
        Transcript.finished_bind_eq_zero ?_ fun _ => rfl
    split <;> rfl
  | unknown text => cases p <;> rfl

/-- Lexeme by lexeme, the strict policy fails on the first drop of the lenient one. -/
theorem untilDrop_run (c : Setting) (s : VoiceState) (ls : List Lexeme) (n : Nat) :
    (Transcript.run (step .lenient c) s ls).untilDrop .ofDrop n =
      (Transcript.run (step .strict c) s ls).result := by
  induction ls generalizing s n with
  | nil => rfl
  | cons l ls ih =>
    rw [Transcript.run_cons, Transcript.run_cons, Transcript.result_bind,
      Transcript.untilDrop_bind fun _ _ => rfl, untilDrop_step]
    simp only [ih]

end VoiceState

/-- The strict policy makes of a voice what the lenient one does up to its first drop. -/
theorem untilDrop_compileVoice (c : Setting) (voice : String) (start n : Nat) :
    (compileVoice .lenient c voice start).untilDrop .ofDrop n =
      (compileVoice .strict c voice start).result := by
  unfold compileVoice
  rw [Transcript.untilDrop_bind fun _ _ => rfl, VoiceState.untilDrop_run, Transcript.result_bind]
  rfl

theorem finished_compileVoice (p : Policy) (c : Setting) (voice : String) (start : Nat) :
    (compileVoice p c voice start).finished = 0 := by
  have quiet := Transcript.finished_run_eq_zero (VoiceState.finished_step p c)
    { time := start } (Lexeme.ofVoice voice)
  exact Transcript.finished_bind_eq_zero quiet fun _ => rfl

end MusicMacro
