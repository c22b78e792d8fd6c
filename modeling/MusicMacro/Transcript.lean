/-!
# Transcripts

A transcript is a computation that may fail, together with everything it put out on the way: what
came out before a failure is kept.  Reports of a compiler and the pieces of a file on their way to a
sink are both transcripts.

Transcripts form a lawful monad.  `run` walks a list from the left, and `run_eq_foldlM` says that it
is the monadic fold; `result_bind` and `result_run` say that the result never depends on the output.
-/

namespace MusicMacro

theorem except_bind_eq_ok_iff {ε α β : Type} {x : Except ε α} {f : α → Except ε β} {b : β} :
    x >>= f = .ok b ↔ ∃ a, x = .ok a ∧ f a = .ok b := by
  rcases x with e | a
  · constructor
    · intro h
      cases h
    · rintro ⟨a, h, -⟩
      cases h
  · constructor
    · intro h
      exact ⟨a, rfl, h⟩
    · rintro ⟨a', h, h'⟩
      cases h
      exact h'

/-- What a computation put out, in order, and how it ended. -/
structure Transcript (ω ε α : Type) where
  /-- Everything that was put out, in order. -/
  out : Array ω
  /-- The value of the computation, or its failure. -/
  result : Except ε α

namespace Transcript

variable {ω ε α β σ : Type}

@[ext]
protected theorem ext {t u : Transcript ω ε α} (out : t.out = u.out)
    (result : t.result = u.result) : t = u := by
  cases t
  cases u
  simp_all

/-- Goes on with `f` after a success, putting its output after that of `t`. -/
protected def bind (t : Transcript ω ε α) (f : α → Transcript ω ε β) : Transcript ω ε β :=
  match t with
  | ⟨out, .ok a⟩ =>
    let u := f a
    ⟨out ++ u.out, u.result⟩
  | ⟨out, .error e⟩ => ⟨out, .error e⟩

instance : Monad (Transcript ω ε) where
  pure a := ⟨#[], .ok a⟩
  bind := Transcript.bind

/-- Puts out one item. -/
def say (x : ω) : Transcript ω ε Unit :=
  ⟨#[x], .ok ()⟩

/-- Puts out several items. -/
def sayAll (out : Array ω) : Transcript ω ε Unit :=
  ⟨out, .ok ()⟩

/-- Fails without output. -/
def fail (e : ε) : Transcript ω ε α :=
  ⟨#[], .error e⟩

/-- A result without output. -/
def ofExcept (r : Except ε α) : Transcript ω ε α :=
  ⟨#[], r⟩

/-- Replaces the failure, if there is one, and keeps the output. -/
def mapError {δ : Type} (f : ε → δ) (t : Transcript ω ε α) : Transcript ω δ α :=
  ⟨t.out, t.result.mapError f⟩

/-- Replaces every item of the output and keeps the result. -/
def mapOut {χ : Type} (f : ω → χ) (t : Transcript ω ε α) : Transcript χ ε α :=
  ⟨t.out.map f, t.result⟩

/-- Takes one step for each element, from the left, until one fails. -/
def run (step : σ → α → Transcript ω ε σ) (s : σ) (l : List α) : Transcript ω ε σ :=
  l.foldl (fun t a => t >>= (step · a)) (pure s)

/-! ### Laws -/

@[simp]
theorem out_pure (a : α) : (pure a : Transcript ω ε α).out = #[] := rfl

@[simp]
theorem result_pure (a : α) : (pure a : Transcript ω ε α).result = .ok a := rfl

theorem bind_ok (out : Array ω) (a : α) (f : α → Transcript ω ε β) :
    (⟨out, .ok a⟩ : Transcript ω ε α) >>= f = ⟨out ++ (f a).out, (f a).result⟩ := rfl

theorem bind_error (out : Array ω) (e : ε) (f : α → Transcript ω ε β) :
    (⟨out, .error e⟩ : Transcript ω ε α) >>= f = ⟨out, .error e⟩ := rfl

@[simp]
theorem result_bind (t : Transcript ω ε α) (f : α → Transcript ω ε β) :
    (t >>= f).result = t.result >>= fun a => (f a).result := by
  obtain ⟨out, e | a⟩ := t <;> rfl

theorem bind_of_ok {t : Transcript ω ε α} {a : α} (ends : t.result = .ok a)
    (f : α → Transcript ω ε β) : t >>= f = ⟨t.out ++ (f a).out, (f a).result⟩ := by
  obtain ⟨out, r⟩ := t
  cases ends
  rfl

theorem bind_of_error {t : Transcript ω ε α} {e : ε} (ends : t.result = .error e)
    (f : α → Transcript ω ε β) : t >>= f = ⟨t.out, .error e⟩ := by
  obtain ⟨out, r⟩ := t
  cases ends
  rfl

theorem say_bind (x : ω) (f : Unit → Transcript ω ε β) :
    say x >>= f = ⟨#[x] ++ (f ()).out, (f ()).result⟩ := rfl

theorem sayAll_bind (out : Array ω) (f : Unit → Transcript ω ε β) :
    sayAll out >>= f = ⟨out ++ (f ()).out, (f ()).result⟩ := rfl

theorem ofExcept_ok_bind (a : α) (f : α → Transcript ω ε β) : ofExcept (.ok a) >>= f = f a :=
  Transcript.ext (Array.empty_append ..) rfl

instance : LawfulMonad (Transcript ω ε) :=
  .mk' _
    (by rintro α ⟨out, e | a⟩ <;> exact Transcript.ext (Array.append_empty ..) rfl)
    (by intro α β a f; exact Transcript.ext (Array.empty_append ..) rfl)
    (by
      rintro α β γ ⟨out, e | a⟩ f g
      · rfl
      · simp only [bind_ok]
        rcases h : f a with ⟨out', e | b⟩
        · simp [bind_error]
        · simp [bind_ok])

theorem run_eq_foldlM (step : σ → α → Transcript ω ε σ) (s : σ) (l : List α) :
    run step s l = l.foldlM step s := by
  have push (t : Transcript ω ε σ) :
      l.foldl (fun t a => t >>= (step · a)) t = t >>= fun s => l.foldlM step s := by
    induction l generalizing t with
    | nil => simp
    | cons a l ih => simp [ih]
  rw [run, push, pure_bind]

@[simp]
theorem run_nil (step : σ → α → Transcript ω ε σ) (s : σ) : run step s [] = pure s := rfl

@[simp]
theorem run_cons (step : σ → α → Transcript ω ε σ) (s : σ) (a : α) (l : List α) :
    run step s (a :: l) = step s a >>= fun s => run step s l := by
  simp only [run_eq_foldlM, List.foldlM_cons]

theorem run_append (step : σ → α → Transcript ω ε σ) (s : σ) (l l' : List α) :
    run step s (l ++ l') = run step s l >>= fun s => run step s l' := by
  simp only [run_eq_foldlM, List.foldlM_append]

theorem result_run (step : σ → α → Transcript ω ε σ) (s : σ) (l : List α) :
    (run step s l).result = l.foldlM (fun s a => (step s a).result) s := by
  rw [run_eq_foldlM]
  induction l generalizing s with
  | nil => rfl
  | cons a l ih => simp [ih]

end Transcript

end MusicMacro
