import MusicMacro.Transcript
import Mathlib.Data.List.Basic

/-!
# Results and faults

The result of a traversal of a list is the traversal of the results (`Transcript.result_mapM`), so
what a transcript puts out can be left aside where only its result matters.  A traversal fails as
the first of its elements that fails (`faultOf_mapM`), and where only its values matter it is the
same for steps with the same values (`except_toOption_mapM`).
-/

namespace MusicMacro

variable {ω ε δ α β γ : Type}

theorem except_ok_bind (a : α) (f : α → Except ε β) : (.ok a : Except ε α) >>= f = f a := rfl

theorem except_error_bind (e : ε) (f : α → Except ε β) :
    (.error e : Except ε α) >>= f = .error e := rfl

theorem except_bind_eq_error_iff {x : Except ε α} {f : α → Except ε β} {e : ε} :
    x >>= f = .error e ↔ x = .error e ∨ ∃ a, x = .ok a ∧ f a = .error e := by
  cases x <;> simp [except_ok_bind, except_error_bind]

theorem except_map_eq_ok_iff {g : α → β} {x : Except ε α} {b : β} :
    x.map g = .ok b ↔ ∃ a, x = .ok a ∧ g a = b := by
  cases x <;> simp [Except.map]

theorem except_map_bind (g : α → β) (x : Except ε α) (f : β → Except ε γ) :
    x.map g >>= f = x >>= fun a => f (g a) := by
  cases x <;> rfl

theorem except_bind_map (g : β → γ) (x : Except ε α) (f : α → Except ε β) :
    (x >>= f).map g = x >>= fun a => (f a).map g := by
  cases x <;> rfl

theorem except_mapError_eq_ok_iff {g : ε → δ} {x : Except ε α} {a : α} :
    x.mapError g = .ok a ↔ x = .ok a := by
  cases x <;> simp [Except.mapError]

theorem except_mapError_eq_error_iff {g : ε → δ} {x : Except ε α} {e : δ} :
    x.mapError g = .error e ↔ ∃ e', x = .error e' ∧ g e' = e := by
  cases x <;> simp [Except.mapError]

/-! ### Results -/

namespace Transcript

theorem result_ofExcept (r : Except ε α) : (ofExcept r : Transcript ω ε α).result = r := rfl

theorem result_say (x : ω) : (say x : Transcript ω ε Unit).result = .ok () := rfl

theorem result_sayAll (out : Array ω) : (sayAll out : Transcript ω ε Unit).result = .ok () := rfl

theorem mapError_bind (g : ε → δ) (t : Transcript ω ε α) (f : α → Transcript ω ε β) :
    (t >>= f).mapError g = t.mapError g >>= fun a => (f a).mapError g := by
  obtain ⟨out, e | a⟩ := t <;> rfl

/-- The result of a traversal does not depend on what is put out. -/
theorem result_mapM (f : α → Transcript ω ε β) (l : List α) :
    (l.mapM f).result = l.mapM fun a => (f a).result := by
  induction l with
  | nil => rfl
  | cons a l ih =>
    simp only [List.mapM_cons, result_bind, ih, result_pure]
    rfl

end Transcript

/-! ### Faults -/

/-- The fault of a computation, if it fails. -/
def faultOf : Except ε α → Option ε
  | .error e => some e
  | .ok _ => none

theorem faultOf_eq_some_iff {x : Except ε α} {e : ε} : faultOf x = some e ↔ x = .error e := by
  cases x <;> simp [faultOf]

theorem faultOf_eq_none_iff {x : Except ε α} : faultOf x = none ↔ ∃ a, x = .ok a := by
  cases x <;> simp [faultOf]

/-- Where what follows a success has one and the same fault, the first of the two counts. -/
theorem faultOf_bind {x : Except ε α} {f : α → Except ε β} {e : Option ε}
    (follows : ∀ a, x = .ok a → faultOf (f a) = e) :
    faultOf (x >>= f) = (faultOf x).or e := by
  cases x with
  | error e => rfl
  | ok a => exact follows a rfl

/-- A traversal has the fault of the first element that has one. -/
theorem faultOf_mapM (f : α → Except ε β) (l : List α) :
    faultOf (l.mapM f) = l.findSome? fun a => faultOf (f a) := by
  induction l with
  | nil => rfl
  | cons a l ih =>
    rw [List.mapM_cons, List.findSome?_cons]
    cases first : f a with
    | error e => rfl
    | ok b =>
      have rest : faultOf (l.mapM f >>= fun bs => (pure (b :: bs) : Except ε (List β))) =
          faultOf (l.mapM f) := by
        cases l.mapM f <;> rfl
      exact rest.trans ih

/-! ### Values -/

theorem except_toOption_eq_some_iff {x : Except ε α} {a : α} :
    x.toOption = some a ↔ x = .ok a := by
  cases x <;> simp [Except.toOption]

theorem except_toOption_bind (x : Except ε α) (f : α → Except ε β) :
    (x >>= f).toOption = x.toOption.bind fun a => (f a).toOption := by
  cases x <;> rfl

theorem except_toOption_map (g : α → β) (x : Except ε α) :
    (x.map g).toOption = x.toOption.map g := by
  cases x <;> rfl

/-- Where two steps give corresponding values or none, so do the traversals with them. -/
theorem except_toOption_mapM {f : α → Except ε β} {f' : α → Except δ γ} {g : γ → β} {l : List α}
    (each : ∀ a ∈ l, (f a).toOption = (f' a).toOption.map g) :
    (l.mapM f).toOption = (l.mapM f').toOption.map (List.map g) := by
  induction l with
  | nil => rfl
  | cons a l ih =>
    obtain ⟨first, rest⟩ := List.forall_mem_cons.1 each
    simp only [List.mapM_cons, except_toOption_bind, first, ih rest]
    cases (f' a).toOption <;> cases (l.mapM f').toOption <;> rfl

end MusicMacro
