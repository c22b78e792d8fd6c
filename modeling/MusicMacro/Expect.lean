/-!
# Marks

Fixed marks at the front of a list, such as the tag of a chunk or a comma between voices.
-/

namespace MusicMacro

/-- What is left of a list behind a mark, if the list starts with it. -/
def expect {α : Type} [DecidableEq α] : (mark l : List α) → Option (List α)
  | [], l => some l
  | m :: mark, a :: l => if a = m then expect mark l else none
  | _ :: _, [] => none

theorem expect_eq_some_iff {α : Type} [DecidableEq α] {mark l rest : List α} :
    expect mark l = some rest ↔ l = mark ++ rest := by
  induction mark generalizing l with
  | nil => simp [expect]
  | cons m mark ih =>
    cases l with
    | nil => simp [expect]
    | cons a l => by_cases h : a = m <;> simp [expect, h, ih]

@[simp]
theorem expect_append {α : Type} [DecidableEq α] (mark rest : List α) :
    expect mark (mark ++ rest) = some rest :=
  expect_eq_some_iff.2 rfl

end MusicMacro
