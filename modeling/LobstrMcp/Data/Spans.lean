import Mathlib.Data.List.Basic

/-!
The spans of a list: its maximal stretches of elements that pass a test, which is what is left of it when it is
split at every other element.
-/

namespace Spans
variable {α : Type} {p : α → Bool}

/-- The maximal stretches of elements that pass, in order. -/
def spans (p : α → Bool) (xs : List α) : List (List α) := (xs.splitOnP fun a => !p a).filter (· ≠ [])

/-- No span goes over an element that does not pass. -/
theorem spans_append {a : α} (fails : p a = false) (xs ys : List α) :
    spans p (xs ++ a :: ys) = spans p xs ++ spans p ys := by
  unfold spans
  rw [List.splitOnP_append_cons xs ys (by simp [fails]), List.filter_append]

/-- A list that passes as a whole is one span. -/
theorem spans_all {xs : List α} (all : ∀ a ∈ xs, p a = true) (some' : xs ≠ []) : spans p xs = [xs] := by
  unfold spans
  rw [List.splitOnP_eq_singleton fun a member => by simp [all a member]]
  simp [some']

end Spans
