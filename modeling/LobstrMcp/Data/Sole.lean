import Mathlib.Data.List.Nodup

/-!
Choosing from a list only where there is nothing to choose: the one element that a test accepts,
and nothing where it accepts none or several. What is chosen so depends on no order.
-/

namespace Sole
variable {α β : Type*} {p : α → Bool} {xs ys : List α} {a b : α}

/-- The one element that `p` accepts. -/
def sole (p : α → Bool) (xs : List α) : Option α :=
  match xs.filter p with
  | [a] => some a
  | _ => none

/-- `p` accepts one element at most. -/
def AtMostOne (p : α → Bool) (xs : List α) : Prop :=
  ∀ a ∈ xs, ∀ b ∈ xs, p a = true → p b = true → a = b

theorem sole_eq_some : sole p xs = some a ↔ xs.filter p = [a] := by
  unfold sole
  split <;> simp_all

theorem of_sole (chosen : sole p xs = some a) : a ∈ xs ∧ p a = true ∧ ∀ b ∈ xs, p b = true → b = a := by
  have alone := sole_eq_some.mp chosen
  have accepted : a ∈ xs.filter p := by
    rw [alone]
    exact List.mem_singleton_self a
  obtain ⟨held, passes⟩ := List.mem_filter.mp accepted
  refine ⟨held, passes, fun b present other => ?_⟩
  have second : b ∈ xs.filter p := List.mem_filter.mpr ⟨present, other⟩
  rw [alone] at second
  exact List.mem_singleton.mp second

theorem sole_of_only (distinct : xs.Nodup) (held : a ∈ xs) (passes : p a = true)
    (only : ∀ b ∈ xs, p b = true → b = a) : sole p xs = some a := by
  rw [sole_eq_some]
  refine List.perm_singleton.mp ((List.perm_ext_iff_of_nodup (distinct.filter p) (List.nodup_singleton a)).mpr ?_)
  intro b
  rw [List.mem_filter, List.mem_singleton]
  constructor
  · intro accepted
    exact only b accepted.1 accepted.2
  · rintro rfl
    exact ⟨held, passes⟩

theorem sole_perm (order : xs.Perm ys) : sole p ys = sole p xs := by
  have same : ∀ a, sole p ys = some a ↔ sole p xs = some a := by
    intro a
    rw [sole_eq_some, sole_eq_some]
    constructor
    · intro alone
      exact List.perm_singleton.mp (alone ▸ order.filter p)
    · intro alone
      exact List.perm_singleton.mp (alone ▸ (order.filter p).symm)
  exact Option.ext same

theorem AtMostOne.perm (one : AtMostOne p xs) (order : xs.Perm ys) : AtMostOne p ys :=
  fun a held b present => one a (order.mem_iff.mpr held) b (order.mem_iff.mpr present)

/-- The first element accepted is any that is. -/
theorem AtMostOne.find?_eq_some (one : AtMostOne p xs) : xs.find? p = some a ↔ a ∈ xs ∧ p a = true := by
  constructor
  · intro found
    exact ⟨List.mem_of_find?_eq_some found, List.find?_some found⟩
  · rintro ⟨held, passes⟩
    cases found : xs.find? p with
    | none => exact absurd passes (List.find?_eq_none.mp found a held)
    | some b => rw [one b (List.mem_of_find?_eq_some found) a held (List.find?_some found) passes]

theorem AtMostOne.find?_perm (one : AtMostOne p xs) (order : xs.Perm ys) : ys.find? p = xs.find? p := by
  refine Option.ext fun a => ?_
  rw [(one.perm order).find?_eq_some, one.find?_eq_some, order.mem_iff]

/-- A test of a key that no two elements share. -/
theorem atMostOne_of_nodup {key : α → β} {k : β} (distinct : (xs.map key).Nodup)
    (reads : ∀ a ∈ xs, p a = true → key a = k) : AtMostOne p xs := by
  intro a held b present passes other
  exact List.inj_on_of_nodup_map distinct held present
    ((reads a held passes).trans (reads b present other).symm)

end Sole
