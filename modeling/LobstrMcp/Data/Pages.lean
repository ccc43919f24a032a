import Mathlib.Data.List.Basic

/-!
Lists served in pages, numbered from one. A page holds so many items at most, and the pages one
after the other are the list.
-/

namespace Pages
variable {α β : Type*} {size number count : Nat} {xs : List α}

/-- A page of a list. -/
def page (size number : Nat) (xs : List α) : List α := (xs.drop ((number - 1) * size)).take size

/-- How many pages a list fills; one, where it is empty. -/
def total (size items : Nat) : Nat := max 1 ((items + size - 1) / size)

@[simp] theorem page_one : page size 1 xs = xs.take size := by simp [page]

theorem length_page_le : (page size number xs).length ≤ size := List.length_take_le _ _

theorem one_le_total (size items : Nat) : 1 ≤ total size items := Nat.le_max_left _ _

/-- The pages up to some number. -/
theorem flatMap_page (size count : Nat) (xs : List α) :
    ((List.range count).flatMap fun i => page size (i + 1) xs) = xs.take (count * size) := by
  induction count with
  | zero => simp
  | succ count ih =>
    rw [List.range_succ, List.flatMap_append, ih, Nat.succ_mul, List.take_add]
    simp [page]

/-- The items fit into the pages. -/
theorem le_total_mul (positive : 0 < size) (items : Nat) : items ≤ total size items * size := by
  have rest := Nat.div_add_mod (items + size - 1) size
  have below := Nat.mod_lt (items + size - 1) positive
  have fits : items ≤ (items + size - 1) / size * size := by
    rw [Nat.mul_comm]
    omega
  exact Nat.le_trans fits (Nat.mul_le_mul_right _ (Nat.le_max_right _ _))

/-- All of the pages. -/
theorem flatMap_total (positive : 0 < size) (xs : List α) :
    ((List.range (total size xs.length)).flatMap fun i => page size (i + 1) xs) = xs := by
  rw [flatMap_page, List.take_of_length_le (le_total_mul positive xs.length)]

end Pages
