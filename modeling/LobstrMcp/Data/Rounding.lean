import Mathlib.Data.Rat.Floor
import Mathlib.Tactic.Linarith

/-!
Rounding to the nearest whole number, to an even one where two are as near.
-/

namespace Rounding

def halfEven (q : Rat) : Int :=
  let low := q.floor
  let rest := q - low
  if rest < 1 / 2 then low else if 1 / 2 < rest then low + 1 else if low % 2 = 0 then low else low + 1

variable {p q : Rat}

theorem floor_mono (le : p ≤ q) : p.floor ≤ q.floor := Int.floor_mono le

theorem floor_le_halfEven (q : Rat) : q.floor ≤ halfEven q := by
  unfold halfEven
  dsimp only
  split_ifs <;> omega

theorem halfEven_le_floor (q : Rat) : halfEven q ≤ q.floor + 1 := by
  unfold halfEven
  dsimp only
  split_ifs <;> omega

/-- A larger number is not rounded to a smaller one. -/
theorem halfEven_mono (le : p ≤ q) : halfEven p ≤ halfEven q := by
  rcases (floor_mono le).lt_or_eq with below | same
  · exact (halfEven_le_floor p).trans ((Int.add_one_le_of_lt below).trans (floor_le_halfEven q))
  -- within one whole number, what is over it decides
  unfold halfEven
  rw [← same]
  have fraction : p - p.floor ≤ q - p.floor := by linarith
  dsimp only
  split_ifs <;> first | omega | linarith

end Rounding
