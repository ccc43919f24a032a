import Mathlib.Data.List.Sort
import Mathlib.Data.List.TakeWhile

/-!
The best of a list. The items are sorted by a key and taken from the front, until one fails a test or there are
enough. Where no item after a failing one passes, this is the list of all that pass, sorted and cut.
-/

namespace Ranking
variable {α β γ κ : Type} [LinearOrder κ] {key : α → κ} {passes : α → Bool} {row : α → β} {enough : Nat}

/-- Sorted by a key; items with one key stay in the order they had. -/
def rank (key : α → κ) (xs : List α) : List α := xs.insertionSort fun a b => key a ≤ key b

/-- The rows of the items from the front, after those in `out`. -/
def top (passes : α → Bool) (row : α → β) (enough : Nat) : List α → List β → List β
  | [], out => out
  | a :: rest, out =>
    if !passes a then out else
    let out := out ++ [row a]
    if enough ≤ out.length then out else top passes row enough rest out

theorem rank_perm (key : α → κ) (xs : List α) : (rank key xs).Perm xs := List.perm_insertionSort _ xs

theorem rank_pairwise (key : α → κ) (xs : List α) : (rank key xs).Pairwise fun a b => key a ≤ key b := by
  have total : Std.Total fun a b : α => key a ≤ key b := ⟨fun a b => le_total (key a) (key b)⟩
  have trans : IsTrans α fun a b => key a ≤ key b := ⟨fun _ _ _ => le_trans⟩
  exact List.pairwise_insertionSort _ xs

theorem rank_map (f : γ → α) (xs : List γ) : rank key (xs.map f) = (rank (fun a => key (f a)) xs).map f :=
  (List.map_insertionSort _ _ f xs fun _ _ _ _ => Iff.rfl).symm

/-- Where an item goes among those that pass and those that do not. -/
theorem orderedInsert_flag (passes : α → Bool) (a : α) {front back : List α} (front' : ∀ b ∈ front, passes b = true)
    (back' : ∀ b ∈ back, passes b = false) :
    (front ++ back).orderedInsert (fun a b => (if passes a then 0 else 1 : ℕ) ≤ if passes b then 0 else 1) a =
      if passes a then a :: (front ++ back) else front ++ a :: back := by
  induction front with
  | nil =>
    cases back with
    | nil => simp
    | cons b rest =>
      have last : (if passes a then 0 else 1 : ℕ) ≤ if passes b then 0 else 1 := by
        rw [back' b List.mem_cons_self]
        split <;> decide
      rw [List.nil_append, List.orderedInsert_cons, if_pos last]
      simp
  | cons b rest ih =>
    have pass := front' b List.mem_cons_self
    rw [List.cons_append, List.orderedInsert_cons, ih fun c member => front' c (List.mem_cons_of_mem _ member), pass]
    cases passes a <;> simp

/-- Ranked by whether they pass, the items come as two lists, each in the order it had. -/
theorem rank_flag (passes : α → Bool) (xs : List α) :
    rank (fun a => if passes a then 0 else 1 : α → ℕ) xs = xs.filter passes ++ xs.filter fun a => !passes a := by
  induction xs with
  | nil => rfl
  | cons a rest ih =>
    show List.orderedInsert _ a (rank _ rest) = _
    rw [ih, orderedInsert_flag passes a (fun b member => (List.mem_filter.mp member).2)
      (fun b member => by simpa using (List.mem_filter.mp member).2)]
    cases pass : passes a <;> simp [pass]

omit [LinearOrder κ] in
theorem top_map (f : γ → α) (xs : List γ) (out : List β) :
    top passes row enough (xs.map f) out = top (fun a => passes (f a)) (fun a => row (f a)) enough xs out := by
  induction xs generalizing out with
  | nil => rfl
  | cons a rest ih =>
    rw [List.map_cons, top, top]
    simp only [ih]

theorem top_eq (xs : List α) {out : List β} (room : out.length < enough) :
    top passes row enough xs out = out ++ ((xs.takeWhile passes).take (enough - out.length)).map row := by
  induction xs generalizing out with
  | nil => simp [top]
  | cons a rest ih =>
    unfold top
    cases pass : passes a with
    | false => simp [pass]
    | true =>
      have one : enough - out.length = enough - (out.length + 1) + 1 := by omega
      simp only [Bool.not_true, Bool.false_eq_true, if_false, List.takeWhile_cons, pass, if_true, one,
        List.take_succ_cons,
        List.map_cons, List.length_append, List.length_singleton]
      split
      · rename_i full
        have last : enough - (out.length + 1) = 0 := by omega
        rw [last, List.take_zero, List.map_nil]
      · rename_i more
        rw [ih (by simpa using more), List.append_assoc]
        simp

/-- Once an item fails, so do all that come after it. -/
theorem takeWhile_eq_filter {xs : List α} (stays : xs.Pairwise fun a b => passes b = true → passes a = true) :
    xs.takeWhile passes = xs.filter passes := by
  induction xs with
  | nil => rfl
  | cons a rest ih =>
    rw [List.pairwise_cons] at stays
    cases pass : passes a with
    | true => rw [List.takeWhile_cons_of_pos pass, List.filter_cons_of_pos pass, ih stays.2]
    | false =>
      have none' : rest.filter passes = [] := by
        rw [List.filter_eq_nil_iff]
        intro b member later
        rw [stays.1 b member later] at pass
        cases pass
      rw [List.takeWhile_cons_of_neg (by simp [pass]), List.filter_cons_of_neg (by simp [pass]), none']

/-- What the loop makes of the ranked list, where a better item passes with any worse one. -/
theorem top_rank (row : α → β) (down : ∀ a b, key a ≤ key b → passes b = true → passes a = true)
    (some' : 0 < enough) (xs : List α) :
    ∃ ranked : List α, ranked.Perm (xs.filter passes) ∧ ranked.Pairwise (fun a b => key a ≤ key b) ∧
      top passes row enough (rank key xs) [] = (ranked.take enough).map row := by
  have sorted := rank_pairwise key xs
  refine ⟨(rank key xs).filter passes, (rank_perm key xs).filter passes, sorted.filter passes, ?_⟩
  have whole := takeWhile_eq_filter (sorted.imp fun le => down _ _ le)
  rw [top_eq _ (by simpa using some'), whole]
  simp

end Ranking
