import Mathlib.Algebra.Order.Field.Basic
import Mathlib.Data.List.Count
import Mathlib.Tactic.Positivity

/-!
BM25 over an ordered field. A document scores for each query term it contains, by how rare the term is, how often
it comes and how long the document is; any term that is there scores more than nothing, however common it is.
-/

namespace Bm25
variable {τ K : Type} [DecidableEq τ] [Field K] [LinearOrder K]

/-- In how many documents the term is. -/
def documentFrequency (docs : List (List τ)) (term : τ) : Nat := docs.countP fun doc => term ∈ doc

/-- The mean length of the documents, one where they are all empty. -/
def averageLength (docs : List (List τ)) : K :=
  let mean : K := ((docs.map List.length).sum : Nat) / (docs.length : K)
  if mean = 0 then 1 else mean

section Score
variable (log : K → K) (k1 b : K) (docs : List (List τ)) (doc : List τ)

def inverseFrequency (term : τ) : K :=
  let n : K := docs.length
  let df : K := documentFrequency docs term
  log (1 + (n - df + 1 / 2) / (df + 1 / 2))

/-- What a term that is in the document adds to its score. -/
def weight (term : τ) : K :=
  let f : K := doc.count term
  let length : K := if doc.length = 0 then 1 else doc.length
  inverseFrequency log docs term * (f * (k1 + 1)) / (f + k1 * (1 - b + b * length / averageLength docs))

def score (terms : List τ) : K :=
  terms.foldl (fun score term => if doc.count term = 0 then score else score + weight log k1 b docs doc term) 0

end Score

section Positive
variable [IsStrictOrderedRing K] {log : K → K} {k1 b : K} {docs : List (List τ)} {doc : List τ}

omit [DecidableEq τ] in
theorem averageLength_pos (docs : List (List τ)) : (0 : K) < averageLength docs := by
  unfold averageLength
  dsimp only
  split
  · exact zero_lt_one
  · rename_i some'
    have mean : (0 : K) ≤ ((docs.map List.length).sum : Nat) / (docs.length : K) := by positivity
    exact lt_of_le_of_ne mean (Ne.symm some')

theorem inverseFrequency_pos (positive : ∀ x, 0 < x → 0 < log (1 + x)) (docs : List (List τ)) (term : τ) :
    0 < inverseFrequency log docs term := by
  have within : ((documentFrequency docs term : Nat) : K) ≤ docs.length := Nat.cast_le.mpr List.countP_le_length
  have left : (0 : K) ≤ docs.length - documentFrequency docs term := sub_nonneg.mpr within
  unfold inverseFrequency
  exact positive _ (by positivity)

/-- However common the term and however long the document. -/
theorem weight_pos (positive : ∀ x, 0 < x → 0 < log (1 + x)) (k1_pos : 0 < k1) (b_pos : 0 ≤ b) (b_le : b ≤ 1)
    (docs : List (List τ)) {term : τ} (member : term ∈ doc) : 0 < weight log k1 b docs doc term := by
  have often : (0 : K) < doc.count term := Nat.cast_pos.mpr (List.count_pos_iff.mpr member)
  have length : (0 : K) < if doc.length = 0 then 1 else (doc.length : K) := by
    split
    · exact zero_lt_one
    · rename_i some'
      exact Nat.cast_pos.mpr (Nat.pos_of_ne_zero some')
  have rest : 0 ≤ 1 - b := sub_nonneg.mpr b_le
  have average := averageLength_pos (K := K) docs
  have rare := inverseFrequency_pos positive docs term
  unfold weight
  positivity

theorem foldl_weights {weight : τ → K} (positive : ∀ term ∈ doc, 0 < weight term) (terms : List τ) (start : K) :
    start ≤ terms.foldl (fun score term => if doc.count term = 0 then score else score + weight term) start ∧
      (start < terms.foldl (fun score term => if doc.count term = 0 then score else score + weight term) start ↔
        ∃ term ∈ terms, term ∈ doc) := by
  induction terms generalizing start with
  | nil => simp
  | cons term rest ih =>
    rw [List.foldl_cons]
    by_cases member : term ∈ doc
    · have counted : doc.count term ≠ 0 := (List.count_pos_iff.mpr member).ne'
      rw [if_neg counted]
      have more := lt_add_of_pos_right start (positive term member)
      have further := more.trans_le (ih (start + weight term)).1
      exact ⟨further.le, iff_of_true further ⟨term, List.mem_cons_self, member⟩⟩
    · rw [if_pos (List.count_eq_zero.mpr member)]
      refine ⟨(ih start).1, (ih start).2.trans ?_⟩
      simp [member]

/-- A document scores exactly when one of the terms is in it. -/
theorem score_pos_iff (positive : ∀ x, 0 < x → 0 < log (1 + x)) (k1_pos : 0 < k1) (b_pos : 0 ≤ b) (b_le : b ≤ 1)
    (docs : List (List τ)) (terms : List τ) : 0 < score log k1 b docs doc terms ↔ ∃ term ∈ terms, term ∈ doc :=
  (foldl_weights (fun _ => weight_pos positive k1_pos b_pos b_le docs) terms 0).2

end Positive
end Bm25
