import LobstrMcp.Data.Json
import Mathlib.Tactic.Ring
import Mathlib.Tactic.Linarith
import Mathlib.Algebra.Field.Rat

/-!
Numerals. The text of an integer or a float determines it, and ends at the first character that is
not one of a numeral's own.
-/

namespace Json

/-! ### Words -/

/-- Two words of `p` characters, each up to the first character that is not one, are read alike. -/
theorem word_inj {p : Char → Prop} {a b x y : List Char} (ha : ∀ e ∈ a, p e) (hb : ∀ e ∈ b, p e)
    (hx : ∀ c ∈ x.head?, ¬ p c) (hy : ∀ c ∈ y.head?, ¬ p c) (h : a ++ x = b ++ y) : a = b ∧ x = y := by
  induction a generalizing b with
  | nil =>
    cases b with
    | nil => exact ⟨rfl, h⟩
    | cons e b =>
      rw [List.nil_append, List.cons_append] at h
      exact absurd (hb e List.mem_cons_self) (hx e (by simp [h]))
  | cons e a ih =>
    cases b with
    | nil =>
      rw [List.nil_append, List.cons_append] at h
      exact absurd (ha e List.mem_cons_self) (hy e (by simp [← h]))
    | cons f b =>
      simp only [List.cons_append, List.cons.injEq] at h
      obtain ⟨rfl, rest⟩ := h
      obtain ⟨rfl, tail⟩ := ih (fun e he => ha e (List.mem_cons_of_mem _ he))
        (fun e he => hb e (List.mem_cons_of_mem _ he)) rest
      exact ⟨rfl, tail⟩

theorem span_inj {p : Char → Prop} {a b x y : List Char} {c d : Char} (ha : ∀ e ∈ a, p e)
    (hb : ∀ e ∈ b, p e) (hc : ¬ p c) (hd : ¬ p d) (h : a ++ c :: x = b ++ d :: y) :
    a = b ∧ c = d ∧ x = y := by
  obtain ⟨same, tail⟩ := word_inj ha hb (by simpa using hc) (by simpa using hd) h
  exact ⟨same, List.cons.inj tail⟩

/-! ### Integers -/

theorem toDigits_inj {m n : Nat} (h : Nat.toDigits 10 m = Nat.toDigits 10 n) : m = n := by
  rw [← Nat.ofDigitChars_ten_toDigits (n := m), h, Nat.ofDigitChars_ten_toDigits]

theorem toDigits_digit {n : Nat} {c : Char} (h : c ∈ Nat.toDigits 10 n) : c.isDigit = true :=
  Nat.isDigit_of_mem_toDigits (by omega) (by omega) h

theorem signed_inj {s t : Bool} {m n : Nat} (h : signed s m = signed t n) : s = t ∧ m = n := by
  have minus : ∀ {n : Nat} {rest : List Char}, Nat.toDigits 10 n ≠ '-' :: rest := by
    intro n rest same
    have digit := toDigits_digit (n := n) (same ▸ List.mem_cons_self)
    exact absurd digit (by decide)
  cases s <;> cases t <;> simp only [signed, Bool.false_eq_true, if_true, if_false,
    List.nil_append, List.cons_append, List.cons.injEq, true_and] at h
  · exact ⟨rfl, toDigits_inj h⟩
  · exact absurd h minus
  · exact absurd h.symm minus
  · exact ⟨rfl, toDigits_inj h⟩

theorem signed_ne_nil (s : Bool) (n : Nat) : signed s n ≠ [] := by
  simp [signed, Nat.toDigits_ne_nil]

def SignedChar (c : Char) : Prop := c.isDigit = true ∨ c = '-'

theorem signed_chars {s : Bool} {n : Nat} {c : Char} (h : c ∈ signed s n) : SignedChar c := by
  rcases List.mem_append.mp h with sign | digit
  · cases s <;> simp at sign
    exact .inr sign
  · exact .inl (toDigits_digit digit)

theorem intText_inj {m n : Int} (h : intText m = intText n) : m = n := by
  obtain ⟨sign, size⟩ := signed_inj h
  simp only [decide_eq_decide] at sign
  omega

/-! ### Floats -/

theorem padDigits_length (k m : Nat) : (padDigits k m).length = k := by
  induction k generalizing m with
  | zero => rfl
  | succ k ih => simp [padDigits, ih]

theorem padDigits_digit {k m : Nat} {c : Char} (h : c ∈ padDigits k m) : c.isDigit = true := by
  induction k generalizing m with
  | zero => simp [padDigits] at h
  | succ k ih =>
    rcases List.mem_append.mp h with front | last
    · exact ih front
    · simp only [List.mem_singleton] at last
      subst last
      have table : ∀ d : Fin 10, (Nat.digitChar d).isDigit = true := by decide
      exact table ⟨m % 10, Nat.mod_lt _ (by omega)⟩

theorem padDigits_inj {k m n : Nat} (hm : m < 10 ^ k) (hn : n < 10 ^ k)
    (h : padDigits k m = padDigits k n) : m = n := by
  induction k generalizing m n with
  | zero => simp at hm hn; omega
  | succ k ih =>
    obtain ⟨front, last⟩ := List.append_inj' h rfl
    have table : ∀ a b : Fin 10, Nat.digitChar a = Nat.digitChar b → a = b := by decide
    have digit := congrArg Fin.val (table ⟨m % 10, Nat.mod_lt _ (by omega)⟩
      ⟨n % 10, Nat.mod_lt _ (by omega)⟩ (by simpa using last))
    have rest := ih (by rw [pow_succ] at hm; omega) (by rw [pow_succ] at hn; omega) front
    simp only at digit
    omega

theorem decimals?_den {q : Rat} {k : Nat} (h : decimals? q = some k) : q.den ∣ 10 ^ k := by
  have found := List.find?_some h
  simp only [decide_eq_true_eq] at found
  exact Nat.dvd_of_mod_eq_zero found

theorem decimals?_dvd {q : Rat} {k : Nat} (h : decimals? q = some k) : q.den ∣ 10 ^ max k 1 :=
  (decimals?_den h).trans (Nat.pow_dvd_pow 10 (le_max_left k 1))

theorem rat_of_units {q r : Rat} {P : Nat} (pos : 0 < P) (hq : q.den ∣ P) (hr : r.den ∣ P)
    (sign : q.num < 0 ↔ r.num < 0)
    (units : q.num.natAbs * (P / q.den) = r.num.natAbs * (P / r.den)) : q = r := by
  obtain ⟨m, hm⟩ := hq
  obtain ⟨n, hn⟩ := hr
  have qpos := q.den_pos
  have rpos := r.den_pos
  rw [show P / q.den = m by rw [hm]; exact Nat.mul_div_cancel_left _ qpos,
    show P / r.den = n by rw [hn]; exact Nat.mul_div_cancel_left _ rpos] at units
  have cross : q.num.natAbs * r.den = r.num.natAbs * q.den := by
    have scaled : (q.num.natAbs * r.den) * P = (r.num.natAbs * q.den) * P := by
      calc (q.num.natAbs * r.den) * P
          = (q.num.natAbs * m) * (q.den * r.den) := by rw [hm]; ring
        _ = (r.num.natAbs * n) * (q.den * r.den) := by rw [units]
        _ = (r.num.natAbs * q.den) * P := by rw [hn]; ring
    exact Nat.eq_of_mul_eq_mul_right pos scaled
  rw [Rat.eq_iff_mul_eq_mul]
  have signed : (q.num.natAbs * r.den : Int) = r.num.natAbs * q.den := by exact_mod_cast cross
  by_cases negative : q.num < 0
  · have other := sign.mp negative
    have e₁ : (q.num.natAbs : Int) = -q.num := by omega
    have e₂ : (r.num.natAbs : Int) = -r.num := by omega
    rw [e₁, e₂] at signed
    linarith
  · have other := fun h => negative (sign.mpr h)
    have e₁ : (q.num.natAbs : Int) = q.num := by omega
    have e₂ : (r.num.natAbs : Int) = r.num := by omega
    rw [e₁, e₂] at signed
    exact signed

/-- A float numeral is an integer numeral, a point or a stroke, and digits. -/
theorem floatText_shape (q : Rat) : ∃ s n mark rest, floatText q = signed s n ++ mark :: rest ∧
    (mark = '.' ∨ mark = '/') ∧ ∀ c ∈ rest, c.isDigit = true := by
  unfold floatText
  split
  · exact ⟨_, _, _, _, rfl, .inl rfl, fun c h => padDigits_digit h⟩
  · exact ⟨_, _, _, _, rfl, .inr rfl, fun c h => toDigits_digit h⟩

theorem floatText_inj {q r : Rat} (h : floatText q = floatText r) : q = r := by
  have point : ¬ SignedChar '.' := by simp [SignedChar]
  have stroke : ¬ SignedChar '/' := by simp [SignedChar]
  unfold floatText at h
  cases hq : decimals? q with
  | some k =>
    cases hr : decimals? r with
    | some l =>
      simp only [hq, hr] at h
      obtain ⟨whole, -, fraction⟩ := span_inj (fun _ => signed_chars) (fun _ => signed_chars) point point h
      obtain ⟨sign, whole⟩ := signed_inj whole
      have places : max k 1 = max l 1 := by
        have lengths := congrArg List.length fraction
        simpa only [padDigits_length] using lengths
      rw [← places] at whole fraction
      have pos : 0 < 10 ^ max k 1 := Nat.pow_pos (by omega)
      have units := padDigits_inj (Nat.mod_lt _ pos) (Nat.mod_lt _ pos) fraction
      have dvdq := decimals?_dvd hq
      have dvdr := decimals?_dvd hr
      rw [← places] at dvdr
      refine rat_of_units pos dvdq dvdr (by simpa using sign) ?_
      rw [← Nat.div_add_mod (q.num.natAbs * _) (10 ^ max k 1), whole, units, Nat.div_add_mod]
    | none =>
      simp only [hq, hr] at h
      have marks := (span_inj (fun _ => signed_chars) (fun _ => signed_chars) point stroke h).2.1
      exact absurd marks (by decide)
  | none =>
    cases hr : decimals? r with
    | some l =>
      simp only [hq, hr] at h
      have marks := (span_inj (fun _ => signed_chars) (fun _ => signed_chars) stroke point h).2.1
      exact absurd marks (by decide)
    | none =>
      simp only [hq, hr] at h
      obtain ⟨num, -, den⟩ := span_inj (fun _ => signed_chars) (fun _ => signed_chars) stroke stroke h
      exact Rat.ext (intText_inj num) (toDigits_inj den)

/-- What a numeral is written with. -/
def NumeralChar (c : Char) : Prop := SignedChar c ∨ c ∈ ['.', '/', 'e', '+']

theorem intText_chars {n : Int} {c : Char} (h : c ∈ intText n) : SignedChar c := signed_chars h

theorem floatText_chars {q : Rat} {c : Char} (h : c ∈ floatText q) : NumeralChar c := by
  obtain ⟨s, n, mark, rest, text, marks, digits⟩ := floatText_shape q
  rw [text, List.mem_append, List.mem_cons] at h
  obtain front | rfl | back := h
  · exact .inl (signed_chars front)
  · exact .inr (by obtain rfl | rfl := marks <;> decide)
  · exact .inl (.inl (digits c back))

theorem floatText_mark (q : Rat) : ∃ c ∈ floatText q, ¬ SignedChar c := by
  obtain ⟨s, n, mark, rest, text, marks, digits⟩ := floatText_shape q
  refine ⟨mark, by simp [text], ?_⟩
  obtain rfl | rfl := marks <;> simp [SignedChar]

end Json
