import LobstrMcp.Data.Numerals

/-!
The text of a float determines it, in positional notation and in scientific notation.
-/

namespace Json

/-! ### Digits and zeros -/

/-- One or more digits. -/
def Digits (ds : List Char) : Prop := ds ≠ [] ∧ ∀ c ∈ ds, c.isDigit = true

theorem digits_toDigits (n : Nat) : Digits (Nat.toDigits 10 n) := ⟨Nat.toDigits_ne_nil, fun _ => toDigits_digit⟩

theorem digits_padDigits {k : Nat} (m : Nat) (pos : 0 < k) : Digits (padDigits k m) := by
  refine ⟨fun empty => ?_, fun _ => padDigits_digit⟩
  have length := padDigits_length k m
  rw [empty] at length
  exact absurd length (by simp; omega)

/-- The zeros that are dropped are zeros. -/
theorem rdropWhile_zeros (ds : List Char) : ∃ z, ds = ds.rdropWhile (· = '0') ++ List.replicate z '0' := by
  induction ds using List.reverseRecOn with
  | nil => exact ⟨0, rfl⟩
  | append_singleton ds d ih =>
    by_cases zero : d = '0'
    · obtain ⟨z, kept⟩ := ih
      refine ⟨z + 1, ?_⟩
      rw [List.rdropWhile_concat_pos _ _ _ (by simpa using zero), List.replicate_succ', ← List.append_assoc, ← kept, zero]
    · refine ⟨0, ?_⟩
      rw [List.rdropWhile_concat_neg _ _ _ (by simpa using zero)]
      simp

theorem rdropWhile_digit {ds : List Char} (digits : ∀ c ∈ ds, c.isDigit = true) :
    ∀ c ∈ ds.rdropWhile (· = '0'), c.isDigit = true :=
  fun c member => digits c ((List.rdropWhile_prefix _ _).subset member)

theorem mantissa_chars {ds : List Char} {c : Char} (h : c ∈ mantissa ds) : c ∈ ds ∨ c = '.' := by
  unfold mantissa at h
  split at h
  · cases h
  · exact .inl h
  · simp only [List.mem_cons] at h ⊢
    tauto

theorem mantissa_inj {a b : List Char} (ha : ∀ c ∈ a, c.isDigit = true) (hb : ∀ c ∈ b, c.isDigit = true)
    (h : mantissa a = mantissa b) : a = b := by
  match a, b with
  | [], [] => rfl
  | [], [_] => simp [mantissa] at h
  | [], _ :: _ :: _ => simp [mantissa] at h
  | [_], [] => simp [mantissa] at h
  | [_], [_] => exact h
  | [_], _ :: _ :: _ => simp [mantissa] at h
  | _ :: _ :: _, [] => simp [mantissa] at h
  | _ :: _ :: _, [_] => simp [mantissa] at h
  | _ :: _ :: _, _ :: _ :: _ =>
    simp only [mantissa, List.cons.injEq, true_and] at h
    simp [h]

/-! ### The text determines the float -/

/-- At least two digits. -/
theorem ofDigitChars_two (n : Nat) :
    Nat.ofDigitChars 10 (if n < 10 then padDigits 2 n else Nat.toDigits 10 n) 0 = n := by
  split
  · rename_i small
    have table : ∀ m : Fin 10, Nat.ofDigitChars 10 (padDigits 2 m) 0 = m := by decide
    exact table ⟨n, small⟩
  · exact Nat.ofDigitChars_ten_toDigits

theorem exponentText_inj {a b : Int} (h : exponentText a = exponentText b) : a = b := by
  unfold exponentText at h
  rw [List.cons.injEq] at h
  obtain ⟨sign, size⟩ := h
  have signs : a < 0 ↔ b < 0 := by
    by_cases ha : a < 0 <;> by_cases hb : b < 0 <;> simp [ha, hb] at sign ⊢
  have sizes : a.natAbs = b.natAbs := by
    rw [← ofDigitChars_two a.natAbs, size, ofDigitChars_two]
  omega

theorem signed_mantissa_inj {s t : Bool} {a b : List Char} (ha : ∀ c ∈ a, c.isDigit = true)
    (hb : ∀ c ∈ b, c.isDigit = true)
    (h : (if s then ['-'] else []) ++ mantissa a = (if t then ['-'] else []) ++ mantissa b) : s = t ∧ a = b := by
  have minus : ∀ {ds rest : List Char}, (∀ c ∈ ds, c.isDigit = true) → mantissa ds ≠ '-' :: rest := by
    intro ds rest digits same
    have member : '-' ∈ mantissa ds := by simp [same]
    obtain digit | point := mantissa_chars member
    · exact absurd (digits _ digit) (by decide)
    · exact absurd point (by decide)
  cases s <;> cases t <;> simp only [Bool.false_eq_true, if_true, if_false, List.nil_append, List.cons_append,
    List.cons.injEq, true_and] at h
  · exact ⟨rfl, mantissa_inj ha hb h⟩
  · exact absurd h (minus ha)
  · exact absurd h.symm (minus hb)
  · exact ⟨rfl, mantissa_inj ha hb h⟩

/-- Decimals with the same digits up to zeros at the end, the same point and the same sign are equal. -/
theorem rat_of_digits {q r : Rat} {k l : Nat} (hq : decimals? q = some k) (hr : decimals? r = some l)
    (sign : q.num < 0 ↔ r.num < 0)
    (digits : (unitDigits q k).rdropWhile (· = '0') = (unitDigits r l).rdropWhile (· = '0'))
    (point : pointOf q k = pointOf r l) : q = r := by
  obtain ⟨z, hz⟩ := rdropWhile_zeros (unitDigits q k)
  obtain ⟨y, hy⟩ := rdropWhile_zeros (unitDigits r l)
  obtain ⟨ds, kept⟩ : ∃ ds, ds = (unitDigits q k).rdropWhile (· = '0') := ⟨_, rfl⟩
  rw [← kept] at hz digits
  rw [← digits] at hy
  have shift : z + l = y + k := by
    unfold pointOf at point
    rw [hz, hy] at point
    simp only [List.length_append, List.length_replicate] at point
    omega
  have units : q.num.natAbs * (10 ^ k / q.den) = 10 ^ z * Nat.ofDigitChars 10 ds 0 := by
    have read := congrArg (Nat.ofDigitChars 10 · 0) hz
    rwa [unitDigits, Nat.ofDigitChars_ten_toDigits, Nat.ofDigitChars_append, Nat.ofDigitChars_replicate_zero] at read
  have units' : r.num.natAbs * (10 ^ l / r.den) = 10 ^ y * Nat.ofDigitChars 10 ds 0 := by
    have read := congrArg (Nat.ofDigitChars 10 · 0) hy
    rwa [unitDigits, Nat.ofDigitChars_ten_toDigits, Nat.ofDigitChars_append, Nat.ofDigitChars_replicate_zero] at read
  have dvdq := decimals?_den hq
  have dvdr := decimals?_den hr
  refine rat_of_units (Nat.pow_pos (by omega)) (dvdq.trans (Nat.pow_dvd_pow 10 (Nat.le_add_right k l)))
    (dvdr.trans (Nat.pow_dvd_pow 10 (Nat.le_add_left l k))) sign ?_
  have left : 10 ^ (k + l) / q.den = 10 ^ k / q.den * 10 ^ l := by
    rw [pow_add, Nat.div_mul_right_comm dvdq]
  have right : 10 ^ (k + l) / r.den = 10 ^ l / r.den * 10 ^ k := by
    rw [Nat.add_comm, pow_add, Nat.div_mul_right_comm dvdr]
  calc q.num.natAbs * (10 ^ (k + l) / q.den)
      = (q.num.natAbs * (10 ^ k / q.den)) * 10 ^ l := by rw [left, Nat.mul_assoc]
    _ = 10 ^ (z + l) * Nat.ofDigitChars 10 ds 0 := by rw [units, pow_add]; ring
    _ = 10 ^ (y + k) * Nat.ofDigitChars 10 ds 0 := by rw [shift]
    _ = (r.num.natAbs * (10 ^ l / r.den)) * 10 ^ k := by rw [units', pow_add]; ring
    _ = r.num.natAbs * (10 ^ (k + l) / r.den) := by rw [right, Nat.mul_assoc]

theorem scientificText_inj {q r : Rat} {k l : Nat} (hq : decimals? q = some k) (hr : decimals? r = some l)
    (h : scientificText q k = scientificText r l) : q = r := by
  have digits : ∀ (q : Rat) (k : Nat), ∀ c ∈ (unitDigits q k).rdropWhile (· = '0'), c.isDigit = true :=
    fun q k => rdropWhile_digit fun c => toDigits_digit
  have front : ∀ (q : Rat) (k : Nat), ∀ c ∈ (if q.num < 0 then ['-'] else []) ++
      mantissa ((unitDigits q k).rdropWhile (· = '0')), c ≠ 'e' := by
    rintro q k c member rfl
    obtain sign | body := List.mem_append.mp member
    · split at sign <;> simp at sign
    · obtain digit | point := mantissa_chars body
      · exact absurd (digits q k _ digit) (by decide)
      · exact absurd point (by decide)
  unfold scientificText at h
  obtain ⟨fronts, _, exponents⟩ := span_inj (front q k) (front r l) (by simp) (by simp) h
  have fronts' : (if decide (q.num < 0) then ['-'] else []) ++ mantissa ((unitDigits q k).rdropWhile (· = '0')) =
      (if decide (r.num < 0) then ['-'] else []) ++ mantissa ((unitDigits r l).rdropWhile (· = '0')) := by
    simpa using fronts
  obtain ⟨sign, same⟩ := signed_mantissa_inj (digits q k) (digits r l) fronts'
  have point := exponentText_inj exponents
  exact rat_of_digits hq hr (by simpa using sign) same (by omega)

theorem e_mem_scientificText (q : Rat) (k : Nat) : 'e' ∈ scientificText q k := by simp [scientificText]

theorem e_not_mem_floatText (q : Rat) : 'e' ∉ floatText q := by
  intro member
  obtain ⟨s, n, mark, rest, text, marks, digits⟩ := floatText_shape q
  rw [text, List.mem_append, List.mem_cons] at member
  obtain front | rfl | back := member
  · have sign := signed_chars front
    simp [SignedChar] at sign
  · simp at marks
  · exact absurd (digits _ back) (by decide)

/-- A float prints positionally, or is a decimal and prints with an exponent. -/
theorem reprText_cases (q : Rat) : reprText q = floatText q ∨ ∃ k, decimals? q = some k ∧
    ¬ (-4 < pointOf q k ∧ pointOf q k ≤ 16) ∧ reprText q = scientificText q k := by
  unfold reprText
  cases hq : decimals? q with
  | none => exact .inl rfl
  | some k =>
    by_cases middle : -4 < pointOf q k ∧ pointOf q k ≤ 16
    · exact .inl (if_pos middle)
    · exact .inr ⟨k, rfl, middle, if_neg middle⟩

theorem reprText_inj {q r : Rat} (h : reprText q = reprText r) : q = r := by
  obtain posq | ⟨k, hq, -, sciq⟩ := reprText_cases q <;> obtain posr | ⟨l, hr, -, scir⟩ := reprText_cases r
  · exact floatText_inj (posq.symm.trans (h.trans posr))
  · rw [posq, scir] at h
    exact absurd (h ▸ e_mem_scientificText r l) (e_not_mem_floatText q)
  · rw [sciq, posr] at h
    exact absurd (h ▸ e_mem_scientificText q k) (e_not_mem_floatText r)
  · exact scientificText_inj hq hr (sciq.symm.trans (h.trans scir))

/-! ### What it is written with -/

theorem exponentText_digits (e : Int) : ∃ sign ds, exponentText e = sign :: ds ∧ (sign = '-' ∨ sign = '+') ∧ Digits ds := by
  unfold exponentText
  refine ⟨_, _, rfl, by split <;> simp, ?_⟩
  split
  · exact digits_padDigits _ (by omega)
  · exact digits_toDigits _

theorem scientificText_chars {q : Rat} {k : Nat} {c : Char} (h : c ∈ scientificText q k) : NumeralChar c := by
  unfold scientificText at h
  obtain front | power := List.mem_append.mp h
  · obtain sign | body := List.mem_append.mp front
    · split at sign <;> simp at sign
      exact .inl (.inr sign)
    · obtain digit | rfl := mantissa_chars body
      · exact .inl (.inl (rdropWhile_digit (fun _ => toDigits_digit) _ digit))
      · exact .inr (by decide)
  · obtain ⟨sign, ds, text, signs, digits⟩ := exponentText_digits (pointOf q k - 1)
    rw [text] at power
    simp only [List.mem_cons] at power
    obtain rfl | rfl | digit := power
    · exact .inr (by decide)
    · obtain rfl | rfl := signs
      · exact .inl (.inr rfl)
      · exact .inr (by decide)
    · exact .inl (.inl (digits.2 _ digit))

theorem reprText_chars {q : Rat} {c : Char} (h : c ∈ reprText q) : NumeralChar c := by
  obtain pos | ⟨k, -, -, sci⟩ := reprText_cases q
  · exact floatText_chars (pos ▸ h)
  · exact scientificText_chars (sci ▸ h)

theorem reprText_mark (q : Rat) : ∃ c ∈ reprText q, ¬ SignedChar c := by
  obtain pos | ⟨k, -, -, sci⟩ := reprText_cases q
  · rw [pos]
    exact floatText_mark q
  · rw [sci]
    exact ⟨'e', e_mem_scientificText q k, by simp [SignedChar]⟩

/-- Nothing, or a point and digits. -/
def Fraction (text : List Char) : Prop := text = [] ∨ ∃ ds, text = '.' :: ds ∧ Digits ds

/-- Nothing, or an exponent. -/
def Power (text : List Char) : Prop :=
  text = [] ∨ ∃ sign ds, text = 'e' :: sign :: ds ∧ (sign = '-' ∨ sign = '+') ∧ Digits ds

/-- Digits behind a sign, with a fraction and an exponent. -/
def Numeral (text : List Char) : Prop := ∃ (negative : Bool) (whole fraction power : List Char),
  text = (if negative then ['-'] else []) ++ (whole ++ (fraction ++ power)) ∧
    Digits whole ∧ Fraction fraction ∧ Power power

theorem numeral_intText (n : Int) : Numeral (intText n) :=
  ⟨n < 0, Nat.toDigits 10 n.natAbs, [], [], by simp [intText, signed], digits_toDigits _, .inl rfl, .inl rfl⟩

theorem numeral_floatText {q : Rat} {k : Nat} (hq : decimals? q = some k) : Numeral (floatText q) := by
  obtain ⟨whole, places, rest, text⟩ : ∃ whole places rest, floatText q =
      signed (q.num < 0) whole ++ '.' :: padDigits (max places 1) rest := by
    unfold floatText
    rw [hq]
    exact ⟨_, _, _, rfl⟩
  refine ⟨q.num < 0, Nat.toDigits 10 whole, '.' :: padDigits (max places 1) rest, [], ?_, digits_toDigits _,
    .inr ⟨_, rfl, digits_padDigits _ (by omega)⟩, .inl rfl⟩
  rw [text, signed]
  simp

theorem mantissa_numeral {ds : List Char} (digits : Digits ds) :
    ∃ whole fraction, mantissa ds = whole ++ fraction ∧ Digits whole ∧ Fraction fraction := by
  match ds with
  | [] => exact absurd rfl digits.1
  | [d] => exact ⟨[d], [], rfl, digits, .inl rfl⟩
  | d :: e :: rest =>
    refine ⟨[d], '.' :: e :: rest, rfl, ⟨by simp, ?_⟩, .inr ⟨_, rfl, by simp, ?_⟩⟩
    · intro c member
      exact digits.2 c (by simp_all)
    · intro c member
      exact digits.2 c (List.mem_cons_of_mem _ member)

/-- Outside the middle range a float is no zero, so that a digit is left. -/
theorem digits_left {q : Rat} {k : Nat} (hq : decimals? q = some k)
    (outside : ¬ (-4 < pointOf q k ∧ pointOf q k ≤ 16)) : Digits ((unitDigits q k).rdropWhile (· = '0')) := by
  refine ⟨fun none' => outside ?_, rdropWhile_digit fun _ => toDigits_digit⟩
  obtain ⟨z, zeros⟩ := rdropWhile_zeros (unitDigits q k)
  rw [none', List.nil_append] at zeros
  have units : q.num.natAbs * (10 ^ k / q.den) = 0 := by
    have read := congrArg (Nat.ofDigitChars 10 · 0) zeros
    rwa [unitDigits, Nat.ofDigitChars_ten_toDigits, Nat.ofDigitChars_replicate_zero, Nat.mul_zero] at read
  have places : 10 ^ k / q.den ≠ 0 := by
    have positive := Nat.div_pos (Nat.le_of_dvd (Nat.pow_pos (by omega)) (decimals?_den hq)) q.den_pos
    omega
  have zero : q = 0 := Rat.num_eq_zero.mp (Int.natAbs_eq_zero.mp ((Nat.mul_eq_zero.mp units).resolve_right places))
  subst zero
  have whole : decimals? 0 = some 0 := by decide
  cases hq.symm.trans whole
  decide

theorem numeral_scientificText {q : Rat} {k : Nat} (hq : decimals? q = some k)
    (outside : ¬ (-4 < pointOf q k ∧ pointOf q k ≤ 16)) : Numeral (scientificText q k) := by
  obtain ⟨whole, fraction, text, digits, point⟩ := mantissa_numeral (digits_left hq outside)
  obtain ⟨sign, ds, power, signs, more⟩ := exponentText_digits (pointOf q k - 1)
  refine ⟨q.num < 0, whole, fraction, 'e' :: sign :: ds, ?_, digits, point, .inr ⟨sign, ds, rfl, signs, more⟩⟩
  unfold scientificText
  rw [text, power]
  simp

theorem numeral_reprText {q : Rat} {k : Nat} (hq : decimals? q = some k) : Numeral (reprText q) := by
  obtain positional | ⟨l, hl, outside, scientific⟩ := reprText_cases q
  · rw [positional]
    exact numeral_floatText hq
  · rw [scientific]
    exact numeral_scientificText hl outside

end Json
