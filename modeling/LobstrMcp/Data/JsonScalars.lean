import LobstrMcp.Data.JsonReader
import Mathlib.Data.List.TakeWhile

/-!
What a JSON value is made of, as Python's `json` reads it: spaces, strings, numbers and the constants that are spelled
out. Each scanner leaves what follows a text of its kind, and only such a text is scanned.
-/

namespace JsonReader

variable {t v rest gap : Text} {c digits : Nat}

/-! ### Spaces -/

def Blank (t : Text) : Prop := ∀ c ∈ t, isSpace c = true

theorem skip_append (blank : Blank gap) (t : Text) : skip (gap ++ t) = skip t :=
  List.dropWhile_append_of_pos blank

theorem skip_blank (blank : Blank gap) : skip gap = [] := by
  have gone := skip_append blank []
  rwa [List.append_nil] at gone

theorem skip_cons (solid : isSpace c = false) (rest : Text) : skip (c :: rest) = c :: rest := by
  simp [skip, solid]

theorem skip_split (t : Text) : ∃ gap, Blank gap ∧ t = gap ++ skip t :=
  ⟨t.takeWhile isSpace, fun _ member => List.mem_takeWhile_imp member, (List.takeWhile_append_dropWhile).symm⟩

/-! ### What may follow a value, and what it begins with -/

/-- No digit, no point and no exponent comes next. -/
def Breaks (t : Text) : Prop :=
  ∀ c ∈ t.head?, isDigit c = false ∧ c ≠ '.'.toNat ∧ c ≠ 'e'.toNat ∧ c ≠ 'E'.toNat

/-- Neither a space nor a closing bracket comes first. -/
def Solid (t : Text) : Prop :=
  ∃ c rest, t = c :: rest ∧ isSpace c = false ∧ c ≠ ']'.toNat ∧ c ≠ '}'.toNat

theorem Solid.length_pos (solid : Solid t) : 0 < t.length := by
  obtain ⟨c, rest, rfl, -⟩ := solid
  simp

theorem Solid.append (solid : Solid t) (rest : Text) : Solid (t ++ rest) := by
  obtain ⟨c, more, rfl, space, square, curly⟩ := solid
  exact ⟨c, more ++ rest, rfl, space, square, curly⟩

theorem Solid.skip (solid : Solid t) : skip t = t := by
  obtain ⟨c, rest, rfl, space, -⟩ := solid
  exact skip_cons space rest

theorem breaks_cons (breaks : isDigit c = false ∧ c ≠ '.'.toNat ∧ c ≠ 'e'.toNat ∧ c ≠ 'E'.toNat) (rest : Text) :
    Breaks (c :: rest) := by
  rintro d ⟨⟩
  exact breaks

theorem breaks_space (space : isSpace c = true) (rest : Text) : Breaks (c :: rest) := by
  simp only [isSpace, Bool.or_eq_true, decide_eq_true_eq] at space
  rcases space with ((rfl | rfl) | rfl) | rfl <;> exact breaks_cons (by decide) rest

theorem breaks_gap (blank : Blank gap) (breaks : Breaks t) : Breaks (gap ++ t) := by
  cases gap with
  | nil => exact breaks
  | cons c more => exact breaks_space (blank c List.mem_cons_self) _

/-! ### Strings -/

/-- What a string holds, and the quote that ends it. -/
inductive StringTail : Text → Prop
  | close : StringTail [quote]
  | plain {c : Nat} {t : Text} (printable : 0x20 ≤ c) (open' : c ≠ quote) (unescaped : c ≠ backslash)
      (tail : StringTail t) : StringTail (c :: t)
  | escape {e : Nat} {t : Text} (known : e ∈ escapes) (tail : StringTail t) : StringTail (backslash :: e :: t)
  | unicode {h₁ h₂ h₃ h₄ : Nat} {t : Text} (hex : ∀ h ∈ [h₁, h₂, h₃, h₄], isHex h = true) (tail : StringTail t) :
      StringTail (backslash :: 'u'.toNat :: h₁ :: h₂ :: h₃ :: h₄ :: t)

theorem stringRest_complete (tail : StringTail t) (rest : Text) : stringRest (t ++ rest) = some rest := by
  have apart : backslash ≠ quote := by decide
  induction tail with
  | close =>
    rw [List.singleton_append]
    unfold stringRest
    rw [if_pos rfl]
  | plain printable open' unescaped tail ih =>
    rw [List.cons_append]
    unfold stringRest
    rw [if_neg open', if_neg unescaped, if_neg (by omega), ih]
  | @escape e t known tail ih =>
    have other : e ≠ 'u'.toNat := by
      rintro rfl
      exact absurd known (by decide)
    simp only [List.cons_append]
    unfold stringRest
    rw [if_neg apart, if_pos rfl]
    simp only [if_neg other, if_pos known, ih]
  | unicode hex tail ih =>
    simp only [List.mem_cons, List.not_mem_nil, or_false, forall_eq_or_imp, forall_eq] at hex
    simp only [List.cons_append]
    unfold stringRest
    rw [if_neg apart, if_pos rfl]
    simp [hex, ih]

theorem stringRest_sound (read : stringRest t = some rest) : ∃ s, StringTail s ∧ t = s ++ rest := by
  fun_induction stringRest t with
  | case1 => cases read
  | case2 more =>
    obtain rfl := Option.some.inj read
    exact ⟨[quote], .close, rfl⟩
  | case3 => cases read
  | case4 h₁ h₂ h₃ h₄ more hex apart ih =>
    obtain ⟨s, tail, rfl⟩ := ih read
    refine ⟨_, .unicode ?_ tail, rfl⟩
    simpa [and_assoc] using hex
  | case5 => cases read
  | case6 => cases read
  | case7 e more other known apart ih =>
    obtain ⟨s, tail, rfl⟩ := ih read
    exact ⟨_, .escape known tail, rfl⟩
  | case8 => cases read
  | case9 => cases read
  | case10 c more open' unescaped printable ih =>
    obtain ⟨s, tail, rfl⟩ := ih read
    exact ⟨_, .plain (by omega) open' unescaped tail, rfl⟩

/-! ### Numbers -/

def Digits (t : Text) : Prop := ∀ d ∈ t, isDigit d = true

def NoDigit (t : Text) : Prop := ∀ c ∈ t.head?, isDigit c = false

/-- The digits before the point: no zero stands before another digit. -/
inductive Whole : Text → Prop
  | zero : Whole ['0'.toNat]
  | many {c : Nat} {ds : Text} (first : isDigit c = true) (positive : c ≠ '0'.toNat) (rest : Digits ds) :
      Whole (c :: ds)

inductive IsFraction : Text → Prop
  | point {d : Nat} {ds : Text} (first : isDigit d = true) (rest : Digits ds) : IsFraction ('.'.toNat :: d :: ds)

/-- No sign, or one of these. -/
def Signed (signs sign : Text) : Prop := sign = [] ∨ ∃ c ∈ signs, sign = [c]

inductive IsExponent : Text → Prop
  | mark {e d : Nat} {sign ds : Text} (known : e = 'e'.toNat ∨ e = 'E'.toNat) (signed : Signed (text "+-") sign)
      (first : isDigit d = true) (rest : Digits ds) : IsExponent (e :: (sign ++ d :: ds))

/-- What `int` converts, when there is neither a fraction nor an exponent, is no longer than it allows. -/
inductive IsNumber (digits : Nat) : Text → Prop
  | parts {minus whole frac exp : Text} (signed : Signed (text "-") minus) (isWhole : Whole whole)
      (isFraction : frac = [] ∨ IsFraction frac) (isExponent : exp = [] ∨ IsExponent exp)
      (converted : frac = [] → exp = [] → fits digits whole) : IsNumber digits (minus ++ (whole ++ (frac ++ exp)))

theorem isDigit_not_sign (digit : isDigit c = true) : c ∉ text "+-" := by
  intro sign
  have known : c = '+'.toNat ∨ c = '-'.toNat := by simpa [text] using sign
  rcases known with rfl | rfl <;> exact absurd digit (by decide)

theorem unsigned_signed {signs sign : Text} (signed : Signed signs sign) (other : ∀ c ∈ t.head?, c ∉ signs) :
    unsigned signs (sign ++ t) = t := by
  rcases signed with rfl | ⟨s, member, rfl⟩
  · cases t with
    | nil => rfl
    | cons c rest => simp [unsigned, other c rfl]
  · simp [unsigned, member]

theorem unsigned_split (signs t : Text) : ∃ sign, Signed signs sign ∧ t = sign ++ unsigned signs t := by
  cases t with
  | nil => exact ⟨[], .inl rfl, rfl⟩
  | cons c rest =>
    by_cases sign : c ∈ signs
    · exact ⟨[c], .inr ⟨c, sign, rfl⟩, by simp [unsigned, sign]⟩
    · exact ⟨[], .inl rfl, by simp [unsigned, sign]⟩

theorem takeWhile_digits {ds : Text} (all : Digits ds) (stop : NoDigit rest) :
    (ds ++ rest).takeWhile isDigit = ds ∧ (ds ++ rest).dropWhile isDigit = rest := by
  rw [List.takeWhile_append_of_pos all, List.dropWhile_append_of_pos all]
  cases rest with
  | nil => simp
  | cons c more =>
    have not : isDigit c = false := stop c rfl
    simp [not]

theorem digits_takeWhile (t : Text) : Digits (t.takeWhile isDigit) := fun _ member => List.mem_takeWhile_imp member

theorem integerPart_complete (whole : Whole v) (stop : NoDigit rest) :
    integerPart (v ++ rest) = some (v, rest) := by
  cases whole with
  | zero => simp [integerPart]
  | many first positive all =>
    obtain ⟨taken, dropped⟩ := takeWhile_digits all stop
    simp only [List.cons_append, integerPart, if_neg positive, if_pos first, taken, dropped]

theorem integerPart_sound (read : integerPart t = some (v, rest)) : Whole v ∧ t = v ++ rest := by
  unfold integerPart at read
  split at read
  · cases read
  · next c more =>
    split at read
    · next zero =>
      obtain ⟨rfl, rfl⟩ := Prod.mk.inj (Option.some.inj read)
      subst zero
      exact ⟨.zero, rfl⟩
    · next positive =>
      split at read
      · next first =>
        obtain ⟨rfl, rfl⟩ := Prod.mk.inj (Option.some.inj read)
        exact ⟨.many first positive (digits_takeWhile more), by simp⟩
      · cases read

theorem fraction_complete (frac : IsFraction v) (stop : NoDigit rest) : fraction (v ++ rest) = some rest := by
  cases frac with
  | point first all =>
    simp only [List.cons_append, fraction, true_and, if_pos first, (takeWhile_digits all stop).2]

theorem fraction_sound (read : fraction t = some rest) : ∃ v, IsFraction v ∧ t = v ++ rest := by
  unfold fraction at read
  split at read
  · next point d more =>
    split at read
    · next marks =>
      obtain ⟨rfl, first⟩ := marks
      obtain rfl := Option.some.inj read
      exact ⟨_, .point first (digits_takeWhile more), by simp⟩
    · cases read
  · cases read

theorem fraction_none (stop : '.'.toNat ∉ t.head?) : fraction t = none := by
  unfold fraction
  split
  · next point d more =>
    rw [if_neg]
    rintro ⟨rfl, -⟩
    exact stop rfl
  · rfl

theorem exponent_complete (exp : IsExponent v) (stop : NoDigit rest) : exponent (v ++ rest) = some rest := by
  cases exp with
  | @mark e d sign ds known signed first all =>
    have bare : unsigned (text "+-") (sign ++ (d :: ds ++ rest)) = d :: ds ++ rest :=
      unsigned_signed signed (by simpa using isDigit_not_sign first)
    simp only [List.cons_append] at bare
    simp only [List.cons_append, List.append_assoc, exponent, if_pos known, bare, if_pos first,
      (takeWhile_digits all stop).2]

theorem exponent_sound (read : exponent t = some rest) : ∃ v, IsExponent v ∧ t = v ++ rest := by
  unfold exponent at read
  split at read
  · cases read
  · next e more =>
    split at read
    · next known =>
      obtain ⟨sign, signed, parts⟩ := unsigned_split (text "+-") more
      split at read
      · next d ds bare =>
        split at read
        · next first =>
          obtain rfl := Option.some.inj read
          refine ⟨_, .mark known signed first (digits_takeWhile ds), ?_⟩
          rw [bare] at parts
          rw [parts]
          simp
        · cases read
      · cases read
    · cases read

theorem exponent_none (stop : ∀ c ∈ t.head?, c ≠ 'e'.toNat ∧ c ≠ 'E'.toNat) : exponent t = none := by
  cases t with
  | nil => rfl
  | cons c more =>
    obtain ⟨lower, upper⟩ := stop c rfl
    simp only [exponent, lower, upper, or_self, if_false]

theorem Breaks.noDigit (breaks : Breaks t) : NoDigit t := fun c head => (breaks c head).1

theorem Breaks.exponent (breaks : Breaks t) : exponent t = none :=
  exponent_none fun c head => (breaks c head).2.2

theorem Breaks.fraction (breaks : Breaks t) : fraction t = none := fraction_none fun head => (breaks _ head).2.1 rfl

theorem exponent_getD {exp : Text} (isExponent : exp = [] ∨ IsExponent exp) (breaks : Breaks rest) :
    (exponent (exp ++ rest)).getD (exp ++ rest) = rest := by
  rcases isExponent with rfl | isExponent
  · rw [List.nil_append, breaks.exponent, Option.getD_none]
  · rw [exponent_complete isExponent breaks.noDigit, Option.getD_some]

theorem noDigit_exponent {exp : Text} (isExponent : exp = [] ∨ IsExponent exp) (breaks : Breaks rest) :
    NoDigit (exp ++ rest) := by
  rcases isExponent with rfl | ⟨rfl | rfl, -, -, -⟩
  · exact breaks.noDigit
  · rintro c ⟨⟩
    decide
  · rintro c ⟨⟩
    decide

theorem fraction_exponent {exp : Text} (isExponent : exp = [] ∨ IsExponent exp) (breaks : Breaks rest) :
    fraction (exp ++ rest) = none := by
  rcases isExponent with rfl | ⟨rfl | rfl, -, -, -⟩
  · exact breaks.fraction
  · exact fraction_none (by simp)
  · exact fraction_none (by simp)

theorem number_complete (isNumber : IsNumber digits v) (breaks : Breaks rest) :
    number digits (v ++ rest) = .ok rest := by
  obtain @⟨minus, whole, frac, exp, signed, isWhole, isFraction, isExponent, converted⟩ := isNumber
  have first : ∀ c ∈ (whole ++ (frac ++ exp ++ rest)).head?, c ∉ text "-" := by
    rintro c head negative
    obtain rfl : c = '-'.toNat := by simpa [text] using negative
    cases isWhole with
    | zero => cases head
    | many digit =>
      cases head
      exact absurd digit (by decide)
  have after : NoDigit (exp ++ rest) := noDigit_exponent isExponent breaks
  have stop : NoDigit (frac ++ exp ++ rest) := by
    rcases isFraction with rfl | ⟨-, -⟩
    · exact after
    · rintro c ⟨⟩
      decide
  simp only [number, List.append_assoc] at first stop ⊢
  rw [unsigned_signed signed first, integerPart_complete isWhole stop]
  rcases isFraction with rfl | isFraction
  · simp only [List.nil_append, fraction_exponent isExponent breaks]
    rcases isExponent with rfl | isExponent
    · simp only [List.nil_append, breaks.exponent, if_pos (converted rfl rfl)]
    · simp only [exponent_complete isExponent breaks.noDigit]
  · simp only [fraction_complete isFraction after, exponent_getD isExponent breaks]

theorem number_sound (read : number digits t = .ok rest) : ∃ v, IsNumber digits v ∧ t = v ++ rest := by
  obtain ⟨minus, signed, split'⟩ := unsigned_split (text "-") t
  unfold number at read
  split at read
  · cases read
  · next whole after head =>
    obtain ⟨isWhole, parts⟩ := integerPart_sound head
    rw [parts] at split'
    split at read
    · next more point =>
      obtain ⟨frac, isFraction, rfl⟩ := fraction_sound point
      have present : frac ≠ [] := by
        rintro rfl
        cases isFraction
      have converted : frac = [] → ∀ exp : Text, exp = [] → fits digits whole := fun absent => absurd absent present
      obtain rfl := Except.ok.inj read
      cases mark : exponent more with
      | none => exact ⟨_, .parts signed isWhole (.inr isFraction) (.inl rfl) (converted · _), by simp [split']⟩
      | some last =>
        obtain ⟨exp, isExponent, rfl⟩ := exponent_sound mark
        exact ⟨_, .parts signed isWhole (.inr isFraction) (.inr isExponent) (converted · _), by simp [split']⟩
    · split at read
      · next more mark =>
        obtain rfl := Except.ok.inj read
        obtain ⟨exp, isExponent, rfl⟩ := exponent_sound mark
        have present : exp ≠ [] := by
          rintro rfl
          cases isExponent
        exact ⟨_, .parts signed isWhole (.inl rfl) (.inr isExponent) fun _ absent => absurd absent present,
          by simp [split']⟩
      · split at read
        · next fit =>
          obtain rfl := Except.ok.inj read
          exact ⟨_, .parts signed isWhole (.inl rfl) (.inl rfl) fun _ _ => fit, by simp [split']⟩
        · cases read

theorem number_not_recursion : number digits t ≠ .error .recursion := by
  unfold number
  split
  · simp
  · split
    · simp
    · split
      · simp
      · split <;> simp

/-! ### Constants, and all that is not a container -/

inductive Scalar (digits : Nat) : Text → Prop
  | constant {t : Text} (known : t ∈ constants) : Scalar digits t
  | string {t : Text} (tail : StringTail t) : Scalar digits (quote :: t)
  | number {t : Text} (isNumber : IsNumber digits t) : Scalar digits t

theorem constantRest_complete (known : v ∈ constants) (rest : Text) : constantRest (v ++ rest) = some rest := by
  simp only [constants, List.map_cons, List.map_nil, List.mem_cons, List.not_mem_nil, or_false] at known
  rcases known with rfl | rfl | rfl | rfl | rfl | rfl <;> simp [constantRest, constants, text]

theorem constantRest_sound (read : constantRest t = some rest) : ∃ v, Scalar digits v ∧ t = v ++ rest := by
  obtain ⟨constant, known, found⟩ := List.exists_of_findSome?_eq_some read
  split at found
  · next isPrefix =>
    obtain ⟨more, rfl⟩ := List.isPrefixOf_iff_prefix.mp isPrefix
    obtain rfl : more = rest := by simpa using found
    exact ⟨constant, .constant known, rfl⟩
  · cases found

theorem constantRest_quote (t : Text) : constantRest (quote :: t) = none := by
  simp [constantRest, constants, text, quote]

theorem IsNumber.head (isNumber : IsNumber digits t) :
    ∃ sign d more, t = sign ++ d :: more ∧ Signed (text "-") sign ∧ isDigit d = true := by
  obtain @⟨minus, whole, frac, exp, signed, isWhole, -, -, -⟩ := isNumber
  cases isWhole with
  | zero => exact ⟨minus, _, frac ++ exp, rfl, signed, by decide⟩
  | @many c ds first => exact ⟨minus, c, ds ++ (frac ++ exp), by simp, signed, first⟩

theorem isDigit_iff : isDigit c = true ↔ 48 ≤ c ∧ c ≤ 57 := by
  simp [isDigit]

theorem constantRest_digit (digit : isDigit c = true) (t : Text) : constantRest (c :: t) = none := by
  rw [isDigit_iff] at digit
  simp [constantRest, constants, text]
  omega

theorem constantRest_minus (digit : isDigit c = true) (t : Text) : constantRest ('-'.toNat :: c :: t) = none := by
  rw [isDigit_iff] at digit
  simp [constantRest, constants, text]
  omega

theorem scalar_complete (isScalar : Scalar digits v) (breaks : Breaks rest) : scalar digits (v ++ rest) = .ok rest := by
  cases isScalar with
  | constant known =>
    unfold scalar
    rw [constantRest_complete known]
  | string tail => simp only [scalar, List.cons_append, constantRest_quote, if_true, stringRest_complete tail]
  | number isNumber =>
    have read := number_complete isNumber breaks
    obtain ⟨sign, d, more, rfl, signed, digit⟩ := isNumber.head
    rcases signed with rfl | ⟨s, member, rfl⟩
    · have unquoted : d ≠ quote := by
        rintro rfl
        exact absurd digit (by decide)
      simp only [List.nil_append, List.cons_append] at read ⊢
      simp only [scalar, constantRest_digit digit, if_neg unquoted, read]
    · obtain rfl : s = '-'.toNat := by simpa [text] using member
      simp only [List.nil_append, List.cons_append] at read ⊢
      simp only [scalar, constantRest_minus digit, if_neg (show '-'.toNat ≠ quote by decide), read]

theorem scalar_sound (read : scalar digits t = .ok rest) : ∃ v, Scalar digits v ∧ t = v ++ rest := by
  unfold scalar at read
  split at read
  · next found =>
    obtain rfl := Except.ok.inj read
    exact constantRest_sound found
  · split at read
    · cases read
    · next c more =>
      split at read
      · next opens =>
        subst opens
        split at read
        · next closed =>
          obtain rfl := Except.ok.inj read
          obtain ⟨s, tail, rfl⟩ := stringRest_sound closed
          exact ⟨quote :: s, .string tail, rfl⟩
        · cases read
      · obtain ⟨v, isNumber, parts⟩ := number_sound read
        exact ⟨v, .number isNumber, parts⟩

theorem scalar_not_recursion : scalar digits t ≠ .error .recursion := by
  unfold scalar
  split
  · simp
  · split
    · simp
    · split
      · split <;> simp
      · exact number_not_recursion

/-- A character that opens no container, closes none and is no space. -/
def Plain (c : Nat) : Prop :=
  isSpace c = false ∧ c ≠ ']'.toNat ∧ c ≠ '}'.toNat ∧ c ≠ '['.toNat ∧ c ≠ '{'.toNat

instance (c : Nat) : Decidable (Plain c) := inferInstanceAs (Decidable (_ ∧ _))

theorem Scalar.head (isScalar : Scalar digits t) : ∃ c more, t = c :: more ∧ Plain c := by
  cases isScalar with
  | constant known =>
    simp only [constants, List.map_cons, List.map_nil, List.mem_cons, List.not_mem_nil, or_false] at known
    rcases known with rfl | rfl | rfl | rfl | rfl | rfl <;> exact ⟨_, _, rfl, by decide⟩
  | string => exact ⟨quote, _, rfl, by decide⟩
  | number isNumber =>
    obtain ⟨sign, d, more, rfl, signed, digit⟩ := isNumber.head
    rcases signed with rfl | ⟨s, member, rfl⟩
    · rw [isDigit_iff] at digit
      refine ⟨d, more, rfl, ?_⟩
      simp [Plain, isSpace]
      omega
    · obtain rfl : s = '-'.toNat := by simpa [text] using member
      exact ⟨_, _, rfl, by decide⟩

end JsonReader
