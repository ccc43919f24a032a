import LobstrMcp.Model.Toon

/-!
Keys, values and cells are read back from their text: a quoted one ends at the first quote that is
not escaped, a bare one at the first character that is not allowed in it, and no bare string is the
text of a number or a constant.
-/

namespace LobstrMcp
namespace Toon

/-! ### Quoted text -/

/-- What is escaped in quotes, each with the letter it is written by. -/
def escapes : Dict Char Char := [('\\', '\\'), ('"', '"'), ('\n', 'n'), ('\t', 't'), ('\r', 'r')]

def escape (c : Char) : List Char :=
  match Dict.get? escapes c with
  | some e => ['\\', e]
  | none => [c]

theorem escape_plain {c : Char} (plain : Dict.get? escapes c = none) : escape c = [c] := by
  unfold escape
  rw [plain]

theorem escape_some {c e : Char} (escaped : Dict.get? escapes c = some e) : escape c = ['\\', e] := by
  unfold escape
  rw [escaped]

/-- The replacements one after the other are one, a character at a time. -/
theorem quote_eq (s : String) : quote s = '"' :: (s.toList.flatMap escape ++ ['"']) := by
  unfold quote replace
  simp only [List.flatMap_assoc, List.cons.injEq, true_and, List.append_cancel_right_eq]
  apply List.flatMap_congr
  intro c _
  by_cases backslash : c = '\\'
  · subst backslash; rfl
  by_cases mark : c = '"'
  · subst mark; rfl
  by_cases line : c = '\n'
  · subst line; rfl
  by_cases tab : c = '\t'
  · subst tab; rfl
  by_cases back : c = '\r'
  · subst back; rfl
  have plain : Dict.get? escapes c = none := by
    simp [escapes, Ne.symm backslash, Ne.symm mark, Ne.symm line, Ne.symm tab, Ne.symm back]
  rw [escape_plain plain]
  simp [backslash, mark, line, tab, back]

theorem escapes_inj {c d e : Char} (hc : Dict.get? escapes c = some e) (hd : Dict.get? escapes d = some e) : c = d := by
  have table : ∀ a ∈ escapes, ∀ b ∈ escapes, a.2 = b.2 → a.1 = b.1 := by decide
  exact table _ (Dict.mem_of_get? hc) _ (Dict.mem_of_get? hd) rfl

theorem escapes_unbroken {c e : Char} (escaped : Dict.get? escapes c = some e) : e ≠ '\n' := by
  have table : ∀ a ∈ escapes, a.2 ≠ '\n' := by decide
  exact table _ (Dict.mem_of_get? escaped)

theorem plain_ne {c d : Char} (plain : Dict.get? escapes c = none) (special : (Dict.get? escapes d).isSome) : c ≠ d := by
  rintro rfl
  simp [plain] at special

theorem escape_inj {c d : Char} {x y : List Char} (h : escape c ++ x = escape d ++ y) : c = d ∧ x = y := by
  cases hc : Dict.get? escapes c with
  | some e =>
    cases hd : Dict.get? escapes d with
    | some e' =>
      rw [escape_some hc, escape_some hd] at h
      simp only [List.cons_append, List.nil_append, List.cons.injEq, true_and] at h
      obtain ⟨rfl, tail⟩ := h
      exact ⟨escapes_inj hc hd, tail⟩
    | none =>
      rw [escape_some hc, escape_plain hd] at h
      simp only [List.cons_append, List.nil_append, List.cons.injEq] at h
      exact absurd h.1.symm (plain_ne hd (by decide))
  | none =>
    cases hd : Dict.get? escapes d with
    | some e =>
      rw [escape_plain hc, escape_some hd] at h
      simp only [List.cons_append, List.nil_append, List.cons.injEq] at h
      exact absurd h.1 (plain_ne hc (by decide))
    | none =>
      rw [escape_plain hc, escape_plain hd] at h
      simpa using h

theorem escape_ne_quote (c : Char) (x y : List Char) : escape c ++ x ≠ '"' :: y := by
  cases hc : Dict.get? escapes c with
  | some e =>
    rw [escape_some hc]
    simp
  | none =>
    rw [escape_plain hc]
    simpa using fun same => absurd same (plain_ne hc (by decide))

theorem quote_inj {s t : String} {x y : List Char} (h : quote s ++ x = quote t ++ y) : s = t ∧ x = y := by
  simp only [quote_eq, List.cons_append, List.append_assoc, List.cons.injEq, true_and, List.nil_append] at h
  obtain ⟨same, tail⟩ := Json.coded_inj escape_inj escape_ne_quote h
  exact ⟨String.toList_inj.mp same, tail⟩

theorem quote_opens (s : String) : ∃ rest, quote s = '"' :: rest := ⟨_, quote_eq s⟩

theorem quote_unbroken (s : String) : '\n' ∉ quote s := by
  rw [quote_eq, List.mem_cons, List.mem_append, List.mem_flatMap, not_or, not_or]
  refine ⟨by decide, ?_, by decide⟩
  rintro ⟨c, -, member⟩
  cases hc : Dict.get? escapes c with
  | some e =>
    rw [escape_some hc] at member
    simp only [List.mem_cons, List.not_mem_nil, or_false] at member
    exact escapes_unbroken hc (member.resolve_left (by decide)).symm
  | none =>
    rw [escape_plain hc, List.mem_singleton] at member
    exact plain_ne hc (by decide) member.symm

/-! ### Keys -/

/-- A stripped text starts with no space. -/
theorem strip_head {s : String} {c : Char} {rest : List Char} (stripped : s = strip s) (text : s.toList = c :: rest) :
    isSpace c = false := by
  cases space : isSpace c with
  | false => rfl
  | true =>
    have chars := congrArg String.toList stripped
    unfold strip at chars
    rw [String.toList_ofList, text, List.dropWhile_cons_of_pos space] at chars
    have shorter := congrArg List.length chars
    have front := (List.dropWhile_suffix (l := rest) isSpace).length_le
    have back := (List.dropWhile_suffix (l := (rest.dropWhile isSpace).reverse) isSpace).length_le
    simp only [List.length_cons, List.length_reverse] at shorter back
    omega

/-- A key as it stands: it is not empty, starts with no space and has nothing that ends a key. -/
structure BareKey (k : String) : Prop where
  nonempty : k ≠ ""
  stripped : k = strip k
  safe : ∀ c ∈ k.toList, c ∉ keyUnsafe

theorem key_cases (k : String) : key k = quote k ∨ (BareKey k ∧ key k = k.toList) := by
  unfold key
  split
  · exact .inl rfl
  · rename_i bare
    simp only [not_or, not_not, List.any_eq_true, decide_eq_true_eq, not_exists, not_and] at bare
    exact .inr ⟨⟨bare.1, bare.2.1, bare.2.2⟩, rfl⟩

theorem BareKey.ne_nil {k : String} (bare : BareKey k) : k.toList ≠ [] := by
  intro empty
  exact bare.nonempty (String.toList_inj.mp empty)

/-- A bare key is no quoted one. -/
theorem BareKey.unquoted {k : String} (bare : BareKey k) {x y : List Char} : k.toList ++ x ≠ '"' :: y := by
  obtain ⟨c, rest, text⟩ := List.exists_cons_of_ne_nil bare.ne_nil
  rw [text, List.cons_append]
  intro same
  rw [List.cons.injEq] at same
  exact bare.safe c (text ▸ List.mem_cons_self) (same.1 ▸ by decide)

/-- Keys before a character that ends them. -/
theorem key_inj {k l : String} {c d : Char} {x y : List Char} (hc : c ∈ keyUnsafe) (hd : d ∈ keyUnsafe)
    (h : key k ++ c :: x = key l ++ d :: y) : k = l ∧ c = d ∧ x = y := by
  obtain quoted | ⟨bare, text⟩ := key_cases k <;> obtain quoted' | ⟨bare', text'⟩ := key_cases l
  · rw [quoted, quoted'] at h
    obtain ⟨same, tail⟩ := quote_inj h
    exact ⟨same, List.cons.inj tail⟩
  · obtain ⟨rest, opens⟩ := quote_opens k
    rw [quoted, opens, text'] at h
    exact absurd h.symm bare'.unquoted
  · obtain ⟨rest, opens⟩ := quote_opens l
    rw [quoted', opens, text] at h
    exact absurd h bare.unquoted
  · rw [text, text'] at h
    obtain ⟨same, marks, tail⟩ := Json.span_inj bare.safe bare'.safe (not_not.mpr hc) (not_not.mpr hd) h
    exact ⟨String.toList_inj.mp same, marks, tail⟩

theorem key_head (k : String) : ∃ c rest, key k = c :: rest ∧ c ≠ ' ' := by
  obtain quoted | ⟨bare, text⟩ := key_cases k
  · obtain ⟨rest, opens⟩ := quote_opens k
    exact ⟨'"', rest, quoted.trans opens, by decide⟩
  · obtain ⟨c, rest, chars⟩ := List.exists_cons_of_ne_nil bare.ne_nil
    refine ⟨c, rest, text.trans chars, ?_⟩
    rintro rfl
    exact absurd (strip_head bare.stripped chars) (by decide)

theorem key_unbroken (k : String) : '\n' ∉ key k := by
  obtain quoted | ⟨bare, text⟩ := key_cases k
  · rw [quoted]
    exact quote_unbroken k
  · rw [text]
    exact fun member => bare.safe _ member (by decide)

/-! ### Numbers -/

section Numbers
open Json (Digits Fraction Power Numeral)

theorem isDecimal_digit {c : Char} (digit : c.isDigit = true) : isDecimal c = true := by
  refine List.any_eq_true.mpr ⟨48, List.mem_cons_self, ?_⟩
  have range : 48 ≤ c.toNat ∧ c.toNat ≤ 57 := Char.isDigit_iff_toNat.mp digit
  simp
  omega

theorem afterDigits?_append {ds rest : List Char} (digits : Digits ds) (stops : ∀ c ∈ rest.head?, isDecimal c = false) :
    afterDigits? (ds ++ rest) = some rest := by
  have decimals : ∀ c ∈ ds, isDecimal c = true := fun c member => isDecimal_digit (digits.2 c member)
  have front : rest.takeWhile isDecimal = [] := by
    cases rest with
    | nil => rfl
    | cons c rest => rw [List.takeWhile_cons_of_neg (by simp [stops c rfl])]
  have back : rest.dropWhile isDecimal = rest := by
    cases rest with
    | nil => rfl
    | cons c rest => rw [List.dropWhile_cons_of_neg (by simp [stops c rfl])]
  unfold afterDigits?
  rw [List.takeWhile_append_of_pos decimals, List.dropWhile_append_of_pos decimals, front, back, List.append_nil,
    if_neg (by simpa using digits.1)]

theorem power_head {power : List Char} (exponent : Power power) : ∀ c ∈ power.head?, isDecimal c = false := by
  obtain rfl | ⟨sign, ds, rfl, -⟩ := exponent
  · intro c absurd
    cases absurd
  · intro c member
    cases member
    decide

theorem afterFraction_append {fraction power : List Char} (point : Fraction fraction) (exponent : Power power) :
    afterFraction (fraction ++ power) = power := by
  obtain rfl | ⟨ds, rfl, digits⟩ := point
  · obtain rfl | ⟨sign, ds, rfl, -⟩ := exponent <;> rfl
  · show (afterDigits? (ds ++ power)).getD _ = power
    rw [afterDigits?_append digits (power_head exponent)]
    rfl

theorem afterExponent_power {power : List Char} (exponent : Power power) : afterExponent power = [] := by
  obtain rfl | ⟨sign, ds, rfl, signs, digits⟩ := exponent
  · rfl
  · have rest : afterDigits? ds = some [] := by
      rw [← List.append_nil ds, afterDigits?_append digits fun c absurd => by cases absurd]
    obtain rfl | rfl := signs
    · show (afterDigits? ds).getD _ = []
      rw [rest]
      rfl
    · show (afterDigits? ds).getD _ = []
      rw [rest]
      rfl

/-- The text of a number looks like one. -/
theorem numRe_numeral {text : List Char} (numeral : Numeral text) : numRe text = true := by
  obtain ⟨negative, whole, fraction, power, rfl, digits, point, exponent⟩ := numeral
  have unsigned : (if ((if negative then ['-'] else []) ++ (whole ++ (fraction ++ power))).head? = some '-' then
      ((if negative then ['-'] else []) ++ (whole ++ (fraction ++ power))).tail
      else (if negative then ['-'] else []) ++ (whole ++ (fraction ++ power))) = whole ++ (fraction ++ power) := by
    cases negative with
    | true => rfl
    | false =>
      obtain ⟨c, rest, rfl⟩ := List.exists_cons_of_ne_nil digits.1
      have sign : c ≠ '-' := by
        rintro rfl
        exact absurd (digits.2 _ List.mem_cons_self) (by decide)
      simp [sign]
  have stops : ∀ c ∈ (fraction ++ power).head?, isDecimal c = false := by
    obtain rfl | ⟨ds, rfl, -⟩ := point
    · exact power_head exponent
    · intro c member
      cases member
      decide
  unfold numRe
  rw [unsigned, afterDigits?_append digits stops]
  dsimp only
  rw [afterFraction_append point exponent, afterExponent_power exponent]
  rfl

end Numbers

/-- The number that an int or a float is. -/
def numberOf : Json → Option Rat
  | .int n => some n
  | .float q => some (if q.den = 1 then wholeOf q else q)
  | _ => none

theorem num_float (q : Rat) : num (.float q) = if q.den = 1 then Json.intText (wholeOf q) else Json.reprText q := rfl

/-- A number prints as an integer, or as a float that is none. -/
theorem num_cases {v : Json} {a : Rat} (number : numberOf v = some a) :
    (∃ n : Int, num v = Json.intText n ∧ a = n) ∨ num v = Json.reprText a := by
  cases v <;> simp [numberOf] at number
  · rename_i n
    exact .inl ⟨n, rfl, number.symm⟩
  · rename_i q
    rw [num_float]
    by_cases whole : q.den = 1
    · rw [if_pos whole] at number ⊢
      exact .inl ⟨wholeOf q, rfl, number.symm⟩
    · rw [if_neg whole] at number ⊢
      rw [number]
      exact .inr rfl

theorem num_inj {v w : Json} {a b : Rat} (hv : numberOf v = some a) (hw : numberOf w = some b) (h : num v = num w) :
    a = b := by
  have apart : ∀ (n : Int) (q : Rat), Json.intText n ≠ Json.reprText q := by
    intro n q same
    obtain ⟨c, member, mark⟩ := Json.reprText_mark q
    exact mark (Json.intText_chars (same ▸ member))
  obtain ⟨m, text, rfl⟩ | text := num_cases hv <;> obtain ⟨n, text', rfl⟩ | text' := num_cases hw <;> rw [text, text'] at h
  · rw [Json.intText_inj h]
  · exact absurd h (apart m b)
  · exact absurd h.symm (apart n a)
  · exact Json.reprText_inj h

theorem num_chars {v : Json} {a : Rat} (number : numberOf v = some a) {c : Char} (member : c ∈ num v) :
    Json.NumeralChar c := by
  obtain ⟨n, text, -⟩ | text := num_cases number <;> rw [text] at member
  · exact .inl (Json.intText_chars member)
  · exact Json.reprText_chars member

/-- The floats of a value print in digits, as every finite float does. -/
def finiteScalar : Json → Bool
  | .float q => (Json.decimals? q).isSome
  | _ => true

theorem numRe_num {v : Json} {a : Rat} (number : numberOf v = some a) (finite : finiteScalar v = true) :
    numRe (num v) = true := by
  cases v <;> simp [numberOf] at number
  · exact numRe_numeral (Json.numeral_intText _)
  · rename_i q
    obtain ⟨k, decimals⟩ := Option.isSome_iff_exists.mp finite
    rw [num_float]
    split
    · exact numRe_numeral (Json.numeral_intText _)
    · exact numRe_numeral (Json.numeral_reprText decimals)

/-! ### Values and cells -/

/-- Equal scalars, an integral float and the same integer being one. -/
inductive SameScalar : Json → Json → Prop
  | null : SameScalar .null .null
  | bool (b : Bool) : SameScalar (.bool b) (.bool b)
  | str (s : String) : SameScalar (.str s) (.str s)
  | number {v w : Json} {q : Rat} (left : numberOf v = some q) (right : numberOf w = some q) : SameScalar v w

/-- What a cell is empty for. -/
def Blank (v : Json) : Prop := v = .null ∨ v = .str ""

/-- Equal scalars, null and the empty string being one as well. -/
def SameCell (v w : Json) : Prop := SameScalar v w ∨ (Blank v ∧ Blank w)

/-- A string that is written without quotes. -/
structure BareWord (s : String) (inCell : Bool) : Prop where
  nonempty : s ≠ ""
  unbroken : ∀ c ∈ s.toList, c ∉ ['"', '\n', '\t', '\r']
  uncut : inCell = true → ',' ∉ s.toList
  constant : s ∉ ["true", "false", "null"]
  number : numRe s.toList = false
  lead : ∀ c rest, s.toList = c :: rest → c ∉ leadUnsafe

theorem bareWord_of_needsQuote {s : String} {inCell : Bool} (nonempty : s ≠ "") (bare : needsQuote s inCell = false) :
    BareWord s inCell := by
  unfold needsQuote at bare
  rw [if_neg nonempty] at bare
  split at bare
  · cases bare
  split at bare
  · cases bare
  rename_i unbroken
  split at bare
  · cases bare
  split at bare
  · cases bare
  rename_i uncut
  split at bare
  · cases bare
  rename_i plain
  simp only [Bool.or_eq_true, decide_eq_true_eq, not_or, Bool.not_eq_true] at plain
  refine ⟨nonempty, ?_, ?_, plain.1, plain.2, ?_⟩
  · intro c member special
    exact unbroken (List.any_eq_true.mpr ⟨c, member, decide_eq_true special⟩)
  · intro cell comma
    exact uncut (by simp [cell, comma])
  · intro c rest text special
    rw [text, List.head?_cons, Option.any_some] at bare
    simp [special] at bare

/-- A scalar and the text it has without quotes. -/
inductive Bare (inCell : Bool) : Json → List Char → Prop
  | bool (b : Bool) : Bare inCell (.bool b) (boolText b)
  | number {v : Json} {q : Rat} (is : numberOf v = some q) (finite : finiteScalar v = true) : Bare inCell v (num v)
  | str {s : String} (word : BareWord s inCell) : Bare inCell (.str s) s.toList

section Texts
variable {v w : Json} {inCell inCell' : Bool} {text : List Char}

/-- Constants, numbers and bare strings are told apart by their text. -/
theorem bare_inj (hv : Bare inCell v text) (hw : Bare inCell' w text) : SameScalar v w := by
  have constant : ∀ b, numRe (boolText b) = false := by decide
  have word : ∀ {s : String} {cell : Bool}, BareWord s cell → ∀ b, s.toList ≠ boolText b := by
    intro s cell word b same
    have const : s = "true" ∨ s = "false" := by
      cases b
      · exact .inr (String.toList_inj.mp same)
      · exact .inl (String.toList_inj.mp same)
    obtain rfl | rfl := const <;> exact word.constant (by decide)
  generalize text' : text = t at hw
  cases hv with
  | bool b =>
    cases hw with
    | bool c => cases b <;> cases c <;> first | exact .bool _ | exact absurd text' (by decide)
    | number is finite =>
      have number := numRe_num is finite
      rw [← text', constant] at number
      cases number
    | str w => exact absurd text'.symm (word w b)
  | number is finite =>
    have number := numRe_num is finite
    cases hw with
    | bool c =>
      rw [text', constant] at number
      cases number
    | number is' finite' =>
      obtain rfl := num_inj is is' text'
      exact .number is is'
    | str w =>
      rw [text', w.number] at number
      cases number
  | str w =>
    cases hw with
    | bool c => exact absurd text' (word w c)
    | number is finite =>
      have number := numRe_num is finite
      rw [← text', w.number] at number
      cases number
    | str w' =>
      obtain rfl := String.toList_inj.mp text'
      exact .str _

theorem numberOf_chars {q : Rat} (is : numberOf v = some q) (c : Char) (other : ¬ Json.NumeralChar c) : c ∉ num v :=
  fun member => other (num_chars is member)

theorem Bare.nonempty (bare : Bare inCell v text) : text ≠ [] := by
  cases bare with
  | bool b => cases b <;> simp [boolText]
  | number is finite =>
    intro empty
    have number := numRe_num is finite
    rw [empty] at number
    exact absurd number (by decide)
  | str word => exact fun empty => word.nonempty (String.toList_inj.mp empty)

theorem Bare.unbroken (bare : Bare inCell v text) : '"' ∉ text ∧ '\n' ∉ text := by
  cases bare with
  | bool b => cases b <;> decide
  | number is _ => exact ⟨numberOf_chars is _ (by simp [Json.NumeralChar, Json.SignedChar]),
      numberOf_chars is _ (by simp [Json.NumeralChar, Json.SignedChar])⟩
  | str word => exact ⟨fun member => word.unbroken _ member (by decide), fun member => word.unbroken _ member (by decide)⟩

theorem Bare.uncut (bare : Bare true v text) : ',' ∉ text := by
  cases bare with
  | bool b => cases b <;> decide
  | number is _ => exact numberOf_chars is _ (by simp [Json.NumeralChar, Json.SignedChar])
  | str word => exact word.uncut rfl

theorem Bare.head {rest : List Char} (bare : Bare inCell v text) : text ≠ '[' :: rest := by
  cases bare with
  | bool b => cases b <;> simp [boolText]
  | number is _ =>
    intro same
    exact numberOf_chars is '[' (by simp [Json.NumeralChar, Json.SignedChar]) (by simp [same])
  | str word => exact fun same => word.lead _ _ same (by decide)

theorem Bare.ne_null (bare : Bare inCell v text) : text ≠ ['n', 'u', 'l', 'l'] := by
  cases bare with
  | bool b => cases b <;> decide
  | number is finite =>
    intro same
    have number := numRe_num is finite
    rw [same] at number
    exact absurd number (by decide)
  | str word =>
    intro same
    rw [String.toList_inj.mp (same.trans (by decide : ['n', 'u', 'l', 'l'] = "null".toList))] at word
    exact word.constant (by decide)

end Texts

/-- How a value is written after its key: null, bare, or in quotes. -/
theorem scalar_cases {v : Json} (flat : isScalar v = true) (finite : finiteScalar v = true) :
    (v = .null ∧ scalar v = ['n', 'u', 'l', 'l']) ∨ Bare false v (scalar v) ∨ ∃ s, v = .str s ∧ scalar v = quote s := by
  cases v with
  | null => exact .inl ⟨rfl, rfl⟩
  | bool b => exact .inr (.inl (.bool b))
  | int n => exact .inr (.inl (.number rfl finite))
  | float q => exact .inr (.inl (.number rfl finite))
  | arr items => cases flat
  | obj fields => cases flat
  | str s =>
    right
    show Bare false (.str s) (if needsQuote s false then quote s else s.toList) ∨ _
    cases quoted : needsQuote s false with
    | true => exact .inr ⟨s, rfl, if_pos quoted⟩
    | false =>
      have nonempty : s ≠ "" := by
        rintro rfl
        exact absurd quoted (by decide)
      exact .inl (.str (bareWord_of_needsQuote nonempty quoted))

/-- How a value is written in a cell: not at all, bare, or in quotes. -/
theorem cell_cases {v : Json} (flat : isScalar v = true) (finite : finiteScalar v = true) :
    (Blank v ∧ cell v = []) ∨ Bare true v (cell v) ∨ ∃ s, v = .str s ∧ cell v = quote s := by
  cases v with
  | null => exact .inl ⟨.inl rfl, rfl⟩
  | bool b => exact .inr (.inl (.bool b))
  | int n => exact .inr (.inl (.number rfl finite))
  | float q => exact .inr (.inl (.number rfl finite))
  | arr items => cases flat
  | obj fields => cases flat
  | str s =>
    show _ ∨ Bare true (.str s) (if needsQuote s true then quote s else s.toList) ∨ _
    by_cases empty : s = ""
    · subst empty
      exact .inl ⟨.inr rfl, by decide⟩
    · right
      cases quoted : needsQuote s true with
      | true => exact .inr ⟨s, rfl, if_pos quoted⟩
      | false => exact .inl (.str (bareWord_of_needsQuote empty quoted))

end Toon
end LobstrMcp
