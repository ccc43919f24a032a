import LobstrMcp.Data.FloatRepr
import LobstrMcp.Data.Spelling
import Mathlib.Data.List.Sort

/-!
`json.dumps(v, sort_keys=True)`: the text of a JSON value, and that it determines the value up
to the order of object keys. A string ends at its first unescaped quote.
-/

namespace Json

/-! ### The encoder -/

def hexDigit (n : Nat) : Char :=
  if n < 10 then Char.ofNat (48 + n) else Char.ofNat (87 + n)

/-- The four hexadecimal digits of a UTF-16 code unit. -/
def hex4 (n : Nat) : List Char :=
  [hexDigit (n / 4096 % 16), hexDigit (n / 256 % 16), hexDigit (n / 16 % 16), hexDigit (n % 16)]

/-- `\uXXXX`, a surrogate pair beyond the basic plane. -/
def escapeUnicode (n : Nat) : List Char :=
  if n < 65536 then '\\' :: 'u' :: hex4 n
  else '\\' :: 'u' :: hex4 (55296 + (n - 65536) / 1024) ++
    '\\' :: 'u' :: hex4 (56320 + (n - 65536) % 1024)

/-- The characters with a short escape, each with the letter it is written by. -/
def shortEscapes : Dict Char Char := [('"', '"'), ('\\', '\\'), ('\n', 'n'), ('\r', 'r'), ('\t', 't'),
  (Char.ofNat 8, 'b'), (Char.ofNat 12, 'f')]

/-- A character as it stands where it is plain, and escaped else. -/
def escapeWith (plain : Char → Prop) [DecidablePred plain] (c : Char) : List Char :=
  match Dict.get? shortEscapes c with
  | some e => ['\\', e]
  | none => if plain c then [c] else escapeUnicode c.toNat

def quotedWith (plain : Char → Prop) [DecidablePred plain] (s : String) : List Char :=
  '"' :: (s.toList.flatMap (escapeWith plain) ++ ['"'])

mutual
/-- The value with the keys of every object in order. -/
def sortKeys : Json → Json
  | .arr items => .arr (sortKeysItems items)
  | .obj fields => .obj ((sortKeysFields fields).insertionSort fun a b => a.1 ≤ b.1)
  | v => v
def sortKeysItems : List Json → List Json
  | [] => []
  | v :: rest => sortKeys v :: sortKeysItems rest
def sortKeysFields : List (String × Json) → List (String × Json)
  | [] => []
  | (k, v) :: rest => (k, sortKeys v) :: sortKeysFields rest
end

/-! ### Strings -/

theorem hexDigit_inj {a b : Nat} (ha : a < 16) (hb : b < 16) (h : hexDigit a = hexDigit b) : a = b := by
  have table : ∀ a : Fin 16, ∀ b : Fin 16, hexDigit a = hexDigit b → a = b := by decide
  exact congrArg Fin.val (table ⟨a, ha⟩ ⟨b, hb⟩ h)

theorem hex4_inj {a b : Nat} {x y : List Char} (ha : a < 65536) (hb : b < 65536)
    (h : hex4 a ++ x = hex4 b ++ y) : a = b ∧ x = y := by
  simp only [hex4, List.cons_append, List.nil_append, List.cons.injEq] at h
  obtain ⟨h₁, h₂, h₃, h₄, tail⟩ := h
  have e₁ := hexDigit_inj (Nat.mod_lt _ (by omega)) (Nat.mod_lt _ (by omega)) h₁
  have e₂ := hexDigit_inj (Nat.mod_lt _ (by omega)) (Nat.mod_lt _ (by omega)) h₂
  have e₃ := hexDigit_inj (Nat.mod_lt _ (by omega)) (Nat.mod_lt _ (by omega)) h₃
  have e₄ := hexDigit_inj (Nat.mod_lt _ (by omega)) (Nat.mod_lt _ (by omega)) h₄
  exact ⟨by omega, tail⟩

theorem char_bounds (c : Char) : c.toNat < 55296 ∨ (57343 < c.toNat ∧ c.toNat < 1114112) := c.valid

theorem escapeUnicode_inj {c d : Char} {x y : List Char}
    (h : escapeUnicode c.toNat ++ x = escapeUnicode d.toNat ++ y) : c = d ∧ x = y := by
  have hc := char_bounds c
  have hd := char_bounds d
  suffices equal : c.toNat = d.toNat ∧ x = y from
    ⟨Char.toNat_inj.mp equal.1, equal.2⟩
  unfold escapeUnicode at h
  split at h <;> split at h <;>
    simp only [List.cons_append, List.append_assoc, List.cons.injEq, true_and] at h
  · exact hex4_inj (by omega) (by omega) h
  · have := (hex4_inj (by omega) (by omega) h).1
    omega
  · have := (hex4_inj (by omega) (by omega) h).1
    omega
  · obtain ⟨high, rest⟩ := hex4_inj (by omega) (by omega) h
    simp only [List.cons.injEq, true_and] at rest
    obtain ⟨low, tail⟩ := hex4_inj (by omega) (by omega) rest
    exact ⟨by omega, tail⟩

theorem shortEscapes_inj {c d e : Char} (hc : Dict.get? shortEscapes c = some e)
    (hd : Dict.get? shortEscapes d = some e) : c = d := by
  have table : ∀ a ∈ shortEscapes, ∀ b ∈ shortEscapes, a.2 = b.2 → a.1 = b.1 := by decide
  exact table _ (Dict.mem_of_get? hc) _ (Dict.mem_of_get? hd) rfl

theorem shortEscapes_not_u {c e : Char} (h : Dict.get? shortEscapes c = some e) : e ≠ 'u' := by
  have table : ∀ a ∈ shortEscapes, a.2 ≠ 'u' := by decide
  exact table _ (Dict.mem_of_get? h)

theorem plain_ne_backslash {c : Char} (h : Dict.get? shortEscapes c = none) : c ≠ '\\' := by
  rintro rfl
  exact absurd h (by decide)

theorem plain_ne_quote {c : Char} (h : Dict.get? shortEscapes c = none) : c ≠ '"' := by
  rintro rfl
  exact absurd h (by decide)

theorem escapeUnicode_head (n : Nat) : ∃ rest, escapeUnicode n = '\\' :: 'u' :: rest := by
  unfold escapeUnicode
  split
  · exact ⟨_, rfl⟩
  · exact ⟨_, rfl⟩

section Escapes
variable {plain : Char → Prop} [DecidablePred plain]

/-- No escaped character is a prefix of another. -/
theorem escapeWith_inj {c d : Char} {x y : List Char} (h : escapeWith plain c ++ x = escapeWith plain d ++ y) :
    c = d ∧ x = y := by
  unfold escapeWith at h
  cases hc : Dict.get? shortEscapes c with
  | some e =>
    cases hd : Dict.get? shortEscapes d with
    | some e' =>
      simp only [hc, hd, List.cons_append, List.nil_append, List.cons.injEq, true_and] at h
      obtain ⟨rfl, tail⟩ := h
      exact ⟨shortEscapes_inj hc hd, tail⟩
    | none =>
      simp only [hc, hd] at h
      split at h
      · simp only [List.cons_append, List.nil_append, List.cons.injEq] at h
        exact absurd h.1.symm (plain_ne_backslash hd)
      · obtain ⟨rest, text⟩ := escapeUnicode_head d.toNat
        simp only [text, List.cons_append, List.nil_append, List.cons.injEq, true_and] at h
        exact absurd h.1 (shortEscapes_not_u hc)
  | none =>
    cases hd : Dict.get? shortEscapes d with
    | some e =>
      simp only [hc, hd] at h
      split at h
      · simp only [List.cons_append, List.nil_append, List.cons.injEq] at h
        exact absurd h.1 (plain_ne_backslash hc)
      · obtain ⟨rest, text⟩ := escapeUnicode_head c.toNat
        simp only [text, List.cons_append, List.nil_append, List.cons.injEq, true_and] at h
        exact absurd h.1.symm (shortEscapes_not_u hd)
    | none =>
      simp only [hc, hd] at h
      split at h <;> split at h
      · simpa using h
      · obtain ⟨rest, text⟩ := escapeUnicode_head d.toNat
        simp only [text, List.cons_append, List.nil_append, List.cons.injEq] at h
        exact absurd h.1 (plain_ne_backslash hc)
      · obtain ⟨rest, text⟩ := escapeUnicode_head c.toNat
        simp only [text, List.cons_append, List.nil_append, List.cons.injEq] at h
        exact absurd h.1.symm (plain_ne_backslash hd)
      · exact escapeUnicode_inj h

theorem escapeWith_ne_quote (c : Char) (x y : List Char) : escapeWith plain c ++ x ≠ '"' :: y := by
  unfold escapeWith
  cases hc : Dict.get? shortEscapes c with
  | some e => simp
  | none =>
    simp only
    split
    · simpa using fun same => absurd same (plain_ne_quote hc)
    · obtain ⟨rest, text⟩ := escapeUnicode_head c.toNat
      simp [text]

end Escapes

/-- A text of which no character's code is a prefix of another's, or opens with the end mark, is read
back up to the mark. -/
theorem coded_inj {code : Char → List Char} {mark : Char}
    (inj : ∀ {c d x y}, code c ++ x = code d ++ y → c = d ∧ x = y) (ne_mark : ∀ c x y, code c ++ x ≠ mark :: y)
    {s t x y : List Char} (h : s.flatMap code ++ mark :: x = t.flatMap code ++ mark :: y) : s = t ∧ x = y := by
  induction s generalizing t with
  | nil =>
    cases t with
    | nil => simpa using h
    | cons d t =>
      rw [List.flatMap_cons, List.append_assoc] at h
      exact absurd h.symm (ne_mark d _ _)
  | cons c s ih =>
    cases t with
    | nil =>
      rw [List.flatMap_cons, List.append_assoc] at h
      exact absurd h (ne_mark c _ _)
    | cons d t =>
      simp only [List.flatMap_cons, List.append_assoc] at h
      obtain ⟨rfl, rest⟩ := inj h
      obtain ⟨rfl, tail⟩ := ih rest
      exact ⟨rfl, tail⟩

theorem quotedWith_inj {plain : Char → Prop} [DecidablePred plain] {s t : String} {x y : List Char}
    (h : quotedWith plain s ++ x = quotedWith plain t ++ y) : s = t ∧ x = y := by
  simp only [quotedWith, List.cons_append, List.append_assoc, List.cons.injEq, true_and, List.nil_append] at h
  obtain ⟨same, tail⟩ := coded_inj escapeWith_inj escapeWith_ne_quote h
  exact ⟨String.toList_inj.mp same, tail⟩

/-! ### Values -/

/-- `json.dumps` as it is: what is not ASCII is escaped. -/
def asciiSpelling : Spelling where
  string := quotedWith fun c => 32 ≤ c.toNat ∧ c.toNat ≤ 126
  float := reprText
  string_opens _ := ⟨_, rfl⟩
  string_ends := quotedWith_inj
  float_inj := reprText_inj
  float_chars := reprText_chars
  float_mark := reprText_mark

/-- `json.dumps(v, ensure_ascii=False)`: only control characters are escaped. -/
def unicodeSpelling : Spelling where
  string := quotedWith fun c => 32 ≤ c.toNat
  float := reprText
  string_opens _ := ⟨_, rfl⟩
  string_ends := quotedWith_inj
  float_inj := reprText_inj
  float_chars := reprText_chars
  float_mark := reprText_mark

/-- JSON is written on one line. -/
theorem escapeWith_unbroken {plain : Char → Prop} [DecidablePred plain] (c : Char) : '\n' ∉ escapeWith plain c := by
  have table : ∀ a ∈ shortEscapes, a.2 ≠ '\n' := by decide
  have hex : ∀ n, '\n' ∉ hex4 n := by
    have digit : ∀ a : Fin 16, hexDigit a ≠ '\n' := by decide
    have each : ∀ m, hexDigit (m % 16) ≠ '\n' := fun m => digit ⟨m % 16, Nat.mod_lt _ (by omega)⟩
    simp [hex4, Ne.symm (each _)]
  unfold escapeWith
  cases hc : Dict.get? shortEscapes c with
  | some e => simpa using Ne.symm (table _ (Dict.mem_of_get? hc))
  | none =>
    dsimp only
    split
    · rw [List.mem_singleton]
      rintro rfl
      exact absurd hc (by decide)
    · unfold escapeUnicode
      split <;> simp [hex]

theorem unicodeSpelling_avoids : unicodeSpelling.Avoids '\n' where
  strings s := by
    have body : ∀ c ∈ s.toList, '\n' ∉ escapeWith (fun c => 32 ≤ c.toNat) c := fun c _ => escapeWith_unbroken c
    show '\n' ∉ quotedWith _ s
    simpa [quotedWith] using body
  numerals := by simp [NumeralChar, SignedChar]
  others := by decide

/-- `json.dumps(v)` -/
def dumps (v : Json) : List Char := spell asciiSpelling v

/-- `json.dumps(v, sort_keys=True)` -/
def dumpsSorted (v : Json) : String := String.ofList (dumps v.sortKeys)

/-! ### Text in front of a value

A bar occurs in the text of a value only inside a string. Reading a text as if it started inside
a string swaps inside and outside for good, so a text that ends outside cannot be the tail of
another one from a bar on. -/

/-- Where a reader of JSON text stands. -/
inductive Scan where
  | outside | inside | escaped
  deriving DecidableEq

/-- One character read; a bar or a backslash outside a string is not JSON. -/
def scanStep : Scan → Char → Option Scan
  | .outside, c => if c = '"' then some .inside else if c = '|' ∨ c = '\\' then none else some .outside
  | .inside, c => if c = '"' then some .outside else if c = '\\' then some .escaped else some .inside
  | .escaped, _ => some .inside

def scan (s : Scan) (text : List Char) : Option Scan := text.foldlM scanStep s

@[simp] theorem scan_nil (s : Scan) : scan s [] = some s := rfl

theorem scan_cons (s : Scan) (c : Char) (text : List Char) :
    scan s (c :: text) = (scanStep s c).bind fun t => scan t text := rfl

theorem scan_append (s : Scan) (a b : List Char) :
    scan s (a ++ b) = (scan s a).bind fun t => scan t b := by
  simp only [scan, List.foldlM_append]
  rfl

theorem scan_hex (n : Nat) (rest : List Char) : scan .inside (hex4 n ++ rest) = scan .inside rest := by
  have digit : ∀ a : Fin 16, scanStep .inside (hexDigit a) = some .inside := by decide
  have step : ∀ m, scanStep .inside (hexDigit (m % 16)) = some .inside :=
    fun m => digit ⟨m % 16, Nat.mod_lt _ (by omega)⟩
  simp [hex4, scan_cons, step]

theorem scan_unicode (n : Nat) (rest : List Char) :
    scan .inside ('\\' :: 'u' :: (hex4 n ++ rest)) = scan .inside rest := by
  simp [scan_cons, scanStep, scan_hex]

theorem scan_escapeWith {plain : Char → Prop} [DecidablePred plain] (c : Char) (rest : List Char) :
    scan .inside (escapeWith plain c ++ rest) = scan .inside rest := by
  unfold escapeWith
  cases hc : Dict.get? shortEscapes c with
  | some e => simp [scan_cons, scanStep]
  | none =>
    simp only
    split
    · simp [scan_cons, scanStep, plain_ne_quote hc, plain_ne_backslash hc]
    · unfold escapeUnicode
      split
      · simp only [List.cons_append, scan_unicode]
      · simp only [List.cons_append, List.append_assoc, scan_unicode]

theorem scan_quotedWith {plain : Char → Prop} [DecidablePred plain] (s : String) (rest : List Char) :
    scan .outside (quotedWith plain s ++ rest) = scan .outside rest := by
  have body : ∀ text : List Char, scan .inside (text.flatMap (escapeWith plain) ++ '"' :: rest) =
      scan .outside rest := by
    intro text
    induction text with
    | nil => simp [scan_cons, scanStep]
    | cons c text ih => rw [List.flatMap_cons, List.append_assoc, scan_escapeWith, ih]
  simp only [quotedWith, List.cons_append, List.append_assoc, List.nil_append, scan_cons, scanStep, if_true,
    Option.bind_some, body]

theorem scan_word {a : List Char} (h : ∀ c ∈ a, NumeralChar c) (rest : List Char) :
    scan .outside (a ++ rest) = scan .outside rest := by
  induction a with
  | nil => rfl
  | cons c a ih =>
    have char := h c List.mem_cons_self
    have step : scanStep .outside c = some .outside := by
      have quote : c ≠ '"' := by rintro rfl; simp [NumeralChar, SignedChar] at char
      have bar : c ≠ '|' := by rintro rfl; simp [NumeralChar, SignedChar] at char
      have back : c ≠ '\\' := by rintro rfl; simp [NumeralChar, SignedChar] at char
      simp [scanStep, quote, bar, back]
    rw [List.cons_append, scan_cons, step, Option.bind_some,
      ih fun d member => h d (List.mem_cons_of_mem _ member)]

theorem scan_string (s : String) (rest : List Char) :
    scan .outside (asciiSpelling.string s ++ rest) = scan .outside rest := scan_quotedWith s rest

mutual
theorem scan_spell (v : Json) (rest : List Char) :
    scan .outside (spell asciiSpelling v ++ rest) = scan .outside rest := by
  cases v with
  | null => simp [spell, scan_cons, scanStep]
  | bool b => cases b <;> simp [spell, scan_cons, scanStep]
  | int n => exact scan_word (fun _ member => .inl (intText_chars member)) rest
  | float q => exact scan_word (fun _ => reprText_chars) rest
  | str s => exact scan_string s rest
  | arr items => simp [spell, scan_cons, scanStep, scan_spellItems items]
  | obj fields => simp [spell, scan_cons, scanStep, scan_spellFields fields]
theorem scan_spellItems (items : List Json) (rest : List Char) :
    scan .outside (spellItems asciiSpelling items ++ rest) = scan .outside rest := by
  match items with
  | [] => rfl
  | v :: items => rw [spellItems, List.append_assoc, scan_spell v, scan_spellMore items]
theorem scan_spellMore (items : List Json) (rest : List Char) :
    scan .outside (spellMore asciiSpelling items ++ rest) = scan .outside rest := by
  match items with
  | [] => rfl
  | v :: items => simp [spellMore, scan_cons, scanStep, scan_spell v, scan_spellMore items]
theorem scan_spellFields (fields : List (String × Json)) (rest : List Char) :
    scan .outside (spellFields asciiSpelling fields ++ rest) = scan .outside rest := by
  match fields with
  | [] => rfl
  | (k, v) :: fields =>
    rw [spellFields, List.append_assoc, scan_string]
    simp [scan_cons, scanStep, scan_spell v, scan_spellMoreFields fields]
theorem scan_spellMoreFields (fields : List (String × Json)) (rest : List Char) :
    scan .outside (spellMoreFields asciiSpelling fields ++ rest) = scan .outside rest := by
  match fields with
  | [] => rfl
  | (k, v) :: fields =>
    simp only [spellMoreFields, List.cons_append, List.append_assoc, scan_cons, scanStep]
    simp [scan_string, scan_cons, scanStep, scan_spell v, scan_spellMoreFields fields]
end

/-- Outside and inside, one each. -/
def Swapped (s t : Scan) : Prop := (s = .outside ∧ t = .inside) ∨ (s = .inside ∧ t = .outside)

theorem scan_swapped {s t p q : Scan} {text : List Char} (start : Swapped s t)
    (hp : scan s text = some p) (hq : scan t text = some q) : Swapped p q := by
  induction text generalizing s t with
  | nil =>
    obtain rfl := Option.some.inj hp
    obtain rfl := Option.some.inj hq
    exact start
  | cons c text ih =>
    obtain ⟨s', hs, hp⟩ := Option.bind_eq_some_iff.mp hp
    obtain ⟨t', ht, hq⟩ := Option.bind_eq_some_iff.mp hq
    refine ih ?_ hp hq
    rcases start with ⟨rfl, rfl⟩ | ⟨rfl, rfl⟩
    all_goals
      simp only [scanStep] at hs ht
      split at hs <;> split at ht <;> simp_all [Swapped]

/-- A text that is read from outside of strings to outside of strings. -/
def Closed (text : List Char) : Prop := scan .outside text = some .outside

theorem closed_dumps (v : Json) : Closed (dumps v) := by
  unfold Closed
  simpa [dumps] using scan_spell v []

/-- The shorter prefix would leave the other text's bar inside the longer text. -/
theorem Closed.nil_of_bar {m t u : List Char} (closed : Closed t) (tail : Closed u)
    (split : '|' :: t = m ++ '|' :: u) : m = [] := by
  cases m with
  | nil => rfl
  | cons c m =>
    simp only [List.cons_append, List.cons.injEq] at split
    unfold Closed at closed
    rw [split.2, scan_append] at closed
    obtain ⟨s, -, whole⟩ := Option.bind_eq_some_iff.mp closed
    obtain ⟨t, bar, whole⟩ := Option.bind_eq_some_iff.mp whole
    have inside : t = .inside := by
      cases s <;> simp [scanStep] at bar <;> exact bar.symm
    subst inside
    have swapped := scan_swapped (.inl ⟨rfl, rfl⟩) tail whole
    simp [Swapped] at swapped

/-- The bar in front of a closed text is found again, whatever stands before it. -/
theorem bar_closed_inj {a b t u : List Char} (closed : Closed t) (closed' : Closed u)
    (h : a ++ '|' :: t = b ++ '|' :: u) : a = b ∧ t = u := by
  rcases List.append_eq_append_iff.mp h with ⟨m, rfl, tail⟩ | ⟨m, rfl, tail⟩
  · obtain rfl := closed.nil_of_bar closed' tail
    simp only [List.nil_append, List.cons.injEq, true_and] at tail
    exact ⟨by simp, tail⟩
  · obtain rfl := closed'.nil_of_bar closed tail
    simp only [List.nil_append, List.cons.injEq, true_and] at tail
    exact ⟨by simp, tail.symm⟩

theorem bar_dumps_inj {a b : List Char} {v w : Json} (h : a ++ '|' :: dumps v = b ++ '|' :: dumps w) :
    a = b ∧ v = w := by
  obtain ⟨front, texts⟩ := bar_closed_inj (closed_dumps v) (closed_dumps w) h
  exact ⟨front, spell_injective texts⟩

end Json
