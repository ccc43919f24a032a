import LobstrMcp.Data.Numerals

/-!
The text of a JSON value, for any spelling of its strings and floats. It is built of tokens none of
which is a prefix of another: a string says where it ends, and a numeral ends at the first
character that is not one of its own.
-/

namespace Json

/-- How strings and floats are spelled, so that they are read back. -/
structure Spelling where
  string : String → List Char
  float : Rat → List Char
  string_opens : ∀ s, ∃ rest, string s = '"' :: rest
  string_ends : ∀ {s t x y}, string s ++ x = string t ++ y → s = t ∧ x = y
  float_inj : ∀ {q r}, float q = float r → q = r
  float_chars : ∀ {q c}, c ∈ float q → NumeralChar c
  /-- No integer is spelled as a float is. -/
  float_mark : ∀ q, ∃ c ∈ float q, ¬ SignedChar c

mutual
/-- The text of a value as it stands. -/
def spell (f : Spelling) : Json → List Char
  | .null => ['n', 'u', 'l', 'l']
  | .bool true => ['t', 'r', 'u', 'e']
  | .bool false => ['f', 'a', 'l', 's', 'e']
  | .int n => intText n
  | .float q => f.float q
  | .str s => f.string s
  | .arr items => '[' :: (spellItems f items ++ [']'])
  | .obj fields => '{' :: (spellFields f fields ++ ['}'])
def spellItems (f : Spelling) : List Json → List Char
  | [] => []
  | v :: rest => spell f v ++ spellMore f rest
def spellMore (f : Spelling) : List Json → List Char
  | [] => []
  | v :: rest => ',' :: ' ' :: (spell f v ++ spellMore f rest)
def spellFields (f : Spelling) : List (String × Json) → List Char
  | [] => []
  | (k, v) :: rest => f.string k ++ ':' :: ' ' :: (spell f v ++ spellMoreFields f rest)
def spellMoreFields (f : Spelling) : List (String × Json) → List Char
  | [] => []
  | (k, v) :: rest => ',' :: ' ' :: (f.string k ++ ':' :: ' ' :: (spell f v ++ spellMoreFields f rest))
end

/-- The text that follows a value: its container's next separator or its end. -/
def Stops (x : List Char) : Prop := ∀ c ∈ x.head?, c = ',' ∨ c = ']' ∨ c = '}'

theorem Stops.not_numeral {x : List Char} (h : Stops x) : ∀ c ∈ x.head?, ¬ NumeralChar c := by
  intro c member
  obtain rfl | rfl | rfl := h c member <;> simp [NumeralChar, SignedChar]

section Spelled
variable {f : Spelling} {v w : Json} {x y : List Char}

def numeral? (f : Spelling) : Json → Option (List Char)
  | .int n => some (intText n)
  | .float q => some (f.float q)
  | _ => none

theorem spell_numeral {a : List Char} (h : numeral? f v = some a) : spell f v = a := by
  cases v <;> simp [numeral?] at h
  · exact h
  · exact h

theorem numeral_chars {a : List Char} (h : numeral? f v = some a) : a ≠ [] ∧ ∀ c ∈ a, NumeralChar c := by
  cases v <;> simp [numeral?] at h <;> subst h
  · exact ⟨signed_ne_nil _ _, fun c member => .inl (signed_chars member)⟩
  · obtain ⟨c, member, _⟩ := f.float_mark _
    exact ⟨List.ne_nil_of_mem member, fun c => f.float_chars⟩

theorem intText_ne_float (n : Int) (q : Rat) : intText n ≠ f.float q := by
  intro same
  obtain ⟨c, member, mark⟩ := f.float_mark q
  exact mark (signed_chars (same ▸ member))

theorem numeral_inj {a : List Char} (hv : numeral? f v = some a) (hw : numeral? f w = some a) : v = w := by
  cases v <;> simp [numeral?] at hv <;> cases w <;> simp [numeral?] at hw <;> subst hv
  · rw [intText_inj hw]
  · exact absurd hw.symm (intText_ne_float _ _)
  · exact absurd hw (intText_ne_float _ _)
  · rw [f.float_inj hw]

/-- The character that a value other than a number opens with. -/
def opening : Json → Char
  | .null => 'n'
  | .bool true => 't'
  | .bool false => 'f'
  | .str _ => '"'
  | .arr _ => '['
  | .obj _ => '{'
  | _ => '0'

theorem spell_opens (h : numeral? f v = none) : ∃ rest, spell f v = opening v :: rest := by
  cases v with
  | int n => simp [numeral?] at h
  | float q => simp [numeral?] at h
  | bool b => cases b <;> exact ⟨_, rfl⟩
  | str s => exact f.string_opens s
  | _ => exact ⟨_, rfl⟩

theorem opening_mark (h : numeral? f v = none) : ¬ NumeralChar (opening v) := by
  cases v with
  | int n => simp [numeral?] at h
  | float q => simp [numeral?] at h
  | bool b => cases b <;> simp [opening, NumeralChar, SignedChar]
  | _ => simp [opening, NumeralChar, SignedChar]

theorem spell_head (f : Spelling) (v : Json) : ∃ c rest, spell f v = c :: rest ∧ c ≠ ']' := by
  cases hn : numeral? f v with
  | some a =>
    obtain ⟨nonempty, chars⟩ := numeral_chars hn
    rw [spell_numeral hn]
    obtain ⟨c, rest, rfl⟩ := List.exists_cons_of_ne_nil nonempty
    refine ⟨c, rest, rfl, ?_⟩
    rintro rfl
    have char := chars _ List.mem_cons_self
    simp [NumeralChar, SignedChar] at char
  | none =>
    obtain ⟨rest, text⟩ := spell_opens hn
    refine ⟨_, rest, text, ?_⟩
    cases v with
    | bool b => cases b <;> simp [opening]
    | _ => simp [opening]

theorem spell_inj_numeral {a : List Char} (hv : numeral? f v = some a) (hx : Stops x) (hy : Stops y)
    (h : spell f v ++ x = spell f w ++ y) : v = w ∧ x = y := by
  obtain ⟨nonempty, chars⟩ := numeral_chars hv
  cases hw : numeral? f w with
  | some b =>
    rw [spell_numeral hv, spell_numeral hw] at h
    obtain ⟨rfl, tail⟩ := word_inj chars (numeral_chars hw).2 hx.not_numeral hy.not_numeral h
    exact ⟨numeral_inj hv hw, tail⟩
  | none =>
    obtain ⟨rest, text⟩ := spell_opens hw
    obtain ⟨d, front, rfl⟩ := List.exists_cons_of_ne_nil nonempty
    rw [spell_numeral hv, text, List.cons_append, List.cons_append, List.cons.injEq] at h
    exact absurd (h.1 ▸ chars d List.mem_cons_self) (opening_mark hw)

theorem stops_items (rest : List Json) (x : List Char) : Stops (spellMore f rest ++ ']' :: x) := by
  cases rest <;> simp [Stops, spellMore]

theorem stops_fields (rest : List (String × Json)) (x : List Char) : Stops (spellMoreFields f rest ++ '}' :: x) := by
  obtain _ | ⟨⟨k, v⟩, rest⟩ := rest <;> simp [Stops, spellMoreFields]

theorem fields_head (k : String) (v : Json) (rest : List (String × Json)) :
    ∃ more, spellFields f ((k, v) :: rest) = '"' :: more := by
  obtain ⟨more, opens⟩ := f.string_opens k
  rw [spellFields, opens]
  exact ⟨_, rfl⟩

mutual
/-- The text of a value, followed by a separator, determines the value and what follows. -/
theorem spell_inj (v w : Json) {x y : List Char} (hx : Stops x) (hy : Stops y)
    (h : spell f v ++ x = spell f w ++ y) : v = w ∧ x = y := by
  -- a numeral has no end mark of its own: it is told by what follows it
  cases hw : numeral? f w with
  | some b =>
    obtain ⟨same, tail⟩ := spell_inj_numeral hw hy hx h.symm
    exact ⟨same.symm, tail.symm⟩
  | none =>
    cases hv : numeral? f v with
    | some a => exact spell_inj_numeral hv hx hy h
    | none =>
      have heads : opening v = opening w := by
        obtain ⟨front, text⟩ := spell_opens hv
        obtain ⟨front', text'⟩ := spell_opens hw
        rw [text, text', List.cons_append, List.cons_append, List.cons.injEq] at h
        exact h.1
      cases v with
      | int n => cases hv
      | float q => cases hv
      | null =>
        cases w with
        | null => exact ⟨rfl, List.append_cancel_left h⟩
        | bool c => cases c <;> simp [opening] at heads
        | int n => cases hw
        | float q => cases hw
        | _ => simp [opening] at heads
      | bool b =>
        cases w with
        | bool c =>
          cases b <;> cases c
          · exact ⟨rfl, List.append_cancel_left h⟩
          · simp [opening] at heads
          · simp [opening] at heads
          · exact ⟨rfl, List.append_cancel_left h⟩
        | int n => cases hw
        | float q => cases hw
        | _ => cases b <;> simp [opening] at heads
      | str s =>
        cases w with
        | str t =>
          obtain ⟨rfl, tail⟩ := f.string_ends h
          exact ⟨rfl, tail⟩
        | bool c => cases c <;> simp [opening] at heads
        | int n => cases hw
        | float q => cases hw
        | _ => simp [opening] at heads
      | arr items =>
        cases w with
        | arr others =>
          simp only [spell, List.cons_append, List.append_assoc, List.cons.injEq, true_and, List.nil_append] at h
          obtain ⟨rfl, tail⟩ := spellItems_inj items others h
          exact ⟨rfl, tail⟩
        | bool c => cases c <;> simp [opening] at heads
        | int n => cases hw
        | float q => cases hw
        | _ => simp [opening] at heads
      | obj fields =>
        cases w with
        | obj others =>
          simp only [spell, List.cons_append, List.append_assoc, List.cons.injEq, true_and, List.nil_append] at h
          obtain ⟨rfl, tail⟩ := spellFields_inj fields others h
          exact ⟨rfl, tail⟩
        | bool c => cases c <;> simp [opening] at heads
        | int n => cases hw
        | float q => cases hw
        | _ => simp [opening] at heads
theorem spellItems_inj (v w : List Json) {x y : List Char}
    (h : spellItems f v ++ ']' :: x = spellItems f w ++ ']' :: y) : v = w ∧ x = y := by
  cases v with
  | nil =>
    cases w with
    | nil => simpa [spellItems] using h
    | cons b w =>
      obtain ⟨c, rest, text, other⟩ := spell_head f b
      simp only [spellItems, text, List.nil_append, List.cons_append, List.cons.injEq] at h
      exact absurd h.1.symm other
  | cons a v =>
    cases w with
    | nil =>
      obtain ⟨c, rest, text, other⟩ := spell_head f a
      simp only [spellItems, text, List.nil_append, List.cons_append, List.cons.injEq] at h
      exact absurd h.1 other
    | cons b w =>
      simp only [spellItems, List.append_assoc] at h
      obtain ⟨rfl, rest⟩ := spell_inj a b (stops_items v x) (stops_items w y) h
      obtain ⟨rfl, tail⟩ := spellMore_inj v w rest
      exact ⟨rfl, tail⟩
theorem spellMore_inj (v w : List Json) {x y : List Char}
    (h : spellMore f v ++ ']' :: x = spellMore f w ++ ']' :: y) : v = w ∧ x = y := by
  cases v with
  | nil => cases w <;> simp_all [spellMore]
  | cons a v =>
    cases w with
    | nil => simp [spellMore] at h
    | cons b w =>
      simp only [spellMore, List.cons_append, List.append_assoc, List.cons.injEq, true_and] at h
      obtain ⟨rfl, rest⟩ := spell_inj a b (stops_items v x) (stops_items w y) h
      obtain ⟨rfl, tail⟩ := spellMore_inj v w rest
      exact ⟨rfl, tail⟩
theorem spellFields_inj (v w : List (String × Json)) {x y : List Char}
    (h : spellFields f v ++ '}' :: x = spellFields f w ++ '}' :: y) : v = w ∧ x = y := by
  match v, w with
  | [], [] => simpa [spellFields] using h
  | [], (l, b) :: w =>
    obtain ⟨more, text⟩ := fields_head (f := f) l b w
    rw [text] at h
    simp [spellFields] at h
  | (k, a) :: v, [] =>
    obtain ⟨more, text⟩ := fields_head (f := f) k a v
    rw [text] at h
    simp [spellFields] at h
  | (k, a) :: v, (l, b) :: w =>
    simp only [spellFields, List.append_assoc, List.cons_append] at h
    obtain ⟨rfl, value⟩ := f.string_ends h
    simp only [List.cons.injEq, true_and] at value
    obtain ⟨rfl, rest⟩ := spell_inj a b (stops_fields v x) (stops_fields w y) value
    obtain ⟨rfl, tail⟩ := spellMoreFields_inj v w rest
    exact ⟨rfl, tail⟩
theorem spellMoreFields_inj (v w : List (String × Json)) {x y : List Char}
    (h : spellMoreFields f v ++ '}' :: x = spellMoreFields f w ++ '}' :: y) : v = w ∧ x = y := by
  match v, w with
  | [], [] => simpa [spellMoreFields] using h
  | [], (l, b) :: w => simp [spellMoreFields] at h
  | (k, a) :: v, [] => simp [spellMoreFields] at h
  | (k, a) :: v, (l, b) :: w =>
    simp only [spellMoreFields, List.append_assoc, List.cons_append, List.cons.injEq, true_and] at h
    obtain ⟨rfl, value⟩ := f.string_ends h
    simp only [List.cons.injEq, true_and] at value
    obtain ⟨rfl, rest⟩ := spell_inj a b (stops_fields v x) (stops_fields w y) value
    obtain ⟨rfl, tail⟩ := spellMoreFields_inj v w rest
    exact ⟨rfl, tail⟩
end

theorem spell_injective (h : spell f v = spell f w) : v = w := by
  have stops : Stops [] := fun _ absurd => by cases absurd
  have texts : spell f v ++ [] = spell f w ++ [] := by rw [h]
  exact (spell_inj v w stops stops texts).1

end Spelled

/-! ### What no text holds -/

/-- A character that is in no string, no numeral and no other token. -/
structure Spelling.Avoids (f : Spelling) (c : Char) : Prop where
  strings : ∀ s, c ∉ f.string s
  numerals : ¬ NumeralChar c
  others : c ∉ "null true false [,: ] {}".toList

section Avoids
variable {f : Spelling} {c : Char}

mutual
theorem not_mem_spell (avoids : f.Avoids c) (v : Json) : c ∉ spell f v := by
  have others := avoids.others
  cases v with
  | int n => exact fun member => avoids.numerals (.inl (signed_chars member))
  | float q => exact fun member => avoids.numerals (f.float_chars member)
  | str s => exact avoids.strings s
  | null => simp_all [spell]
  | bool b => cases b <;> simp_all [spell]
  | arr items =>
    have inner := not_mem_spellItems avoids items
    simp_all [spell]
  | obj fields =>
    have inner := not_mem_spellFields avoids fields
    simp_all [spell]
theorem not_mem_spellItems (avoids : f.Avoids c) (items : List Json) : c ∉ spellItems f items := by
  cases items with
  | nil => simp [spellItems]
  | cons v rest =>
    have value := not_mem_spell avoids v
    have inner := not_mem_spellMore avoids rest
    simp [spellItems, value, inner]
theorem not_mem_spellMore (avoids : f.Avoids c) (items : List Json) : c ∉ spellMore f items := by
  have others := avoids.others
  cases items with
  | nil => simp [spellMore]
  | cons v rest =>
    have value := not_mem_spell avoids v
    have inner := not_mem_spellMore avoids rest
    simp_all [spellMore]
theorem not_mem_spellFields (avoids : f.Avoids c) (fields : List (String × Json)) : c ∉ spellFields f fields := by
  have others := avoids.others
  match fields with
  | [] => simp [spellFields]
  | (k, v) :: rest =>
    have name := avoids.strings k
    have value := not_mem_spell avoids v
    have inner := not_mem_spellMoreFields avoids rest
    simp_all [spellFields]
theorem not_mem_spellMoreFields (avoids : f.Avoids c) (fields : List (String × Json)) :
    c ∉ spellMoreFields f fields := by
  have others := avoids.others
  match fields with
  | [] => simp [spellMoreFields]
  | (k, v) :: rest =>
    have name := avoids.strings k
    have value := not_mem_spell avoids v
    have inner := not_mem_spellMoreFields avoids rest
    simp_all [spellMoreFields]
end

end Avoids

end Json
