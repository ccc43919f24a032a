import LobstrMcp.Data.DictKeys
import LobstrMcp.Toon.Tokens

/-!
Lines, cells and columns are read back from their text. A line has no line break; a cell and a column
end at a comma.
-/

namespace LobstrMcp
namespace Toon

/-! ### Joined parts -/

theorem join_cons_cons (sep : Char) (part more : List Char) (others : List (List Char)) :
    join sep (part :: more :: others) = part ++ sep :: join sep (more :: others) := rfl

theorem mem_join {sep c : Char} {parts : List (List Char)} (member : c ∈ join sep parts) :
    c = sep ∨ ∃ part ∈ parts, c ∈ part := by
  induction parts with
  | nil => cases member
  | cons part rest ih =>
    cases rest with
    | nil => exact .inr ⟨part, List.mem_cons_self, member⟩
    | cons more others =>
      rw [join_cons_cons, List.mem_append, List.mem_cons] at member
      obtain inside | rfl | outside := member
      · exact .inr ⟨part, List.mem_cons_self, inside⟩
      · exact .inl rfl
      · obtain rfl | ⟨part', listed, inside⟩ := ih outside
        · exact .inl rfl
        · exact .inr ⟨part', List.mem_cons_of_mem _ listed, inside⟩

/-- Lines are read back, if none is empty or broken. -/
theorem join_lines_inj {lines others : List (List Char)} (whole : ∀ l ∈ lines, l ≠ [] ∧ '\n' ∉ l)
    (whole' : ∀ l ∈ others, l ≠ [] ∧ '\n' ∉ l) (h : join '\n' lines = join '\n' others) : lines = others := by
  have nonempty : ∀ {l : List Char} {rest : List (List Char)}, l ≠ [] → join '\n' (l :: rest) ≠ [] := by
    intro l rest some' empty
    cases rest with
    | nil => exact some' empty
    | cons more others => simp [join_cons_cons] at empty
  have unbroken : ∀ {l : List Char}, '\n' ∉ l → ∀ c ∈ l, c ≠ '\n' := by
    rintro l absent c member rfl
    exact absent member
  induction lines generalizing others with
  | nil =>
    cases others with
    | nil => rfl
    | cons l' rest' => exact absurd h.symm (nonempty (whole' l' List.mem_cons_self).1)
  | cons l rest ih =>
    cases others with
    | nil => exact absurd h (nonempty (whole l List.mem_cons_self).1)
    | cons l' rest' =>
      obtain ⟨some', line⟩ := whole l List.mem_cons_self
      obtain ⟨some'', line'⟩ := whole' l' List.mem_cons_self
      have tails := fun m member => whole m (List.mem_cons_of_mem _ member)
      have tails' := fun m member => whole' m (List.mem_cons_of_mem _ member)
      -- a line ends where the text does, or at the first line break
      cases rest with
      | nil =>
        cases rest' with
        | nil => rw [show l = l' from h]
        | cons more others =>
          rw [join_cons_cons] at h
          exact absurd (h ▸ line : '\n' ∉ l' ++ '\n' :: join '\n' (more :: others)) (by simp)
      | cons more others =>
        cases rest' with
        | nil =>
          rw [join_cons_cons] at h
          exact absurd (h ▸ line' : '\n' ∉ l ++ '\n' :: join '\n' (more :: others)) (by simp)
        | cons more' others' =>
          rw [join_cons_cons, join_cons_cons] at h
          obtain ⟨rfl, _, below⟩ := Json.span_inj (unbroken line) (unbroken line') (by simp) (by simp) h
          rw [ih tails tails' below]

/-! ### Cells -/

section Cells
variable {v w : Json} {x y : List Char}

/-- What ends a cell: a comma, or the end of its line. -/
def CellEnds (x : List Char) : Prop := ∀ c ∈ x.head?, c = ','

theorem CellEnds.unquoted (ends : CellEnds x) {rest : List Char} : x ≠ '"' :: rest := by
  rintro rfl
  exact absurd (ends '"' rfl) (by decide)

/-- A cell that is not in quotes. -/
theorem word_inj (hv : (Blank v ∧ cell v = []) ∨ Bare true v (cell v)) (hw : (Blank w ∧ cell w = []) ∨ Bare true w (cell w))
    (hx : CellEnds x) (hy : CellEnds y) (h : cell v ++ x = cell w ++ y) : SameCell v w ∧ x = y := by
  have chars : ∀ {v}, (Blank v ∧ cell v = []) ∨ Bare true v (cell v) → ∀ c ∈ cell v, c ≠ ',' := by
    rintro v (⟨-, empty⟩ | bare) c member rfl
    · rw [empty] at member
      cases member
    · exact bare.uncut member
  have ends : ∀ {x}, CellEnds x → ∀ c ∈ x.head?, ¬ c ≠ ',' := fun ends c member => not_not.mpr (ends c member)
  obtain ⟨texts, tail⟩ := Json.word_inj (chars hv) (chars hw) (ends hx) (ends hy) h
  refine ⟨?_, tail⟩
  obtain ⟨blank, empty⟩ | bare := hv <;> obtain ⟨blank', empty'⟩ | bare' := hw
  · exact .inr ⟨blank, blank'⟩
  · exact absurd (texts.symm.trans empty) bare'.nonempty
  · exact absurd (texts.trans empty') bare.nonempty
  · rw [← texts] at bare'
    exact .inl (bare_inj bare bare')

theorem word_unquoted (hv : (Blank v ∧ cell v = []) ∨ Bare true v (cell v)) (hx : CellEnds x) {rest : List Char} :
    cell v ++ x ≠ '"' :: rest := by
  obtain ⟨-, empty⟩ | bare := hv
  · rw [empty]
    exact hx.unquoted
  · intro same
    obtain ⟨c, more, text⟩ := List.exists_cons_of_ne_nil bare.nonempty
    rw [text, List.cons_append, List.cons.injEq] at same
    have marks := bare.unbroken.1
    rw [text, same.1] at marks
    exact marks List.mem_cons_self

/-- A scalar of which the numbers are finite. -/
def Flat (v : Json) : Prop := isScalar v = true ∧ finiteScalar v = true

theorem cell_inj (hv : Flat v) (hw : Flat w) (hx : CellEnds x) (hy : CellEnds y) (h : cell v ++ x = cell w ++ y) :
    SameCell v w ∧ x = y := by
  have cases' : ∀ {v}, Flat v → ((Blank v ∧ cell v = []) ∨ Bare true v (cell v)) ∨ ∃ s, v = .str s ∧ cell v = quote s :=
    fun flat => or_assoc.mpr (cell_cases flat.1 flat.2)
  obtain word | ⟨s, rfl, text⟩ := cases' hv <;> obtain word' | ⟨t, rfl, text'⟩ := cases' hw
  · exact word_inj word word' hx hy h
  · obtain ⟨rest, opens⟩ := quote_opens t
    rw [text', opens] at h
    exact absurd h (word_unquoted word hx)
  · obtain ⟨rest, opens⟩ := quote_opens s
    rw [text, opens] at h
    exact absurd h.symm (word_unquoted word' hy)
  · rw [text, text'] at h
    obtain ⟨rfl, tail⟩ := quote_inj h
    exact ⟨.inl (.str s), tail⟩

theorem cells_inj {values others : List Json} (flat : ∀ v ∈ values, Flat v) (flat' : ∀ v ∈ others, Flat v)
    (count : values.length = others.length) (h : join ',' (values.map cell) = join ',' (others.map cell)) :
    List.Forall₂ SameCell values others := by
  have atEnd : CellEnds [] := fun _ absurd => by cases absurd
  have atComma : ∀ rest, CellEnds (',' :: rest) := by
    rintro rest c member
    cases member
    rfl
  induction values generalizing others with
  | nil =>
    obtain rfl := List.length_eq_zero_iff.mp count.symm
    exact .nil
  | cons v rest ih =>
    obtain ⟨w, rest', rfl⟩ := List.exists_cons_of_length_eq_add_one count.symm
    have one := flat v List.mem_cons_self
    have other := flat' w List.mem_cons_self
    have counts : rest.length = rest'.length := by simpa using count
    obtain _ | ⟨more, tail⟩ := rest <;> obtain _ | ⟨more', tail'⟩ := rest'
    · have texts : cell v ++ [] = cell w ++ [] := by simpa [join] using h
      exact .cons (cell_inj one other atEnd atEnd texts).1 .nil
    · cases counts
    · cases counts
    · have texts : cell v ++ ',' :: join ',' ((more :: tail).map cell) =
          cell w ++ ',' :: join ',' ((more' :: tail').map cell) := h
      obtain ⟨same, below⟩ := cell_inj one other (atComma _) (atComma _) texts
      exact .cons same (ih (fun v member => flat v (List.mem_cons_of_mem _ member))
        (fun v member => flat' v (List.mem_cons_of_mem _ member)) counts (List.cons.inj below).2)

end Cells

/-- A value after its key stands up to the end of its line. -/
theorem scalar_inj {v w : Json} (hv : Flat v) (hw : Flat w) (h : scalar v = scalar w) : SameScalar v w := by
  have quoted_ne : ∀ {s : String} {text : List Char}, quote s = text → '"' ∉ text → False := by
    rintro s text rfl absent
    obtain ⟨rest, opens⟩ := quote_opens s
    exact absent (by simp [opens])
  obtain ⟨rfl, text⟩ | bare | ⟨s, rfl, text⟩ := scalar_cases hv.1 hv.2
  · obtain ⟨rfl, text'⟩ | bare' | ⟨t, rfl, text'⟩ := scalar_cases hw.1 hw.2
    · exact .null
    · exact absurd (h.symm.trans text) bare'.ne_null
    · exact (quoted_ne (text'.symm.trans (h.symm.trans text)) (by decide)).elim
  · obtain ⟨rfl, text'⟩ | bare' | ⟨t, rfl, text'⟩ := scalar_cases hw.1 hw.2
    · exact absurd (h.trans text') bare.ne_null
    · rw [← h] at bare'
      exact bare_inj bare bare'
    · exact (quoted_ne (text'.symm.trans h.symm) bare.unbroken.1).elim
  · obtain ⟨rfl, text'⟩ | bare' | ⟨t, rfl, text'⟩ := scalar_cases hw.1 hw.2
    · exact (quoted_ne (text.symm.trans (h.trans text')) (by decide)).elim
    · exact (quoted_ne (text.symm.trans h) bare'.unbroken.1).elim
    · rw [text, text'] at h
      obtain ⟨rfl, _⟩ := quote_inj (congrArg (· ++ []) h)
      exact .str s

/-! ### Tables -/

theorem key_ne_brace (k : String) (x y : List Char) : key k ++ x ≠ '}' :: y := by
  obtain quoted | ⟨bare, text⟩ := key_cases k
  · obtain ⟨rest, opens⟩ := quote_opens k
    rw [quoted, opens]
    simp
  · obtain ⟨c, rest, chars⟩ := List.exists_cons_of_ne_nil bare.ne_nil
    rw [text, chars, List.cons_append]
    intro same
    rw [List.cons.injEq] at same
    exact bare.safe c (chars ▸ List.mem_cons_self) (same.1 ▸ by decide)

/-- The columns of a header end at its brace. -/
theorem header_inj {cols others : List String} {x y : List Char}
    (h : join ',' (cols.map key) ++ '}' :: x = join ',' (others.map key) ++ '}' :: y) : cols = others ∧ x = y := by
  have opens : ∀ (k : String) (rest : List String), ∃ more, join ',' ((k :: rest).map key) = key k ++ more := by
    intro k rest
    cases rest with
    | nil => exact ⟨[], (List.append_nil _).symm⟩
    | cons l rest => exact ⟨_, rfl⟩
  induction cols generalizing others with
  | nil =>
    cases others with
    | nil => exact ⟨rfl, (List.cons.inj h).2⟩
    | cons l rest' =>
      obtain ⟨more, text⟩ := opens l rest'
      rw [text, List.append_assoc] at h
      exact absurd h.symm (key_ne_brace l _ _)
  | cons k rest ih =>
    cases others with
    | nil =>
      obtain ⟨more, text⟩ := opens k rest
      rw [text, List.append_assoc] at h
      exact absurd h (key_ne_brace k _ _)
    | cons l rest' =>
      obtain _ | ⟨k', tail⟩ := rest <;> obtain _ | ⟨l', tail'⟩ := rest'
      · obtain ⟨rfl, _, below⟩ := key_inj (by decide) (by decide) h
        exact ⟨rfl, below⟩
      · have texts : key k ++ '}' :: x = key l ++ ',' :: (join ',' ((l' :: tail').map key) ++ '}' :: y) := by
          simpa [join] using h
        exact absurd (key_inj (by decide) (by decide) texts).2.1 (by decide)
      · have texts : key k ++ ',' :: (join ',' ((k' :: tail).map key) ++ '}' :: x) = key l ++ '}' :: y := by
          simpa [join] using h
        exact absurd (key_inj (by decide) (by decide) texts).2.1 (by decide)
      · have texts : key k ++ ',' :: (join ',' ((k' :: tail).map key) ++ '}' :: x) =
            key l ++ ',' :: (join ',' ((l' :: tail').map key) ++ '}' :: y) := by
          simpa [join] using h
        obtain ⟨rfl, _, below⟩ := key_inj (by decide) (by decide) texts
        obtain ⟨same, after⟩ := ih below
        exact ⟨by rw [same], after⟩

theorem mem_addColumn {cols : List String} {k c : String} : c ∈ addColumn cols k ↔ c ∈ cols ∨ c = k := by
  unfold addColumn
  split
  · rename_i held
    constructor
    · exact .inl
    · rintro (listed | rfl)
      · exact listed
      · exact held
  · rw [List.mem_append, List.mem_singleton]

theorem mem_foldl_addColumn {keys cols : List String} {c : String} :
    c ∈ keys.foldl addColumn cols ↔ c ∈ cols ∨ c ∈ keys := by
  induction keys generalizing cols with
  | nil => simp
  | cons k rest ih => rw [List.foldl_cons, ih, mem_addColumn, List.mem_cons, or_assoc]

/-- Every key of a row is a column. -/
theorem mem_columns {rows : List Fields} {c : String} : c ∈ columns rows ↔ ∃ row ∈ rows, c ∈ Dict.keys row := by
  have folded : ∀ cols : List String, c ∈ rows.foldl (fun cols row => (Dict.keys row).foldl addColumn cols) cols ↔
      c ∈ cols ∨ ∃ row ∈ rows, c ∈ Dict.keys row := by
    induction rows with
    | nil => simp
    | cons row rest ih =>
      intro cols
      rw [List.foldl_cons, ih, mem_foldl_addColumn, or_assoc]
      simp
  rw [columns, folded]
  simp

/-- An array that is written as a table: flat records, each with some of the columns. -/
structure IsTable (arr : List Json) (rows : List Fields) (cols : List String) : Prop where
  records : arr = rows.map .obj
  columns : cols = columns rows
  flat : ∀ row ∈ rows, ∀ c ∈ cols, isScalar (Fields.get row c) = true

theorem get_absent {fields : Fields} {k : String} (absent : k ∉ Dict.keys fields) : Fields.get fields k = .null := by
  unfold Fields.get
  rw [(Dict.get?_eq_none_iff _ _).mpr absent]
  rfl

theorem IsTable.known {arr : List Json} {rows : List Fields} {cols : List String} (is : IsTable arr rows cols)
    {row : Fields} (listed : row ∈ rows) : ∀ c ∈ Dict.keys row, c ∈ cols := by
  intro c held
  rw [is.columns]
  exact mem_columns.mpr ⟨row, listed, held⟩

/-- A record has scalars only. -/
theorem IsTable.scalar {arr : List Json} {rows : List Fields} {cols : List String} (is : IsTable arr rows cols) :
    ∀ row ∈ rows, ∀ k, isScalar (Fields.get row k) = true := by
  intro row listed k
  by_cases held : k ∈ Dict.keys row
  · exact is.flat row listed k (is.known listed k held)
  · rw [get_absent held]
    rfl

theorem mapM_asObj? {arr : List Json} {rows : List Fields} (found : arr.mapM Json.asObj? = some rows) :
    arr = rows.map .obj := by
  induction arr generalizing rows with
  | nil =>
    cases found
    rfl
  | cons v rest ih =>
    rw [List.mapM_cons] at found
    obtain ⟨fields, obj, found⟩ := Option.bind_eq_some_iff.mp found
    obtain ⟨more, others, found⟩ := Option.bind_eq_some_iff.mp found
    cases found
    cases v <;> cases obj
    rw [ih others]
    rfl

theorem isTable_of_table? {arr : List Json} {rows : List Fields} {cols : List String}
    (found : table? arr = some (rows, cols)) : IsTable arr rows cols := by
  unfold table? at found
  cases objects : arr.mapM Json.asObj? with
  | none =>
    rw [objects] at found
    cases found
  | some rows' =>
    rw [objects] at found
    dsimp only at found
    split at found
    · rename_i flat
      cases found
      refine ⟨mapM_asObj? objects, rfl, fun row listed c column => ?_⟩
      exact List.all_eq_true.mp (List.all_eq_true.mp flat row listed) c column
    · cases found

/-- Rows with equal cells, where an absent key is null. -/
def SameRow (row other : Fields) : Prop := ∀ k, SameCell (Fields.get row k) (Fields.get other k)

theorem rowLine_inj {cols : List String} {depth : Nat} {row other : Fields}
    (flat : ∀ c ∈ cols, Flat (Fields.get row c)) (flat' : ∀ c ∈ cols, Flat (Fields.get other c))
    (known : ∀ c ∈ Dict.keys row, c ∈ cols) (known' : ∀ c ∈ Dict.keys other, c ∈ cols)
    (h : rowLine cols depth row = rowLine cols depth other) : SameRow row other := by
  have texts : join ',' ((cols.map (Fields.get row)).map cell) = join ',' ((cols.map (Fields.get other)).map cell) := by
    rw [List.map_map, List.map_map]
    exact List.append_cancel_left h
  have cells := cells_inj (by simpa using flat) (by simpa using flat') (by simp) texts
  rw [List.forall₂_map_left_iff, List.forall₂_map_right_iff, List.forall₂_same] at cells
  intro k
  by_cases column : k ∈ cols
  · exact cells k column
  · rw [get_absent fun held => column (known k held), get_absent fun held => column (known' k held)]
    exact .inl .null

end Toon
end LobstrMcp
