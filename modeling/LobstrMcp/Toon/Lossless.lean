import LobstrMcp.Toon.Lines
import Mathlib.Data.List.Forall2

/-!
The document determines the object. Below a key stand the lines that are indented more than it, so
that nested objects end where their parent goes on; a table has as many lines as its header says.
-/

namespace LobstrMcp
namespace Toon

/-- Equal JSON values, up to the order of keys and an integral float and the same integer. -/
inductive Alike : Json → Json → Prop
  | scalar {v w : Json} (each : SameScalar v w) : Alike v w
  | arr {items others : List Json} (each : List.Forall₂ Alike items others) : Alike (.arr items) (.arr others)
  | obj {fields others : Fields} (keys : ∀ k, k ∈ Dict.keys fields ↔ k ∈ Dict.keys others)
      (each : ∀ k v w, Dict.get? fields k = some v → Dict.get? others k = some w → Alike v w) :
      Alike (.obj fields) (.obj others)

/-- Values under a key that are alike, up to what is blank in an inline array or a table. -/
inductive Same : Json → Json → Prop
  | alike {v w : Json} (each : Alike v w) : Same v w
  | obj {fields others : Fields} (keys : ∀ k, k ∈ Dict.keys fields ↔ k ∈ Dict.keys others)
      (each : ∀ k v w, Dict.get? fields k = some v → Dict.get? others k = some w → Same v w) :
      Same (.obj fields) (.obj others)
  /-- Inline arrays. -/
  | cells {items others : List Json} (scalars : ∀ v ∈ items, isScalar v = true)
      (scalars' : ∀ w ∈ others, isScalar w = true) (each : List.Forall₂ SameCell items others) :
      Same (.arr items) (.arr others)
  /-- Tables. -/
  | rows {rows others : List Fields} (flat : ∀ row ∈ rows, ∀ k, isScalar (Fields.get row k) = true)
      (flat' : ∀ row ∈ others, ∀ k, isScalar (Fields.get row k) = true) (each : List.Forall₂ SameRow rows others) :
      Same (.arr (rows.map .obj)) (.arr (others.map .obj))

mutual
/-- All numbers of a value are finite. -/
def finite : Json → Bool
  | .arr items => finiteItems items
  | .obj fields => finiteFields fields
  | v => finiteScalar v
def finiteItems : List Json → Bool
  | [] => true
  | v :: rest => finite v && finiteItems rest
def finiteFields : List (String × Json) → Bool
  | [] => true
  | (_, v) :: rest => finite v && finiteFields rest
end

section Finite

theorem finite_of_mem {items : List Json} (all : finiteItems items = true) {v : Json} (member : v ∈ items) :
    finite v = true := by
  induction items with
  | nil => cases member
  | cons w rest ih =>
    rw [finiteItems, Bool.and_eq_true] at all
    obtain rfl | listed := List.mem_cons.mp member
    · exact all.1
    · exact ih all.2 listed

theorem finite_of_mem_fields {fields : Fields} (all : finiteFields fields = true) {k : String} {v : Json}
    (member : (k, v) ∈ fields) : finite v = true := by
  induction fields with
  | nil => cases member
  | cons e rest ih =>
    obtain ⟨l, w⟩ := e
    rw [finiteFields, Bool.and_eq_true] at all
    obtain same | listed := List.mem_cons.mp member
    · cases same
      exact all.1
    · exact ih all.2 listed

theorem flat_of_scalar {v : Json} (scalar : isScalar v = true) (all : finite v = true) : Flat v := by
  refine ⟨scalar, ?_⟩
  cases v with
  | arr items => cases scalar
  | obj fields => cases scalar
  | null => exact all
  | bool b => exact all
  | int n => exact all
  | float q => exact all
  | str s => exact all

theorem finite_get {fields : Fields} (all : finiteFields fields = true) (k : String) : finite (Fields.get fields k) = true := by
  unfold Fields.get
  cases read : Dict.get? fields k with
  | none => rfl
  | some v => exact finite_of_mem_fields all (Dict.mem_of_get? read)

end Finite

mutual
theorem Alike.refl (v : Json) : Alike v v := by
  cases v with
  | null => exact .scalar .null
  | bool b => exact .scalar (.bool b)
  | int n => exact .scalar (.number rfl rfl)
  | float q => exact .scalar (.number rfl rfl)
  | str s => exact .scalar (.str s)
  | arr items => exact .arr (Alike.refl_items items)
  | obj fields =>
    refine .obj (fun _ => Iff.rfl) fun k v w read read' => ?_
    cases read.symm.trans read'
    exact Alike.refl_fields fields (k, v) (Dict.mem_of_get? read)
theorem Alike.refl_items (items : List Json) : List.Forall₂ Alike items items := by
  cases items with
  | nil => exact .nil
  | cons v rest => exact .cons (Alike.refl v) (Alike.refl_items rest)
theorem Alike.refl_fields (fields : List (String × Json)) : ∀ e ∈ fields, Alike e.2 e.2 := by
  match fields with
  | [] => exact fun _ absurd => by cases absurd
  | (k, v) :: rest =>
    intro e member
    obtain rfl | listed := List.mem_cons.mp member
    · exact Alike.refl v
    · exact Alike.refl_fields rest e listed
end

/-- Fields in the same order, one by one. -/
def SameField (e e' : String × Json) : Prop := e.1 = e'.1 ∧ Same e.2 e'.2

theorem same_of_fields {fields others : Fields} (each : List.Forall₂ SameField fields others) :
    Same (.obj fields) (.obj others) := by
  have keys : Dict.keys fields = Dict.keys others := by
    induction each with
    | nil => rfl
    | cons same _ ih => rw [Dict.keys_cons, Dict.keys_cons, ih, same.1]
  refine .obj (fun k => by rw [keys]) fun k v w read read' => ?_
  induction each with
  | nil => cases read
  | @cons e e' rest rest' same _ ih =>
    obtain ⟨l, v'⟩ := e
    obtain ⟨l', w'⟩ := e'
    obtain ⟨rfl, value⟩ := same
    rw [Dict.get?_cons] at read read'
    by_cases named : l = k
    · rw [if_pos named] at read read'
      cases read
      cases read'
      exact value
    · rw [if_neg named] at read read'
      refine ih ?_ read read'
      simpa [Dict.keys] using keys

/-! ### Indentation -/

/-- The spaces a line starts with. -/
def leading (l : List Char) : Nat := (l.takeWhile (· = ' ')).length

theorem pad_eq (depth : Nat) : pad depth = List.replicate (2 * depth) ' ' := by
  unfold pad
  induction depth with
  | zero => rfl
  | succ d ih =>
    rw [List.replicate_succ, List.flatten_cons, ih, Nat.mul_succ, Nat.add_comm, List.replicate_add]
    rfl

/-- The line of a key is indented as deep as the key stands. -/
theorem leading_key (depth : Nat) (k : String) (front : List Char) : leading (pad depth ++ key k ++ front) = 2 * depth := by
  obtain ⟨c, rest, text, other⟩ := key_head k
  unfold leading
  rw [text, pad_eq, List.append_assoc, List.takeWhile_append_of_pos (by simp), List.cons_append,
    List.takeWhile_cons_of_neg (by simpa using other), List.append_nil, List.length_replicate]

/-- What follows the lines of an object: a line that is indented less, or none. -/
def Closed (depth : Nat) (lines : List (List Char)) : Prop := ∀ l ∈ lines.head?, leading l < 2 * depth

/-! ### The line of a key -/

/-- What stands behind the length of an array, and in the lines below. -/
inductive ArrayShape (depth : Nat) : List Json → List Char → List (List Char) → Prop
  | empty : ArrayShape depth [] [':'] []
  | cells {arr : List Json} (nonempty : arr ≠ []) (scalars : ∀ v ∈ arr, isScalar v = true) :
      ArrayShape depth arr (':' :: ' ' :: join ',' (arr.map cell)) []
  | table {arr : List Json} {rows : List Fields} {cols : List String} (nonempty : arr ≠ []) (is : IsTable arr rows cols) :
      ArrayShape depth arr ('{' :: (join ',' (cols.map key) ++ ['}', ':'])) (rows.map (rowLine cols depth))
  | json {arr : List Json} (nonempty : arr ≠ []) :
      ArrayShape depth arr (':' :: ' ' :: Json.spell Json.unicodeSpelling (.arr arr)) []

theorem emitArray_shape (k : String) (arr : List Json) (depth : Nat) : ∃ rest below, ArrayShape depth arr rest below ∧
    emitArray k arr depth = (pad depth ++ key k ++ '[' :: (Nat.toDigits 10 arr.length ++ ']' :: rest)) :: below := by
  unfold emitArray
  dsimp only
  split
  · rename_i empty
    obtain rfl := List.isEmpty_iff.mp empty
    exact ⟨_, _, .empty, rfl⟩
  · rename_i some'
    have nonempty : arr ≠ [] := fun empty => some' (List.isEmpty_iff.mpr empty)
    split
    · rename_i scalars
      exact ⟨_, _, .cells nonempty (List.all_eq_true.mp scalars), rfl⟩
    · split
      · rename_i rows cols found
        exact ⟨_, _, .table nonempty (isTable_of_table? found), rfl⟩
      · exact ⟨_, _, .json nonempty, rfl⟩

/-- The text of an inline array does not open like JSON. -/
theorem cells_ne_json {arr : List Json} (flat : ∀ v ∈ arr, Flat v) (rest : List Char) :
    join ',' (arr.map cell) ≠ '[' :: rest := by
  cases arr with
  | nil => simp [join]
  | cons v more =>
    have one := flat v List.mem_cons_self
    obtain ⟨text, opens⟩ : ∃ text, join ',' ((v :: more).map cell) = cell v ++ text ∧ CellEnds text := by
      cases more with
      | nil => exact ⟨[], (List.append_nil _).symm, fun _ absurd => by cases absurd⟩
      | cons w more => exact ⟨_, rfl, fun c member => by cases member; rfl⟩
    rw [opens.1]
    obtain ⟨-, empty⟩ | bare | ⟨s, -, quoted⟩ := cell_cases one.1 one.2
    · rw [empty]
      rintro rfl
      exact absurd (opens.2 '[' rfl) (by decide)
    · intro same
      obtain ⟨c, front, chars⟩ := List.exists_cons_of_ne_nil bare.nonempty
      rw [chars, List.cons_append, List.cons.injEq] at same
      rw [same.1] at chars
      exact bare.head chars
    · obtain ⟨front, chars⟩ := quote_opens s
      rw [quoted, chars]
      simp

section Arrays
variable {depth : Nat} {arr other : List Json} {front front' : List Char} {below below' rest rest' : List (List Char)}

theorem forall₂_of_map_eq {α γ : Type} {R : α → α → Prop} {f : α → γ} {xs ys : List α}
    (each : ∀ x ∈ xs, ∀ y ∈ ys, f x = f y → R x y) (h : xs.map f = ys.map f) : List.Forall₂ R xs ys := by
  induction xs generalizing ys with
  | nil =>
    cases ys with
    | nil => exact .nil
    | cons y ys => cases h
  | cons x xs ih =>
    cases ys with
    | nil => cases h
    | cons y ys =>
      rw [List.map_cons, List.map_cons, List.cons.injEq] at h
      exact .cons (each x List.mem_cons_self y List.mem_cons_self h.1)
        (ih (fun x member y member' => each x (List.mem_cons_of_mem _ member) y (List.mem_cons_of_mem _ member')) h.2)

theorem rows_inj {rows others : List Fields} {cols : List String} (is : IsTable arr rows cols) (is' : IsTable other others cols)
    (all : finiteItems arr = true) (all' : finiteItems other = true)
    (h : rows.map (rowLine cols depth) = others.map (rowLine cols depth)) : List.Forall₂ SameRow rows others := by
  have finites : ∀ {arr rows}, IsTable arr rows cols → finiteItems arr = true → ∀ row ∈ rows, ∀ c ∈ cols, Flat (Fields.get row c) := by
    intro arr rows is all row listed c column
    have member : Json.obj row ∈ arr := is.records ▸ List.mem_map_of_mem listed
    exact flat_of_scalar (is.flat row listed c column) (finite_get (finite_of_mem all member) c)
  exact forall₂_of_map_eq (fun row listed row' listed' line => rowLine_inj (finites is all row listed)
    (finites is' all' row' listed') (is.known listed) (is'.known listed') line) h

/-- An array is read back from what follows its length, and from its lines. -/
theorem arrayShape_inj (shape : ArrayShape depth arr front below) (shape' : ArrayShape depth other front' below')
    (all : finiteItems arr = true) (all' : finiteItems other = true) (count : arr.length = other.length)
    (fronts : front = front') (belows : below ++ rest = below' ++ rest') : Same (.arr arr) (.arr other) ∧ rest = rest' := by
  have flat : ∀ {arr : List Json}, finiteItems arr = true → (∀ v ∈ arr, isScalar v = true) → ∀ v ∈ arr, Flat v :=
    fun all scalars v member => flat_of_scalar (scalars v member) (finite_of_mem all member)
  have some' : ∀ {arr : List Json}, arr ≠ [] → arr.length ≠ 0 := fun nonempty => mt List.length_eq_zero_iff.mp nonempty
  cases shape with
  | empty =>
    cases shape' with
    | empty => exact ⟨.alike (.refl _), belows⟩
    | cells nonempty _ => exact absurd count.symm (some' nonempty)
    | table nonempty _ => exact absurd count.symm (some' nonempty)
    | json nonempty => exact absurd count.symm (some' nonempty)
  | cells nonempty scalars =>
    cases shape' with
    | empty => exact absurd count (some' nonempty)
    | cells _ scalars' =>
      simp only [List.cons.injEq, true_and] at fronts
      exact ⟨.cells scalars scalars' (cells_inj (flat all scalars) (flat all' scalars') count fronts), belows⟩
    | table _ is => exact absurd (List.cons.inj fronts).1 (by decide)
    | json _ =>
      simp only [List.cons.injEq, true_and] at fronts
      exact absurd fronts (cells_ne_json (flat all scalars) _)
  | table nonempty is =>
    cases shape' with
    | empty => exact absurd count (some' nonempty)
    | cells _ _ => exact absurd (List.cons.inj fronts).1 (by decide)
    | json _ => exact absurd (List.cons.inj fronts).1 (by decide)
    | table _ is' =>
      obtain ⟨rfl, _⟩ := header_inj (List.cons.inj fronts).2
      have lengths : ∀ {arr rows cols}, IsTable arr rows cols → arr.length = rows.length := by
        intro arr rows cols is
        rw [is.records, List.length_map]
      obtain ⟨lines, tail⟩ := List.append_inj belows (by
        rw [List.length_map, List.length_map, ← lengths is, ← lengths is', count])
      have same := rows_inj is is' all all' lines
      refine ⟨?_, tail⟩
      rw [is.records, is'.records]
      exact .rows is.scalar is'.scalar same
  | json nonempty =>
    cases shape' with
    | empty => exact absurd count (some' nonempty)
    | table _ is => exact absurd (List.cons.inj fronts).1 (by decide)
    | cells _ scalars =>
      simp only [List.cons.injEq, true_and] at fronts
      exact absurd fronts.symm (cells_ne_json (flat all' scalars) _)
    | json _ =>
      simp only [List.cons.injEq, true_and] at fronts
      cases Json.spell_injective fronts
      exact ⟨.alike (.refl _), belows⟩

end Arrays

/-! ### Documents -/

/-- An object's lines are those of its first key, and what follows them. -/
theorem emitKv_opens (k : String) (v : Json) (depth : Nat) : ∃ front below,
    emitKv k v depth = (pad depth ++ key k ++ front) :: below := by
  cases v with
  | arr items =>
    obtain ⟨_, _, _, lines⟩ := emitArray_shape k items depth
    exact ⟨_, _, lines⟩
  | _ => exact ⟨_, _, rfl⟩

theorem closed_fields {depth : Nat} {rest : List (List Char)} (fields : List (String × Json)) (closed : Closed depth rest) :
    Closed (depth + 1) (emitFields fields depth ++ rest) := by
  match fields with
  | [] =>
    intro l member
    have less := closed l member
    omega
  | (k, v) :: more =>
    obtain ⟨front, below, lines⟩ := emitKv_opens k v depth
    intro l member
    rw [emitFields, lines] at member
    cases member
    rw [leading_key]
    omega

theorem not_closed_key {depth : Nat} {rest : List (List Char)} {k : String} {v : Json} (closed : Closed depth rest)
    {more : List (List Char)} : rest ≠ emitKv k v depth ++ more := by
  rintro rfl
  obtain ⟨front, below, lines⟩ := emitKv_opens k v depth
  rw [lines] at closed
  have less := closed _ rfl
  rw [leading_key] at less
  omega

/-- The front of a line behind its key. -/
theorem line_inj {depth : Nat} {k l : String} {c d : Char} {x y : List Char} (hc : c ∈ keyUnsafe) (hd : d ∈ keyUnsafe)
    (h : pad depth ++ key k ++ c :: x = pad depth ++ key l ++ d :: y) : k = l ∧ c = d ∧ x = y := by
  rw [List.append_assoc, List.append_assoc] at h
  exact key_inj hc hd (List.append_cancel_left h)

theorem digits_inj {m n : Nat} {x y : List Char} (h : Nat.toDigits 10 m ++ ']' :: x = Nat.toDigits 10 n ++ ']' :: y) :
    m = n ∧ x = y := by
  obtain ⟨same, _, tail⟩ := Json.span_inj (fun _ => Json.toDigits_digit) (fun _ => Json.toDigits_digit) (by decide)
    (by decide) h
  exact ⟨Json.toDigits_inj same, tail⟩

theorem emitKv_scalar (k : String) {v : Json} (flat : isScalar v = true) (depth : Nat) :
    emitKv k v depth = [pad depth ++ key k ++ ':' :: ' ' :: scalar v] := by
  cases v with
  | arr items => cases flat
  | obj fields => cases flat
  | _ => rfl

/-- The line of an object or an array has no value behind the key. -/
theorem emitKv_nested (k : String) {v : Json} (nested : isScalar v = false) (depth : Nat) : ∃ c x below,
    emitKv k v depth = (pad depth ++ key k ++ c :: x) :: below ∧ c ∈ keyUnsafe ∧ ∀ y, c :: x ≠ ':' :: ' ' :: y := by
  cases v with
  | arr items =>
    obtain ⟨rest, below, _, lines⟩ := emitArray_shape k items depth
    exact ⟨'[', _, below, lines, by decide, fun y => by simp⟩
  | obj fields => exact ⟨':', [], _, rfl, by decide, fun y => by simp⟩
  | _ => cases nested

theorem scalar_ne_nested {v w : Json} {k l : String} {depth : Nat} {rest rest' : List (List Char)}
    (flat : isScalar v = true) (nested : isScalar w = false) : emitKv k v depth ++ rest ≠ emitKv l w depth ++ rest' := by
  intro same
  obtain ⟨c, x, below, lines, ends, other⟩ := emitKv_nested l nested depth
  rw [emitKv_scalar k flat, lines, List.cons_append, List.cons_append, List.cons.injEq] at same
  obtain ⟨_, rfl, rfl⟩ := line_inj (by decide) ends same.1
  exact other _ rfl

theorem scalarKv_inj {v w : Json} {k l : String} {depth : Nat} {rest rest' : List (List Char)} (flat : Flat v) (flat' : Flat w)
    (h : emitKv k v depth ++ rest = emitKv l w depth ++ rest') : k = l ∧ Same v w ∧ rest = rest' := by
  rw [emitKv_scalar k flat.1, emitKv_scalar l flat'.1, List.cons_append, List.cons_append, List.cons.injEq] at h
  obtain ⟨rfl, _, values⟩ := line_inj (by decide) (by decide) h.1
  exact ⟨rfl, .alike (.scalar (scalar_inj flat flat' (List.cons.inj values).2)), h.2⟩

theorem arrayKv_inj {items others : List Json} {k l : String} {depth : Nat} {rest rest' : List (List Char)}
    (all : finiteItems items = true) (all' : finiteItems others = true)
    (h : emitKv k (.arr items) depth ++ rest = emitKv l (.arr others) depth ++ rest') :
    k = l ∧ Same (.arr items) (.arr others) ∧ rest = rest' := by
  obtain ⟨front, below, shape, lines⟩ := emitArray_shape k items depth
  obtain ⟨front', below', shape', lines'⟩ := emitArray_shape l others depth
  rw [emitKv, emitKv, lines, lines', List.cons_append, List.cons_append, List.cons.injEq] at h
  obtain ⟨rfl, _, behind⟩ := line_inj (by decide) (by decide) h.1
  obtain ⟨count, fronts⟩ := digits_inj behind
  obtain ⟨same, tail⟩ := arrayShape_inj shape shape' all all' count fronts h.2
  exact ⟨rfl, same, tail⟩

mutual
/-- The lines of a key, followed by lines that are indented no more than it, determine its value. -/
theorem emitKv_inj (v w : Json) {k l : String} {depth : Nat} {rest rest' : List (List Char)} (all : finite v = true)
    (all' : finite w = true) (closed : Closed (depth + 1) rest) (closed' : Closed (depth + 1) rest')
    (h : emitKv k v depth ++ rest = emitKv l w depth ++ rest') : k = l ∧ Same v w ∧ rest = rest' := by
  cases flat : isScalar v with
  | true =>
    cases flat' : isScalar w with
    | true => exact scalarKv_inj (flat_of_scalar flat all) (flat_of_scalar flat' all') h
    | false => exact absurd h (scalar_ne_nested flat flat')
  | false =>
    cases flat' : isScalar w with
    | true => exact absurd h.symm (scalar_ne_nested flat' flat)
    | false =>
      cases v with
      | obj fields =>
        cases w with
        | obj others =>
          rw [emitKv, emitKv, List.cons_append, List.cons_append, List.cons.injEq] at h
          obtain ⟨rfl, _, _⟩ := line_inj (by decide) (by decide) h.1
          obtain ⟨each, tail⟩ := emitFields_inj fields others all all' closed closed' h.2
          exact ⟨rfl, same_of_fields each, tail⟩
        | arr items =>
          obtain ⟨front, below, _, lines⟩ := emitArray_shape l items depth
          rw [emitKv, emitKv, lines, List.cons_append, List.cons_append, List.cons.injEq] at h
          exact absurd (line_inj (by decide) (by decide) h.1).2.1 (by decide)
        | _ => cases flat'
      | arr items =>
        cases w with
        | obj others =>
          obtain ⟨front, below, _, lines⟩ := emitArray_shape k items depth
          rw [emitKv, emitKv, lines, List.cons_append, List.cons_append, List.cons.injEq] at h
          exact absurd (line_inj (by decide) (by decide) h.1).2.1 (by decide)
        | arr others => exact arrayKv_inj all all' h
        | _ => cases flat'
      | _ => cases flat
theorem emitFields_inj (fields others : List (String × Json)) {depth : Nat} {rest rest' : List (List Char)}
    (all : finiteFields fields = true) (all' : finiteFields others = true) (closed : Closed depth rest)
    (closed' : Closed depth rest') (h : emitFields fields depth ++ rest = emitFields others depth ++ rest') :
    List.Forall₂ SameField fields others ∧ rest = rest' := by
  match fields, others with
  | [], [] => exact ⟨.nil, h⟩
  | [], (l, w) :: more' =>
    rw [emitFields, emitFields, List.nil_append, List.append_assoc] at h
    exact absurd h (not_closed_key closed)
  | (k, v) :: more, [] =>
    rw [emitFields, emitFields, List.nil_append, List.append_assoc] at h
    exact absurd h.symm (not_closed_key closed')
  | (k, v) :: more, (l, w) :: more' =>
    rw [emitFields, emitFields, List.append_assoc, List.append_assoc] at h
    rw [finiteFields, Bool.and_eq_true] at all all'
    obtain ⟨rfl, same, below⟩ := emitKv_inj v w all.1 all'.1 (closed_fields more closed) (closed_fields more' closed') h
    obtain ⟨each, tail⟩ := emitFields_inj more more' all.2 all'.2 closed closed' below
    exact ⟨.cons ⟨rfl, same⟩ each, tail⟩
end

theorem pad_unbroken (depth : Nat) : '\n' ∉ pad depth := by
  rw [pad_eq]
  simp

theorem digits_unbroken (n : Nat) : '\n' ∉ Nat.toDigits 10 n :=
  fun member => absurd (Json.toDigits_digit member) (by decide)

theorem joined_unbroken {α : Type} {text : α → List Char} {parts : List α} (each : ∀ part ∈ parts, '\n' ∉ text part) :
    '\n' ∉ join ',' (parts.map text) := by
  intro member
  obtain comma | ⟨part, listed, inside⟩ := mem_join member
  · exact absurd comma (by decide)
  · obtain ⟨v, held, rfl⟩ := List.mem_map.mp listed
    exact each v held inside

theorem cell_unbroken {v : Json} (flat : Flat v) : '\n' ∉ cell v := by
  obtain ⟨-, empty⟩ | bare | ⟨s, -, quoted⟩ := cell_cases flat.1 flat.2
  · simp [empty]
  · exact bare.unbroken.2
  · rw [quoted]
    exact quote_unbroken s

theorem scalar_unbroken {v : Json} (flat : Flat v) : '\n' ∉ scalar v := by
  obtain ⟨-, text⟩ | bare | ⟨s, -, quoted⟩ := scalar_cases flat.1 flat.2
  · rw [text]
    decide
  · exact bare.unbroken.2
  · rw [quoted]
    exact quote_unbroken s

/-- A line is there, and has no line break. -/
def Whole (l : List Char) : Prop := l ≠ [] ∧ '\n' ∉ l

theorem whole_key (depth : Nat) (k : String) {front : List Char} (unbroken : '\n' ∉ front) :
    Whole (pad depth ++ key k ++ front) := by
  obtain ⟨c, rest, text, _⟩ := key_head k
  refine ⟨by simp [text], ?_⟩
  simp [pad_unbroken, key_unbroken, unbroken]

theorem whole_array {k : String} {arr : List Json} {depth : Nat} (all : finiteItems arr = true) :
    ∀ l ∈ emitArray k arr depth, Whole l := by
  obtain ⟨front, below, shape, lines⟩ := emitArray_shape k arr depth
  have flat : (∀ v ∈ arr, isScalar v = true) → ∀ v ∈ arr, Flat v := fun scalars v member =>
    flat_of_scalar (scalars v member) (finite_of_mem all member)
  have head : '\n' ∉ front → Whole (pad depth ++ key k ++ '[' :: (Nat.toDigits 10 arr.length ++ ']' :: front)) :=
    fun unbroken => whole_key depth k (by simp [digits_unbroken, unbroken])
  rw [lines]
  intro l member
  cases shape with
  | empty =>
    obtain rfl := List.mem_singleton.mp member
    exact head (by decide)
  | cells _ scalars =>
    obtain rfl := List.mem_singleton.mp member
    apply head
    simp [joined_unbroken fun v held => cell_unbroken (flat scalars v held)]
  | json _ =>
    obtain rfl := List.mem_singleton.mp member
    apply head
    simp [Json.not_mem_spell Json.unicodeSpelling_avoids]
  | @table _ rows cols _ is =>
    obtain rfl | below := List.mem_cons.mp member
    · apply head
      simp [joined_unbroken fun c _ => key_unbroken c]
    · obtain ⟨row, listed, rfl⟩ := List.mem_map.mp below
      have record : Json.obj row ∈ arr := is.records ▸ List.mem_map_of_mem listed
      have cells : '\n' ∉ join ',' (cols.map fun c => cell (Fields.get row c)) :=
        joined_unbroken fun c column => cell_unbroken
          (flat_of_scalar (is.scalar row listed c) (finite_get (finite_of_mem all record) c))
      refine ⟨by simp [rowLine, indent], ?_⟩
      simp [rowLine, pad_unbroken, indent, cells]

mutual
theorem whole_kv (v : Json) {k : String} {depth : Nat} (all : finite v = true) : ∀ l ∈ emitKv k v depth, Whole l := by
  cases flat : isScalar v with
  | true =>
    rw [emitKv_scalar k flat]
    intro l member
    obtain rfl := List.mem_singleton.mp member
    apply whole_key
    simp [scalar_unbroken (flat_of_scalar flat all)]
  | false =>
    cases v with
    | arr items => exact whole_array all
    | obj fields =>
      intro l member
      obtain rfl | below := List.mem_cons.mp member
      · exact whole_key depth k (by decide)
      · exact whole_fields fields all l below
    | _ => cases flat
theorem whole_fields (fields : List (String × Json)) {depth : Nat} (all : finiteFields fields = true) :
    ∀ l ∈ emitFields fields depth, Whole l := by
  match fields with
  | [] => exact fun _ absurd => by cases absurd
  | (k, v) :: rest =>
    rw [finiteFields, Bool.and_eq_true] at all
    intro l member
    rw [emitFields, List.mem_append] at member
    obtain inside | outside := member
    · exact whole_kv v all.1 l inside
    · exact whole_fields rest all.2 l outside
end

/-- No two objects have one document, but for what is the same in it. -/
theorem to_toon_lossless {x y : Fields} (all : finite (.obj x) = true) (all' : finite (.obj y) = true)
    (same : toToon (.obj x) = toToon (.obj y)) : Same (.obj x) (.obj y) := by
  have texts : join '\n' (emitFields x 0) = join '\n' (emitFields y 0) := String.ofList_injective same
  have lines := join_lines_inj (whole_fields x all) (whole_fields y all') texts
  have ended : Closed 0 [] := fun _ absurd => by cases absurd
  have documents : emitFields x 0 ++ [] = emitFields y 0 ++ [] := congrArg (· ++ []) lines
  exact same_of_fields (emitFields_inj x y all all' ended ended documents).1

/-- A page of rows, with the columns of the second one missing in the first. -/
def sparseRows : Fields := [("total", .float 2), ("results", .arr [
  .obj [("name", .str "A"), ("zip", .str "0161")], .obj [("name", .str "B, \"x\""), ("email", .str "b@x.co")]])]

def paddedRows : Fields := [("total", .int 2), ("results", .arr [
  .obj [("name", .str "A"), ("zip", .str "0161"), ("email", .null)],
  .obj [("name", .str "B, \"x\""), ("zip", .str ""), ("email", .str "b@x.co")]])]

example : toToon (.obj sparseRows) =
    "total: 2\nresults[2]\x7bname,zip,email\x7d:\n  A,\"0161\",\n  \"B, \\\"x\\\"\",,b@x.co" := by decide +kernel

/-- The two have one document. -/
theorem padded_rows_are_the_same : Same (.obj sparseRows) (.obj paddedRows) :=
  to_toon_lossless (by decide) (by decide) (by decide +kernel)

end Toon
end LobstrMcp
