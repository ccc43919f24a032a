import LobstrMcp.Data.JsonScalars
import Mathlib.Order.Lattice

/-!
The texts that Python's `json` reads, as a grammar, and the scanner against it. A value of the grammar nests to a
given depth at most; `Opens` are the texts in which reading comes to a bracket that is nested deeper. The scanner
reads exactly the values, and runs out of stack exactly on the texts that open too deep.
-/

namespace JsonReader

variable {t v rest gap : Text} {c digits : Nat}

/-! ### Items between commas -/

section
variable (Item : Text → Prop) (Deep : Text → Prop) (close : Nat)

/-- Items between commas, and the bracket that closes them. -/
inductive Elements : Text → Prop
  | last {v gap : Text} (item : Item v) (blank : Blank gap) : Elements (v ++ (gap ++ [close]))
  | more {v gap gap' t : Text} (item : Item v) (blank : Blank gap) (blank' : Blank gap') (rest : Elements t) :
      Elements (v ++ (gap ++ ','.toNat :: (gap' ++ t)))

/-- Whole items, and then one that goes too deep. -/
inductive ElementsDeep : Text → Prop
  | here {t : Text} (deep : Deep t) : ElementsDeep t
  | later {v gap gap' t : Text} (item : Item v) (blank : Blank gap) (blank' : Blank gap') (rest : ElementsDeep t) :
      ElementsDeep (v ++ (gap ++ ','.toNat :: (gap' ++ t)))

/-- What follows an opening bracket, the closing one included. -/
inductive Container : Text → Prop
  | empty {gap : Text} (blank : Blank gap) : Container (gap ++ [close])
  | items {gap t : Text} (blank : Blank gap) (elements : Elements Item close t) : Container (gap ++ t)

def ContainerDeep (t : Text) : Prop := ElementsDeep Item Deep (skip t)

end

inductive Member (Value : Text → Prop) : Text → Prop
  | named {name gap gap' v : Text} (tail : StringTail name) (blank : Blank gap) (blank' : Blank gap')
      (value : Value v) :
      Member Value (quote :: (name ++ (gap ++ ':'.toNat :: (gap' ++ v))))

inductive MemberDeep (Deep : Text → Prop) : Text → Prop
  | named {name gap t : Text} (tail : StringTail name) (blank : Blank gap) (deep : Deep (skip t)) :
      MemberDeep Deep (quote :: (name ++ (gap ++ ':'.toNat :: t)))

/-- A reader reads these texts, up to where they break off, and runs out of stack on those. -/
structure ReadsAs (reader : Text → Except Failure Text) (Item Deep : Text → Prop) : Prop where
  sound : ∀ {t rest}, reader t = .ok rest → ∃ v, Item v ∧ t = v ++ rest
  complete : ∀ {v rest}, Item v → Breaks rest → reader (v ++ rest) = .ok rest
  deep : ∀ {t}, reader t = .error .recursion ↔ Deep t

/-- Its texts begin with something that is no space and closes no bracket. -/
structure ReadsItem (reader : Text → Except Failure Text) (Item Deep : Text → Prop) : Prop
    extends ReadsAs reader Item Deep where
  solid : ∀ {v}, Item v → Solid v
  deepSolid : ∀ {t}, Deep t → Solid t

def Closing (close : Nat) : Prop := close = ']'.toNat ∨ close = '}'.toNat

section
variable {reader : Text → Except Failure Text} {Item Deep : Text → Prop} {close : Nat}

theorem Closing.breaks (closing : Closing close) (rest : Text) : Breaks (close :: rest) := by
  rcases closing with rfl | rfl <;> exact breaks_cons (by decide) rest

theorem Closing.space (closing : Closing close) : isSpace close = false := by
  rcases closing with rfl | rfl <;> decide

theorem Closing.comma (closing : Closing close) : ','.toNat ≠ close := by
  rcases closing with rfl | rfl <;> decide

theorem Closing.not_solid (closing : Closing close) (solid : Solid (c :: rest)) : c ≠ close := by
  obtain ⟨d, more, same, -, square, curly⟩ := solid
  cases same
  rcases closing with rfl | rfl
  · exact square
  · exact curly

theorem breaks_comma (t : Text) : Breaks (','.toNat :: t) := breaks_cons (by decide) t

theorem Elements.solid (reads : ReadsItem reader Item Deep) (elements : Elements Item close t) : Solid t := by
  cases elements with
  | last item => exact (reads.solid item).append _
  | more item => exact (reads.solid item).append _

theorem ElementsDeep.solid (reads : ReadsItem reader Item Deep) (deep : ElementsDeep Item Deep t) : Solid t := by
  cases deep with
  | here deep => exact reads.deepSolid deep
  | later item => exact (reads.solid item).append _

theorem afterItem_close (blank : Blank gap) (closing : Closing close) (more : Text → Except Failure Text)
    (rest : Text) : afterItem close more (gap ++ close :: rest) = .ok rest := by
  simp only [afterItem, skip_append blank, skip_cons closing.space, if_true]

theorem afterItem_comma (blank : Blank gap) (closing : Closing close) (more : Text → Except Failure Text)
    (rest : Text) : afterItem close more (gap ++ ','.toNat :: rest) = more (skip rest) := by
  simp only [afterItem, skip_append blank, skip_cons (show isSpace ','.toNat = false by decide), if_neg closing.comma,
    if_true]

theorem afterItem_cases (close : Nat) (t : Text) :
    (∃ gap rest, Blank gap ∧ t = gap ++ close :: rest ∧ ∀ more, afterItem close more t = .ok rest) ∨
    (∃ gap gap' rest, Blank gap ∧ Blank gap' ∧ t = gap ++ ','.toNat :: (gap' ++ rest) ∧
      ∀ more, afterItem close more t = more rest) ∨
    ∀ more, afterItem close more t = .error .value := by
  obtain ⟨gap, blank, parts⟩ := skip_split t
  match first : skip t with
  | [] => exact .inr (.inr fun more => by simp only [afterItem, first])
  | c :: rest =>
    rw [first] at parts
    by_cases closes : c = close
    · exact .inl ⟨gap, rest, blank, by rw [parts, closes], fun more => by simp only [afterItem, first, if_pos closes]⟩
    · by_cases comma : c = ','.toNat
      · obtain ⟨gap', blank', parts'⟩ := skip_split rest
        exact .inr (.inl ⟨gap, gap', skip rest, blank, blank', by rw [← parts', parts, comma], fun more => by
          simp only [afterItem, first, if_neg closes, if_pos comma]⟩)
      · exact .inr (.inr fun more => by simp only [afterItem, first, if_neg closes, if_neg comma])

theorem elements_sound (reads : ReadsItem reader Item Deep) {rounds : Nat}
    (read : elements reader close rounds t = .ok rest) : ∃ v, Elements Item close v ∧ t = v ++ rest := by
  induction rounds generalizing t with
  | zero => cases read
  | succ rounds ih =>
    unfold elements at read
    split at read
    · cases read
    · next after first =>
      obtain ⟨v, item, rfl⟩ := reads.sound first
      rcases afterItem_cases close after with ⟨gap, last, blank, parts, ends⟩ |
        ⟨gap, gap', next', blank, blank', parts, continues⟩ | fails
      · obtain rfl := Except.ok.inj ((ends _).symm.trans read)
        exact ⟨_, .last item blank, by simp [parts]⟩
      · obtain ⟨w, tail, rfl⟩ := ih ((continues _).symm.trans read)
        exact ⟨_, .more item blank blank' tail, by simp [parts]⟩
      · cases (fails _).symm.trans read

theorem elements_complete (reads : ReadsItem reader Item Deep) (closing : Closing close)
    (isElements : Elements Item close v) {rounds : Nat} (enough : v.length ≤ rounds) :
    elements reader close rounds (v ++ rest) = .ok rest := by
  induction isElements generalizing rounds with
  | @last v gap item blank =>
    -- no item is empty, so there is a round for each
    have pos := (reads.solid item).length_pos
    obtain ⟨rounds, rfl⟩ : ∃ fewer, rounds = fewer + 1 := ⟨rounds - 1, by simp at enough; omega⟩
    have first := reads.complete item (breaks_gap blank (closing.breaks rest))
    simp only [elements, List.append_assoc, List.singleton_append, first, afterItem_close blank closing]
  | @more v gap gap' t item blank blank' tail ih =>
    have pos := (reads.solid item).length_pos
    obtain ⟨rounds, rfl⟩ : ∃ fewer, rounds = fewer + 1 := ⟨rounds - 1, by simp at enough; omega⟩
    have first := reads.complete item (breaks_gap blank (breaks_comma (gap' ++ (t ++ rest))))
    have last := @ih rounds (by simp at enough; omega)
    simp only [elements, List.append_assoc, List.cons_append, first, afterItem_comma blank closing,
      skip_append blank', ((tail.solid reads).append rest).skip, last]

theorem elements_deep (reads : ReadsItem reader Item Deep) {rounds : Nat}
    (read : elements reader close rounds t = .error .recursion) : ElementsDeep Item Deep t := by
  induction rounds generalizing t with
  | zero => cases read
  | succ rounds ih =>
    unfold elements at read
    split at read
    · next first =>
      cases read
      exact .here (reads.deep.mp first)
    · next after first =>
      obtain ⟨v, item, rfl⟩ := reads.sound first
      rcases afterItem_cases close after with ⟨gap, last, blank, parts, ends⟩ |
        ⟨gap, gap', next', blank, blank', rfl, continues⟩ | fails
      · cases (ends _).symm.trans read
      · exact .later item blank blank' (ih ((continues _).symm.trans read))
      · cases (fails _).symm.trans read

theorem elements_of_deep (reads : ReadsItem reader Item Deep) (closing : Closing close)
    (deep : ElementsDeep Item Deep t) {rounds : Nat} (enough : t.length ≤ rounds) :
    elements reader close rounds t = .error .recursion := by
  induction deep generalizing rounds with
  | here deep =>
    have pos := (reads.deepSolid deep).length_pos
    obtain ⟨rounds, rfl⟩ : ∃ fewer, rounds = fewer + 1 := ⟨rounds - 1, by omega⟩
    simp only [elements, reads.deep.mpr deep]
  | @later v gap gap' t item blank blank' tail ih =>
    have pos := (reads.solid item).length_pos
    obtain ⟨rounds, rfl⟩ : ∃ fewer, rounds = fewer + 1 := ⟨rounds - 1, by simp at enough; omega⟩
    have first := reads.complete item (breaks_gap blank (breaks_comma (gap' ++ t)))
    have last := @ih rounds (by simp at enough; omega)
    simp only [elements, first, afterItem_comma blank closing, skip_append blank', (tail.solid reads).skip, last]

theorem container_cases (close : Nat) (t : Text) :
    (∃ gap rest, Blank gap ∧ t = gap ++ close :: rest ∧ ∀ item, container item close t = .ok rest) ∨
    ((∀ rest, skip t ≠ close :: rest) ∧ ∀ item, container item close t = elements item close t.length (skip t)) ∨
    (skip t = [] ∧ ∀ item, container item close t = .error .value) := by
  obtain ⟨gap, blank, parts⟩ := skip_split t
  match first : skip t with
  | [] => exact .inr (.inr ⟨rfl, fun item => by simp only [container, first]⟩)
  | c :: rest =>
    rw [first] at parts
    by_cases closes : c = close
    · exact .inl ⟨gap, rest, blank, by rw [parts, closes], fun item => by simp only [container, first, if_pos closes]⟩
    · refine .inr (.inl ⟨fun rest same => closes (List.cons.inj same).1, fun item => ?_⟩)
      simp only [container, first, if_neg closes]

theorem readsAs_container (reads : ReadsItem reader Item Deep) (closing : Closing close) :
    ReadsAs (container reader close) (Container Item close) (ContainerDeep Item Deep) where
  sound {t rest} read := by
    rcases container_cases close t with ⟨gap, last, blank, parts, ends⟩ | ⟨-, items⟩ | ⟨-, fails⟩
    · obtain rfl := Except.ok.inj ((ends _).symm.trans read)
      exact ⟨_, .empty blank, by simp [parts]⟩
    · obtain ⟨v, isElements, same⟩ := elements_sound reads ((items _).symm.trans read)
      obtain ⟨gap, blank, parts⟩ := skip_split t
      exact ⟨_, .items blank isElements, by rw [parts, same, List.append_assoc]⟩
    · cases (fails _).symm.trans read
  complete {v rest} item _ := by
    cases item with
    | empty blank =>
      simp only [container, List.append_assoc, List.singleton_append, skip_append blank, skip_cons closing.space,
        if_true]
    | @items gap t blank isElements =>
      obtain ⟨c, more, rfl, space, -⟩ := isElements.solid reads
      have apart : c ≠ close := closing.not_solid (isElements.solid reads)
      have enough : (c :: more).length ≤ (gap ++ c :: more ++ rest).length := by
        simp only [List.length_append]
        omega
      have read : _ = Except.ok rest := elements_complete reads closing isElements enough
      simp only [container, List.append_assoc, List.cons_append, skip_append blank, skip_cons space,
        if_neg apart] at read ⊢
      exact read
  deep {t} := by
    constructor
    · intro read
      rcases container_cases close t with ⟨gap, last, blank, parts, ends⟩ | ⟨-, items⟩ | ⟨-, fails⟩
      · cases (ends _).symm.trans read
      · exact elements_deep reads ((items _).symm.trans read)
      · cases (fails _).symm.trans read
    · intro deep
      have solid := ElementsDeep.solid reads deep
      rcases container_cases close t with ⟨gap, last, blank, rfl, -⟩ | ⟨-, items⟩ | ⟨nothing, -⟩
      · rw [skip_append blank, skip_cons closing.space] at solid
        exact absurd rfl (closing.not_solid solid)
      · rw [items]
        exact elements_of_deep reads closing deep (List.dropWhile_suffix isSpace).length_le
      · rw [nothing] at solid
        exact absurd solid.length_pos (by simp)

/-- A member is a name, a colon and what is read as its value, or no member. -/
theorem member_cases (t : Text) :
    (∃ name gap rest, StringTail name ∧ Blank gap ∧ t = quote :: (name ++ (gap ++ ':'.toNat :: rest)) ∧
      ∀ value, member value t = value (skip rest)) ∨
    ∀ value, member value t = .error .value := by
  cases t with
  | nil => exact .inr fun value => rfl
  | cons c more =>
    by_cases opens : c = quote
    · match closed : stringRest more with
      | none => exact .inr fun value => by simp only [member, if_pos opens, closed]
      | some after =>
        obtain ⟨name, tail, rfl⟩ := stringRest_sound closed
        obtain ⟨gap, blank, parts⟩ := skip_split after
        match next' : skip after with
        | [] => exact .inr fun value => by simp only [member, if_pos opens, closed, next']
        | d :: rest =>
          by_cases colon : d = ':'.toNat
          · refine .inl ⟨name, gap, rest, tail, blank, by rw [opens, ← colon, ← next', ← parts], fun value => ?_⟩
            simp only [member, if_pos opens, closed, next', if_pos colon]
          · exact .inr fun value => by simp only [member, if_pos opens, closed, next', if_neg colon]
    · exact .inr fun value => by simp only [member, if_neg opens]

theorem readsItem_member (reads : ReadsItem reader Item Deep) :
    ReadsItem (member reader) (Member Item) (MemberDeep Deep) where
  sound {t rest} read := by
    rcases member_cases t with ⟨name, gap, last, tail, blank, rfl, continues⟩ | fails
    · obtain ⟨v, item, same⟩ := reads.sound ((continues _).symm.trans read)
      obtain ⟨gap', blank', parts⟩ := skip_split last
      rw [same] at parts
      exact ⟨_, .named tail blank blank' item, by simp [parts]⟩
    · cases (fails _).symm.trans read
  complete {v rest} item breaks := by
    obtain @⟨name, gap, gap', w, tail, blank, blank', item⟩ := item
    simp only [member, List.cons_append, List.append_assoc, if_true, stringRest_complete tail, skip_append blank,
      skip_cons (show isSpace ':'.toNat = false by decide), skip_append blank',
      ((reads.solid item).append rest).skip, reads.complete item breaks]
  deep {t} := by
    constructor
    · intro read
      rcases member_cases t with ⟨name, gap, last, tail, blank, rfl, continues⟩ | fails
      · exact .named tail blank (reads.deep.mp ((continues _).symm.trans read))
      · cases (fails _).symm.trans read
    · rintro @⟨name, gap, u, tail, blank, deep⟩
      simp only [member, if_true, stringRest_complete tail, skip_append blank,
        skip_cons (show isSpace ':'.toNat = false by decide), reads.deep.mpr deep]
  solid {v} item := by
    cases item
    exact ⟨quote, _, rfl, by decide⟩
  deepSolid {t} deep := by
    cases deep
    exact ⟨quote, _, rfl, by decide⟩

end

/-! ### Values -/

inductive ValueOf (digits : Nat) (Object Array : Text → Prop) : Text → Prop
  | scalar {t : Text} (isScalar : Scalar digits t) : ValueOf digits Object Array t
  | object {t : Text} (inside : Object t) : ValueOf digits Object Array ('{'.toNat :: t)
  | array {t : Text} (inside : Array t) : ValueOf digits Object Array ('['.toNat :: t)

inductive BracketOf (Object Array : Text → Prop) : Text → Prop
  | object {t : Text} (inside : Object t) : BracketOf Object Array ('{'.toNat :: t)
  | array {t : Text} (inside : Array t) : BracketOf Object Array ('['.toNat :: t)

/-- A value in which arrays and objects nest no deeper than this. -/
def IsValue (digits : Nat) : Nat → Text → Prop
  | 0 => ValueOf digits (fun _ => False) fun _ => False
  | depth + 1 =>
    ValueOf digits (Container (Member (IsValue digits depth)) '}'.toNat) (Container (IsValue digits depth) ']'.toNat)

/-- Up to a bracket that is nested deeper than this, the text is in order. -/
def Opens (digits : Nat) : Nat → Text → Prop
  | 0 => BracketOf (fun _ => True) fun _ => True
  | depth + 1 =>
    BracketOf (ContainerDeep (Member (IsValue digits depth)) (MemberDeep (Opens digits depth)))
      (ContainerDeep (IsValue digits depth) (Opens digits depth))

theorem scanOnce_cases (digits : Nat) (t : Text) :
    (∃ rest, t = '{'.toNat :: rest ∧ ∀ object array, scanOnce digits object array t = object rest) ∨
    (∃ rest, t = '['.toNat :: rest ∧ ∀ object array, scanOnce digits object array t = array rest) ∨
    ∀ object array, scanOnce digits object array t = scalar digits t := by
  cases t with
  | nil => exact .inr (.inr fun object array => rfl)
  | cons c rest =>
    by_cases curly : c = '{'.toNat
    · exact .inl ⟨rest, by rw [curly], fun object array => by simp only [scanOnce, if_pos curly]⟩
    · by_cases square : c = '['.toNat
      · refine .inr (.inl ⟨rest, by rw [square], fun object array => ?_⟩)
        simp only [scanOnce, if_neg curly, if_pos square]
      · exact .inr (.inr fun object array => by simp only [scanOnce, if_neg curly, if_neg square])

theorem readsItem_scanOnce {object array : Text → Except Failure Text}
    {Object Array ObjectDeep ArrayDeep : Text → Prop} (objects : ReadsAs object Object ObjectDeep)
    (arrays : ReadsAs array Array ArrayDeep) :
    ReadsItem (scanOnce digits object array) (ValueOf digits Object Array) (BracketOf ObjectDeep ArrayDeep) where
  sound {t rest} read := by
    rcases scanOnce_cases digits t with ⟨more, rfl, inside⟩ | ⟨more, rfl, inside⟩ | inside
    · obtain ⟨v, item, rfl⟩ := objects.sound ((inside _ _).symm.trans read)
      exact ⟨_, .object item, rfl⟩
    · obtain ⟨v, item, rfl⟩ := arrays.sound ((inside _ _).symm.trans read)
      exact ⟨_, .array item, rfl⟩
    · obtain ⟨v, isScalar, parts⟩ := scalar_sound ((inside _ _).symm.trans read)
      exact ⟨v, .scalar isScalar, parts⟩
  complete {v rest} item breaks := by
    cases item with
    | scalar isScalar =>
      have read := scalar_complete isScalar breaks
      obtain ⟨c, more, rfl, -, -, -, square, curly⟩ := isScalar.head
      simp only [scanOnce, List.cons_append, if_neg curly, if_neg square] at read ⊢
      exact read
    | object inside => simp only [scanOnce, List.cons_append, if_true, objects.complete inside breaks]
    | array inside =>
      simp only [scanOnce, List.cons_append, if_neg (show '['.toNat ≠ '{'.toNat by decide), if_true,
        arrays.complete inside breaks]
  deep {t} := by
    constructor
    · intro read
      rcases scanOnce_cases digits t with ⟨more, rfl, inside⟩ | ⟨more, rfl, inside⟩ | inside
      · exact .object (objects.deep.mp ((inside _ _).symm.trans read))
      · exact .array (arrays.deep.mp ((inside _ _).symm.trans read))
      · exact absurd ((inside _ _).symm.trans read) scalar_not_recursion
    · rintro (⟨inside⟩ | ⟨inside⟩)
      · simp only [scanOnce, if_true, objects.deep.mpr inside]
      · simp only [scanOnce, if_neg (show '['.toNat ≠ '{'.toNat by decide), if_true, arrays.deep.mpr inside]
  solid {v} item := by
    cases item with
    | scalar isScalar =>
      obtain ⟨c, more, rfl, space, square, curly, -⟩ := isScalar.head
      exact ⟨c, more, rfl, space, square, curly⟩
    | object => exact ⟨_, _, rfl, by decide⟩
    | array => exact ⟨_, _, rfl, by decide⟩
  deepSolid {t} deep := by
    cases deep <;> exact ⟨_, _, rfl, by decide⟩

/-- The scanner reads exactly the values that nest as deep as it may go, and runs out of stack exactly on the texts
that open deeper. -/
theorem readsItem_value (digits depth : Nat) :
    ReadsItem (value digits depth) (IsValue digits depth) (Opens digits depth) := by
  induction depth with
  | zero =>
    have never : ReadsAs (fun _ => .error .recursion) (fun _ => False) fun _ => True :=
      { sound := by
          intro t rest read
          cases read
        complete := by
          intro v rest impossible
          exact impossible.elim
        deep := by simp }
    exact readsItem_scanOnce never never
  | succ depth ih =>
    exact readsItem_scanOnce (readsAs_container (readsItem_member ih) (.inr rfl)) (readsAs_container ih (.inl rfl))

/-! ### Longer integers -/

theorem Scalar.unbounded (isScalar : Scalar digits t) : Scalar 0 t := by
  cases isScalar with
  | constant known => exact .constant known
  | string tail => exact .string tail
  | number isNumber =>
    obtain @⟨minus, whole, frac, exp, signed, isWhole, isFraction, isExponent, -⟩ := isNumber
    exact .number (.parts signed isWhole isFraction isExponent fun _ _ => .inl rfl)

theorem Container.imp {Item Item' : Text → Prop} {close : Nat} (imp : ∀ t, Item t → Item' t)
    (container : Container Item close t) : Container Item' close t := by
  cases container with
  | empty blank => exact .empty blank
  | items blank elements =>
    refine .items blank ?_
    induction elements with
    | last item blank => exact .last (imp _ item) blank
    | more item blank blank' _ ih => exact .more (imp _ item) blank blank' ih

theorem Member.imp {Value Value' : Text → Prop} (imp : ∀ t, Value t → Value' t) (member : Member Value t) :
    Member Value' t := by
  obtain @⟨name, gap, gap', v, tail, blank, blank', value⟩ := member
  exact .named tail blank blank' (imp v value)

theorem IsValue.unbounded {depth : Nat} (isValue : IsValue digits depth t) : IsValue 0 depth t := by
  induction depth generalizing t with
  | zero =>
    rcases isValue with isScalar | impossible | impossible
    · exact .scalar isScalar.unbounded
    · exact impossible.elim
    · exact impossible.elim
  | succ depth ih =>
    rcases isValue with isScalar | inside | inside
    · exact .scalar isScalar.unbounded
    · exact .object (inside.imp fun _ member => member.imp fun _ => ih)
    · exact .array (inside.imp fun _ => ih)

/-! ### More stack -/

/-- Where the one does not run out of stack, the other reads the same. -/
def Steadier (reader reader' : Text → Except Failure Text) : Prop :=
  ∀ t, reader t ≠ .error .recursion → reader' t = reader t

section
variable {reader reader' : Text → Except Failure Text}

theorem steadier_elements (steadier : Steadier reader reader') (close rounds : Nat) :
    Steadier (elements reader close rounds) (elements reader' close rounds) := by
  induction rounds with
  | zero => exact fun _ _ => rfl
  | succ rounds ih =>
    intro t survives
    have same : reader' t = reader t := steadier t fun deep => survives (by simp only [elements, deep])
    simp only [elements, same] at survives ⊢
    match first : reader t with
    | .error e => rfl
    | .ok after =>
      simp only [first] at survives ⊢
      rcases afterItem_cases close after with ⟨_, _, _, _, ends⟩ | ⟨_, _, _, _, _, _, continues⟩ | fails
      · rw [ends, ends]
      · rw [continues] at survives ⊢
        rw [continues, ih _ survives]
      · rw [fails, fails]

theorem steadier_container (steadier : Steadier reader reader') (close : Nat) :
    Steadier (container reader close) (container reader' close) := by
  intro t survives
  rcases container_cases close t with ⟨_, _, _, _, ends⟩ | ⟨-, items⟩ | ⟨-, fails⟩
  · rw [ends, ends]
  · rw [items] at survives ⊢
    rw [items, steadier_elements steadier close _ _ survives]
  · rw [fails, fails]

theorem steadier_member (steadier : Steadier reader reader') : Steadier (member reader) (member reader') := by
  intro t survives
  rcases member_cases t with ⟨_, _, _, _, _, _, continues⟩ | fails
  · rw [continues] at survives ⊢
    rw [continues, steadier _ survives]
  · rw [fails, fails]

theorem steadier_scanOnce {object object' array array' : Text → Except Failure Text}
    (objects : Steadier object object') (arrays : Steadier array array') :
    Steadier (scanOnce digits object array) (scanOnce digits object' array') := by
  intro t survives
  rcases scanOnce_cases digits t with ⟨_, -, inside⟩ | ⟨_, -, inside⟩ | inside
  · rw [inside] at survives ⊢
    rw [inside, objects _ survives]
  · rw [inside] at survives ⊢
    rw [inside, arrays _ survives]
  · rw [inside, inside]

end

theorem steadier_succ (digits depth : Nat) : Steadier (value digits depth) (value digits (depth + 1)) := by
  induction depth with
  | zero => exact steadier_scanOnce (fun _ survives => absurd rfl survives) fun _ survives => absurd rfl survives
  | succ depth ih => exact steadier_scanOnce (steadier_container (steadier_member ih) _) (steadier_container ih _)

theorem steadier_value {depth depth' : Nat} (deeper : depth ≤ depth') :
    Steadier (value digits depth) (value digits depth') := by
  induction depth', deeper using Nat.le_induction with
  | base => exact fun _ _ => rfl
  | succ depth' _ ih =>
    intro t survives
    have same := ih t survives
    rw [← same] at survives ⊢
    exact steadier_succ digits depth' t survives

/-! ### Whole texts -/

/-- A text that is one object, spaces aside. -/
def IsObject (digits : Nat) (t : Text) : Prop :=
  ∃ depth gap inside gap', t = gap ++ ('{'.toNat :: inside ++ gap') ∧ Blank gap ∧ Blank gap' ∧
    IsValue digits depth ('{'.toNat :: inside)

/-- Reading the text comes to a bracket that the stack does not hold. -/
def TooDeep (limits : Limits) (t : Text) : Prop := Opens limits.digits limits.depth (skip t)

theorem breaks_blank (blank : Blank gap) : Breaks gap := by
  cases gap with
  | nil => rintro c ⟨⟩
  | cons c more => exact breaks_space (blank c List.mem_cons_self) more

theorem decodeText_recursion_iff {limits : Limits} : decodeText limits t = .error .recursion ↔ TooDeep limits t := by
  rw [TooDeep, ← (readsItem_value limits.digits limits.depth).deep, decodeText]
  split
  · next failed => simp [failed]
  · next read =>
    rw [read]
    split <;> simp

/-- An object is read as one unless the stack gives out. -/
theorem decodeText_dict_iff {limits : Limits} :
    decodeText limits t = .ok .dict ↔ IsObject limits.digits t ∧ ¬ TooDeep limits t := by
  have reads := readsItem_value limits.digits limits.depth
  constructor
  · intro read
    refine ⟨?_, fun deep => ?_⟩
    · obtain ⟨gap, blank, parts⟩ := skip_split t
      unfold decodeText at read
      split at read
      · cases read
      · next after first =>
        obtain ⟨v, isValue, same⟩ := reads.sound first
        obtain ⟨gap', blank', parts'⟩ := skip_split after
        split at read
        · next finished =>
          split at read
          · next opens =>
            obtain ⟨c, more, rfl, -⟩ := reads.solid isValue
            rw [same] at opens parts
            obtain rfl : c = '{'.toNat := by simpa using opens
            rw [finished, List.append_nil] at parts'
            exact ⟨limits.depth, gap, more, gap', by rw [parts, ← parts'], blank, blank', isValue⟩
          · cases read
        · cases read
    · rw [decodeText_recursion_iff.mpr deep] at read
      cases read
  · rintro ⟨⟨depth, gap, inside, gap', rfl, blank, blank', isValue⟩, shallow⟩
    have bare : skip (gap ++ ('{'.toNat :: inside ++ gap')) = '{'.toNat :: inside ++ gap' := by
      rw [skip_append blank, List.cons_append, skip_cons (by decide)]
    have survives : value limits.digits limits.depth ('{'.toNat :: inside ++ gap') ≠ .error .recursion := by
      intro failed
      exact shallow (by rw [TooDeep, bare]; exact reads.deep.mp failed)
    have first : value limits.digits depth ('{'.toNat :: inside ++ gap') = .ok gap' :=
      (readsItem_value limits.digits depth).complete isValue (breaks_blank blank')
    -- at the greater of the two depths both readings are one
    have one := steadier_value (le_max_left limits.depth depth) _ survives
    have other : value limits.digits (max limits.depth depth) ('{'.toNat :: inside ++ gap') = _ :=
      steadier_value (le_max_right limits.depth depth) _ (by rw [first]; simp)
    rw [decodeText, bare, ← one, other, first]
    simp [skip_blank blank']

theorem IsObject.unbounded (isObject : IsObject digits t) : IsObject 0 t := by
  obtain ⟨depth, gap, inside, gap', parts, blank, blank', isValue⟩ := isObject
  exact ⟨depth, gap, inside, gap', parts, blank, blank', isValue.unbounded⟩

theorem Opens.bracket {depth : Nat} (opens : Opens digits depth t) :
    ∃ c rest, t = c :: rest ∧ (c = '{'.toNat ∨ c = '['.toNat) := by
  cases depth with
  | zero => cases opens <;> exact ⟨_, _, rfl, by decide⟩
  | succ depth => cases opens <;> exact ⟨_, _, rfl, by decide⟩

/-- Without an opening bracket a text is no object, and nests nothing. -/
theorem no_object_of_no_bracket {limits : Limits} (unopened : ∀ c ∈ t, c ≠ '{'.toNat ∧ c ≠ '['.toNat) :
    ¬ IsObject digits t ∧ ¬ TooDeep limits t := by
  refine ⟨?_, fun deep => ?_⟩
  · rintro ⟨depth, gap, inside, gap', rfl, -⟩
    exact (unopened _ (by simp)).1 rfl
  · obtain ⟨c, rest, begins, bracket⟩ := deep.bracket
    have member : c ∈ t := (List.dropWhile_suffix isSpace).subset (show c ∈ skip t by simp [begins])
    rcases bracket with rfl | rfl
    · exact (unopened _ member).1 rfl
    · exact (unopened _ member).2 rfl

/-- Nothing but opening brackets, one more than there is room for. -/
theorem opens_brackets {depth n : Nat} (more : depth < n) : Opens digits depth (List.replicate n '['.toNat) := by
  induction depth generalizing n with
  | zero =>
    obtain ⟨n, rfl⟩ : ∃ fewer, n = fewer + 1 := ⟨n - 1, by omega⟩
    exact .array trivial
  | succ depth ih =>
    obtain ⟨n, rfl⟩ : ∃ fewer, n = fewer + 1 := ⟨n - 1, by omega⟩
    have inner := ih (show depth < n by omega)
    refine .array ?_
    rw [ContainerDeep, ((readsItem_value digits depth).deepSolid inner).skip]
    exact .here inner

/-! ### Bytes -/

/-- The bytes of a JSON object, its integers at most this long (0: however long). -/
def IsJsonObject (digits : Nat) (bytes : List UInt8) : Prop := ∃ t ∈ decodeBytes bytes, IsObject digits t

/-- Reading the bytes comes to an array or an object that the stack does not hold. -/
def NestsTooDeep (limits : Limits) (bytes : List UInt8) : Prop := ∃ t ∈ decodeBytes bytes, TooDeep limits t

theorem IsJsonObject.unbounded {bytes : List UInt8} (isObject : IsJsonObject digits bytes) : IsJsonObject 0 bytes := by
  obtain ⟨t, decoded, isObject⟩ := isObject
  exact ⟨t, decoded, isObject.unbounded⟩

theorem loads_recursion_iff {limits : Limits} {bytes : List UInt8} :
    loads limits bytes = .error .recursion ↔ NestsTooDeep limits bytes := by
  rw [loads, NestsTooDeep]
  cases decodeBytes bytes with
  | none => simp
  | some t => simp [decodeText_recursion_iff]

theorem loads_dict_iff {limits : Limits} {bytes : List UInt8} :
    loads limits bytes = .ok .dict ↔ IsJsonObject limits.digits bytes ∧ ¬ NestsTooDeep limits bytes := by
  rw [loads, IsJsonObject, NestsTooDeep]
  cases decodeBytes bytes with
  | none => simp
  | some t => simp [decodeText_dict_iff]

/-- ASCII without NUL is not taken for another encoding. -/
theorem detectEncoding_ascii {bytes : List UInt8} (ascii : ∀ b ∈ bytes, 0 < b.toNat ∧ b.toNat < 0x80) :
    detectEncoding bytes = .utf8 := by
  have first : ∀ mark : UInt8, (mark = 0 ∨ 0x80 ≤ mark.toNat) → ∀ marks, (mark :: marks).isPrefixOf bytes = false := by
    intro mark foreign' marks
    cases bytes with
    | nil => rfl
    | cons b rest =>
      have ⟨positive, small⟩ := ascii b List.mem_cons_self
      have apart : (mark == b) = false := by
        rw [beq_eq_false_iff_ne]
        rintro rfl
        rcases foreign' with rfl | large
        · exact absurd positive (by decide)
        · omega
      simp [List.isPrefixOf, apart]
  have nonzero : ∀ b ∈ bytes, b ≠ 0 := by
    rintro b member rfl
    exact absurd (ascii 0 member).1 (by decide)
  unfold detectEncoding
  rw [first _ (.inl rfl), first _ (.inr (by decide)), first _ (.inr (by decide)), first _ (.inr (by decide)),
    first _ (.inr (by decide))]
  simp only [Bool.false_eq_true, or_self, if_false]
  split
  · next b₀ b₁ _ _ _ =>
    rw [if_neg (nonzero b₀ (by simp)), if_neg (nonzero b₁ (by simp))]
  · next b₀ b₁ =>
    rw [if_neg (nonzero b₀ (by simp)), if_neg (nonzero b₁ (by simp))]
  · rfl

theorem decodeBytes_ascii {bytes : List UInt8} (ascii : ∀ b ∈ bytes, 0 < b.toNat ∧ b.toNat < 0x80) :
    decodeBytes bytes = some (bytes.map UInt8.toNat) := by
  rw [decodeBytes, detectEncoding_ascii ascii]
  exact Codecs.utf8_ascii fun b member => (ascii b member).2

end JsonReader
