import LobstrMcp.Data.DictKeys
import LobstrMcp.Model.SchemaTranslator
import Mathlib.Data.List.TakeWhile

/-!
What the loop over `input[]` leaves behind. It treats each name by itself: of the entries of one
name the first required one keeps it, else the first; and of the others the last one set aside at
another level is the one it shadows.
-/

namespace LobstrMcp

/-- The level an entry is declared at. -/
def InputItem.declaredLevel (item : InputItem) : String := normalizedLevel item.levelOrNone

/-- The entries of one name, in order. -/
def itemsNamed (items : List InputItem) (name : String) : List InputItem := items.filter (·.name = name)

/-- Of the entries of one name, the one that keeps it: the first required one, else the first. -/
def keptOf (entries : List InputItem) : Option InputItem :=
  (entries.find? (·.required.truthy)).or entries.head?

/-- The others, in the order they are set aside. The first entry is, once a required one comes. -/
def setAside (entries : List InputItem) : List InputItem :=
  let before := entries.takeWhile (!·.required.truthy)
  match entries.dropWhile (!·.required.truthy) with
  | [] => before.tail
  | _ :: after => before.tail ++ (before.take 1 ++ after)

/-- The last of those at other levels than the one kept. -/
def lastApart (kept : InputItem) (others : List InputItem) : Option InputItem :=
  (others.filter (·.declaredLevel ≠ kept.declaredLevel)).getLast?

/-- The entry that the kept one shadows. -/
def twinOf (entries : List InputItem) : Option InputItem :=
  (keptOf entries).bind fun kept => lastApart kept (setAside entries)

/-! ### One name -/

/-- The entry that holds a name, and the one it shadows. -/
structure Twins where
  kept : InputItem
  shadowed : Option InputItem

def Twins.meet (twins : Twins) (item : InputItem) : Twins :=
  let (kept, dropped) := if outranks item twins.kept then (item, twins.kept) else (twins.kept, item)
  { kept, shadowed := if dropped.declaredLevel ≠ kept.declaredLevel then some dropped else twins.shadowed }

/-- What a name is after one more entry of it. -/
def meetNext (twins : Option Twins) (item : InputItem) : Option Twins :=
  some (twins.elim ⟨item, none⟩ (·.meet item))

theorem outranks_required {new old : InputItem} (required : old.required.truthy = true) : outranks new old = false := by
  unfold outranks
  rw [required]
  cases new.required.truthy <;> rfl

theorem outranks_optional {new old : InputItem} (optional : new.required.truthy = false) : outranks new old = false := by
  unfold outranks
  rw [optional]
  cases old.required.truthy <;> rfl

theorem outranks_first_required {new old : InputItem} (required : new.required.truthy = true)
    (optional : old.required.truthy = false) : outranks new old = true := by
  unfold outranks
  rw [required, optional]
  rfl

theorem lastApart_append (kept : InputItem) (first others : List InputItem) :
    lastApart kept (first ++ others) = (lastApart kept others).or (lastApart kept first) := by
  unfold lastApart
  rw [List.filter_append, List.getLast?_append]

theorem lastApart_cons (kept item : InputItem) (others : List InputItem) :
    lastApart kept (item :: others) =
      (lastApart kept others).or (if item.declaredLevel ≠ kept.declaredLevel then some item else none) := by
  rw [← List.singleton_append, lastApart_append]
  by_cases apart : item.declaredLevel ≠ kept.declaredLevel <;> simp [lastApart, apart]

theorem lastApart_alike {kept kept' : InputItem} (same : kept.declaredLevel = kept'.declaredLevel)
    (others : List InputItem) : lastApart kept others = lastApart kept' others := by
  unfold lastApart
  rw [same]

/-- Entries that outrank nothing are set aside one after another. -/
theorem foldl_meet {kept : InputItem} {others : List InputItem} (lower : ∀ item ∈ others, outranks item kept = false)
    (shadowed : Option InputItem) :
    others.foldl Twins.meet ⟨kept, shadowed⟩ = ⟨kept, (lastApart kept others).or shadowed⟩ := by
  induction others generalizing shadowed with
  | nil => rfl
  | cons item rest ih =>
    have met : Twins.meet ⟨kept, shadowed⟩ item =
        ⟨kept, if item.declaredLevel ≠ kept.declaredLevel then some item else shadowed⟩ := by
      unfold Twins.meet
      rw [lower item List.mem_cons_self]
      rfl
    rw [List.foldl_cons, met, ih fun other member => lower other (List.mem_cons_of_mem _ member), lastApart_cons]
    by_cases apart : item.declaredLevel ≠ kept.declaredLevel <;> simp [apart]

theorem foldl_meetNext (entries : List InputItem) (twins : Twins) :
    entries.foldl meetNext (some twins) = some (entries.foldl Twins.meet twins) := by
  induction entries generalizing twins with
  | nil => rfl
  | cons item rest ih => exact ih _

/-- Entries of one name have a first required one, or none. -/
theorem required_cases (entries : List InputItem) :
    (∀ item ∈ entries, item.required.truthy = false) ∨
    ∃ before first after, entries = before ++ first :: after ∧ first.required.truthy = true ∧
      ∀ item ∈ before, item.required.truthy = false := by
  induction entries with
  | nil => exact .inl fun _ absurd => by cases absurd
  | cons item rest ih =>
    cases required : item.required.truthy with
    | true => exact .inr ⟨[], item, rest, rfl, required, fun _ absurd => by cases absurd⟩
    | false =>
      rcases ih with optional | ⟨before, first, after, rfl, first_required, optional⟩
      · left
        intro other member
        rcases List.mem_cons.mp member with rfl | later
        · exact required
        · exact optional other later
      · right
        refine ⟨item :: before, first, after, rfl, first_required, ?_⟩
        intro other member
        rcases List.mem_cons.mp member with rfl | later
        · exact required
        · exact optional other later

section Required
variable {before after entries : List InputItem} {first : InputItem}

theorem keptOf_optional (optional : ∀ item ∈ entries, item.required.truthy = false) :
    keptOf entries = entries.head? := by
  unfold keptOf
  rw [List.find?_eq_none.mpr fun item member => by simp [optional item member]]
  rfl

theorem setAside_optional (optional : ∀ item ∈ entries, item.required.truthy = false) :
    setAside entries = entries.tail := by
  unfold setAside
  have all : entries.dropWhile (!·.required.truthy) = [] :=
    List.dropWhile_eq_nil_iff.mpr fun item member => by simp [optional item member]
  have whole : entries.takeWhile (!·.required.truthy) = entries :=
    List.takeWhile_eq_self_iff.mpr fun item member => by simp [optional item member]
  rw [all, whole]

theorem keptOf_required (required : first.required.truthy = true)
    (optional : ∀ item ∈ before, item.required.truthy = false) : keptOf (before ++ first :: after) = some first := by
  unfold keptOf
  rw [List.find?_append, List.find?_eq_none.mpr fun item member => by simp [optional item member]]
  simp [required]

theorem setAside_required (required : first.required.truthy = true)
    (optional : ∀ item ∈ before, item.required.truthy = false) :
    setAside (before ++ first :: after) = before.tail ++ (before.take 1 ++ after) := by
  have passed : ∀ item ∈ before, (!item.required.truthy) = true := fun item member => by simp [optional item member]
  unfold setAside
  rw [List.takeWhile_append_of_pos passed, List.dropWhile_append_of_pos passed]
  simp [required]

end Required

/-- What the loop makes of the entries of one name. -/
theorem twins_of_entries (entries : List InputItem) :
    entries.foldl meetNext none = (keptOf entries).map fun kept => ⟨kept, twinOf entries⟩ := by
  rcases required_cases entries with optional | ⟨before, first, after, rfl, required, optional⟩
  · unfold twinOf
    rw [keptOf_optional optional, setAside_optional optional]
    cases entries with
    | nil => rfl
    | cons item rest =>
      show rest.foldl meetNext (some ⟨item, none⟩) = _
      rw [foldl_meetNext, foldl_meet fun other member => outranks_optional (optional other (List.mem_cons_of_mem _ member)),
        Option.or_none]
      rfl
  · unfold twinOf
    rw [keptOf_required required optional, setAside_required required optional]
    have lower : ∀ item ∈ after, outranks item first = false := fun _ _ => outranks_required required
    cases before with
    | nil =>
      show after.foldl meetNext (some ⟨first, none⟩) = _
      rw [foldl_meetNext, foldl_meet lower, Option.or_none]
      rfl
    | cons item rest =>
      have optional' : item.required.truthy = false := optional item List.mem_cons_self
      -- the entries before the first required one are set aside for `item`, which then is for `first`
      have met : Twins.meet ⟨item, lastApart item rest⟩ first =
          ⟨first, if item.declaredLevel ≠ first.declaredLevel then some item else lastApart item rest⟩ := by
        unfold Twins.meet
        rw [outranks_first_required required optional']
        rfl
      show (rest ++ first :: after).foldl meetNext (some ⟨item, none⟩) = _
      rw [foldl_meetNext, List.foldl_append, List.foldl_cons,
        foldl_meet fun other member => outranks_optional (optional other (List.mem_cons_of_mem _ member)),
        Option.or_none, met, foldl_meet lower]
      show some (Twins.mk first _) = some (Twins.mk first (lastApart first (rest ++ item :: after)))
      rw [lastApart_append, lastApart_cons, Option.or_assoc]
      by_cases apart : item.declaredLevel ≠ first.declaredLevel
      · simp [apart]
      · rw [lastApart_alike (not_not.mp apart)]
        simp [apart]

/-! ### What is known of the two -/

theorem keptOf_eq_none {entries : List InputItem} : keptOf entries = none ↔ entries = [] := by
  unfold keptOf
  rw [Option.or_eq_none_iff, List.head?_eq_none_iff]
  exact ⟨And.right, fun none => ⟨by rw [none]; rfl, none⟩⟩

section Entries
variable {entries : List InputItem} {kept twin item : InputItem}

theorem keptOf_mem (keeps : keptOf entries = some kept) : kept ∈ entries := by
  unfold keptOf at keeps
  rcases Option.or_eq_some_iff.mp keeps with found | ⟨_, first⟩
  · exact List.mem_of_find?_eq_some found
  · exact List.mem_of_mem_head? first

theorem mem_setAside (member : item ∈ setAside entries) : item ∈ entries := by
  rcases required_cases entries with optional | ⟨before, first, after, rfl, required, optional⟩
  · rw [setAside_optional optional] at member
    exact List.mem_of_mem_tail member
  · rw [setAside_required required optional] at member
    rcases List.mem_append.mp member with later | member
    · exact List.mem_append_left _ (List.mem_of_mem_tail later)
    rcases List.mem_append.mp member with head | member
    · exact List.mem_append_left _ (List.mem_of_mem_take head)
    · exact List.mem_append_right _ (List.mem_cons_of_mem _ member)

/-- Every entry is kept or set aside. -/
theorem kept_or_setAside (keeps : keptOf entries = some kept) (member : item ∈ entries) :
    item = kept ∨ item ∈ setAside entries := by
  rcases required_cases entries with optional | ⟨before, first, after, rfl, required, optional⟩
  · rw [keptOf_optional optional] at keeps
    rw [setAside_optional optional]
    cases entries with
    | nil => cases member
    | cons other rest =>
      cases keeps
      exact List.mem_cons.mp member
  · rw [keptOf_required required optional] at keeps
    cases keeps
    rw [setAside_required required optional]
    have parts : ∀ {other}, other ∈ before → other ∈ before.tail ∨ other ∈ before.take 1 := by
      intro other within
      cases before with
      | nil => cases within
      | cons head rest => exact (List.mem_cons.mp within).symm.imp id fun same => by simp [same]
    simp only [List.mem_append, List.mem_cons] at member ⊢
    rcases member with within | rfl | later
    · exact .inr ((parts within).imp id .inl)
    · exact .inl rfl
    · exact .inr (.inr (.inr later))

theorem twinOf_eq (keeps : keptOf entries = some kept) : twinOf entries = lastApart kept (setAside entries) := by
  unfold twinOf
  rw [keeps]
  rfl

theorem twinOf_mem (twinned : twinOf entries = some twin) : twin ∈ entries := by
  unfold twinOf at twinned
  obtain ⟨kept, _, last⟩ := Option.bind_eq_some_iff.mp twinned
  exact mem_setAside (List.mem_of_mem_filter (List.mem_of_getLast? last))

/-- The two are at different levels. -/
theorem twinOf_apart (keeps : keptOf entries = some kept) (twinned : twinOf entries = some twin) :
    twin.declaredLevel ≠ kept.declaredLevel := by
  rw [twinOf_eq keeps] at twinned
  simpa using List.of_mem_filter (List.mem_of_getLast? twinned)

/-- A name declared at another level than the one kept has a twin. -/
theorem twinOf_of_apart (keeps : keptOf entries = some kept) (member : item ∈ entries)
    (apart : item.declaredLevel ≠ kept.declaredLevel) : ∃ twin, twinOf entries = some twin := by
  rw [twinOf_eq keeps]
  unfold lastApart
  have listed : item ∈ setAside entries :=
    (kept_or_setAside keeps member).resolve_left fun same => apart (same ▸ rfl)
  have held : item ∈ (setAside entries).filter (·.declaredLevel ≠ kept.declaredLevel) :=
    List.mem_filter.mpr ⟨listed, by simpa using apart⟩
  exact ⟨_, List.getLast?_eq_some_getLast (List.ne_nil_of_mem held)⟩

end Entries

/-! ### The loop -/

/-- What the two tables say of a name. -/
def Declared.twins (d : Declared) (name : String) : Option Twins :=
  (Dict.get? d.seen name).map fun kept => ⟨kept, Dict.get? d.shadowed name⟩

/-- The tables of the loop: one entry a name, under its own name, and no shadowed one without a kept one. -/
structure Declared.Sound (d : Declared) : Prop where
  seen : (Dict.keys d.seen).Nodup
  shadowed : (Dict.keys d.shadowed).Nodup
  within : ∀ name, Dict.get? d.seen name = none → Dict.get? d.shadowed name = none

theorem Declared.sound_start : Declared.Sound {} := ⟨List.nodup_nil, List.nodup_nil, fun _ _ => rfl⟩

theorem declare_unseen {d : Declared} {item : InputItem} (unseen : Dict.get? d.seen item.name = none) :
    declare d item = { d with seen := Dict.set d.seen item.name item } := by
  unfold declare
  rw [unseen]

theorem declare_seen {d : Declared} {item previous : InputItem} (held : Dict.get? d.seen item.name = some previous) :
    ∃ kept dropped,
      (∀ shadowed, Twins.meet ⟨previous, shadowed⟩ item =
        ⟨kept, if dropped.declaredLevel ≠ kept.declaredLevel then some dropped else shadowed⟩) ∧
      declare d item = ⟨Dict.set d.seen item.name kept,
        if dropped.declaredLevel ≠ kept.declaredLevel then Dict.set d.shadowed item.name dropped else d.shadowed⟩ := by
  refine ⟨(if outranks item previous then (item, previous) else (previous, item)).1,
    (if outranks item previous then (item, previous) else (previous, item)).2, fun _ => rfl, ?_⟩
  unfold declare
  rw [held]
  rfl

section Step
variable {d : Declared} (sound : d.Sound) (item : InputItem)
include sound

theorem declare_sound : (declare d item).Sound := by
  cases held : Dict.get? d.seen item.name with
  | none =>
    rw [declare_unseen held]
    refine ⟨Dict.nodup_keys_set sound.seen _ _, sound.shadowed, fun name unseen => sound.within name ?_⟩
    rw [Dict.get?_set] at unseen
    split at unseen
    · cases unseen
    · exact unseen
  | some previous =>
    obtain ⟨kept, dropped, -, declared⟩ := declare_seen held
    rw [declared]
    refine ⟨Dict.nodup_keys_set sound.seen _ _, ?_, fun name unseen => ?_⟩
    · dsimp only
      split
      · exact Dict.nodup_keys_set sound.shadowed _ _
      · exact sound.shadowed
    · rw [Dict.get?_set] at unseen
      split at unseen
      · cases unseen
      · rename_i other
        dsimp only
        split
        · rw [Dict.get?_set_other _ _ other]
          exact sound.within name unseen
        · exact sound.within name unseen

/-- An entry changes what is known of its own name, and of no other. -/
theorem declare_twins (name : String) :
    (declare d item).twins name = if item.name = name then meetNext (d.twins name) item else d.twins name := by
  unfold Declared.twins meetNext
  by_cases own : item.name = name
  · subst own
    rw [if_pos rfl]
    cases held : Dict.get? d.seen item.name with
    | none => simp [declare_unseen held, sound.within _ held]
    | some previous =>
      obtain ⟨kept, dropped, meets, declared⟩ := declare_seen held
      simp only [declared, Dict.get?_set_self, Option.map_some, Option.elim_some, meets]
      split <;> simp
  · rw [if_neg own]
    cases held : Dict.get? d.seen item.name with
    | none => simp [declare_unseen held, own]
    | some previous =>
      obtain ⟨kept, dropped, -, declared⟩ := declare_seen held
      simp only [declared, Dict.get?_set_other _ _ own]
      split <;> simp [own]

end Step

theorem foldl_declare (items : List InputItem) {d : Declared} (sound : d.Sound) :
    (items.foldl declare d).Sound ∧ ∀ name,
      (items.foldl declare d).twins name = (itemsNamed items name).foldl meetNext (d.twins name) := by
  induction items generalizing d with
  | nil => exact ⟨sound, fun _ => rfl⟩
  | cons item rest ih =>
    obtain ⟨kept, twins⟩ := ih (declare_sound sound item)
    refine ⟨kept, fun name => ?_⟩
    rw [List.foldl_cons, twins name, declare_twins sound]
    unfold itemsNamed
    by_cases own : item.name = name <;> simp [own]

/-- The tables of a whole `input[]`. -/
def declaredIn (items : List InputItem) : Declared := items.foldl declare {}

section Whole
variable (items : List InputItem) (name : String)

theorem sound_declaredIn : (declaredIn items).Sound := (foldl_declare items Declared.sound_start).1

theorem twins_declaredIn : (declaredIn items).twins name =
    (keptOf (itemsNamed items name)).map fun kept => ⟨kept, twinOf (itemsNamed items name)⟩ := by
  rw [← twins_of_entries]
  exact (foldl_declare items Declared.sound_start).2 name

theorem get?_seen : Dict.get? (declaredIn items).seen name = keptOf (itemsNamed items name) := by
  have twins := congrArg (Option.map Twins.kept) (twins_declaredIn items name)
  simpa [Declared.twins, Function.comp_def] using twins

theorem get?_shadowed : Dict.get? (declaredIn items).shadowed name = twinOf (itemsNamed items name) := by
  have twins := congrArg (fun twins => twins.bind Twins.shadowed) (twins_declaredIn items name)
  cases keeps : keptOf (itemsNamed items name) with
  | none =>
    rw [(sound_declaredIn items).within name (by rw [get?_seen, keeps]), twinOf, keeps]
    rfl
  | some kept => simpa [Declared.twins, get?_seen, keeps] using twins

end Whole

/-- A crawler that declares `country` for the row and for the squid. -/
def countryTwice : Crawler where
  input := [{ name := "country", level := some (some "task"), required := .bool true },
    { name := "country", level := some (some "squid") }]

end LobstrMcp
