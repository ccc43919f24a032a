import LobstrMcp.Schema.Modes
import LobstrMcp.Schema.Published
import Mathlib.Data.List.Dedup

/-!
The keys of a published schema. Every name and level that `input[]` declares has one key, every name that only
`/params` describes has one, and there are no others.
-/

namespace LobstrMcp

/-- The names and levels that `input[]` declares. -/
def declaredPairs (crawler : Crawler) : List (String × String) :=
  (crawler.input.map fun item => (item.name, item.declaredLevel)).dedup

/-- No name is declared at more than two levels. -/
def TwoLevels (crawler : Crawler) : Prop :=
  ∀ a ∈ crawler.input, ∀ b ∈ crawler.input, ∀ c ∈ crawler.input, a.name = b.name → b.name = c.name →
    a.declaredLevel = b.declaredLevel ∨ a.declaredLevel = c.declaredLevel ∨ b.declaredLevel = c.declaredLevel

/-- The key of a name at a level: the plain name for the entry that keeps it, else the alias. -/
def keyOf (crawler : Crawler) (params : Json) (pair : String × String) : String :=
  if (keptOf (itemsNamed crawler.input pair.1)).map InputItem.declaredLevel = some pair.2 then pair.1 else
  (((aliasesIn crawler params).find? fun a => a.name = pair.1).map Alias.key).getD pair.1

/-- A property made of an entry; only its description may be another. -/
def BuiltFrom (property : Option Fields) (item : InputItem) : Prop :=
  property = some (propertyFromItem item) ∨
    ∃ text, property = some (Dict.set (propertyFromItem item) "description" text)

/-- A published key that is no alias. -/
def Translated.PlainKey (t : Translated) (name : String) : Prop :=
  name ∈ Dict.keys t.properties ∧ name ∉ Dict.keys t.wireNames

/-- Every input is published once, under the keys given. -/
structure PublishedOnce (crawler : Crawler) (params : Json) (t : Translated) (keys : String × String → String)
    (extras : List String) : Prop where
  /-- The search for an alias ends: its candidates are tried up to the first free one. -/
  ends : ∀ level name taken, ∃ n, aliasName level name taken = aliasCandidate s!"{normalizedLevel (some level)}_{name}" n ∧
    aliasName level name taken ∉ taken ∧ ∀ m < n, aliasCandidate s!"{normalizedLevel (some level)}_{name}" m ∈ taken
  distinct : (Dict.keys t.properties).Nodup
  published : (Dict.keys t.properties).Perm ((declaredPairs crawler).map keys ++ extras)
  extras : ∀ name, name ∈ extras ↔ DescribedIn params name ∧ ∀ item ∈ crawler.input, item.name ≠ name
  built : ∀ pair ∈ declaredPairs crawler, ∃ item ∈ crawler.input, item.name = pair.1 ∧ item.declaredLevel = pair.2 ∧
    BuiltFrom (Dict.get? t.properties (keys pair)) item
  levels : ∀ key, key ∈ Dict.keys t.levels ↔ key ∈ Dict.keys t.properties
  wires : ∀ key name, Dict.get? t.wireNames key = some name ↔
    ∃ level, (name, level) ∈ declaredPairs crawler ∧ keys (name, level) = key ∧ key ≠ name
  plain : ∀ key name, Dict.get? t.wireNames key = some name → t.PlainKey name
  required : ∀ name ∈ t.required, t.PlainKey name
  modes : ∀ modes, t.inputModes = some modes →
    (∀ name ∈ modes.always, t.PlainKey name) ∧ ∀ group ∈ modes.either, ∀ name ∈ group, t.PlainKey name
  fills : ∀ name ∈ Dict.keys t.defaultsToFill, t.PlainKey name

section Declared
variable {crawler : Crawler} {params : Json} {name level : String} {kept : InputItem} {a : Alias}

theorem mem_itemsNamed {items : List InputItem} {item : InputItem} : item ∈ itemsNamed items name ↔ item ∈ items ∧ item.name = name := by
  unfold itemsNamed
  rw [List.mem_filter, decide_eq_true_iff]

theorem itemsNamed_eq_nil {items : List InputItem} : itemsNamed items name = [] ↔ ∀ item ∈ items, item.name ≠ name := by
  unfold itemsNamed
  rw [List.filter_eq_nil_iff]
  simp

theorem mem_declaredPairs : (name, level) ∈ declaredPairs crawler ↔
    ∃ item ∈ itemsNamed crawler.input name, item.declaredLevel = level := by
  unfold declaredPairs
  rw [List.mem_dedup, List.mem_map]
  simp only [Prod.mk.injEq, mem_itemsNamed]
  constructor
  · rintro ⟨item, member, named, leveled⟩
    exact ⟨item, ⟨member, named⟩, leveled⟩
  · rintro ⟨item, ⟨member, named⟩, leveled⟩
    exact ⟨item, member, named, leveled⟩

theorem exists_kept {item : InputItem} (member : item ∈ itemsNamed crawler.input name) :
    ∃ kept, keptOf (itemsNamed crawler.input name) = some kept := by
  cases keeps : keptOf (itemsNamed crawler.input name) with
  | none => exact absurd (keptOf_eq_none.mp keeps) (List.ne_nil_of_mem member)
  | some kept => exact ⟨kept, rfl⟩

theorem keyOf_kept (keeps : keptOf (itemsNamed crawler.input name) = some kept) :
    keyOf crawler params (name, kept.declaredLevel) = name := by
  unfold keyOf
  rw [keeps]
  exact if_pos rfl

theorem keyOf_apart (keeps : keptOf (itemsNamed crawler.input a.name) = some kept) (listed : a ∈ aliasesIn crawler params)
    (apart : level ≠ kept.declaredLevel) : keyOf crawler params (a.name, level) = a.key := by
  unfold keyOf
  dsimp only
  rw [keeps, Option.map_some, if_neg fun same => apart (Option.some.inj same).symm]
  have found : (aliasesIn crawler params).find? (fun b => b.name = a.name) = some a := by
    cases found : (aliasesIn crawler params).find? (fun b => b.name = a.name) with
    | none => simpa using List.find?_eq_none.mp found a listed
    | some b =>
      have named : b.name = a.name := by simpa using List.find?_some found
      rw [alias_of_name (List.mem_of_find?_eq_some found) listed named]
  rw [found]
  rfl

theorem kept_pair (keeps : keptOf (itemsNamed crawler.input name) = some kept) :
    (name, kept.declaredLevel) ∈ declaredPairs crawler :=
  mem_declaredPairs.mpr ⟨kept, keptOf_mem keeps, rfl⟩

theorem alias_pair (listed : a ∈ aliasesIn crawler params) : (a.name, a.item.declaredLevel) ∈ declaredPairs crawler ∧
    keyOf crawler params (a.name, a.item.declaredLevel) = a.key := by
  obtain ⟨kept, keeps, twinned, _⟩ := alias_of_mem listed
  exact ⟨mem_declaredPairs.mpr ⟨a.item, twinOf_mem twinned, rfl⟩, keyOf_apart keeps listed (twinOf_apart keeps twinned)⟩

theorem alias_key_ne (listed : a ∈ aliasesIn crawler params) : a.key ≠ a.name := by
  intro same
  obtain ⟨kept, keeps, _⟩ := alias_of_mem listed
  exact List.ne_nil_of_mem (keptOf_mem keeps) (same ▸ (alias_apart listed).1)

/-- A declared pair is that of the kept entry, or that of the entry it shadows. -/
theorem declaredPairs_cases (two : TwoLevels crawler) (params : Json) (pair : (name, level) ∈ declaredPairs crawler) :
    ∃ kept, keptOf (itemsNamed crawler.input name) = some kept ∧
      (level = kept.declaredLevel ∨ ∃ a ∈ aliasesIn crawler params, a.name = name ∧ level = a.item.declaredLevel ∧
        level ≠ kept.declaredLevel) := by
  obtain ⟨item, member, rfl⟩ := mem_declaredPairs.mp pair
  obtain ⟨kept, keeps⟩ := exists_kept member
  refine ⟨kept, keeps, ?_⟩
  by_cases same : item.declaredLevel = kept.declaredLevel
  · exact .inl same
  right
  obtain ⟨twin, twinned⟩ := twinOf_of_apart keeps member same
  obtain ⟨a, listed, named, rfl⟩ := exists_alias params twinned
  obtain ⟨within, item_named⟩ := mem_itemsNamed.mp member
  obtain ⟨within', kept_named⟩ := mem_itemsNamed.mp (keptOf_mem keeps)
  obtain ⟨within'', twin_named⟩ := mem_itemsNamed.mp (twinOf_mem twinned)
  have levels := two item within kept within' a.item within'' (item_named.trans kept_named.symm)
    (kept_named.trans twin_named.symm)
  have twin_apart := twinOf_apart keeps twinned
  exact ⟨a, listed, named, (levels.resolve_left same).resolve_right (Ne.symm twin_apart), same⟩

theorem keyOf_inj (two : TwoLevels crawler) {pair pair' : String × String} (declared : pair ∈ declaredPairs crawler)
    (declared' : pair' ∈ declaredPairs crawler) (same : keyOf crawler params pair = keyOf crawler params pair') :
    pair = pair' := by
  obtain ⟨name, level⟩ := pair
  obtain ⟨name', level'⟩ := pair'
  obtain ⟨kept, keeps, rfl | ⟨a, listed, rfl, leveled, apart⟩⟩ := declaredPairs_cases two params declared
  · obtain ⟨kept', keeps', rfl | ⟨b, listed', rfl, leveled', apart'⟩⟩ := declaredPairs_cases two params declared'
    · rw [keyOf_kept keeps, keyOf_kept keeps'] at same
      subst same
      cases keeps.symm.trans keeps'
      rfl
    · rw [keyOf_kept keeps, keyOf_apart keeps' listed' apart'] at same
      exact absurd (alias_apart listed').1 (same ▸ List.ne_nil_of_mem (keptOf_mem keeps))
  · obtain ⟨kept', keeps', rfl | ⟨b, listed', rfl, leveled', apart'⟩⟩ := declaredPairs_cases two params declared'
    · rw [keyOf_apart keeps listed apart, keyOf_kept keeps'] at same
      exact absurd (alias_apart listed).1 (same ▸ List.ne_nil_of_mem (keptOf_mem keeps'))
    · rw [keyOf_apart keeps listed apart, keyOf_apart keeps' listed' apart'] at same
      have equal := alias_of_key listed listed' same
      subst equal
      rw [leveled, leveled']

/-- A name that `input[]` declares is a plain key. -/
theorem plainKey_declared (declared : itemsNamed crawler.input name ≠ []) :
    (translateInputSchema crawler params).PlainKey name := by
  refine ⟨mem_keys_properties.mpr (.inl declared), fun aliased => ?_⟩
  obtain ⟨wire, wired⟩ := Dict.exists_get?_of_mem_keys aliased
  obtain ⟨a, listed, rfl, _⟩ := wireNames_iff.mp wired
  exact declared (alias_apart listed).1

theorem declared_of_seen {item : InputItem} (seen : item ∈ (declaredIn crawler.input).seen.map Prod.snd) :
    itemsNamed crawler.input item.name ≠ [] := by
  obtain ⟨⟨name, item⟩, listed, rfl⟩ := List.mem_map.mp seen
  have keeps := Dict.mem_get? (sound_declaredIn crawler.input).seen listed
  rw [get?_seen] at keeps
  obtain ⟨_, named⟩ := mem_itemsNamed.mp (keptOf_mem keeps)
  exact List.ne_nil_of_mem (named ▸ keptOf_mem keeps)

end Declared

section Whole
variable (crawler : Crawler) (params : Json)

theorem inputModes_plain {modes : InputModes} (some' : (translateInputSchema crawler params).inputModes = some modes) :
    (∀ name ∈ modes.always, (translateInputSchema crawler params).PlainKey name) ∧
      ∀ group ∈ modes.either, ∀ name ∈ group, (translateInputSchema crawler params).PlainKey name := by
  rw [translateInputSchema_eq] at some'
  constructor
  · intro name member
    rw [(inputModes_some some').2.2] at member
    obtain ⟨item, listed, rfl⟩ := List.mem_map.mp member
    exact plainKey_declared (declared_of_seen (List.mem_of_mem_filter listed))
  · intro names listed name member
    obtain ⟨group, _, holds⟩ := mem_either some' listed
    obtain ⟨item, seen, _, rfl⟩ := (holds name).mp member
    exact plainKey_declared (declared_of_seen seen)

theorem required_plain : ∀ name ∈ (translateInputSchema crawler params).required,
    (translateInputSchema crawler params).PlainKey name := by
  intro name member
  cases modes : (translateInputSchema crawler params).inputModes with
  | some modes' =>
    have always := (inputModes_plain crawler params modes).1 name
    rw [translateInputSchema_eq] at member modes
    dsimp only at member modes
    rw [modes] at member
    exact always member
  | none =>
    rw [translateInputSchema_eq] at member modes
    dsimp only at member modes
    rw [modes] at member
    obtain ⟨entry, listed, rfl⟩ := List.mem_map.mp member
    exact plainKey_declared (mem_keys_seen.mp (List.mem_map_of_mem (List.mem_of_mem_filter listed)))

theorem mem_published (two : TwoLevels crawler) {key : String} :
    key ∈ Dict.keys (translateInputSchema crawler params).properties ↔
      key ∈ (declaredPairs crawler).map (keyOf crawler params) ++ Dict.keys (extraSpecs crawler params) := by
  rw [mem_keys_properties, List.mem_append, mem_keys_extraSpecs, List.mem_map]
  constructor
  · rintro (declared | described | ⟨a, listed, rfl⟩)
    · obtain ⟨item, member⟩ := List.exists_mem_of_ne_nil _ declared
      obtain ⟨kept, keeps⟩ := exists_kept member
      exact .inl ⟨_, kept_pair keeps, keyOf_kept keeps⟩
    · by_cases undeclared : itemsNamed crawler.input key = []
      · exact .inr ⟨described, undeclared⟩
      · obtain ⟨item, member⟩ := List.exists_mem_of_ne_nil _ undeclared
        obtain ⟨kept, keeps⟩ := exists_kept member
        exact .inl ⟨_, kept_pair keeps, keyOf_kept keeps⟩
    · exact .inl ⟨_, alias_pair listed⟩
  · rintro (⟨⟨name, level⟩, declared, rfl⟩ | ⟨described, _⟩)
    · obtain ⟨kept, keeps, rfl | ⟨a, listed, rfl, rfl, apart⟩⟩ := declaredPairs_cases two params declared
      · rw [keyOf_kept keeps]
        exact .inl (List.ne_nil_of_mem (keptOf_mem keeps))
      · exact .inr (.inr ⟨a, listed, (alias_pair listed).2.symm⟩)
    · exact .inr (.inl described)

theorem nodup_published (two : TwoLevels crawler) :
    ((declaredPairs crawler).map (keyOf crawler params) ++ Dict.keys (extraSpecs crawler params)).Nodup := by
  rw [List.nodup_append]
  refine ⟨?_, Dict.nodup_keys_filter (nodup_paramsOnlySpecs params) _, ?_⟩
  · exact List.Nodup.map_on (fun _ declared _ declared' => keyOf_inj two declared declared') (List.nodup_dedup _)
  · rintro key mapped other extra rfl
    obtain ⟨⟨name, level⟩, declared, rfl⟩ := List.mem_map.mp mapped
    obtain ⟨described, undeclared⟩ := mem_keys_extraSpecs.mp extra
    obtain ⟨kept, keeps, rfl | ⟨a, listed, rfl, rfl, apart⟩⟩ := declaredPairs_cases two params declared
    · rw [keyOf_kept keeps] at undeclared
      exact List.ne_nil_of_mem (keptOf_mem keeps) undeclared
    · rw [(alias_pair listed).2] at described
      exact (alias_apart listed).2 described

/-- Every declared input is published exactly once. -/
theorem every_input_is_published_once (two : TwoLevels crawler) : ∃ extras,
    PublishedOnce crawler params (translateInputSchema crawler params) (keyOf crawler params) extras := by
  refine ⟨Dict.keys (extraSpecs crawler params), aliasName_first, nodup_keys_properties, ?_, ?_, ?_, ?_, ?_, ?_,
    required_plain crawler params, fun _ => inputModes_plain crawler params, ?_⟩
  · exact (List.perm_ext_iff_of_nodup nodup_keys_properties (nodup_published crawler params two)).mpr fun _ =>
      mem_published crawler params two
  · intro name
    rw [mem_keys_extraSpecs, mem_keys_paramsOnlySpecs, itemsNamed_eq_nil]
  · rintro ⟨name, level⟩ declared
    obtain ⟨kept, keeps, rfl | ⟨a, listed, rfl, rfl, apart⟩⟩ := declaredPairs_cases two params declared
    · obtain ⟨member, named⟩ := mem_itemsNamed.mp (keptOf_mem keeps)
      refine ⟨kept, member, named, rfl, .inl ?_⟩
      rw [keyOf_kept keeps, properties_kept keeps]
    · obtain ⟨_, _, twinned, _⟩ := alias_of_mem listed
      obtain ⟨member, named⟩ := mem_itemsNamed.mp (twinOf_mem twinned)
      refine ⟨a.item, member, named, rfl, .inr ?_⟩
      rw [keyOf_apart keeps listed apart]
      exact properties_alias listed
  · intro key
    rw [keys_levels]
  · intro key name
    rw [wireNames_iff]
    constructor
    · rintro ⟨a, listed, rfl, rfl⟩
      obtain ⟨declared, keyed⟩ := alias_pair listed
      exact ⟨_, declared, keyed, alias_key_ne listed⟩
    · rintro ⟨level, declared, rfl, aliased⟩
      obtain ⟨kept, keeps, rfl | ⟨a, listed, rfl, rfl, apart⟩⟩ := declaredPairs_cases two params declared
      · exact absurd (keyOf_kept keeps) aliased
      · exact ⟨a, listed, (alias_pair listed).2.symm, rfl⟩
  · intro key name wired
    obtain ⟨a, listed, rfl, rfl⟩ := wireNames_iff.mp wired
    obtain ⟨kept, keeps, _⟩ := alias_of_mem listed
    exact plainKey_declared (List.ne_nil_of_mem (keptOf_mem keeps))
  · intro name filled
    obtain ⟨d, read⟩ := Dict.exists_get?_of_mem_keys filled
    rw [get?_defaultsToFill] at read
    obtain ⟨kept, keeps, _⟩ := Option.bind_eq_some_iff.mp read
    exact plainKey_declared (List.ne_nil_of_mem (keptOf_mem keeps))

end Whole

theorem both_countries_are_published : (∃ extras, PublishedOnce countryTwice .null (translateInputSchema countryTwice .null)
      (keyOf countryTwice .null) extras) ∧
    Dict.keys (translateInputSchema countryTwice .null).properties = ["country", "squid_country"] := by
  refine ⟨every_input_is_published_once countryTwice .null fun a first b second c third _ _ => ?_, by decide +kernel⟩
  have levels : ∀ item ∈ countryTwice.input, item.declaredLevel = "task" ∨ item.declaredLevel = "squid" := by decide +kernel
  rcases levels a first with left | left <;> rcases levels b second with right | right <;>
    rcases levels c third with last | last <;> simp [left, right, last]

end LobstrMcp
