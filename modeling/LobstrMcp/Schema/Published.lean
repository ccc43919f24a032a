import LobstrMcp.Data.JsonText
import LobstrMcp.Schema.Declared
import LobstrMcp.Schema.Sections

/-!
What `translate_input_schema` publishes, table by table: the entries that keep their names, then
the inputs only `/params` knows, then each shadowed entry under an alias that no key has.
-/

namespace LobstrMcp

/-! ### Aliases -/

/-- The candidates of `_alias_name`, in the order they are tried. -/
def aliasCandidate (base : String) : Nat → String
  | 0 => base
  | n + 1 => s!"{base}_{n + 2}"

theorem aliasCandidate_inj {base : String} {m n : Nat} (same : aliasCandidate base m = aliasCandidate base n) :
    m = n := by
  have longer : ∀ k, aliasCandidate base (k + 1) ≠ base := by
    intro k same
    have lengths : base.length + "_".length + (k + 2).repr.length = base.length := by
      simpa [aliasCandidate, toString] using congrArg String.length same
    have underscore : "_".length = 1 := rfl
    omega
  cases m with
  | zero =>
    cases n with
    | zero => rfl
    | succ n => exact absurd same.symm (longer n)
  | succ m =>
    cases n with
    | zero => exact absurd same (longer m)
    | succ n =>
      have digits : Nat.toDigits 10 (m + 2) = Nat.toDigits 10 (n + 2) := by
        have texts := congrArg String.toList same
        simpa [aliasCandidate, toString, Nat.repr] using texts
      have equal := Json.toDigits_inj digits
      omega

/-- The loop stops at the first free candidate, or has found as many taken ones as it had rounds. -/
theorem aliasLoop_cases (base : String) (taken : List String) (fuel n : Nat) :
    (∃ k, aliasLoop base taken fuel (n + 1) (aliasCandidate base n) = aliasCandidate base (n + k) ∧
      aliasCandidate base (n + k) ∉ taken ∧ ∀ j < k, aliasCandidate base (n + j) ∈ taken) ∨
      ∀ k < fuel, aliasCandidate base (n + k) ∈ taken := by
  induction fuel generalizing n with
  | zero => exact .inr fun k absurd => by omega
  | succ fuel ih =>
    have shift : ∀ k, n + (k + 1) = n + 1 + k := fun k => by omega
    unfold aliasLoop
    split
    · rename_i held
      rcases ih (n + 1) with ⟨k, stops, free, before⟩ | all
      · left
        refine ⟨k + 1, shift k ▸ stops, shift k ▸ free, fun j within => ?_⟩
        cases j with
        | zero => exact held
        | succ j => exact shift j ▸ before j (by omega)
      · right
        intro k within
        cases k with
        | zero => exact held
        | succ k => exact shift k ▸ all k (by omega)
    · rename_i free
      exact .inl ⟨0, rfl, free, fun j absurd => by omega⟩

/-- The search ends, at the first candidate that is no key: more are tried than there are keys. -/
theorem aliasName_first (level name : String) (taken : List String) :
    ∃ n, aliasName level name taken = aliasCandidate s!"{normalizedLevel (some level)}_{name}" n ∧
      aliasName level name taken ∉ taken ∧
      ∀ m < n, aliasCandidate s!"{normalizedLevel (some level)}_{name}" m ∈ taken := by
  rcases aliasLoop_cases s!"{normalizedLevel (some level)}_{name}" taken (taken.length + 1) 0 with
    ⟨n, stops, free, before⟩ | all
  · simp only [Nat.zero_add] at stops free
    have named : aliasName level name taken = aliasCandidate s!"{normalizedLevel (some level)}_{name}" n := stops
    exact ⟨n, named, named ▸ free, fun m within => by simpa using before m within⟩
  · exfalso
    have distinct : ((List.range (taken.length + 1)).map
        (aliasCandidate s!"{normalizedLevel (some level)}_{name}")).Nodup :=
      List.nodup_range.map fun _ _ same => aliasCandidate_inj same
    have within : ∀ candidate ∈ (List.range (taken.length + 1)).map
        (aliasCandidate s!"{normalizedLevel (some level)}_{name}"), candidate ∈ taken := by
      intro candidate listed
      obtain ⟨k, tried, rfl⟩ := List.mem_map.mp listed
      simpa using all k (List.mem_range.mp tried)
    simpa using List.Nodup.length_le_of_subset distinct within

theorem aliasName_fresh (level name : String) (taken : List String) : aliasName level name taken ∉ taken := by
  obtain ⟨_, _, free, _⟩ := aliasName_first level name taken
  exact free

/-! ### The entries that keep their names -/

/-- The default to send when a required entry is left out. -/
def fillable (item : InputItem) : Option Json :=
  if item.required.truthy && item.groupName.isNone then item.default else none

/-- A required entry with no default to fill it. -/
def askedFor (item : InputItem) : Bool := item.required.truthy && (fillable item).isNone

/-- The level of an entry that keeps its name: its own where it has a twin, else that of `/params`. -/
def keptLevel (placement : Dict String String) (twinned : Bool) (name : String) (kept : InputItem) : Option String :=
  if twinned then kept.levelOrTask else
  match Dict.get? placement name with
  | some level => some level
  | none => kept.levelOrTask

theorem publishKept_eq (placement : Dict String String) (shadowed : Dict String InputItem) (t : Translated)
    (entry : String × InputItem) : publishKept placement shadowed t entry = { t with
      properties := Dict.set t.properties entry.1 (propertyFromItem entry.2)
      required := t.required ++ (if askedFor entry.2 then [entry.1] else [])
      levels := Dict.set t.levels entry.1 (keptLevel placement (Dict.contains shadowed entry.1) entry.1 entry.2)
      defaultsToFill := match fillable entry.2 with
        | some d => Dict.set t.defaultsToFill entry.1 d
        | none => t.defaultsToFill } := by
  obtain ⟨name, item⟩ := entry
  unfold publishKept askedFor fillable
  cases required : item.required.truthy with
  | false =>
    simp only [required, Bool.not_false, if_true, Bool.false_and, if_false, Bool.false_eq_true, List.append_nil]
    rfl
  | true =>
    cases default : item.default with
    | none =>
      simp only [required, default, Bool.not_true, if_false, Bool.false_eq_true, Bool.true_and, ite_self,
        Option.isNone_none, if_true]
      rfl
    | some d =>
      cases group : item.groupName with
      | none =>
        simp only [required, default, group, Bool.not_true, if_false, Bool.false_eq_true, Bool.true_and,
          Option.isNone_none, Option.isNone_some, if_true, List.append_nil]
        rfl
      | some g =>
        simp only [required, default, group, Bool.not_true, if_false, Bool.false_eq_true, Bool.true_and,
          Option.isNone_none, Option.isNone_some, if_true]
        rfl

/-- The keys of the levels are those of the properties, and so are the names whose defaults are filled. -/
structure Translated.Aligned (t : Translated) : Prop where
  levels : Dict.keys t.levels = Dict.keys t.properties
  fills : ∀ name ∈ Dict.keys t.defaultsToFill, name ∈ Dict.keys t.properties

theorem foldl_publishKept (placement : Dict String String) (shadowed entries : Dict String InputItem) {t : Translated}
    (aligned : t.Aligned) (distinct : (Dict.keys t.properties ++ Dict.keys entries).Nodup) :
    entries.foldl (publishKept placement shadowed) t = { t with
      properties := t.properties ++ entries.map fun e => (e.1, propertyFromItem e.2)
      required := t.required ++ (entries.filter fun e => askedFor e.2).map Prod.fst
      levels := t.levels ++ entries.map fun e =>
        (e.1, keptLevel placement (Dict.contains shadowed e.1) e.1 e.2)
      defaultsToFill := t.defaultsToFill ++ entries.filterMap fun e => (fillable e.2).map (e.1, ·) } := by
  induction entries generalizing t with
  | nil => simp
  | cons entry rest ih =>
    obtain ⟨name, item⟩ := entry
    have fresh : name ∉ Dict.keys t.properties := by
      intro held
      exact (List.nodup_append.mp distinct).2.2 name held name (List.mem_cons_self) rfl
    have unleveled : name ∉ Dict.keys t.levels := aligned.levels ▸ fresh
    have unfilled : name ∉ Dict.keys t.defaultsToFill := fun held => fresh (aligned.fills name held)
    rw [List.foldl_cons, publishKept_eq, Dict.set_absent fresh, Dict.set_absent unleveled]
    rw [ih]
    · cases fill : fillable item with
      | none => cases asked : askedFor item <;> simp [fill, asked]
      | some d => cases asked : askedFor item <;> simp [fill, asked, Dict.set_absent unfilled]
    · constructor
      · rw [Dict.keys_append, Dict.keys_append, aligned.levels]
        rfl
      · intro other held
        rw [Dict.keys_append]
        cases fill : fillable item with
        | none =>
          simp only [fill] at held
          exact List.mem_append_left _ (aligned.fills other held)
        | some d =>
          simp only [fill] at held
          rcases Dict.mem_keys_set.mp held with rfl | held
          · exact List.mem_append_right _ (List.mem_singleton_self _)
          · exact List.mem_append_left _ (aligned.fills other held)
    · simpa [Dict.keys_append, Dict.keys] using distinct

/-! ### The inputs only `/params` knows -/

/-- The property of an input that only `/params` describes. -/
def paramsProperty (spec : Fields) : Fields :=
  let prop : Fields := match paramsType spec with
    | some type => [("type", .str type)]
    | none => []
  let prop := match Fields.get spec "description" with
    | .str d => if d = "" then prop else Dict.set prop "description" (.str d)
    | _ => prop
  match Dict.get? spec "default" with
  | some d => Dict.set prop "default" d
  | none => prop

theorem publishParamsOnly_eq (placement : Dict String String) (t : Translated) (entry : String × Fields) :
    publishParamsOnly placement t entry = if entry.1 ∈ Dict.keys t.properties then t else { t with
      properties := Dict.set t.properties entry.1 (paramsProperty entry.2)
      levels := Dict.set t.levels entry.1 (some ((Dict.get? placement entry.1).getD "squid")) } := by
  obtain ⟨name, spec⟩ := entry
  unfold publishParamsOnly
  dsimp only
  by_cases known : name ∈ Dict.keys t.properties
  · rw [if_pos known, if_pos ((Dict.mem_keys_iff _ _).mp known)]
  · rw [if_neg known, if_neg fun held => known ((Dict.mem_keys_iff _ _).mpr held)]
    rfl

theorem foldl_publishParamsOnly (placement : Dict String String) (specs : Dict String Fields) {t : Translated}
    (aligned : t.Aligned) (distinct : (Dict.keys specs).Nodup) :
    specs.foldl (publishParamsOnly placement) t = { t with
      properties := t.properties ++
        (specs.filter fun e => e.1 ∉ Dict.keys t.properties).map fun e => (e.1, paramsProperty e.2)
      levels := t.levels ++ (specs.filter fun e => e.1 ∉ Dict.keys t.properties).map fun e =>
        (e.1, some ((Dict.get? placement e.1).getD "squid")) } := by
  induction specs generalizing t with
  | nil => simp
  | cons entry rest ih =>
    obtain ⟨name, spec⟩ := entry
    rw [Dict.keys_cons, List.nodup_cons] at distinct
    rw [List.foldl_cons, publishParamsOnly_eq]
    by_cases known : name ∈ Dict.keys t.properties
    · rw [if_pos known, ih aligned distinct.2]
      simp [known]
    · have unleveled : name ∉ Dict.keys t.levels := aligned.levels ▸ known
      -- the rest does not hold `name`, so what it finds known is what was known before
      have same : (rest.filter fun e => e.1 ∉ Dict.keys (t.properties ++ [(name, paramsProperty spec)])) =
          rest.filter fun e => e.1 ∉ Dict.keys t.properties := by
        apply List.filter_congr
        intro e listed
        have other : e.1 ≠ name := fun same => distinct.1 (same ▸ Dict.mem_keys_of_mem listed)
        rw [Dict.keys_append, Dict.keys_singleton]
        simp [other]
      rw [if_neg known, Dict.set_absent known, Dict.set_absent unleveled, ih _ distinct.2]
      · simp only [same]
        simp [known]
      · constructor
        · rw [Dict.keys_append, Dict.keys_append, aligned.levels]
          rfl
        · intro other held
          rw [Dict.keys_append]
          exact List.mem_append_left _ (aligned.fills other held)

/-! ### The shadowed entries -/

/-- A shadowed entry as it is published: its key, its plain name, where it goes, and its property. -/
structure Alias where
  key : String
  name : String
  item : InputItem
  level : String
  property : Fields

section Aliases
variable (paramsLevels : Dict String (List String)) (seen : Dict String InputItem)

def aliasOf (t : Translated) (entry : String × InputItem) : Alias :=
  let kept := (Dict.get? seen entry.1).getD entry.2
  let level := shadowedLevel entry.1 entry.2 kept paramsLevels
  let key := aliasName level entry.1 (Dict.keys t.properties)
  { key, name := entry.1, item := entry.2, level
    property := Dict.set (propertyFromItem entry.2) "description"
      (.str (aliasDescription key entry.1 level entry.2 ((Dict.get? t.levels entry.1).join) kept)) }

/-- The aliases of the shadowed entries, each chosen among the keys there are by then. -/
def aliasesFrom (t : Translated) : Dict String InputItem → List Alias
  | [] => []
  | entry :: rest => aliasOf paramsLevels seen t entry :: aliasesFrom (publishShadowed paramsLevels seen t entry) rest

theorem publishShadowed_eq (t : Translated) (entry : String × InputItem) :
    publishShadowed paramsLevels seen t entry = { t with
      properties := Dict.set t.properties (aliasOf paramsLevels seen t entry).key (aliasOf paramsLevels seen t entry).property
      levels := Dict.set t.levels (aliasOf paramsLevels seen t entry).key (some (aliasOf paramsLevels seen t entry).level)
      wireNames := Dict.set t.wireNames (aliasOf paramsLevels seen t entry).key (aliasOf paramsLevels seen t entry).name } := rfl

theorem aliasOf_fresh (t : Translated) (entry : String × InputItem) :
    (aliasOf paramsLevels seen t entry).key ∉ Dict.keys t.properties := aliasName_fresh _ _ _

/-- The keys of the levels are those of the properties, and every wire name is of one of them. -/
structure Translated.Named (t : Translated) : Prop where
  levels : Dict.keys t.levels = Dict.keys t.properties
  wires : ∀ key ∈ Dict.keys t.wireNames, key ∈ Dict.keys t.properties

variable {paramsLevels seen}

theorem Translated.Named.next {t : Translated} (named : t.Named) (entry : String × InputItem) :
    (publishShadowed paramsLevels seen t entry).Named := by
  rw [publishShadowed_eq]
  constructor
  · have fresh := aliasOf_fresh paramsLevels seen t entry
    dsimp only
    rw [Dict.set_absent fresh, Dict.set_absent (named.levels ▸ fresh), Dict.keys_append, Dict.keys_append, named.levels]
    rfl
  · intro key held
    rcases Dict.mem_keys_set.mp held with same | held
    · exact Dict.mem_keys_set.mpr (.inl same)
    · exact Dict.mem_keys_set.mpr (.inr (named.wires key held))

theorem foldl_publishShadowed (paramsLevels : Dict String (List String)) (seen shadowed : Dict String InputItem)
    {t : Translated} (named : t.Named) :
    shadowed.foldl (publishShadowed paramsLevels seen) t = { t with
      properties := t.properties ++ (aliasesFrom paramsLevels seen t shadowed).map fun a => (a.key, a.property)
      levels := t.levels ++ (aliasesFrom paramsLevels seen t shadowed).map fun a => (a.key, some a.level)
      wireNames := t.wireNames ++ (aliasesFrom paramsLevels seen t shadowed).map fun a => (a.key, a.name) } := by
  induction shadowed generalizing t with
  | nil => simp [aliasesFrom]
  | cons entry rest ih =>
    have fresh := aliasOf_fresh paramsLevels seen t entry
    have unleveled : (aliasOf paramsLevels seen t entry).key ∉ Dict.keys t.levels := named.levels ▸ fresh
    have unwired : (aliasOf paramsLevels seen t entry).key ∉ Dict.keys t.wireNames := fun held =>
      fresh (named.wires _ held)
    rw [List.foldl_cons, ih (named.next entry), aliasesFrom]
    simp only [publishShadowed_eq, Dict.set_absent fresh, Dict.set_absent unleveled, Dict.set_absent unwired,
      List.map_cons, List.append_assoc, List.singleton_append]

/-- No alias is a key that was there, nor another alias. -/
theorem nodup_aliasesFrom (shadowed : Dict String InputItem) {t : Translated} (distinct : (Dict.keys t.properties).Nodup) :
    (Dict.keys t.properties ++ (aliasesFrom paramsLevels seen t shadowed).map Alias.key).Nodup := by
  induction shadowed generalizing t with
  | nil => simpa [aliasesFrom] using distinct
  | cons entry rest ih =>
    have fresh := aliasOf_fresh paramsLevels seen t entry
    have grown : Dict.keys (publishShadowed paramsLevels seen t entry).properties =
        Dict.keys t.properties ++ [(aliasOf paramsLevels seen t entry).key] := by
      rw [publishShadowed_eq]
      dsimp only
      rw [Dict.set_absent fresh, Dict.keys_append, Dict.keys_singleton]
    have next := ih (t := publishShadowed paramsLevels seen t entry)
    rw [grown, List.append_assoc] at next
    apply next
    rw [List.nodup_append]
    refine ⟨distinct, List.nodup_singleton _, fun key held other listed same => ?_⟩
    cases List.mem_singleton.mp listed
    exact fresh (same ▸ held)

theorem names_aliasesFrom (shadowed : Dict String InputItem) (t : Translated) :
    (aliasesFrom paramsLevels seen t shadowed).map Alias.name = Dict.keys shadowed := by
  induction shadowed generalizing t with
  | nil => rfl
  | cons entry rest ih =>
    rw [aliasesFrom, List.map_cons, ih]
    rfl

/-- An alias is of one of the shadowed entries. -/
theorem of_mem_aliasesFrom {shadowed : Dict String InputItem} {t : Translated} {a : Alias}
    (listed : a ∈ aliasesFrom paramsLevels seen t shadowed) :
    (a.name, a.item) ∈ shadowed ∧
      a.level = shadowedLevel a.name a.item ((Dict.get? seen a.name).getD a.item) paramsLevels ∧
      ∃ text, a.property = Dict.set (propertyFromItem a.item) "description" text := by
  induction shadowed generalizing t with
  | nil => cases listed
  | cons entry rest ih =>
    rcases List.mem_cons.mp listed with rfl | later
    · exact ⟨List.mem_cons_self, rfl, _, rfl⟩
    · obtain ⟨member, facts⟩ := ih later
      exact ⟨List.mem_cons_of_mem _ member, facts⟩

end Aliases

/-! ### The whole schema -/

section Whole
variable (crawler : Crawler) (params : Json)

/-- The specs of `/params` whose names `input[]` does not have. -/
def extraSpecs : Dict String Fields :=
  (paramsOnlySpecs params).filter fun e => e.1 ∉ Dict.keys (declaredIn crawler.input).seen

/-- The schema before the shadowed entries are published. -/
def plainSchema : Translated where
  properties := ((declaredIn crawler.input).seen.map fun e => (e.1, propertyFromItem e.2)) ++
    (extraSpecs crawler params).map fun e => (e.1, paramsProperty e.2)
  required := ((declaredIn crawler.input).seen.filter fun e => askedFor e.2).map Prod.fst
  levels := ((declaredIn crawler.input).seen.map fun e => (e.1, keptLevel (placementFromParams params)
      (Dict.contains (declaredIn crawler.input).shadowed e.1) e.1 e.2)) ++
    (extraSpecs crawler params).map fun e => (e.1, some ((Dict.get? (placementFromParams params) e.1).getD "squid"))
  defaultsToFill := (declaredIn crawler.input).seen.filterMap fun e => (fillable e.2).map (e.1, ·)

/-- The aliases of a schema. -/
def aliasesIn : List Alias :=
  aliasesFrom (levelsFromParams params) (declaredIn crawler.input).seen (plainSchema crawler params)
    (declaredIn crawler.input).shadowed

theorem keys_plainSchema : Dict.keys (plainSchema crawler params).properties =
    Dict.keys (declaredIn crawler.input).seen ++ Dict.keys (extraSpecs crawler params) := by
  unfold plainSchema
  rw [Dict.keys_append, Dict.keys_map _ fun _ => propertyFromItem, Dict.keys_map _ fun _ => paramsProperty]

theorem nodup_plainSchema : (Dict.keys (plainSchema crawler params).properties).Nodup := by
  rw [keys_plainSchema, List.nodup_append]
  refine ⟨(sound_declaredIn _).seen, Dict.nodup_keys_filter (nodup_paramsOnlySpecs params) _, ?_⟩
  rintro name seen other extra rfl
  obtain ⟨spec, listed⟩ := Dict.exists_get?_of_mem_keys extra
  have absent := List.of_mem_filter (Dict.mem_of_get? listed)
  exact absurd seen (by simpa using absent)

theorem named_plainSchema : (plainSchema crawler params).Named := by
  constructor
  · rw [keys_plainSchema]
    unfold plainSchema
    rw [Dict.keys_append, Dict.keys_map _ fun name => keptLevel (placementFromParams params)
        (Dict.contains (declaredIn crawler.input).shadowed name) name,
      Dict.keys_map _ fun name _ => some ((Dict.get? (placementFromParams params) name).getD "squid")]
  · intro key absurd
    cases absurd

theorem plainSchema_eq :
    (paramsOnlySpecs params).foldl (publishParamsOnly (placementFromParams params))
      ((declaredIn crawler.input).seen.foldl
        (publishKept (placementFromParams params) (declaredIn crawler.input).shadowed) {}) =
      plainSchema crawler params := by
  have distinct : (Dict.keys ({} : Translated).properties ++ Dict.keys (declaredIn crawler.input).seen).Nodup :=
    (sound_declaredIn _).seen
  rw [foldl_publishKept _ _ _ ⟨rfl, fun _ absurd => by cases absurd⟩ distinct,
    foldl_publishParamsOnly _ _ _ (nodup_paramsOnlySpecs params)]
  · unfold plainSchema extraSpecs
    simp only [List.nil_append, Dict.keys_map _ fun _ => propertyFromItem]
  · constructor
    · simp only [List.nil_append]
      rw [Dict.keys_map _ fun _ => propertyFromItem, Dict.keys_map _ fun name => keptLevel (placementFromParams params)
        (Dict.contains (declaredIn crawler.input).shadowed name) name]
    · intro name fills
      simp only [List.nil_append] at fills ⊢
      rw [Dict.keys_map _ fun _ => propertyFromItem]
      obtain ⟨d, read⟩ := Dict.exists_get?_of_mem_keys fills
      obtain ⟨entry, listed, found⟩ := List.mem_filterMap.mp (Dict.mem_of_get? read)
      obtain ⟨_, _, same⟩ := Option.map_eq_some_iff.mp found
      cases same
      exact Dict.mem_keys_of_mem listed

/-- The schema, table by table. -/
theorem translateInputSchema_eq : translateInputSchema crawler params = { plainSchema crawler params with
    properties := (plainSchema crawler params).properties ++
      (aliasesIn crawler params).map fun a => (a.key, a.property)
    levels := (plainSchema crawler params).levels ++ (aliasesIn crawler params).map fun a => (a.key, some a.level)
    wireNames := (aliasesIn crawler params).map fun a => (a.key, a.name)
    inputModes := inputModes ((declaredIn crawler.input).seen.map Prod.snd)
    required := match inputModes ((declaredIn crawler.input).seen.map Prod.snd) with
      | some modes => modes.always
      | none => (plainSchema crawler params).required } := by
  have published := foldl_publishShadowed (levelsFromParams params) (declaredIn crawler.input).seen
    (declaredIn crawler.input).shadowed (named_plainSchema crawler params)
  unfold translateInputSchema aliasesIn
  dsimp only
  rw [show crawler.input.foldl declare {} = declaredIn crawler.input from rfl, plainSchema_eq, published]
  rfl

end Whole

/-! ### Looking a key up -/

section Lookups
variable {crawler : Crawler} {params : Json} {name key : String} {kept twin : InputItem} {a b : Alias}

theorem mem_keys_seen : name ∈ Dict.keys (declaredIn crawler.input).seen ↔ itemsNamed crawler.input name ≠ [] := by
  rw [← not_iff_not, ← Dict.get?_eq_none_iff, get?_seen, keptOf_eq_none, not_not]

theorem mem_keys_extraSpecs : name ∈ Dict.keys (extraSpecs crawler params) ↔
    name ∈ Dict.keys (paramsOnlySpecs params) ∧ itemsNamed crawler.input name = [] := by
  unfold extraSpecs
  rw [Dict.mem_keys_iff, Dict.contains_iff, Dict.get?_filter _ fun key => key ∉ Dict.keys (declaredIn crawler.input).seen]
  by_cases declared : name ∈ Dict.keys (declaredIn crawler.input).seen
  · have some' := mem_keys_seen.mp declared
    simp [declared, some']
  · have none' := not_not.mp (mt mem_keys_seen.mpr declared)
    have described := (Dict.mem_keys_iff (paramsOnlySpecs params) name).trans (Dict.contains_iff _ name)
    simp [declared, none', described]

theorem keys_properties : Dict.keys (translateInputSchema crawler params).properties =
    Dict.keys (plainSchema crawler params).properties ++ (aliasesIn crawler params).map Alias.key := by
  rw [translateInputSchema_eq]
  dsimp only
  rw [Dict.keys_append]
  simp [Dict.keys, Function.comp_def]

theorem nodup_keys_properties : (Dict.keys (translateInputSchema crawler params).properties).Nodup := by
  rw [keys_properties]
  exact nodup_aliasesFrom _ (nodup_plainSchema crawler params)

theorem keys_levels : Dict.keys (translateInputSchema crawler params).levels =
    Dict.keys (translateInputSchema crawler params).properties := by
  rw [keys_properties, translateInputSchema_eq, ← (named_plainSchema crawler params).levels]
  dsimp only
  rw [Dict.keys_append]
  simp [Dict.keys, Function.comp_def]

theorem nodup_keys_levels : (Dict.keys (translateInputSchema crawler params).levels).Nodup :=
  keys_levels ▸ nodup_keys_properties

/-- The keys: the declared names, those only `/params` describes, and the aliases. -/
theorem mem_keys_properties : key ∈ Dict.keys (translateInputSchema crawler params).properties ↔
    itemsNamed crawler.input key ≠ [] ∨ key ∈ Dict.keys (paramsOnlySpecs params) ∨
      ∃ a ∈ aliasesIn crawler params, a.key = key := by
  rw [keys_properties, keys_plainSchema, List.mem_append, List.mem_append, mem_keys_seen, mem_keys_extraSpecs,
    List.mem_map]
  by_cases declared : itemsNamed crawler.input key = [] <;> simp [declared]

/-- An alias is of a name with a twin. -/
theorem alias_of_mem (listed : a ∈ aliasesIn crawler params) : ∃ kept,
    keptOf (itemsNamed crawler.input a.name) = some kept ∧ twinOf (itemsNamed crawler.input a.name) = some a.item ∧
      a.level = shadowedLevel a.name a.item kept (levelsFromParams params) := by
  obtain ⟨member, level, _⟩ := of_mem_aliasesFrom listed
  have twinned := Dict.mem_get? (sound_declaredIn crawler.input).shadowed member
  rw [get?_shadowed] at twinned
  cases keeps : keptOf (itemsNamed crawler.input a.name) with
  | none =>
    unfold twinOf at twinned
    rw [keeps] at twinned
    cases twinned
  | some kept =>
    rw [get?_seen, keeps] at level
    exact ⟨kept, rfl, twinned, level⟩

theorem exists_alias (params : Json) (twinned : twinOf (itemsNamed crawler.input name) = some twin) :
    ∃ a ∈ aliasesIn crawler params, a.name = name ∧ a.item = twin := by
  have held : name ∈ (aliasesIn crawler params).map Alias.name := by
    unfold aliasesIn
    rw [names_aliasesFrom]
    exact Dict.mem_keys_of_get? ((get?_shadowed crawler.input name).trans twinned)
  obtain ⟨a, listed, rfl⟩ := List.mem_map.mp held
  obtain ⟨_, _, twinned', _⟩ := alias_of_mem listed
  exact ⟨a, listed, rfl, Option.some.inj (twinned'.symm.trans twinned)⟩

theorem alias_of_name (listed : a ∈ aliasesIn crawler params) (listed' : b ∈ aliasesIn crawler params)
    (same : a.name = b.name) : a = b := by
  have distinct : ((aliasesIn crawler params).map Alias.name).Nodup := by
    unfold aliasesIn
    rw [names_aliasesFrom]
    exact (sound_declaredIn _).shadowed
  exact List.inj_on_of_nodup_map distinct listed listed' same

theorem alias_of_key (listed : a ∈ aliasesIn crawler params) (listed' : b ∈ aliasesIn crawler params)
    (same : a.key = b.key) : a = b := by
  have distinct : (Dict.keys (translateInputSchema crawler params).properties).Nodup := nodup_keys_properties
  rw [keys_properties] at distinct
  exact List.inj_on_of_nodup_map (List.nodup_append.mp distinct).2.1 listed listed' same

/-- An alias is no plain key. -/
theorem alias_apart (listed : a ∈ aliasesIn crawler params) :
    itemsNamed crawler.input a.key = [] ∧ a.key ∉ Dict.keys (paramsOnlySpecs params) := by
  have distinct : (Dict.keys (translateInputSchema crawler params).properties).Nodup := nodup_keys_properties
  rw [keys_properties] at distinct
  have absent : a.key ∉ Dict.keys (plainSchema crawler params).properties := fun held =>
    (List.nodup_append.mp distinct).2.2 _ held _ (List.mem_map_of_mem listed) rfl
  rw [keys_plainSchema, List.mem_append, not_or, mem_keys_seen, mem_keys_extraSpecs, not_not, not_and] at absent
  exact ⟨absent.1, fun described => absent.2 described absent.1⟩

theorem levels_kept (keeps : keptOf (itemsNamed crawler.input name) = some kept) :
    Dict.get? (translateInputSchema crawler params).levels name =
      some (keptLevel (placementFromParams params) (twinOf (itemsNamed crawler.input name)).isSome name kept) := by
  rw [translateInputSchema_eq]
  unfold plainSchema
  simp only [Dict.get?_append]
  rw [Dict.get?_map _ fun name => keptLevel (placementFromParams params)
    (Dict.contains (declaredIn crawler.input).shadowed name) name, get?_seen, keeps, Option.map_some, Option.some_or,
    Option.some_or, Dict.contains, get?_shadowed]

theorem levels_extra (undeclared : itemsNamed crawler.input name = [])
    (described : name ∈ Dict.keys (paramsOnlySpecs params)) :
    Dict.get? (translateInputSchema crawler params).levels name =
      some (some ((Dict.get? (placementFromParams params) name).getD "squid")) := by
  obtain ⟨spec, read⟩ := Dict.exists_get?_of_mem_keys (mem_keys_extraSpecs.mpr ⟨described, undeclared⟩)
  rw [translateInputSchema_eq]
  unfold plainSchema
  simp only [Dict.get?_append]
  rw [Dict.get?_map _ fun name => keptLevel (placementFromParams params)
      (Dict.contains (declaredIn crawler.input).shadowed name) name, get?_seen, keptOf_eq_none.mpr undeclared,
    Dict.get?_map _ fun name _ => some ((Dict.get? (placementFromParams params) name).getD "squid"), read]
  rfl

theorem levels_alias (listed : a ∈ aliasesIn crawler params) :
    Dict.get? (translateInputSchema crawler params).levels a.key = some (some a.level) := by
  apply Dict.mem_get? nodup_keys_levels
  rw [translateInputSchema_eq]
  exact List.mem_append_right _ (List.mem_map_of_mem listed)

theorem wireNames_iff : Dict.get? (translateInputSchema crawler params).wireNames key = some name ↔
    ∃ a ∈ aliasesIn crawler params, a.key = key ∧ a.name = name := by
  have wires : (translateInputSchema crawler params).wireNames =
      (aliasesIn crawler params).map fun a => (a.key, a.name) := by rw [translateInputSchema_eq]
  have distinct : (Dict.keys (translateInputSchema crawler params).wireNames).Nodup := by
    have whole : (Dict.keys (translateInputSchema crawler params).properties).Nodup := nodup_keys_properties
    rw [keys_properties] at whole
    rw [wires]
    simpa [Dict.keys, Function.comp_def] using (List.nodup_append.mp whole).2.1
  rw [← Dict.mem_iff_get? distinct, wires, List.mem_map]
  simp

theorem wireName_alias (listed : a ∈ aliasesIn crawler params) :
    (translateInputSchema crawler params).wireName a.key = a.name := by
  unfold Translated.wireName
  rw [wireNames_iff.mpr ⟨a, listed, rfl, rfl⟩]
  rfl

theorem wireName_plain (plain : ∀ a ∈ aliasesIn crawler params, a.key ≠ key) :
    (translateInputSchema crawler params).wireName key = key := by
  unfold Translated.wireName
  cases wired : Dict.get? (translateInputSchema crawler params).wireNames key with
  | none => rfl
  | some name =>
    obtain ⟨a, listed, same, _⟩ := wireNames_iff.mp wired
    exact absurd same (plain a listed)

theorem properties_kept (keeps : keptOf (itemsNamed crawler.input name) = some kept) :
    Dict.get? (translateInputSchema crawler params).properties name = some (propertyFromItem kept) := by
  rw [translateInputSchema_eq]
  unfold plainSchema
  simp only [Dict.get?_append]
  rw [Dict.get?_map _ fun _ => propertyFromItem, get?_seen, keeps, Option.map_some, Option.some_or, Option.some_or]

theorem properties_alias (listed : a ∈ aliasesIn crawler params) : ∃ text,
    Dict.get? (translateInputSchema crawler params).properties a.key =
      some (Dict.set (propertyFromItem a.item) "description" text) := by
  obtain ⟨_, _, text, property⟩ := of_mem_aliasesFrom listed
  refine ⟨text, ?_⟩
  rw [← property]
  apply Dict.mem_get? nodup_keys_properties
  rw [translateInputSchema_eq]
  exact List.mem_append_right _ (List.mem_map_of_mem listed)

theorem get?_defaultsToFill : Dict.get? (translateInputSchema crawler params).defaultsToFill name =
    (keptOf (itemsNamed crawler.input name)).bind fillable := by
  rw [translateInputSchema_eq, ← get?_seen]
  exact Dict.get?_filterMap (sound_declaredIn _).seen fillable name

/-- A declared name is sent under itself. -/
theorem wireName_declared (declared : itemsNamed crawler.input name ≠ []) :
    (translateInputSchema crawler params).wireName name = name :=
  wireName_plain fun _ listed same => declared (same ▸ (alias_apart listed).1)

end Lookups

end LobstrMcp
