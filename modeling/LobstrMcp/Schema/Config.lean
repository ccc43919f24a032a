import LobstrMcp.Model.Primitives
import LobstrMcp.Schema.Keys
import LobstrMcp.Schema.Routing

/-!
What a `config` comes to. Params are compared by the values they hold, flat and in their section, in whatever
order they hold them; `create_squid` puts the declared defaults into a `config` one by one.
-/

namespace LobstrMcp

/-! ### Params by their values -/

/-- What params hold: their flat values, and the toggles of their section, when they have one. -/
@[ext] structure ParamValues where
  flat : String → Option Json
  toggles : Option (String → Option Json)

def valuesOf (params : Fields) : ParamValues :=
  match Dict.get? params "functions" with
  | some (.obj functions) =>
    { flat := Dict.get? (Dict.erase params "functions"), toggles := some (Dict.get? functions) }
  | _ => { flat := Dict.get? params, toggles := none }

/-- Params with a dictionary for their section, or none. -/
structure Nests (params : Fields) : Prop where
  distinct : (Dict.keys params).Nodup
  toggles : ∀ value, Dict.get? params "functions" = some value →
    ∃ functions, value = .obj functions ∧ (Dict.keys functions).Nodup

section Values
variable {params functions : Fields} {key : String} {value : Json}

theorem valuesOf_flat (absent : Dict.get? params "functions" = none) :
    valuesOf params = { flat := Dict.get? params, toggles := none } := by
  unfold valuesOf
  rw [absent]

theorem valuesOf_nested (held : Dict.get? params "functions" = some (.obj functions)) :
    valuesOf params =
      { flat := Dict.get? (Dict.erase params "functions"), toggles := some (Dict.get? functions) } := by
  unfold valuesOf
  rw [held]

theorem nests_flat (distinct : (Dict.keys params).Nodup) (absent : Dict.get? params "functions" = none) :
    Nests params := by
  constructor
  · exact distinct
  · intro value held
    rw [absent] at held
    cases held

/-- Values beside the section are read as they are. -/
theorem Nests.get?_flat (nests : Nests params) (key : String) :
    (valuesOf params).flat key = if key = "functions" then none else Dict.get? params key := by
  cases held : Dict.get? params "functions" with
  | none =>
    rw [valuesOf_flat held]
    by_cases same : key = "functions"
    · subst same
      simp [held]
    · simp [same]
  | some value =>
    obtain ⟨functions, rfl, _⟩ := nests.toggles value held
    rw [valuesOf_nested held]
    simp [eq_comm]

/-- The section is set by itself. -/
theorem Nests.set_section (nests : Nests params) (distinct : (Dict.keys functions).Nodup) :
    Nests (Dict.set params "functions" (.obj functions)) ∧
      valuesOf (Dict.set params "functions" (.obj functions)) =
        { flat := (valuesOf params).flat, toggles := some (Dict.get? functions) } := by
  have held := Dict.get?_set_self params "functions" (.obj functions)
  have kept : Nests (Dict.set params "functions" (.obj functions)) := by
    refine ⟨Dict.nodup_keys_set nests.distinct _ _, fun value read => ?_⟩
    rw [held] at read
    cases read
    exact ⟨functions, rfl, distinct⟩
  refine ⟨kept, ?_⟩
  ext1
  · funext key
    rw [kept.get?_flat, nests.get?_flat, Dict.get?_set]
    by_cases same : key = "functions" <;> simp [same, eq_comm]
  · rw [valuesOf_nested held]

/-- What is changed beside the section leaves it as it is. -/
theorem Nests.beside {changed : Fields} (nests : Nests params) (distinct : (Dict.keys changed).Nodup)
    (same : Dict.get? changed "functions" = Dict.get? params "functions") :
    Nests changed ∧ (valuesOf changed).toggles = (valuesOf params).toggles := by
  constructor
  · refine ⟨distinct, ?_⟩
    rw [same]
    exact nests.toggles
  · cases held : Dict.get? params "functions" with
    | none => rw [valuesOf_flat held, valuesOf_flat (same.trans held)]
    | some value =>
      obtain ⟨functions, rfl, _⟩ := nests.toggles value held
      rw [valuesOf_nested held, valuesOf_nested (same.trans held)]

/-- A flat value is set by itself. -/
theorem Nests.setDefault (nests : Nests params) (other : key ≠ "functions") (value : Json) :
    Nests (Dict.setDefault params key value) ∧ valuesOf (Dict.setDefault params key value) =
      { flat := fun k => ((valuesOf params).flat k).or (Dict.get? [(key, value)] k),
        toggles := (valuesOf params).toggles } := by
  have same : Dict.get? (Dict.setDefault params key value) "functions" = Dict.get? params "functions" := by
    rw [Dict.get?_setDefault]
    simp [other]
  obtain ⟨kept, toggles⟩ := nests.beside (Dict.nodup_keys_setDefault nests.distinct key value) same
  refine ⟨kept, ?_⟩
  ext1
  · funext k
    dsimp only
    rw [kept.get?_flat, nests.get?_flat, Dict.get?_setDefault]
    by_cases section' : k = "functions"
    · simp [section', other]
    · simp [section']
  · exact toggles

/-- A flat value is left out by itself. -/
theorem Nests.erase (nests : Nests params) (other : key ≠ "functions") :
    Nests (Dict.erase params key) ∧ valuesOf (Dict.erase params key) =
      { flat := fun k => if k = key then none else (valuesOf params).flat k
        toggles := (valuesOf params).toggles } := by
  have same : Dict.get? (Dict.erase params key) "functions" = Dict.get? params "functions" := by
    rw [Dict.get?_erase, if_neg other]
  have distinct : (Dict.keys (Dict.erase params key)).Nodup := Dict.nodup_keys_filter nests.distinct _
  obtain ⟨kept, toggles⟩ := nests.beside distinct same
  refine ⟨kept, ?_⟩
  ext1
  · funext k
    dsimp only
    rw [kept.get?_flat, nests.get?_flat, Dict.get?_erase]
    by_cases section' : k = "functions"
    · simp [section']
    · simp [section', eq_comm]
  · exact toggles

theorem renamed_nil (distinct : (Dict.keys params).Nodup) : renamed [] params = params := by
  unfold renamed
  simpa using Dict.collect_eq_self distinct

/-- Without aliases there is nothing to rename. -/
theorem applyWireNames_flat (distinct : (Dict.keys params).Nodup) (absent : Dict.get? params "functions" = none) :
    applyWireNames params [] = params := by
  have whole : Dict.erase params "functions" = params := by
    apply List.filter_eq_self.mpr
    intro e listed
    have unheld := (Dict.get?_eq_none_iff _ _).mp absent
    exact decide_eq_true fun same => unheld (same ▸ Dict.mem_keys_of_mem listed)
  unfold applyWireNames
  rw [whole, renamed_nil distinct, Fields.get, absent]
  rfl

theorem Nests.applyWireNames (nests : Nests params) : valuesOf (applyWireNames params []) = valuesOf params := by
  cases held : Dict.get? params "functions" with
  | none => rw [applyWireNames_flat nests.distinct held]
  | some value =>
    obtain ⟨functions, rfl, distinct⟩ := nests.toggles value held
    have apart : (Dict.keys (Dict.erase params "functions")).Nodup := Dict.nodup_keys_filter nests.distinct _
    have erased : Nests (Dict.erase params "functions") := nests_flat apart (Dict.get?_erase_self _ _)
    unfold LobstrMcp.applyWireNames
    rw [Fields.get_of_get? held]
    dsimp only
    rw [renamed_nil apart, renamed_nil distinct, (erased.set_section distinct).2, valuesOf_nested held,
      valuesOf_flat (Dict.get?_erase_self _ _)]

/-- A config is checked on the values it holds. -/
theorem Nests.of_mem_flattened (nests : Nests params) (listed : (key, value) ∈ flattened params) :
    (valuesOf params).flat key = some value ∨ ((valuesOf params).toggles.bind (· key)) = some value := by
  have apart : (Dict.keys (Dict.erase params "functions")).Nodup := Dict.nodup_keys_filter nests.distinct _
  unfold flattened at listed
  cases held : Dict.get? params "functions" with
  | none =>
    rw [Fields.get, held] at listed
    have read := Dict.mem_get? apart listed
    rw [Dict.get?_erase] at read
    split at read
    · cases read
    · rw [valuesOf_flat held]
      exact .inl read
  | some section' =>
    obtain ⟨functions, rfl, distinct⟩ := nests.toggles section' held
    rw [Fields.get_of_get? held] at listed
    have read := Dict.mem_get? (Dict.nodup_keys_update apart functions) listed
    rw [Dict.get?_update distinct] at read
    rw [valuesOf_nested held]
    rcases Option.or_eq_some_iff.mp read with toggle | ⟨_, flat⟩
    · exact .inr toggle
    · exact .inl flat

end Values

/-! ### Filling defaults in -/

/-- The values of a dictionary at the keys that go to one place. -/
def placed (goes : String → Bool) (d : Fields) (key : String) : Option Json :=
  if goes key then Dict.get? d key else none

namespace Translated
variable (t : Translated)

/-- A default that `create_squid` puts beside the section: every one that is not literally of another level. -/
def fillsFlat (key : String) : Bool := t.levelOf key ≠ some "task" ∧ t.levelOf key ≠ some "function"

/-- The values of the params that an input is sent as. -/
def sentValues (input : Fields) : ParamValues where
  flat := placed t.isSquidKey input
  toggles := if (Dict.keys input).any t.isFunctionKey then some (placed t.isFunctionKey input) else none

end Translated

/-- Values, with the defaults that they leave out. -/
def ParamValues.filled (t : Translated) (defaults : Fields) (values : ParamValues) : ParamValues where
  flat key := (values.flat key).or (placed t.fillsFlat defaults key)
  toggles := if values.toggles.isSome || (Dict.keys defaults).any t.isFunctionKey then
    some fun key => (values.toggles.bind (· key)).or (placed t.isFunctionKey defaults key) else none

section Filling
variable {t : Translated} {config defaults : Fields} {default : String × Json}

theorem placed_cons (goes : String → Bool) (d : Fields) (key : String) :
    placed goes (default :: d) key = (placed goes [default] key).or (placed goes d key) := by
  unfold placed
  cases goes key with
  | false => rfl
  | true =>
    obtain ⟨k, v⟩ := default
    by_cases same : k = key <;> simp [same]

theorem placed_singleton_elsewhere {goes : String → Bool} (elsewhere : goes default.1 = false) (key : String) :
    placed goes [default] key = none := by
  obtain ⟨k, v⟩ := default
  unfold placed
  by_cases same : k = key
  · subst same
    rw [elsewhere]
    rfl
  · simp [same]

theorem placed_singleton {goes : String → Bool} (here : goes default.1 = true) (key : String) :
    placed goes [default] key = Dict.get? [default] key := by
  obtain ⟨k, v⟩ := default
  unfold placed
  by_cases same : k = key
  · subst same
    rw [here]
    rfl
  · simp [same]

theorem filled_nil (values : ParamValues) : values.filled t [] = values := by
  have nowhere : ∀ goes key, placed goes [] key = none := fun goes key => by simp [placed]
  ext1
  · funext key
    simp [ParamValues.filled, nowhere]
  · obtain ⟨flat, toggles⟩ := values
    cases toggles <;> simp [ParamValues.filled, nowhere, Dict.keys]

/-- Defaults are filled in one after the other. -/
theorem filled_cons (values : ParamValues) :
    values.filled t (default :: defaults) = (values.filled t [default]).filled t defaults := by
  ext1
  · funext key
    unfold ParamValues.filled
    dsimp only
    rw [placed_cons, Option.or_assoc]
  · obtain ⟨flat, toggles⟩ := values
    unfold ParamValues.filled
    dsimp only
    have keys : (Dict.keys (default :: defaults)).any t.isFunctionKey =
        (t.isFunctionKey default.1 || (Dict.keys defaults).any t.isFunctionKey) := rfl
    have key : (Dict.keys [default]).any t.isFunctionKey = t.isFunctionKey default.1 := by simp [Dict.keys]
    rw [keys, key]
    cases toggles with
    | some held =>
      simp only [Option.isSome_some, Bool.true_or, if_true, Option.bind_some, placed_cons t.isFunctionKey defaults,
        Option.or_assoc]
    | none =>
      cases toggle : t.isFunctionKey default.1 with
      | true =>
        simp only [Option.isSome_none, Bool.false_or, Bool.true_or, if_true, Option.bind_none, Option.none_or,
          Option.isSome_some, Option.bind_some, placed_cons t.isFunctionKey defaults]
      | false =>
        simp only [Option.isSome_none, Bool.false_or, if_false, Bool.false_eq_true, Option.bind_none, Option.none_or,
          placed_cons t.isFunctionKey defaults, placed_singleton_elsewhere toggle]

theorem filled_task (level : t.levelOf default.1 = some "task") (values : ParamValues) :
    values.filled t [default] = values := by
  have flat : t.fillsFlat default.1 = false := by simp [Translated.fillsFlat, level]
  have toggle : t.isFunctionKey default.1 = false := by simp [Translated.isFunctionKey, level]
  ext1
  · funext key
    simp [ParamValues.filled, placed_singleton_elsewhere flat]
  · obtain ⟨_, toggles⟩ := values
    cases toggles <;> simp [ParamValues.filled, placed_singleton_elsewhere toggle, Dict.keys, toggle]

theorem filled_function (level : t.levelOf default.1 = some "function") (values : ParamValues) :
    values.filled t [default] = { flat := values.flat
                                  toggles := some fun key => (values.toggles.bind (· key)).or (Dict.get? [default] key) } := by
  have flat : t.fillsFlat default.1 = false := by simp [Translated.fillsFlat, level]
  have toggle : t.isFunctionKey default.1 = true := by simp [Translated.isFunctionKey, level]
  ext1
  · funext key
    simp [ParamValues.filled, placed_singleton_elsewhere flat]
  · simp [ParamValues.filled, placed_singleton toggle, Dict.keys, toggle]

theorem filled_flat (notTask : t.levelOf default.1 ≠ some "task") (notFunction : t.levelOf default.1 ≠ some "function")
    (values : ParamValues) : values.filled t [default] =
      { flat := fun key => (values.flat key).or (Dict.get? [default] key), toggles := values.toggles } := by
  have flat : t.fillsFlat default.1 = true := by simp [Translated.fillsFlat, notTask, notFunction]
  have toggle : t.isFunctionKey default.1 = false := by simp [Translated.isFunctionKey, notFunction]
  ext1
  · funext key
    simp [ParamValues.filled, placed_singleton flat]
  · obtain ⟨_, toggles⟩ := values
    cases toggles <;> simp [ParamValues.filled, placed_singleton_elsewhere toggle, Dict.keys, toggle]

/-- One round fills one default in. -/
theorem fillDefault_values (t : Translated) (nests : Nests config) (default : String × Json)
    (other : default.1 ≠ "functions") : ∃ next, fillDefault t config default = some next ∧ Nests next ∧
      valuesOf next = (valuesOf config).filled t [default] := by
  unfold fillDefault
  by_cases task : t.levelOf default.1 = some "task"
  · rw [task, filled_task task]
    exact ⟨config, rfl, nests, rfl⟩
  by_cases function : t.levelOf default.1 = some "function"
  · rw [function, filled_function function]
    cases held : Dict.get? config "functions" with
    | none =>
      have single : (Dict.keys [default]).Nodup := List.nodup_singleton _
      obtain ⟨kept, values⟩ := nests.set_section single
      refine ⟨_, rfl, kept, ?_⟩
      rw [values, valuesOf_flat held]
      simp
    | some value =>
      obtain ⟨functions, rfl, distinct⟩ := nests.toggles value held
      obtain ⟨kept, values⟩ := nests.set_section (Dict.nodup_keys_setDefault distinct default.1 default.2)
      refine ⟨_, rfl, kept, ?_⟩
      rw [values, valuesOf_nested held]
      ext1
      · rfl
      · dsimp only
        congr 1
        funext key
        exact Dict.get?_setDefault functions default.1 key default.2
  · rw [filled_flat task function]
    obtain ⟨kept, values⟩ := nests.setDefault other default.2
    refine ⟨_, ?_, kept, values⟩
    split
    · rename_i level
      exact absurd level task
    · rename_i level
      exact absurd level function
    · rfl

/-- All of them are filled in. -/
theorem foldlM_fillDefault (nests : Nests config) (others : "functions" ∉ Dict.keys defaults) :
    ∃ filled, defaults.foldlM (fillDefault t) config = some filled ∧ Nests filled ∧
      valuesOf filled = (valuesOf config).filled t defaults := by
  induction defaults generalizing config with
  | nil => exact ⟨config, rfl, nests, (filled_nil _).symm⟩
  | cons default rest ih =>
    obtain ⟨k, v⟩ := default
    rw [Dict.keys_cons, List.mem_cons, not_or] at others
    obtain ⟨next, made, kept, values⟩ := fillDefault_values t nests (k, v) (Ne.symm others.1)
    obtain ⟨filled, rest', kept', values'⟩ := ih kept others.2
    refine ⟨filled, ?_, kept', ?_⟩
    · rw [List.foldlM_cons, made]
      exact rest'
    · rw [values', values, ← filled_cons]

end Filling

/-! ### What is sent -/

/-- No two inputs of one name are at different levels, and none has the name of the section. -/
structure Crawler.NamesApart (crawler : Crawler) : Prop where
  levels : ∀ a ∈ crawler.input, ∀ b ∈ crawler.input, a.name = b.name → a.declaredLevel = b.declaredLevel
  toggles : ∀ item ∈ crawler.input, item.name ≠ "functions"

/-- A schema without aliases, in which no default is for the section itself. -/
structure Translated.Plain (t : Translated) : Prop where
  wires : t.wireNames = []
  distinct : (Dict.keys t.defaultsToFill).Nodup
  toggles : "functions" ∉ Dict.keys t.defaultsToFill

theorem plain_of_apart {crawler : Crawler} (apart : crawler.NamesApart) (params : Json) :
    (translateInputSchema crawler params).Plain := by
  have untwinned : (declaredIn crawler.input).shadowed = [] := by
    cases shadowed : (declaredIn crawler.input).shadowed with
    | nil => rfl
    | cons entry rest =>
      obtain ⟨name, twin⟩ := entry
      have twinned : twinOf (itemsNamed crawler.input name) = some twin := by
        rw [← get?_shadowed, shadowed]
        simp
      have member := mem_itemsNamed.mp (twinOf_mem twinned)
      obtain ⟨kept, keeps⟩ := exists_kept (twinOf_mem twinned)
      have member' := mem_itemsNamed.mp (keptOf_mem keeps)
      exact absurd (apart.levels twin member.1 kept member'.1 (member.2.trans member'.2.symm))
        (twinOf_apart keeps twinned)
  rw [translateInputSchema_eq]
  constructor
  · simp [aliasesIn, untwinned, aliasesFrom]
  · have seen := (sound_declaredIn crawler.input).seen
    exact seen.sublist (Dict.keys_filterMap_sublist _ fillable)
  · intro fills
    obtain ⟨d, read⟩ := Dict.exists_get?_of_mem_keys fills
    have fillable' : Dict.get? (translateInputSchema crawler params).defaultsToFill "functions" = _ := get?_defaultsToFill
    rw [translateInputSchema_eq] at fillable'
    rw [fillable'] at read
    obtain ⟨kept, keeps, _⟩ := Option.bind_eq_some_iff.mp read
    have member := mem_itemsNamed.mp (keptOf_mem keeps)
    exact apart.toggles kept member.1 member.2

section Sent
variable {t : Translated} {input d : Fields} {goes : String → Bool} {key : String}

theorem placed_update (distinct : (Dict.keys input).Nodup) (key : String) :
    placed goes (Dict.update d input) key = (placed goes input key).or (placed goes d key) := by
  unfold placed
  rw [Dict.get?_update distinct]
  cases goes key <;> rfl

theorem placed_none (nowhere : (Dict.keys d).any goes = false) (key : String) : placed goes d key = none := by
  unfold placed
  split
  · rename_i here
    apply Dict.get?_of_not_mem
    intro held
    have somewhere := List.any_eq_true.mpr ⟨key, held, here⟩
    rw [nowhere] at somewhere
    cases somewhere
  · rfl

theorem any_keys_update : (Dict.keys (Dict.update d input)).any goes =
    ((Dict.keys d).any goes || (Dict.keys input).any goes) := by
  rw [Bool.eq_iff_iff, Bool.or_eq_true, List.any_eq_true, List.any_eq_true, List.any_eq_true]
  simp only [Dict.mem_keys_update]
  constructor
  · rintro ⟨key, held | held, here⟩
    · exact .inl ⟨key, held, here⟩
    · exact .inr ⟨key, held, here⟩
  · rintro (⟨key, held, here⟩ | ⟨key, held, here⟩)
    · exact ⟨key, .inl held, here⟩
    · exact ⟨key, .inr held, here⟩

theorem toggles_sentValues (key : String) :
    ((t.sentValues input).toggles.bind (· key)) = placed t.isFunctionKey input key := by
  unfold Translated.sentValues
  cases toggled : (Dict.keys input).any t.isFunctionKey with
  | true => rfl
  | false => exact (placed_none toggled key).symm

theorem isSome_sentValues : (t.sentValues input).toggles.isSome = (Dict.keys input).any t.isFunctionKey := by
  unfold Translated.sentValues
  cases (Dict.keys input).any t.isFunctionKey <;> rfl

theorem Translated.Plain.wireName (plain : t.Plain) (key : String) : t.wireName key = key := by
  unfold Translated.wireName
  rw [plain.wires]
  rfl

/-- Without aliases, an input is sent key by key as it is. -/
theorem Translated.Plain.get?_routed (plain : t.Plain) (distinct : (Dict.keys input).Nodup) (key : String) :
    Dict.get? (t.routed goes input) key = placed goes input key := by
  have apart : t.WiresApart goes input := by
    intro one _ other _ _ _ same
    rwa [plain.wireName, plain.wireName] at same
  rw [Translated.routed_eq distinct apart]
  simp only [plain.wireName, List.map_id']
  exact Dict.get?_filter input goes key

theorem Translated.routed_eq_nil :
    t.routed goes input = [] ↔ (Dict.keys input).any goes = false := by
  constructor
  · intro none'
    rw [Bool.eq_false_iff]
    intro somewhere
    obtain ⟨key, held, here⟩ := List.any_eq_true.mp somewhere
    exact Translated.routed_nonempty held here none'
  · intro nowhere
    by_contra nonempty
    obtain ⟨key, held, here⟩ := Translated.key_of_routed nonempty
    have somewhere := List.any_eq_true.mpr ⟨key, held, here⟩
    rw [nowhere] at somewhere
    cases somewhere

/-- The params of a flat input, by their values. -/
theorem Translated.Plain.squidParams (plain : t.Plain) (distinct : (Dict.keys input).Nodup)
    (flat : "functions" ∉ Dict.keys input) :
    Nests (t.squidParams input) ∧ valuesOf (t.squidParams input) = t.sentValues input := by
  have beside : Dict.get? (t.routed t.isSquidKey input) "functions" = none := by
    rw [plain.get?_routed distinct, placed, Dict.get?_of_not_mem flat]
    simp
  have nests : Nests (t.routed t.isSquidKey input) := nests_flat (Dict.nodup_keys_collect _) beside
  have values : (valuesOf (t.routed t.isSquidKey input)).flat = placed t.isSquidKey input := by
    rw [valuesOf_flat beside]
    funext key
    exact plain.get?_routed distinct key
  unfold Translated.squidParams Translated.sentValues
  dsimp only
  cases toggled : (Dict.keys input).any t.isFunctionKey with
  | false =>
    rw [Translated.routed_eq_nil.mpr toggled]
    refine ⟨nests, ?_⟩
    ext1
    · exact values
    · rw [List.isEmpty_nil, if_pos rfl, valuesOf_flat beside]
      rfl
  | true =>
    have nonempty : (t.routed t.isFunctionKey input).isEmpty = false := by
      rw [List.isEmpty_eq_false_iff]
      intro none'
      rw [Translated.routed_eq_nil.mp none'] at toggled
      cases toggled
    have section' : (Dict.keys (t.routed t.isFunctionKey input)).Nodup := Dict.nodup_keys_collect _
    obtain ⟨kept, set⟩ := nests.set_section section'
    rw [nonempty, if_neg Bool.false_ne_true, if_pos rfl]
    refine ⟨kept, ?_⟩
    rw [set]
    ext1
    · exact values
    · dsimp only
      congr 1
      funext key
      exact plain.get?_routed distinct key

/-- A row has no section: it is sent as it is. -/
theorem Translated.Plain.taskParams (plain : t.Plain) (distinct : (Dict.keys input).Nodup)
    (flat : "functions" ∉ Dict.keys input) : applyWireNames (t.taskParams input) [] = t.taskParams input := by
  have row : (Dict.keys (t.taskParams input)).Nodup := Dict.nodup_keys_collect _
  apply applyWireNames_flat row
  rw [Translated.taskParams, plain.get?_routed distinct, placed, Dict.get?_of_not_mem flat]
  simp

/-! ### When the defaults come out the same -/

theorem placed_here (here : goes key = true) : placed goes d key = Dict.get? d key := by
  rw [placed, if_pos here]

theorem placed_elsewhere (elsewhere : goes key = false) : placed goes d key = none := by
  rw [placed, elsewhere, if_neg Bool.false_ne_true]

theorem fillsFlat_squid (squid : t.isSquidKey key = true) : t.fillsFlat key = true := by
  unfold Translated.isSquidKey at squid
  unfold Translated.fillsFlat
  rcases of_decide_eq_true squid with level | level <;> simp [level]

theorem fillsFlat_task (task : t.isTaskKey key = true) : t.fillsFlat key = true ↔ t.levelOf key ≠ some "task" := by
  unfold Translated.isTaskKey Translated.isFunctionKey at task
  unfold Translated.fillsFlat
  have notFunction : t.levelOf key ≠ some "function" := by
    intro level
    simp [level] at task
  simp [notFunction]

theorem not_squid_of_task (task : t.isTaskKey key = true) : t.isSquidKey key = false := by
  unfold Translated.isTaskKey at task
  cases squid : t.isSquidKey key with
  | false => rfl
  | true => simp [squid] at task

theorem task_of_fillsFlat (fills : t.fillsFlat key = true) (notSquid : t.isSquidKey key = false) :
    t.isTaskKey key = true := by
  unfold Translated.fillsFlat at fills
  unfold Translated.isTaskKey Translated.isFunctionKey
  have notFunction : t.levelOf key ≠ some "function" := (of_decide_eq_true fills).2
  simp [notSquid, notFunction]

/-- The toggles of a completed config are those of the whole input. -/
theorem toggles_filled (distinct : (Dict.keys input).Nodup) (flat : String → Option Json) :
    (ParamValues.filled t d { flat, toggles := (t.sentValues input).toggles }).toggles =
      (t.sentValues (Dict.update d input)).toggles := by
  unfold ParamValues.filled
  dsimp only
  rw [isSome_sentValues, Bool.or_comm, ← any_keys_update]
  simp only [toggles_sentValues, ← placed_update distinct]
  rfl

/-- The params of a config that was lifted of its concurrency and completed are those of the whole input exactly
when every default for the row says `task`, and a squid-level concurrency is not given, or is the default. -/
theorem filled_iff (distinct : (Dict.keys input).Nodup) :
    ParamValues.filled t d { flat := fun key => if key = "concurrency" then none else (t.sentValues input).flat key
                             toggles := (t.sentValues input).toggles } = t.sentValues (Dict.update d input) ↔
      (∀ key ∈ Dict.keys d, t.isTaskKey key = true → t.levelOf key = some "task") ∧
        (t.isSquidKey "concurrency" = true →
          ∀ value, Dict.get? input "concurrency" = some value → Dict.get? d "concurrency" = some value) := by
  have flat_iff : ParamValues.filled t d
        { flat := fun key => if key = "concurrency" then none else (t.sentValues input).flat key
          toggles := (t.sentValues input).toggles } = t.sentValues (Dict.update d input) ↔
      ∀ key, (if key = "concurrency" then none else placed t.isSquidKey input key).or (placed t.fillsFlat d key) =
        (placed t.isSquidKey input key).or (placed t.isSquidKey d key) := by
    rw [ParamValues.ext_iff, and_iff_left (toggles_filled distinct _), funext_iff]
    refine forall_congr' fun key => ?_
    rw [← placed_update distinct]
    rfl
  rw [flat_iff]
  constructor
  · intro same
    constructor
    · intro key held task
      by_contra level
      have read := same key
      rw [placed_elsewhere (not_squid_of_task task), placed_elsewhere (not_squid_of_task task),
        placed_here ((fillsFlat_task task).mpr level), ite_self, Option.none_or, Option.none_or] at read
      exact (Dict.get?_eq_none_iff _ _).mp read held
    · intro squid value given
      have read := same "concurrency"
      rw [if_pos rfl, placed_here (fillsFlat_squid squid), placed_here squid, given, Option.none_or,
        Option.some_or] at read
      exact read
  · rintro ⟨tasks, concurrency⟩ key
    cases squid : t.isSquidKey key with
    | true =>
      rw [placed_here (fillsFlat_squid squid), placed_here squid, placed_here squid]
      split
      · rename_i named
        subst named
        cases given : Dict.get? input "concurrency" with
        | none => rfl
        | some value => rw [concurrency squid value given, Option.none_or, Option.some_or]
      · rfl
    | false =>
      rw [placed_elsewhere squid, placed_elsewhere squid, ite_self, Option.none_or, Option.none_or]
      cases fills : t.fillsFlat key with
      | false => exact placed_elsewhere fills
      | true =>
        have task := task_of_fillsFlat fills squid
        rw [placed_here fills, Dict.get?_eq_none_iff]
        intro held
        exact (fillsFlat_task task).mp fills (tasks key held task)

/-- Nothing is sent beside the row exactly when every key goes to it. -/
theorem sentValues_nil_iff : t.sentValues input = valuesOf [] ↔ ∀ key ∈ Dict.keys input, t.isTaskKey key = true := by
  constructor
  · intro same key held
    have flat : placed t.isSquidKey input key = none := congrFun (congrArg ParamValues.flat same) key
    have toggles : (t.sentValues input).toggles.isSome = false := by
      rw [same]
      rfl
    rw [isSome_sentValues] at toggles
    rcases Translated.place_cases (t := t) key with squid | function | task
    · rw [placed_here squid, Dict.get?_eq_none_iff] at flat
      exact absurd held flat
    · have somewhere := List.any_eq_true.mpr ⟨key, held, function⟩
      rw [toggles] at somewhere
      cases somewhere
    · exact task
  · intro tasks
    have toggled : (Dict.keys input).any t.isFunctionKey = false := by
      rw [Bool.eq_false_iff]
      intro somewhere
      obtain ⟨key, held, function⟩ := List.any_eq_true.mp somewhere
      have task := tasks key held
      simp [Translated.isTaskKey, function] at task
    have flat : placed t.isSquidKey input = Dict.get? [] := by
      funext key
      by_cases held : key ∈ Dict.keys input
      · rw [placed_elsewhere (not_squid_of_task (tasks key held))]
        rfl
      · rw [placed, Dict.get?_of_not_mem held, ite_self]
        rfl
    unfold Translated.sentValues
    rw [flat, toggled]
    rfl

/-- The row of an input is that of the completed one exactly when it has every default for the row. -/
theorem row_filled_iff (plain : t.Plain) (distinct : (Dict.keys input).Nodup) (apart : (Dict.keys d).Nodup) :
    Dict.get? (t.taskParams (Dict.update d input)) = Dict.get? (t.taskParams input) ↔
      ∀ key ∈ Dict.keys d, t.isTaskKey key = true → key ∈ Dict.keys input := by
  have rows : ∀ {values : Fields}, (Dict.keys values).Nodup →
      Dict.get? (t.taskParams values) = placed t.isTaskKey values :=
    fun distinct => funext (plain.get?_routed distinct)
  rw [rows distinct, rows (Dict.nodup_keys_update apart input), funext_iff]
  constructor
  · intro same key held task
    by_contra unheld
    have read := same key
    rw [placed_update distinct, placed_here task, placed_here task, Dict.get?_of_not_mem unheld, Option.none_or] at read
    exact (Dict.get?_eq_none_iff _ _).mp read held
  · intro given key
    rw [placed_update distinct]
    cases task : t.isTaskKey key with
    | false => rw [placed_elsewhere task, placed_elsewhere task, Option.none_or]
    | true =>
      rw [placed_here task, placed_here task]
      cases read : Dict.get? input key with
      | some value => rfl
      | none =>
        rw [Option.none_or, Dict.get?_eq_none_iff]
        intro held
        exact (Dict.get?_eq_none_iff _ _).mp read (given key held task)

end Sent

end LobstrMcp
