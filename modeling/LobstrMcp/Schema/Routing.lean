import LobstrMcp.Model.RunScraper
import LobstrMcp.Schema.Published
import LobstrMcp.Schema.Sections

/-!
Where the entries of an input go. Each is sent to one field under its wire name; two meet in one
field only when a shadowed entry falls to the squid level of the entry that shadows it, or when a
squid input has the name of the section its toggles are nested in.
-/

namespace LobstrMcp

/-- A field of what a new squid is sent: of the task row, of the squid params, or of
`params.functions`. -/
inductive Field where
  | task (name : String)
  | param (name : String)
  | function (name : String)
  deriving DecidableEq

namespace Field

/-- The field of a level. -/
def ofLevel (level name : String) : Field :=
  if level = "squid" then .param name else if level = "function" then .function name else .task name

def read (row params : Fields) : Field → Option Json
  | .task name => Dict.get? row name
  | .param name => Dict.get? params name
  | .function name => (Dict.get? params "functions").bind fun functions => functions.asObj?.bind (Dict.get? · name)

/-- The name a field has at the API. -/
def name : Field → String
  | .task name => name
  | .param name => name
  | .function name => name

/-- One of two fields holds the other. -/
def Overlaps (f g : Field) : Prop :=
  f = g ∨ (f = .param "functions" ∧ ∃ name, g = .function name) ∨ (g = .param "functions" ∧ ∃ name, f = .function name)

theorem ofLevel_inj {level level' name name' : String} (known : level = "task" ∨ level = "squid" ∨ level = "function")
    (known' : level' = "task" ∨ level' = "squid" ∨ level' = "function")
    (same : ofLevel level name = ofLevel level' name') : level = level' ∧ name = name' := by
  rcases known with rfl | rfl | rfl <;> rcases known' with rfl | rfl | rfl <;> simp [ofLevel] at same <;> simp [same]

end Field

namespace Translated
variable (t : Translated)

/-- The field an input key is sent to. -/
def fieldOf (key : String) : Field :=
  if t.isSquidKey key then .param (t.wireName key)
  else if t.isFunctionKey key then .function (t.wireName key)
  else .task (t.wireName key)

theorem normalizedLevel_squid_iff (level : Option String) :
    normalizedLevel level = "squid" ↔ level = some "squid" ∨ level = some "cluster" := by
  cases level with
  | none => simp [normalizedLevel]
  | some l =>
    unfold normalizedLevel squidLevelNames
    by_cases squid : l = "squid" ∨ l = "cluster"
    · simp [squid]
    · have other := not_or.mp squid
      by_cases empty : l = "" <;> simp [other.1, other.2, empty]

theorem normalizedLevel_function_iff (level : Option String) :
    normalizedLevel level = "function" ↔ level = some "function" := by
  cases level with
  | none => simp [normalizedLevel]
  | some l =>
    unfold normalizedLevel squidLevelNames
    by_cases squid : l = "squid" ∨ l = "cluster"
    · rcases squid with rfl | rfl <;> simp
    · have other := not_or.mp squid
      by_cases empty : l = ""
      · subst empty
        simp
      · simp [other.1, other.2, empty]

/-- A key's place is decided by its level, under the name the API uses now. -/
theorem fieldOf_eq (key : String) : t.fieldOf key = Field.ofLevel (normalizedLevel (t.levelOf key)) (t.wireName key) := by
  unfold fieldOf isSquidKey isFunctionKey Field.ofLevel
  simp only [normalizedLevel_squid_iff, normalizedLevel_function_iff, decide_eq_true_eq]

theorem name_fieldOf (key : String) : (t.fieldOf key).name = t.wireName key := by
  unfold fieldOf
  split
  · rfl
  · split <;> rfl

/-! ### What is sent -/

section Sent
variable {t} {goes : String → Bool} {input : Fields} {key wire : String} {value : Json}

/-- Two keys of an input that go to one place have different wire names there. -/
def WiresApart (goes : String → Bool) (input : Fields) : Prop :=
  ∀ key ∈ Dict.keys input, ∀ other ∈ Dict.keys input, goes key = true → goes other = true →
    t.wireName key = t.wireName other → key = other

theorem mem_keys_routed : wire ∈ Dict.keys (t.routed goes input) ↔
    ∃ key ∈ Dict.keys input, goes key = true ∧ t.wireName key = wire := by
  unfold routed
  rw [Dict.mem_keys_collect]
  unfold Dict.keys
  simp only [List.map_map, List.mem_map, List.mem_filter, Function.comp_apply]
  constructor
  · rintro ⟨e, ⟨listed, placed⟩, same⟩
    exact ⟨e.1, ⟨e, listed, rfl⟩, placed, same⟩
  · rintro ⟨_, ⟨e, listed, rfl⟩, placed, same⟩
    exact ⟨e, ⟨listed, placed⟩, same⟩

theorem routed_eq (distinct : (Dict.keys input).Nodup) (apart : t.WiresApart goes input) :
    t.routed goes input = (input.filter fun e => goes e.1).map fun e => (t.wireName e.1, e.2) := by
  unfold routed
  apply Dict.collect_eq_self
  have filtered := Dict.nodup_keys_filter distinct fun e => goes e.1
  have renamed : Dict.keys ((input.filter fun e => goes e.1).map fun e => (t.wireName e.1, e.2)) =
      (Dict.keys (input.filter fun e => goes e.1)).map t.wireName := by
    simp [Dict.keys, Function.comp_def]
  rw [renamed]
  refine List.Nodup.map_on (fun key held other held' same => ?_) filtered
  obtain ⟨e, listed, rfl⟩ := List.mem_map.mp held
  obtain ⟨e', listed', rfl⟩ := List.mem_map.mp held'
  obtain ⟨member, placed⟩ := List.mem_filter.mp listed
  obtain ⟨member', placed'⟩ := List.mem_filter.mp listed'
  exact apart _ (List.mem_map_of_mem member) _ (List.mem_map_of_mem member') placed placed' same

theorem get?_routed (distinct : (Dict.keys input).Nodup) (apart : t.WiresApart goes input) (placed : goes key = true)
    (given : Dict.get? input key = some value) : Dict.get? (t.routed goes input) (t.wireName key) = some value := by
  have keys : (Dict.keys (t.routed goes input)).Nodup := Dict.nodup_keys_collect _
  apply Dict.mem_get? keys
  rw [routed_eq distinct apart]
  exact List.mem_map.mpr ⟨(key, value), List.mem_filter.mpr ⟨Dict.mem_of_get? given, placed⟩, rfl⟩

/-- The params hold `functions` when a toggle is given, and else what the flat params hold. -/
theorem get?_squidParams (wire : String) : Dict.get? (t.squidParams input) wire =
    if wire = "functions" ∧ t.routed t.isFunctionKey input ≠ [] then some (.obj (t.routed t.isFunctionKey input))
    else Dict.get? (t.routed t.isSquidKey input) wire := by
  unfold squidParams
  dsimp only
  by_cases none' : t.routed t.isFunctionKey input = []
  · simp [none']
  · rw [if_neg (by simpa using none'), Dict.get?_set]
    simp [none', eq_comm]

theorem routed_nonempty (member : key ∈ Dict.keys input) (placed : goes key = true) : t.routed goes input ≠ [] := by
  intro empty
  have held := mem_keys_routed (t := t).mpr ⟨key, member, placed, rfl⟩
  rw [empty] at held
  cases held

theorem key_of_routed (nonempty : t.routed goes input ≠ []) : ∃ key ∈ Dict.keys input, goes key = true := by
  obtain ⟨⟨wire, value⟩, listed⟩ := List.exists_mem_of_ne_nil _ nonempty
  obtain ⟨key, member, placed, _⟩ := mem_keys_routed.mp (Dict.mem_keys_of_mem listed)
  exact ⟨key, member, placed⟩

theorem not_function_of_squid (squid : t.isSquidKey key = true) : t.isFunctionKey key = false := by
  unfold isSquidKey at squid
  unfold isFunctionKey
  rcases of_decide_eq_true squid with level | level <;> rw [level] <;> rfl

/-- Whatever is given is sent in its field, unless another value is. -/
theorem read_fieldOf (member : key ∈ Dict.keys input) :
    ∃ sent, (t.fieldOf key).read (t.taskParams input) (t.squidParams input) = some sent := by
  unfold fieldOf
  by_cases squid : t.isSquidKey key = true
  · rw [if_pos squid]
    show ∃ sent, Dict.get? (t.squidParams input) (t.wireName key) = some sent
    rw [get?_squidParams]
    split
    · exact ⟨_, rfl⟩
    · exact Dict.exists_get?_of_mem_keys (mem_keys_routed.mpr ⟨key, member, squid, rfl⟩)
  · rw [if_neg squid]
    by_cases function : t.isFunctionKey key = true
    · rw [if_pos function]
      show ∃ sent, (Dict.get? (t.squidParams input) "functions").bind _ = some sent
      rw [get?_squidParams, if_pos ⟨rfl, routed_nonempty member function⟩]
      exact Dict.exists_get?_of_mem_keys (mem_keys_routed.mpr ⟨key, member, function, rfl⟩)
    · rw [if_neg function]
      have task : t.isTaskKey key = true := by simp [isTaskKey, squid, function]
      exact Dict.exists_get?_of_mem_keys (mem_keys_routed.mpr ⟨key, member, task, rfl⟩)

end Sent

/-- No two keys of an input are sent to one field. -/
def FieldsApart (input : Fields) : Prop :=
  ∀ key ∈ Dict.keys input, ∀ other ∈ Dict.keys input, key ≠ other → ¬ (t.fieldOf key).Overlaps (t.fieldOf other)

/-- A row and params hold every value of an input unchanged, each in a field of its own, and
nothing else. -/
structure Delivers (input row params : Fields) : Prop where
  apart : t.FieldsApart input
  arrives : ∀ key value, Dict.get? input key = some value → (t.fieldOf key).read row params = some value
  only : ∀ field value, field.read row params = some value → ∃ key ∈ Dict.keys input, (t.fieldOf key).Overlaps field

section Delivery
variable {t} {input : Fields}

theorem FieldsApart.wires (apart : t.FieldsApart input) {goes : String → Bool} {place : String → Field}
    (placed : ∀ key, goes key = true → t.fieldOf key = place (t.wireName key)) : t.WiresApart goes input := by
  intro key member other member' goes goes' same
  by_contra different
  refine apart key member other member' different (.inl ?_)
  rw [placed key goes, placed other goes', same]

theorem fieldOf_squid (key : String) (squid : t.isSquidKey key = true) : t.fieldOf key = .param (t.wireName key) :=
  if_pos squid

theorem fieldOf_function (key : String) (function : t.isFunctionKey key = true) :
    t.fieldOf key = .function (t.wireName key) := by
  unfold fieldOf
  rw [if_neg fun squid => by simp [not_function_of_squid squid] at function, if_pos function]

theorem fieldOf_task (key : String) (task : t.isTaskKey key = true) : t.fieldOf key = .task (t.wireName key) := by
  unfold isTaskKey at task
  unfold fieldOf
  simp only [Bool.and_eq_true, Bool.not_eq_true'] at task
  rw [task.1, task.2]
  rfl

theorem place_cases (key : String) : t.isSquidKey key = true ∨ t.isFunctionKey key = true ∨ t.isTaskKey key = true := by
  unfold isTaskKey
  cases t.isSquidKey key <;> cases t.isFunctionKey key <;> simp

theorem squid_of_param {key wire : String} (sent : t.fieldOf key = .param wire) :
    t.isSquidKey key = true ∧ t.wireName key = wire := by
  rcases place_cases (t := t) key with squid | function | task
  · rw [fieldOf_squid key squid] at sent
    cases sent
    exact ⟨squid, rfl⟩
  · rw [fieldOf_function key function] at sent
    cases sent
  · rw [fieldOf_task key task] at sent
    cases sent

theorem function_of_toggle {key wire : String} (sent : t.fieldOf key = .function wire) : t.isFunctionKey key = true := by
  rcases place_cases (t := t) key with squid | function | task
  · rw [fieldOf_squid key squid] at sent
    cases sent
  · exact function
  · rw [fieldOf_task key task] at sent
    cases sent

/-- Where no two keys meet, everything arrives. -/
theorem delivers_of_apart (distinct : (Dict.keys input).Nodup) (apart : t.FieldsApart input) :
    t.Delivers input (t.taskParams input) (t.squidParams input) := by
  have toggles : ∀ {key}, key ∈ Dict.keys input → t.isFunctionKey key = true → ∀ flat ∈ Dict.keys input,
      t.isSquidKey flat = true → t.wireName flat ≠ "functions" := by
    intro key member function flat member' squid named
    have different : flat ≠ key := by
      rintro rfl
      simp [not_function_of_squid squid] at function
    refine apart flat member' key member different (.inr (.inl ⟨?_, _, fieldOf_function key function⟩))
    rw [fieldOf_squid flat squid, named]
  refine ⟨apart, fun key value given => ?_, fun field value held => ?_⟩
  · have member := Dict.mem_keys_of_get? given
    rcases place_cases (t := t) key with squid | function | task
    · rw [fieldOf_squid key squid]
      show Dict.get? (t.squidParams input) (t.wireName key) = some value
      rw [get?_squidParams, if_neg]
      · exact get?_routed distinct (apart.wires fieldOf_squid) squid given
      · rintro ⟨named, nonempty⟩
        obtain ⟨toggle, member', function⟩ := key_of_routed nonempty
        exact toggles member' function key member squid named
    · rw [fieldOf_function key function]
      show (Dict.get? (t.squidParams input) "functions").bind _ = some value
      rw [get?_squidParams, if_pos ⟨rfl, routed_nonempty member function⟩]
      exact get?_routed distinct (apart.wires fieldOf_function) function given
    · rw [fieldOf_task key task]
      exact get?_routed distinct (apart.wires fieldOf_task) task given
  · have flat : ∀ {wire value}, Dict.get? (t.routed t.isSquidKey input) wire = some value →
        ∃ key ∈ Dict.keys input, t.fieldOf key = .param wire := by
      intro wire value read
      obtain ⟨key, member, squid, rfl⟩ := mem_keys_routed.mp (Dict.mem_keys_of_get? read)
      exact ⟨key, member, fieldOf_squid key squid⟩
    cases field with
    | task wire =>
      obtain ⟨key, member, task, rfl⟩ := mem_keys_routed.mp (Dict.mem_keys_of_get? held)
      exact ⟨key, member, .inl (fieldOf_task key task)⟩
    | param wire =>
      have read : Dict.get? (t.squidParams input) wire = some value := held
      rw [get?_squidParams] at read
      split at read
      · rename_i nested
        obtain ⟨rfl, nonempty⟩ := nested
        obtain ⟨key, member, function⟩ := key_of_routed nonempty
        exact ⟨key, member, .inr (.inr ⟨rfl, _, fieldOf_function key function⟩)⟩
      · obtain ⟨key, member, sent⟩ := flat read
        exact ⟨key, member, .inl sent⟩
    | function wire =>
      obtain ⟨functions, read, inner⟩ := Option.bind_eq_some_iff.mp held
      rw [get?_squidParams] at read
      split at read
      · cases read
        obtain ⟨key, member, function, rfl⟩ := mem_keys_routed.mp (Dict.mem_keys_of_get? inner)
        exact ⟨key, member, .inl (fieldOf_function key function)⟩
      · obtain ⟨key, member, sent⟩ := flat read
        exact ⟨key, member, .inr (.inl ⟨sent, _, rfl⟩)⟩

end Delivery
end Translated

/-! ### Which keys meet -/

/-- An entry names one of the levels there are, or none. -/
def InputItem.LevelKnown (item : InputItem) : Prop :=
  ∀ level, item.levelOrNone = some level → level ∈ ["", "task", "squid", "cluster", "function"]

def InputItem.Levelless (item : InputItem) : Prop := item.levelOrNone = none ∨ item.levelOrNone = some ""

/-- A name whose kept entry is at squid level, over an entry that names no level and for which `/params` does
not leave exactly one other section. -/
def FallsToSquid (crawler : Crawler) (params : Json) (name : String) : Prop :=
  ∃ kept twin, keptOf (itemsNamed crawler.input name) = some kept ∧ twinOf (itemsNamed crawler.input name) = some twin ∧
    kept.declaredLevel = "squid" ∧ twin.Levelless ∧ ((sectionsOf params name).filter (· ≠ "squid")).length ≠ 1

/-- An input that gives two values for one field: both entries of a name that falls to the squid level, or a
flat `functions` beside a toggle. -/
def Collides (crawler : Crawler) (t : Translated) (params : Json) (input : Fields) : Prop :=
  (∃ name ∈ Dict.keys input, FallsToSquid crawler params name ∧
    ∃ key ∈ Dict.keys input, Dict.get? t.wireNames key = some name) ∨
  ∃ key ∈ Dict.keys input, t.isSquidKey key = true ∧ t.wireName key = "functions" ∧
    ∃ toggle ∈ Dict.keys input, t.isFunctionKey toggle = true

theorem normalizedLevel_levelOrTask (item : InputItem) : normalizedLevel item.levelOrTask = item.declaredLevel := by
  unfold InputItem.declaredLevel InputItem.levelOrTask InputItem.levelOrNone
  cases item.level with
  | none => rfl
  | some level => cases level <;> rfl

theorem declaredLevel_known {item : InputItem} (known : item.LevelKnown) :
    item.declaredLevel = "task" ∨ item.declaredLevel = "squid" ∨ item.declaredLevel = "function" := by
  unfold InputItem.declaredLevel
  cases level : item.levelOrNone with
  | none => exact .inl rfl
  | some l =>
    have named := known l level
    simp only [List.mem_cons, List.not_mem_nil, or_false] at named
    rcases named with rfl | rfl | rfl | rfl | rfl <;> decide

theorem normalizedLevel_known {level : String} (known : level = "task" ∨ level = "squid" ∨ level = "function") :
    normalizedLevel (some level) = level := by
  rcases known with rfl | rfl | rfl <;> decide

section Shadowed
variable {params : Json} {name : String} {kept twin : InputItem}

/-- Where a shadowed entry goes: to the one section left of `/params`, else to the level it names, else to the
squid level. -/
theorem shadowedLevel_cases (params : Json) (name : String) (twin kept : InputItem) :
    (∃ level, (sectionsOf params name).filter (· ≠ kept.declaredLevel) = [level] ∧
      shadowedLevel name twin kept (levelsFromParams params) = level) ∨
    (((sectionsOf params name).filter (· ≠ kept.declaredLevel)).length ≠ 1 ∧
      ((∃ level, twin.levelOrNone = some level ∧ level ≠ "" ∧
          shadowedLevel name twin kept (levelsFromParams params) = level) ∨
        twin.Levelless ∧ shadowedLevel name twin kept (levelsFromParams params) = "squid")) := by
  have left : ((Dict.get? (levelsFromParams params) name).getD []).filter (· ≠ normalizedLevel kept.levelOrNone) =
      (sectionsOf params name).filter (· ≠ kept.declaredLevel) := rfl
  unfold shadowedLevel
  simp only [left]
  split
  · rename_i level single
    exact .inl ⟨level, single, rfl⟩
  · rename_i several
    right
    constructor
    · intro one
      obtain ⟨level, single⟩ := List.length_eq_one_iff.mp one
      exact several level single
    · unfold InputItem.Levelless
      cases twin.levelOrNone with
      | none => exact .inr ⟨.inl rfl, rfl⟩
      | some level =>
        by_cases empty : level = ""
        · subst empty
          exact .inr ⟨.inr rfl, rfl⟩
        · exact .inl ⟨level, rfl, empty, if_neg empty⟩

/-- The one section that is left lists the name, and is a level of its own. -/
theorem section_left {level : String} (single : (sectionsOf params name).filter (· ≠ kept.declaredLevel) = [level]) :
    level ∈ sectionsOf params name ∧ level ≠ kept.declaredLevel ∧ normalizedLevel (some level) = level := by
  have member : level ∈ (sectionsOf params name).filter (· ≠ kept.declaredLevel) := by
    rw [single]
    exact List.mem_singleton_self level
  obtain ⟨listed, other⟩ := List.mem_filter.mp member
  exact ⟨listed, of_decide_eq_true other, normalizedLevel_known (sectionsOf_known listed)⟩

/-- A shadowed entry goes where the kept one is declared only by falling to the squid level. -/
theorem shadowedLevel_meets_iff (params : Json) (name : String) (apart : twin.declaredLevel ≠ kept.declaredLevel) :
    normalizedLevel (some (shadowedLevel name twin kept (levelsFromParams params))) = kept.declaredLevel ↔
      kept.declaredLevel = "squid" ∧ twin.Levelless ∧ ((sectionsOf params name).filter (· ≠ "squid")).length ≠ 1 := by
  rcases shadowedLevel_cases params name twin kept with ⟨level, single, goes⟩ | ⟨several, ⟨level, names, some', goes⟩ | ⟨levelless, goes⟩⟩
  · obtain ⟨_, other, own⟩ := section_left single
    rw [goes, own]
    constructor
    · intro same
      exact absurd same other
    · rintro ⟨squid, _, several⟩
      rw [squid] at single
      rw [single] at several
      exact absurd rfl several
  · have own : normalizedLevel (some level) = twin.declaredLevel := by
      unfold InputItem.declaredLevel
      rw [names]
    rw [goes, own]
    constructor
    · intro same
      exact absurd same apart
    · rintro ⟨_, none' | empty, _⟩
      · rw [none'] at names
        cases names
      · rw [empty] at names
        cases names
        exact absurd rfl some'
  · rw [goes]
    show "squid" = kept.declaredLevel ↔ _
    constructor
    · intro squid
      rw [← squid] at several
      exact ⟨squid.symm, levelless, several⟩
    · exact fun falls => falls.1.symm

end Shadowed

section Keys
variable {crawler : Crawler} {params : Json} {a : Alias}

theorem levelOf_alias (listed : a ∈ aliasesIn crawler params) :
    (translateInputSchema crawler params).levelOf a.key = some a.level := by
  unfold Translated.levelOf
  rw [levels_alias listed]
  rfl

/-- An entry with a twin stays at its own level. -/
theorem levelOf_twinned {name : String} {kept twin : InputItem} (keeps : keptOf (itemsNamed crawler.input name) = some kept)
    (twinned : twinOf (itemsNamed crawler.input name) = some twin) :
    (translateInputSchema crawler params).levelOf name = kept.levelOrTask := by
  unfold Translated.levelOf
  rw [levels_kept keeps, twinned]
  rfl

theorem alias_level_known (known : ∀ item ∈ crawler.input, item.LevelKnown) (listed : a ∈ aliasesIn crawler params) :
    normalizedLevel (some a.level) = "task" ∨ normalizedLevel (some a.level) = "squid" ∨
      normalizedLevel (some a.level) = "function" := by
  obtain ⟨kept, keeps, twinned, level⟩ := alias_of_mem listed
  rw [level]
  rcases shadowedLevel_cases params a.name a.item kept with ⟨level, single, goes⟩ | ⟨_, ⟨level, names, _, goes⟩ | ⟨_, goes⟩⟩
  · obtain ⟨left, _, own⟩ := section_left single
    rw [goes, own]
    exact sectionsOf_known left
  · have own : normalizedLevel (some level) = a.item.declaredLevel := by
      unfold InputItem.declaredLevel
      rw [names]
    rw [goes, own]
    exact declaredLevel_known (known a.item (List.mem_of_mem_filter (twinOf_mem twinned)))
  · rw [goes]
    decide

/-- An alias meets the plain key of its name exactly when it falls to the squid level. -/
theorem alias_meets_iff (known : ∀ item ∈ crawler.input, item.LevelKnown) (listed : a ∈ aliasesIn crawler params) :
    (translateInputSchema crawler params).fieldOf a.key = (translateInputSchema crawler params).fieldOf a.name ↔
      FallsToSquid crawler params a.name := by
  obtain ⟨kept, keeps, twinned, level⟩ := alias_of_mem listed
  have declared : itemsNamed crawler.input a.name ≠ [] := List.ne_nil_of_mem (keptOf_mem keeps)
  have kept_known := declaredLevel_known (known kept (List.mem_of_mem_filter (keptOf_mem keeps)))
  rw [Translated.fieldOf_eq, Translated.fieldOf_eq, wireName_alias listed, wireName_declared declared,
    levelOf_alias listed, levelOf_twinned keeps twinned, normalizedLevel_levelOrTask]
  have meets := shadowedLevel_meets_iff params a.name (twinOf_apart keeps twinned)
  rw [← level] at meets
  constructor
  · intro same
    have levels := (Field.ofLevel_inj (alias_level_known known listed) kept_known same).1
    exact ⟨kept, a.item, keeps, twinned, meets.mp levels⟩
  · rintro ⟨kept', twin', keeps', twinned', falls⟩
    cases keeps.symm.trans keeps'
    cases twinned.symm.trans twinned'
    rw [meets.mpr falls]

/-- Keys with one wire name are an alias and the name it is of. -/
theorem wireName_cases {key other : String}
    (same : (translateInputSchema crawler params).wireName key = (translateInputSchema crawler params).wireName other) :
    key = other ∨ (∃ a ∈ aliasesIn crawler params, a.key = key ∧ a.name = other) ∨
      ∃ a ∈ aliasesIn crawler params, a.key = other ∧ a.name = key := by
  by_cases left : ∃ a ∈ aliasesIn crawler params, a.key = key
  · obtain ⟨a, listed, rfl⟩ := left
    rw [wireName_alias listed] at same
    by_cases right : ∃ b ∈ aliasesIn crawler params, b.key = other
    · obtain ⟨b, listed', rfl⟩ := right
      rw [wireName_alias listed'] at same
      exact .inl (alias_of_name listed listed' same ▸ rfl)
    · rw [wireName_plain fun b listed' equal => right ⟨b, listed', equal⟩] at same
      exact .inr (.inl ⟨a, listed, rfl, same⟩)
  · rw [wireName_plain fun b listed' equal => left ⟨b, listed', equal⟩] at same
    by_cases right : ∃ b ∈ aliasesIn crawler params, b.key = other
    · obtain ⟨b, listed', rfl⟩ := right
      rw [wireName_alias listed'] at same
      exact .inr (.inr ⟨b, listed', rfl, same.symm⟩)
    · rw [wireName_plain fun b listed' equal => right ⟨b, listed', equal⟩] at same
      exact .inl same

end Keys

/-! ### Routing -/

/-- Routing loses and merges nothing, but where an input gives two values for one field. -/
theorem delivers_iff_not_collides {crawler : Crawler} (known : ∀ item ∈ crawler.input, item.LevelKnown) (params : Json)
    {input : Fields} (distinct : (Dict.keys input).Nodup) :
    (translateInputSchema crawler params).Delivers input ((translateInputSchema crawler params).taskParams input)
        ((translateInputSchema crawler params).squidParams input) ↔
      ¬ Collides crawler (translateInputSchema crawler params) params input := by
  constructor
  · rintro ⟨apart, _, _⟩ (⟨name, member, falls, key, member', wired⟩ | ⟨key, member, squid, named, toggle, member', function⟩)
    · obtain ⟨a, listed, rfl, rfl⟩ := wireNames_iff.mp wired
      have different : a.key ≠ a.name := by
        intro same
        obtain ⟨_, keeps, _⟩ := alias_of_mem listed
        exact List.ne_nil_of_mem (keptOf_mem keeps) (same ▸ (alias_apart listed).1)
      exact apart _ member' _ member different (.inl ((alias_meets_iff known listed).mpr falls))
    · have different : key ≠ toggle := by
        rintro rfl
        simp [Translated.not_function_of_squid squid] at function
      refine apart key member toggle member' different (.inr (.inl ⟨?_, _, Translated.fieldOf_function toggle function⟩))
      rw [Translated.fieldOf_squid key squid, named]
  · intro free
    -- a flat `functions` and a toggle
    have nested : ∀ key ∈ Dict.keys input, ∀ other ∈ Dict.keys input, ∀ wire,
        (translateInputSchema crawler params).fieldOf key = .param "functions" →
        (translateInputSchema crawler params).fieldOf other ≠ .function wire := by
      intro key member other member' wire flat toggle
      obtain ⟨squid, named⟩ := Translated.squid_of_param flat
      exact free (.inr ⟨key, member, squid, named, other, member', Translated.function_of_toggle toggle⟩)
    -- an alias and its name
    have twins : ∀ a ∈ aliasesIn crawler params, a.key ∈ Dict.keys input → a.name ∈ Dict.keys input →
        (translateInputSchema crawler params).fieldOf a.key ≠ (translateInputSchema crawler params).fieldOf a.name := by
      intro a listed member member' same
      exact free (.inl ⟨a.name, member', (alias_meets_iff known listed).mp same, a.key, member,
        wireNames_iff.mpr ⟨a, listed, rfl, rfl⟩⟩)
    refine Translated.delivers_of_apart distinct fun key member other member' different overlap => ?_
    rcases overlap with same | ⟨flat, wire, toggle⟩ | ⟨flat, wire, toggle⟩
    · have names := congrArg Field.name same
      rw [Translated.name_fieldOf, Translated.name_fieldOf] at names
      rcases wireName_cases names with equal | ⟨a, listed, rfl, rfl⟩ | ⟨a, listed, rfl, rfl⟩
      · exact different equal
      · exact twins a listed member member' same
      · exact twins a listed member' member same.symm
    · exact nested key member other member' wire flat toggle
    · exact nested other member' key member wire flat toggle

/-- A crawler with a required squid-level `x`, and one that names no level. -/
def levellessTwin : Crawler where
  input := [{ name := "x", level := some (some "squid"), required := .bool true }, { name := "x" }]

def bothValues : Fields := [("x", .str "1"), ("squid_x", .str "2")]

/-- The input is valid; the second value is written over the first, and no row gets one. -/
theorem one_value_is_lost : (∀ item ∈ levellessTwin.input, item.LevelKnown) ∧ (Dict.keys bothValues).Nodup ∧
    validateInput bothValues (translateInputSchema levellessTwin .null) true = [] ∧
    (translateInputSchema levellessTwin .null).taskParams bothValues = [] ∧
    (translateInputSchema levellessTwin .null).squidParams bothValues = [("x", .str "2")] ∧
    ¬ (translateInputSchema levellessTwin .null).Delivers bothValues
      ((translateInputSchema levellessTwin .null).taskParams bothValues)
      ((translateInputSchema levellessTwin .null).squidParams bothValues) := by
  have row : (translateInputSchema levellessTwin .null).taskParams bothValues = [] := by decide +kernel
  have params : (translateInputSchema levellessTwin .null).squidParams bothValues = [("x", .str "2")] := by decide +kernel
  have sent : (translateInputSchema levellessTwin .null).fieldOf "x" = .param "x" := by decide +kernel
  refine ⟨?_, by decide, by decide +kernel, row, params, fun delivers => ?_⟩
  · intro item member level named
    simp only [levellessTwin, List.mem_cons, List.not_mem_nil, or_false] at member
    rcases member with rfl | rfl
    · cases named
      decide
    · cases named
  · have read := delivers.arrives "x" (.str "1") rfl
    rw [sent, row, params] at read
    exact absurd read (by decide)

def bothCountries : Fields := [("country", .str "France"), ("squid_country", .str "United States")]

theorem both_countries_arrive : (translateInputSchema countryTwice .null).Delivers bothCountries
    ((translateInputSchema countryTwice .null).taskParams bothCountries)
    ((translateInputSchema countryTwice .null).squidParams bothCountries) := by
  refine (delivers_iff_not_collides ?_ .null (by decide)).mpr ?_
  · intro item member level named
    simp only [countryTwice, List.mem_cons, List.not_mem_nil, or_false] at member
    rcases member with rfl | rfl <;> cases named <;> decide
  · rintro (⟨name, member, ⟨kept, _, keeps, _, squid, _⟩, _⟩ | ⟨key, member, _, named, _⟩)
    · have levels : ∀ name ∈ Dict.keys bothCountries,
          ((keptOf (itemsNamed countryTwice.input name)).map InputItem.declaredLevel) ≠ some "squid" := by decide +kernel
      apply levels name member
      rw [keeps, Option.map_some, squid]
    · have wires : ∀ key ∈ Dict.keys bothCountries,
          (translateInputSchema countryTwice .null).wireName key ≠ "functions" := by decide +kernel
      exact wires key member named

end LobstrMcp
