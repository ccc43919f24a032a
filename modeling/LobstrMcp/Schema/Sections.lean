import LobstrMcp.Data.DictKeys
import LobstrMcp.Model.SchemaTranslator

/-!
What a `/params` payload says of a name: the sections that list it, the level that is made of them,
and the spec that describes it.
-/

namespace LobstrMcp

/-- The payload's `squid` section. -/
def squidSection (params : Json) : Fields :=
  match params with
  | .obj params => ((Fields.get params "squid").asObj?).getD []
  | _ => []

def taskSection (params : Json) : Fields :=
  match params with
  | .obj params => ((Fields.get params "task").asObj?).getD []
  | _ => []

/-- A name is listed in the section of a level: among the task inputs, flat among the squid ones, or
among the function toggles nested there. -/
def ListedIn (params : Json) (name level : String) : Prop :=
  (level = "task" ∧ name ∈ Dict.keys (taskSection params)) ∨
  (level = "squid" ∧ name ≠ "functions" ∧ name ∈ Dict.keys (squidSection params)) ∨
  (level = "function" ∧ ∃ functions, ("functions", Json.obj functions) ∈ squidSection params ∧ name ∈ Dict.keys functions)

/-- The levels a table has for a name. -/
def levelsAt (at' : Dict String (List String)) (name : String) : List String := (Dict.get? at' name).getD []

/-- `params_levels.get(name, set())` -/
def sectionsOf (params : Json) (name : String) : List String := levelsAt (levelsFromParams params) name

section Tables
variable {at' : Dict String (List String)} {name other level level' : String}

theorem mem_addLevel : level' ∈ levelsAt (addLevel at' name level) other ↔
    (other = name ∧ level' = level) ∨ level' ∈ levelsAt at' other := by
  unfold addLevel levelsAt
  by_cases same : name = other
  · subst same
    by_cases held : level ∈ (Dict.get? at' name).getD []
    · simp only [held, if_true, Dict.get?_set_self, Option.getD_some, true_and]
      exact ⟨.inr, fun either => either.elim (fun same => same ▸ held) id⟩
    · simp [held, or_comm]
  · simp [same, Ne.symm same]

theorem nodup_addLevel (distinct : (Dict.keys at').Nodup) : (Dict.keys (addLevel at' name level)).Nodup :=
  Dict.nodup_keys_set distinct _ _

/-- One section, whose names are all at one level. -/
theorem mem_foldl_addLevel {entries : Fields} :
    level' ∈ levelsAt (entries.foldl (fun at' item => addLevel at' item.1 level) at') other ↔
      (other ∈ Dict.keys entries ∧ level' = level) ∨ level' ∈ levelsAt at' other := by
  induction entries generalizing at' with
  | nil => simp [Dict.keys]
  | cons entry rest ih =>
    rw [List.foldl_cons, ih, mem_addLevel, Dict.keys_cons, List.mem_cons]
    tauto

theorem nodup_foldl_addLevel {entries : Fields} (distinct : (Dict.keys at').Nodup) :
    (Dict.keys (entries.foldl (fun at' item => addLevel at' item.1 level) at')).Nodup := by
  induction entries generalizing at' with
  | nil => exact distinct
  | cons entry rest ih => exact ih (nodup_addLevel distinct)

/-- One round over the squid section. -/
def addSquid (at' : Dict String (List String)) (entry : String × Json) : Dict String (List String) :=
  if entry.1 = "functions" then
    match entry.2 with
    | .obj functions => functions.foldl (fun at' item => addLevel at' item.1 "function") at'
    | _ => at'
  else addLevel at' entry.1 "squid"

theorem mem_addSquid {entry : String × Json} : level ∈ levelsAt (addSquid at' entry) name ↔
    (level = "squid" ∧ name ≠ "functions" ∧ name = entry.1) ∨
    (level = "function" ∧ ∃ functions, ("functions", Json.obj functions) = entry ∧ name ∈ Dict.keys functions) ∨
    level ∈ levelsAt at' name := by
  obtain ⟨key, spec⟩ := entry
  unfold addSquid
  by_cases nested : key = "functions"
  · subst nested
    cases spec with
    | obj functions =>
      simp only [if_true, mem_foldl_addLevel, Prod.mk.injEq, Json.obj.injEq, true_and]
      constructor
      · rintro (⟨listed, rfl⟩ | before)
        · exact .inr (.inl ⟨rfl, functions, rfl, listed⟩)
        · exact .inr (.inr before)
      · rintro (⟨_, plain, absurd⟩ | ⟨rfl, _, rfl, listed⟩ | before)
        · exact (plain absurd).elim
        · exact .inl ⟨listed, rfl⟩
        · exact .inr before
    | _ => simp
  · simp only [if_neg nested, mem_addLevel, Prod.mk.injEq, Ne.symm nested, false_and, exists_const, and_false, false_or]
    constructor
    · rintro (⟨rfl, rfl⟩ | before)
      · exact .inl ⟨rfl, nested, rfl⟩
      · exact .inr before
    · rintro (⟨rfl, _, rfl⟩ | before)
      · exact .inl ⟨rfl, rfl⟩
      · exact .inr before

theorem nodup_addSquid (distinct : (Dict.keys at').Nodup) (entry : String × Json) :
    (Dict.keys (addSquid at' entry)).Nodup := by
  unfold addSquid
  split
  · split
    · exact nodup_foldl_addLevel distinct
    · exact distinct
  · exact nodup_addLevel distinct

theorem mem_foldl_addSquid {entries : Fields} : level ∈ levelsAt (entries.foldl addSquid at') name ↔
    (level = "squid" ∧ name ≠ "functions" ∧ name ∈ Dict.keys entries) ∨
    (level = "function" ∧ ∃ functions, ("functions", Json.obj functions) ∈ entries ∧ name ∈ Dict.keys functions) ∨
    level ∈ levelsAt at' name := by
  induction entries generalizing at' with
  | nil => simp [Dict.keys]
  | cons entry rest ih =>
    obtain ⟨key, spec⟩ := entry
    rw [List.foldl_cons, ih, mem_addSquid, Dict.keys_cons]
    simp only [List.mem_cons]
    constructor
    · rintro (⟨flat, plain, listed⟩ | ⟨toggle, functions, listed, member⟩ | ⟨flat, plain, same⟩ |
        ⟨toggle, functions, same, member⟩ | before)
      · exact .inl ⟨flat, plain, .inr listed⟩
      · exact .inr (.inl ⟨toggle, functions, .inr listed, member⟩)
      · exact .inl ⟨flat, plain, .inl same⟩
      · exact .inr (.inl ⟨toggle, functions, .inl same, member⟩)
      · exact .inr (.inr before)
    · rintro (⟨flat, plain, same | listed⟩ | ⟨toggle, functions, same | listed, member⟩ | before)
      · exact .inr (.inr (.inl ⟨flat, plain, same⟩))
      · exact .inl ⟨flat, plain, listed⟩
      · exact .inr (.inr (.inr (.inl ⟨toggle, functions, same, member⟩)))
      · exact .inr (.inl ⟨toggle, functions, listed, member⟩)
      · exact .inr (.inr (.inr (.inr before)))

theorem nodup_foldl_addSquid (distinct : (Dict.keys at').Nodup) (entries : Fields) :
    (Dict.keys (entries.foldl addSquid at')).Nodup := by
  induction entries generalizing at' with
  | nil => exact distinct
  | cons entry rest ih => exact ih (nodup_addSquid distinct entry)

end Tables

theorem levelsFromParams_eq (params : Json) : levelsFromParams params = (squidSection params).foldl addSquid
    ((taskSection params).foldl (fun at' item => addLevel at' item.1 "task") []) := by
  unfold levelsFromParams squidSection taskSection
  cases params with
  | obj params =>
    dsimp only
    cases Fields.get params "task" <;> cases Fields.get params "squid" <;> rfl
  | _ => rfl

/-- The sections of a name are those that list it. -/
theorem mem_sectionsOf {params : Json} {name level : String} : level ∈ sectionsOf params name ↔ ListedIn params name level := by
  unfold sectionsOf ListedIn
  rw [levelsFromParams_eq, mem_foldl_addSquid, mem_foldl_addLevel]
  simp only [levelsAt, Dict.get?_nil, Option.getD_none, List.not_mem_nil, or_false]
  rw [← or_assoc, or_comm, and_comm]

theorem sectionsOf_known {params : Json} {name level : String} (listed : level ∈ sectionsOf params name) :
    level = "task" ∨ level = "squid" ∨ level = "function" := by
  rcases mem_sectionsOf.mp listed with ⟨rfl, _⟩ | ⟨rfl, _⟩ | ⟨rfl, _⟩
  · exact .inl rfl
  · exact .inr (.inl rfl)
  · exact .inr (.inr rfl)

theorem nodup_levelsFromParams (params : Json) : (Dict.keys (levelsFromParams params)).Nodup := by
  rw [levelsFromParams_eq]
  have start : (Dict.keys ([] : Dict String (List String))).Nodup := List.nodup_nil
  exact nodup_foldl_addSquid (nodup_foldl_addLevel start) _

/-! ### Placement -/

theorem strongestLevel_mem {levels : List String} {level : String} (strongest : strongestLevel levels = some level) :
    level ∈ levels := by
  unfold strongestLevel at strongest
  simpa using List.find?_some strongest

theorem get?_placement (params : Json) (name : String) :
    Dict.get? (placementFromParams params) name = (Dict.get? (levelsFromParams params) name).bind strongestLevel :=
  Dict.get?_filterMap (nodup_levelsFromParams params) strongestLevel name

/-- The placement of a name is one of its sections. -/
theorem placement_mem {params : Json} {name level : String}
    (placed : Dict.get? (placementFromParams params) name = some level) : level ∈ sectionsOf params name := by
  rw [get?_placement] at placed
  obtain ⟨levels, read, strongest⟩ := Option.bind_eq_some_iff.mp placed
  unfold sectionsOf levelsAt
  rw [read]
  exact strongestLevel_mem strongest

/-- A name that is listed anywhere is placed. -/
theorem exists_placement {params : Json} {name level : String} (listed : level ∈ sectionsOf params name) :
    ∃ placed, Dict.get? (placementFromParams params) name = some placed := by
  have known := sectionsOf_known listed
  rw [get?_placement]
  unfold sectionsOf levelsAt at listed
  cases read : Dict.get? (levelsFromParams params) name with
  | none => simp [read] at listed
  | some levels =>
    rw [read] at listed
    have found : (strongestLevel levels).isSome = true := by
      unfold strongestLevel
      rw [List.find?_isSome]
      refine ⟨level, ?_, decide_eq_true listed⟩
      rcases known with rfl | rfl | rfl <;> simp
    exact Option.isSome_iff_exists.mp found

/-! ### Specs -/

/-- `/params` describes a squid input by a spec object, flat or under `functions`. -/
def DescribedIn (params : Json) (name : String) : Prop :=
  ∃ spec, (name ≠ "functions" ∧ (name, Json.obj spec) ∈ squidSection params) ∨
    ∃ functions, ("functions", Json.obj functions) ∈ squidSection params ∧ (name, Json.obj spec) ∈ functions

/-- One spec of a section. -/
def addSpec (specs : Dict String Fields) (entry : String × Json) : Dict String Fields :=
  match entry.2 with
  | .obj spec => Dict.set specs entry.1 spec
  | _ => specs

/-- One round over the specs of the squid section. -/
def addSquidSpec (specs : Dict String Fields) (entry : String × Json) : Dict String Fields :=
  match entry.2 with
  | .obj spec => if entry.1 = "functions" then spec.foldl addSpec specs else Dict.set specs entry.1 spec
  | _ => specs

theorem paramsOnlySpecs_eq (params : Json) : paramsOnlySpecs params = (squidSection params).foldl addSquidSpec [] := by
  unfold paramsOnlySpecs squidSection
  cases params with
  | obj params =>
    dsimp only
    cases Fields.get params "squid" <;> rfl
  | _ => rfl

section Specs
variable {specs : Dict String Fields} {name : String}

theorem mem_keys_addSpec {entry : String × Json} : name ∈ Dict.keys (addSpec specs entry) ↔
    (∃ spec, entry = (name, .obj spec)) ∨ name ∈ Dict.keys specs := by
  obtain ⟨key, value⟩ := entry
  unfold addSpec
  cases value with
  | obj spec => simp [Dict.mem_keys_set, eq_comm]
  | _ => simp

theorem mem_keys_foldl_addSpec {entries : Fields} : name ∈ Dict.keys (entries.foldl addSpec specs) ↔
    (∃ spec, (name, Json.obj spec) ∈ entries) ∨ name ∈ Dict.keys specs := by
  induction entries generalizing specs with
  | nil => simp
  | cons entry rest ih =>
    rw [List.foldl_cons, ih, mem_keys_addSpec]
    simp only [List.mem_cons, exists_or, eq_comm]
    tauto

theorem mem_keys_addSquidSpec {entry : String × Json} : name ∈ Dict.keys (addSquidSpec specs entry) ↔
    (∃ spec, (name ≠ "functions" ∧ entry = (name, .obj spec)) ∨
      ∃ functions, entry = ("functions", .obj functions) ∧ (name, .obj spec) ∈ functions) ∨
    name ∈ Dict.keys specs := by
  obtain ⟨key, value⟩ := entry
  unfold addSquidSpec
  cases value with
  | obj spec =>
    by_cases nested : key = "functions"
    · subst nested
      simp only [if_true, mem_keys_foldl_addSpec, Prod.mk.injEq, Json.obj.injEq, true_and]
      constructor
      · rintro (⟨inner, listed⟩ | before)
        · exact .inl ⟨inner, .inr ⟨spec, rfl, listed⟩⟩
        · exact .inr before
      · rintro (⟨inner, ⟨plain, absurd, _⟩ | ⟨_, rfl, listed⟩⟩ | before)
        · exact (plain absurd.symm).elim
        · exact .inl ⟨inner, listed⟩
        · exact .inr before
    · dsimp only
      rw [if_neg nested, Dict.mem_keys_set]
      simp only [Prod.mk.injEq, Json.obj.injEq, nested, false_and, exists_const, or_false]
      constructor
      · rintro (rfl | before)
        · exact .inl ⟨spec, nested, rfl, rfl⟩
        · exact .inr before
      · rintro (⟨_, _, same, _⟩ | before)
        · exact .inl same.symm
        · exact .inr before
  | _ => simp

theorem mem_keys_foldl_addSquidSpec {entries : Fields} : name ∈ Dict.keys (entries.foldl addSquidSpec specs) ↔
    (∃ spec, (name ≠ "functions" ∧ (name, Json.obj spec) ∈ entries) ∨
      ∃ functions, ("functions", Json.obj functions) ∈ entries ∧ (name, Json.obj spec) ∈ functions) ∨
    name ∈ Dict.keys specs := by
  induction entries generalizing specs with
  | nil => simp
  | cons entry rest ih =>
    rw [List.foldl_cons, ih, mem_keys_addSquidSpec]
    constructor
    · rintro (⟨spec, ⟨plain, listed⟩ | ⟨functions, listed, inner⟩⟩ | ⟨spec, ⟨plain, rfl⟩ | ⟨functions, rfl, inner⟩⟩ | before)
      · exact .inl ⟨spec, .inl ⟨plain, List.mem_cons_of_mem _ listed⟩⟩
      · exact .inl ⟨spec, .inr ⟨functions, List.mem_cons_of_mem _ listed, inner⟩⟩
      · exact .inl ⟨spec, .inl ⟨plain, List.mem_cons_self⟩⟩
      · exact .inl ⟨spec, .inr ⟨functions, List.mem_cons_self, inner⟩⟩
      · exact .inr before
    · rintro (⟨spec, ⟨plain, listed⟩ | ⟨functions, listed, inner⟩⟩ | before)
      · rcases List.mem_cons.mp listed with same | later
        · exact .inr (.inl ⟨spec, .inl ⟨plain, same.symm⟩⟩)
        · exact .inl ⟨spec, .inl ⟨plain, later⟩⟩
      · rcases List.mem_cons.mp listed with same | later
        · exact .inr (.inl ⟨spec, .inr ⟨functions, same.symm, inner⟩⟩)
        · exact .inl ⟨spec, .inr ⟨functions, later, inner⟩⟩
      · exact .inr (.inr before)

end Specs

theorem mem_keys_paramsOnlySpecs {params : Json} {name : String} :
    name ∈ Dict.keys (paramsOnlySpecs params) ↔ DescribedIn params name := by
  rw [paramsOnlySpecs_eq, mem_keys_foldl_addSquidSpec]
  exact ⟨fun either => either.resolve_right List.not_mem_nil, .inl⟩

theorem nodup_foldl_addSpec {specs : Dict String Fields} (distinct : (Dict.keys specs).Nodup) (entries : Fields) :
    (Dict.keys (entries.foldl addSpec specs)).Nodup := by
  induction entries generalizing specs with
  | nil => exact distinct
  | cons entry rest ih =>
    apply ih
    unfold addSpec
    split
    · exact Dict.nodup_keys_set distinct _ _
    · exact distinct

theorem nodup_paramsOnlySpecs (params : Json) : (Dict.keys (paramsOnlySpecs params)).Nodup := by
  have step : ∀ specs entry, (Dict.keys specs).Nodup → (Dict.keys (addSquidSpec specs entry)).Nodup := by
    intro specs entry distinct
    unfold addSquidSpec
    split
    · split
      · exact nodup_foldl_addSpec distinct _
      · exact Dict.nodup_keys_set distinct _ _
    · exact distinct
  have start : (Dict.keys ([] : Dict String Fields)).Nodup := List.nodup_nil
  rw [paramsOnlySpecs_eq]
  exact List.foldlRecOn (squidSection params) addSquidSpec start fun specs distinct entry _ => step specs entry distinct

end LobstrMcp
