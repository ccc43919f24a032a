import LobstrMcp.Tools.StepByStep
import LobstrMcp.Tools.UpdateScraper

/-!
What becomes of a config or a task row when its aliases are translated. `run_scraper` splits an input by level
first; the steps translate a dictionary as a whole, so an alias and the name it is of meet on one key.
-/

namespace LobstrMcp
open Interaction Tool

/-- A dictionary has each key once, and so has the one under its "functions". -/
structure DistinctKeys (values : Fields) : Prop where
  keys : (Dict.keys values).Nodup
  toggles : ∀ functions, Dict.get? values "functions" = some (.obj functions) → (Dict.keys functions).Nodup

namespace Translated
variable (t : Translated)

/-- As many entries are sent as were given, each under its wire name and with its value; the function toggles, if
they are a dictionary, so among themselves. -/
structure Keeps (values sent : Fields) : Prop where
  count : sent.length = values.length
  entries : ∀ key value, Dict.get? values key = some value → (key = "functions" → value.asObj? = none) →
    Dict.get? sent (t.wireName key) = some value
  toggles : ∀ functions, Dict.get? values "functions" = some (.obj functions) → ∃ toggles,
    Dict.get? sent "functions" = some (.obj toggles) ∧ toggles.length = functions.length ∧
      ∀ key value, Dict.get? functions key = some value → Dict.get? toggles (t.wireName key) = some value

/-- No alias stands beside the name it is of. -/
def Apart (d : Fields) : Prop :=
  ∀ key name, Dict.get? t.wireNames key = some name → key ∈ Dict.keys d → name ∉ Dict.keys d

/-- Neither in the dictionary nor under its "functions", which is a dictionary too if it is there. -/
structure TellsApart (values : Fields) : Prop where
  flat : t.Apart values
  functions : ∀ value, Dict.get? values "functions" = some value →
    ∃ functions, value = .obj functions ∧ t.Apart functions

end Translated

/-! ### Aliases -/

section Aliases
variable {crawler : Crawler} {params : Json} {d values : Fields}

theorem key_of_aliasesFrom {paramsLevels : Dict String (List String)} {seen shadowed : Dict String InputItem}
    {t : Translated} {a : Alias} (listed : a ∈ aliasesFrom paramsLevels seen t shadowed) :
    ∃ level taken, a.key = aliasName level a.name taken := by
  induction shadowed generalizing t with
  | nil => cases listed
  | cons entry rest ih =>
    rcases List.mem_cons.mp listed with rfl | later
    · exact ⟨_, _, rfl⟩
    · exact ih later

theorem aliasCandidate_underscore (level name : String) (n : Nat) :
    '_' ∈ (aliasCandidate s!"{level}_{name}" n).toList := by
  cases n <;> simp [aliasCandidate, toString]

/-- The section of the toggles is no alias. -/
theorem wireName_functions : (translateInputSchema crawler params).wireName "functions" = "functions" := by
  refine wireName_plain fun a listed same => ?_
  obtain ⟨level, taken, key⟩ := key_of_aliasesFrom listed
  obtain ⟨n, named, _⟩ := aliasName_first level a.name taken
  have underscore := aliasCandidate_underscore (normalizedLevel (some level)) a.name n
  rw [← named, ← key, same] at underscore
  exact absurd underscore (by decide)

/-- Two keys meet where one is an alias of the other. -/
theorem apart_iff : (translateInputSchema crawler params).Apart d ↔ ∀ key ∈ Dict.keys d, ∀ other ∈ Dict.keys d,
    (translateInputSchema crawler params).wireName key = (translateInputSchema crawler params).wireName other →
      key = other := by
  constructor
  · intro apart key member other member' same
    rcases wireName_cases same with equal | ⟨a, listed, rfl, rfl⟩ | ⟨a, listed, rfl, rfl⟩
    · exact equal
    · exact (apart _ _ (wireNames_iff.mpr ⟨a, listed, rfl, rfl⟩) member member').elim
    · exact (apart _ _ (wireNames_iff.mpr ⟨a, listed, rfl, rfl⟩) member' member).elim
  · intro injective key name wired member member'
    obtain ⟨a, listed, rfl, rfl⟩ := wireNames_iff.mp wired
    obtain ⟨kept, keeps, _⟩ := alias_of_mem listed
    have plain : (translateInputSchema crawler params).wireName a.name = a.name :=
      wireName_declared (List.ne_nil_of_mem (keptOf_mem keeps))
    exact alias_key_ne listed (injective _ member _ member' ((wireName_alias listed).trans plain.symm))

/-! ### What is kept -/

theorem mem_keys_erase {k l : String} : l ∈ Dict.keys (Dict.erase d k) ↔ l ≠ k ∧ l ∈ Dict.keys d := by
  rw [Dict.mem_keys_iff, Dict.mem_keys_iff, Dict.contains, Dict.contains, Dict.get?_erase]
  by_cases same : k = l
  · simp [same]
  · simp [same, Ne.symm same]

theorem applyWireNames_functions {functions : Fields} (held : Dict.get? values "functions" = some (.obj functions))
    (t : Translated) : applyWireNames values t.wireNames =
      Dict.set (Dict.mapKeys t.wireName (Dict.erase values "functions")) "functions"
        (.obj (Dict.mapKeys t.wireName functions)) := by
  unfold applyWireNames
  rw [Fields.get_of_get? held]
  rfl

theorem applyWireNames_sectionless (other : (Fields.get values "functions").asObj? = none) (t : Translated) :
    applyWireNames values t.wireNames = Dict.mapKeys t.wireName (Dict.erase values "functions") := by
  unfold applyWireNames
  cases held : Fields.get values "functions" with
  | obj functions =>
    rw [held] at other
    cases other
  | _ => rfl

theorem applyWireNames_plain (plain : Dict.get? values "functions" = none) (t : Translated) :
    applyWireNames values t.wireNames = Dict.mapKeys t.wireName values := by
  have absent : Fields.get values "functions" = .null := by
    unfold Fields.get
    rw [plain]
    rfl
  rw [applyWireNames_sectionless (by rw [absent]; rfl), Dict.erase_absent plain]

theorem keeps_of_tellsApart (keyed : DistinctKeys values)
    (apart : (translateInputSchema crawler params).TellsApart values) :
    (translateInputSchema crawler params).Keeps values
      (applyWireNames values (translateInputSchema crawler params).wireNames) := by
  have injective := apart_iff.mp apart.flat
  cases held : Dict.get? values "functions" with
  | none =>
    rw [applyWireNames_plain held]
    refine ⟨(Dict.length_mapKeys_iff keyed.keys _).mpr injective, fun key value read _ =>
      Dict.get?_mapKeys keyed.keys injective read, fun functions there => ?_⟩
    rw [held] at there
    cases there
  | some value =>
    obtain ⟨functions, rfl, nested⟩ := apart.functions value held
    have inner := apart_iff.mp nested
    have distinct : (Dict.keys (Dict.erase values "functions")).Nodup := Dict.nodup_keys_filter keyed.keys _
    have flat : ∀ key ∈ Dict.keys (Dict.erase values "functions"), ∀ other ∈ Dict.keys (Dict.erase values "functions"),
        (translateInputSchema crawler params).wireName key = (translateInputSchema crawler params).wireName other →
          key = other := fun key member other member' =>
      injective key (mem_keys_erase.mp member).2 other (mem_keys_erase.mp member').2
    have section' : "functions" ∈ Dict.keys values := Dict.mem_keys_of_get? held
    -- nothing else is sent as "functions"
    have free : "functions" ∉
        Dict.keys (Dict.mapKeys (translateInputSchema crawler params).wireName (Dict.erase values "functions")) := by
      intro taken
      obtain ⟨key, member, wired⟩ := Dict.mem_keys_mapKeys.mp taken
      obtain ⟨other, within⟩ := mem_keys_erase.mp member
      exact other (injective key within _ section' (wired.trans wireName_functions.symm))
    rw [applyWireNames_functions held]
    constructor
    · rw [Dict.length_set, if_neg free, (Dict.length_mapKeys_iff distinct _).mpr flat,
        Dict.length_erase keyed.keys held]
    · intro key value read plain
      have other : key ≠ "functions" := by
        rintro rfl
        rw [held] at read
        cases read
        cases plain rfl
      have erased : Dict.get? (Dict.erase values "functions") key = some value := by
        rw [Dict.get?_erase, if_neg (Ne.symm other)]
        exact read
      have sent := Dict.get?_mapKeys distinct flat erased
      rw [Dict.get?_set, if_neg]
      · exact sent
      · intro same
        rw [← same] at sent
        exact free (Dict.mem_keys_of_get? sent)
    · intro given there
      rw [held] at there
      cases there
      have unique := keyed.toggles functions held
      exact ⟨_, Dict.get?_set_self _ _ _, (Dict.length_mapKeys_iff unique _).mpr inner, fun key value read =>
        Dict.get?_mapKeys unique inner read⟩

theorem tellsApart_of_keeps (keyed : DistinctKeys values) (keeps : (translateInputSchema crawler params).Keeps values
    (applyWireNames values (translateInputSchema crawler params).wireNames)) :
    (translateInputSchema crawler params).TellsApart values := by
  have count := keeps.count
  have distinct : (Dict.keys (Dict.erase values "functions")).Nodup := Dict.nodup_keys_filter keyed.keys _
  have fewer := Dict.length_mapKeys_le (translateInputSchema crawler params).wireName (Dict.erase values "functions")
  cases held : Dict.get? values "functions" with
  | none =>
    rw [applyWireNames_plain held] at count
    refine ⟨apart_iff.mpr ((Dict.length_mapKeys_iff keyed.keys _).mp count), fun value there => ?_⟩
    rw [held] at there
    cases there
  | some value =>
    have shorter := Dict.length_erase keyed.keys held
    cases object : value.asObj? with
    | none =>
      -- it is dropped
      rw [applyWireNames_sectionless (by rw [Fields.get_of_get? held]; exact object)] at count
      omega
    | some functions =>
      have same : value = .obj functions := by
        cases value <;> cases object
        rfl
      subst same
      rw [applyWireNames_functions held, Dict.length_set] at count
      split at count
      · omega
      rename_i free
      have flat := (Dict.length_mapKeys_iff distinct (translateInputSchema crawler params).wireName).mp (by omega)
      refine ⟨apart_iff.mpr fun key member other member' same => ?_, fun value there => ?_⟩
      · have taken {k l : String} (here : k ∈ Dict.keys values) (apart : k ≠ "functions") (named : l = "functions")
            (meets : (translateInputSchema crawler params).wireName k =
              (translateInputSchema crawler params).wireName l) :
            False := by
          rw [named, wireName_functions] at meets
          exact free (Dict.mem_keys_mapKeys.mpr ⟨k, mem_keys_erase.mpr ⟨apart, here⟩, meets⟩)
        by_cases left : key = "functions"
        · by_cases right : other = "functions"
          · rw [left, right]
          · exact (taken member' right left same.symm).elim
        · by_cases right : other = "functions"
          · exact (taken member left right same).elim
          · exact flat key (mem_keys_erase.mpr ⟨left, member⟩) other (mem_keys_erase.mpr ⟨right, member'⟩) same
      · rw [held] at there
        cases there
        obtain ⟨toggles, sent, length, _⟩ := keeps.toggles functions held
        rw [applyWireNames_functions held, Dict.get?_set_self] at sent
        cases sent
        exact ⟨functions, rfl, apart_iff.mpr
          ((Dict.length_mapKeys_iff (keyed.toggles functions held) _).mp length)⟩

end Aliases

/-! ### What the tools send -/

/-- The wire names of a published schema, or none. -/
def SchemaNames (names : Dict String String) : Prop :=
  names = [] ∨ ∃ crawler params, names = (translateInputSchema crawler params).wireNames

/-- A row as it goes out. -/
def rowSent (names : Dict String String) (task : Json) : Json :=
  match task with
  | .obj row => .obj (applyWireNames row names)
  | other => other

/-- The rows that an operation adds are the given ones, translated. -/
def Call.AddsTranslated (tasks : List Json) (c : Call) : Prop :=
  match c with
  | .addTasks _ rows => ∃ names, SchemaNames names ∧ rows = tasks.map (rowSent names)
  | _ => True

/-- The params that an operation saves, if it saves any, are made so by the names of a schema. -/
def Call.SavesTranslated (made : Dict String String → Fields → Prop) (c : Call) : Prop :=
  match c with
  | .updateSquid _ settings => ∀ params, Dict.get? settings "params" = some params →
      ∃ names saved, SchemaNames names ∧ params = .obj saved ∧ made names saved
  | _ => True

theorem Call.Fetches.addsTranslated {c : Call} (fetches : c.Fetches) (tasks : List Json) : c.AddsTranslated tasks := by
  cases c <;> first | trivial | cases fetches.1

theorem Call.Fetches.savesTranslated {c : Call} (fetches : c.Fetches) (made : Dict String String → Fields → Prop) :
    c.SavesTranslated made := by
  cases c <;> first | trivial | cases fetches.1

theorem ends_translatedSchema (crawlerId : Json) : (translatedSchema crawlerId).Ends fun r =>
    ∀ found, r = .ok found → ∀ t, found = some t → SchemaNames t.wireNames := by
  unfold translatedSchema
  refine Program.ends_bind_value fun answer => ?_
  cases answer with
  | error e =>
    rintro found ⟨⟩ t absurd
    cases absurd
  | ok crawler =>
    refine Program.ends_bind_value fun params => ?_
    rintro found ⟨⟩ t ⟨⟩
    exact .inr ⟨crawler, params, rfl⟩

theorem ends_squidAndWireNames (squidId : String) : (squidAndWireNames squidId).Ends fun r =>
    ∀ found, r = .ok found → SchemaNames found.1 := by
  unfold squidAndWireNames
  refine Program.ends_bind_value fun answer => ?_
  cases answer with
  | error e =>
    rintro found ⟨⟩
    exact .inl rfl
  | ok squid =>
    dsimp only
    split
    · rintro found ⟨⟩
      exact .inl rfl
    refine Program.ends_bind.mpr ((ends_translatedSchema _).mono fun r names => ?_)
    cases r with
    | error e => exact fun found absurd => by cases absurd
    | ok schema =>
      cases schema with
      | none =>
        rintro found ⟨⟩
        exact .inl rfl
      | some t =>
        rintro found ⟨⟩
        exact names (some t) rfl t rfl

/-- A config as it is checked: completed by declared defaults, or as it was given. -/
def Completed (config values : Fields) : Prop :=
  ∃ t : Translated, ∃ fills : Dict String Json, fills.foldlM (fillDefault t) config = some values

theorem ends_checkConfig (crawlerId : Json) (config : Fields) : (checkConfig crawlerId config).Ends fun r =>
    ∀ checked, r = .ok checked → SchemaNames checked.wireNames ∧ Completed config checked.values := by
  have unchanged : Completed config config := ⟨{}, [], rfl⟩
  unfold checkConfig
  split
  · rintro checked ⟨⟩
    exact ⟨.inl rfl, unchanged⟩
  refine Program.ends_bind.mpr ((ends_translatedSchema _).mono fun r names => ?_)
  cases r with
  | error e => exact fun checked absurd => by cases absurd
  | ok schema =>
    cases schema with
    | none =>
      rintro checked ⟨⟩
      exact ⟨.inl rfl, unchanged⟩
    | some t =>
      dsimp only
      split
      · exact fun checked absurd => by cases absurd
      · split
        · rename_i values filled
          rintro checked ⟨⟩
          exact ⟨names (some t) rfl t rfl, t, t.defaultsToFill, filled⟩
        · exact fun checked absurd => by cases absurd

theorem uses_addTasksBody (squidId : String) (tasks : List Json) :
    (addTasksBody squidId tasks).Uses (Call.AddsTranslated tasks) := by
  unfold addTasksBody
  split
  · trivial
  refine Program.uses_bind_of_ends ((uses_squidAndWireNames squidId).mono fun _ fetches => fetches.addsTranslated tasks)
    (ends_squidAndWireNames squidId) fun found names => ?_
  refine Program.uses_bind ((uses_send _).mpr ⟨found.1, names, ?_⟩) fun _ => trivial
  exact List.map_congr_left fun task _ => by cases task <;> rfl

theorem uses_updateScraper (squidId : String) (name : Option String) (config : Fields) (concurrency : Option Int) :
    (updateScraper squidId name config concurrency).Uses (Call.SavesTranslated fun names saved =>
      ∃ squid, saved = effectiveSettings squid (applyWireNames (Dict.erase config "concurrency") names)) := by
  unfold updateScraper
  dsimp only
  split
  · trivial
  refine Program.uses_bind_of_ends ((uses_squidAndWireNames squidId).mono fun _ fetches => fetches.savesTranslated _)
    (ends_squidAndWireNames squidId) fun found names => ?_
  refine Program.uses_bind ((uses_send _).mpr fun params sent => ?_) fun _ => trivial
  by_cases given : Dict.erase config "concurrency" = []
  · rw [given] at sent
    have silent : Dict.contains (updateScraperBody squidId name [] (effectiveConcurrency concurrency config) found.1
        found.2) "params" = false := updateScraperBody_no_params
    rw [Dict.contains, sent] at silent
    cases silent
  · have saved : Fields.get (updateScraperBody squidId name (Dict.erase config "concurrency")
        (effectiveConcurrency concurrency config) found.1 found.2) "params" = _ := updateScraperBody_params given
    rw [Fields.get_of_get? sent] at saved
    exact ⟨found.1, _, names, saved, found.2, rfl⟩

theorem uses_createSquidBody (lower : String → String) (scraper : String) (name : Option String) (config : Fields)
    (concurrency : Option Int) :
    (createSquidBody lower scraper name config concurrency).Uses (Call.SavesTranslated fun names saved =>
      ∃ values, Completed (Dict.erase config "concurrency") values ∧ saved = applyWireNames values names) := by
  unfold createSquidBody
  refine Program.uses_bind (uses_resolveCrawlerId _ _ trivial) fun crawlerId => ?_
  dsimp only
  refine Program.uses_bind_of_ends ((uses_checkConfig _ _).mono fun _ fetches => fetches.savesTranslated _)
    (ends_checkConfig _ _) fun cfg checked => ?_
  refine Program.uses_bind ((uses_send _).mpr trivial) fun squid => ?_
  split
  · trivial
  refine Program.uses_bind (Program.uses_bind
    ((uses_request _).mpr fun params sent => ?_) fun answer => ?_) fun _ => trivial
  · refine ⟨cfg.wireNames, applyWireNames cfg.values cfg.wireNames, checked.1, ?_, cfg.values, checked.2, rfl⟩
    by_cases empty : cfg.values.isEmpty = true
    · by_cases none' : effectiveConcurrency concurrency config = .null <;> simp [empty, none'] at sent
    · by_cases none' : effectiveConcurrency concurrency config = .null <;> simpa [empty, none'] using sent.symm
  · cases answer with
    | ok _ => trivial
    | error e =>
      cases e with
      | api rejection =>
        refine Program.uses_bind ?_ fun _ => trivial
        unfold configRejected
        dsimp only
        refine Program.uses_bind ((uses_request _).mpr trivial) fun deleted => ?_
        cases deleted <;> trivial
      | _ => trivial

section Runs
variable {σ : Type} {W : World Call Answer σ} {u v : σ} {tr : List (Event Call Answer σ)} {r : Except Exc Fields}
  {name : Option String} {config : Fields} {concurrency : Option Int}

/-- `add_tasks` sends every row it is given, translated by the names of a schema. -/
theorem addTasks_translates {squidId : String} {tasks : List Json}
    (run : Exec W (addTasksImpl squidId tasks) u tr r v) : ∀ e ∈ tr, e.op.AddsTranslated tasks := by
  obtain ⟨outcome, body, -⟩ := exec_structured.mp run
  exact body.uses (uses_addTasksBody squidId tasks)

/-- `update_scraper` saves its config, translated, over what the squid had. -/
theorem updateScraper_translates {squidId : String}
    (run : Exec W (updateScraperImpl squidId name config concurrency) u tr r v) :
    ∀ e ∈ tr, e.op.SavesTranslated fun names saved =>
      ∃ squid, saved = effectiveSettings squid (applyWireNames (Dict.erase config "concurrency") names) := by
  obtain ⟨outcome, body, -⟩ := exec_structured.mp run
  exact body.uses (uses_updateScraper squidId name config concurrency)

/-- `create_squid` saves its config, completed and translated. -/
theorem createSquid_translates {lower : String → String} {scraper : String}
    (run : Exec W (createSquidImpl lower scraper name config concurrency) u tr r v) :
    ∀ e ∈ tr, e.op.SavesTranslated fun names saved =>
      ∃ values, Completed (Dict.erase config "concurrency") values ∧ saved = applyWireNames values names := by
  obtain ⟨outcome, body, -⟩ := exec_structured.mp run
  exact body.uses (uses_createSquidBody lower scraper name config concurrency)

end Runs

/-- Every entry of a config or a row is sent, under its wire name and with its value, exactly when no alias stands
beside the name it is of, neither among the entries nor among the function toggles, and these are a dictionary. -/
theorem alias_translation_keeps_iff (crawler : Crawler) (params : Json) {values : Fields}
    (keyed : DistinctKeys values) :
    (translateInputSchema crawler params).Keeps values
        (applyWireNames values (translateInputSchema crawler params).wireNames) ↔
      (translateInputSchema crawler params).TellsApart values :=
  ⟨tellsApart_of_keeps keyed, keeps_of_tellsApart keyed⟩

def regionOnly : Fields := [("squid_country", .str "US"), ("functions", .obj [("details", .bool true)])]

/-- An alias without the plain name is kept, and so is what is under "functions". -/
theorem alias_alone_is_kept : (translateInputSchema countryTwice .null).Keeps regionOnly
    (applyWireNames regionOnly (translateInputSchema countryTwice .null).wireNames) := by
  have keyed : DistinctKeys regionOnly := by
    refine ⟨by decide, fun functions held => ?_⟩
    cases held
    decide
  have wires : (translateInputSchema countryTwice .null).wireNames = [("squid_country", "country")] := by decide +kernel
  have apart (d : Fields) (free : "country" ∉ Dict.keys d) : (translateInputSchema countryTwice .null).Apart d := by
    intro key name wired _
    rw [wires] at wired
    have only := Dict.mem_of_get? wired
    simp only [List.mem_singleton, Prod.mk.injEq] at only
    rwa [only.2]
  refine (alias_translation_keeps_iff countryTwice .null keyed).mpr ⟨apart _ (by decide), fun value held => ?_⟩
  cases held
  exact ⟨_, rfl, apart _ (by decide)⟩

/-- A crawler whose rows and whose squid have a country. -/
def countryApi : Machine Call Answer Unit := steadyApi (plainRecord "squid" .null) (.ok []) fun _ => countryTwice

def countryPair : Fields := [("country", .str "FR"), ("squid_country", .str "US")]

/-- Of a row with both countries one is sent: the alias is written over the plain name. -/
theorem alias_overwrites_plain_name :
    rowsSent (changes ((addTasksImpl "squid" [.obj countryPair]).trace countryApi ())) =
        [.obj [("country", .str "US")]] ∧
      DistinctKeys countryPair ∧ ¬ (translateInputSchema countryTwice .null).Keeps countryPair
        (applyWireNames countryPair (translateInputSchema countryTwice .null).wireNames) := by
  refine ⟨by decide +kernel, ⟨by decide, fun functions absurd => by cases absurd⟩, fun keeps => ?_⟩
  have sent : applyWireNames countryPair (translateInputSchema countryTwice .null).wireNames =
      [("country", .str "US")] := by decide +kernel
  have count := keeps.count
  rw [sent] at count
  cases count

end LobstrMcp
