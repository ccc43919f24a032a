import LobstrMcp.Model.Primitives
import LobstrMcp.Run.Attached

/-!
`update_scraper`, and what its save leaves as it was. The API replaces params wholesale, so a
saved param that is not in the body is lost.
-/

namespace LobstrMcp
open Interaction Tool

variable {σ : Type}

/-! ### What a call has read -/

def squidAnswered (e : Event Call Answer σ) : Option Fields :=
  match e.op, e.ans with
  | .getSquid _, .ok record => some record
  | _, _ => none

def crawlerAnswered (e : Event Call Answer σ) : Option Crawler :=
  match e.op, e.ans with
  | .getCrawler _, .ok crawler => some crawler
  | _, _ => none

def paramsAnswered (e : Event Call Answer σ) : Option Json :=
  match e.op, e.ans with
  | .getCrawlerParams _, .ok payload => some payload
  | _, _ => none

def squidRead (tr : List (Event Call Answer σ)) : Option Fields := tr.findSome? squidAnswered

def schemaRead (tr : List (Event Call Answer σ)) : Option Translated :=
  (tr.findSome? crawlerAnswered).map fun crawler =>
    translateInputSchema crawler ((tr.findSome? paramsAnswered).getD .null)

/-- The wire names a call knows: those of the schema it read. -/
def namesRead (tr : List (Event Call Answer σ)) : Dict String String :=
  ((schemaRead tr).map Translated.wireNames).getD []

section Reads
variable {W : World Call Answer σ} {st mid : σ} {tr : List (Event Call Answer σ)}

theorem exec_translatedSchema {crawlerId : Json} {r : Except Exit (Option Translated)}
    (run : Exec W (translatedSchema crawlerId) st tr r mid) :
    r = .ok (schemaRead tr) ∧ squidRead tr = none := by
  unfold translatedSchema at run
  obtain ⟨ans, next, rest, _, rfl, tail⟩ := exec_request_bind.mp run
  cases ans with
  | error e =>
    obtain ⟨rfl, rfl, _⟩ := exec_pure.mp tail
    exact ⟨rfl, rfl⟩
  | ok crawler =>
    rcases exec_bind.mp tail with ⟨e, rfl, raised⟩ | ⟨params, _, _, _, rfl, read, run⟩
    · unfold readCrawlerParams at raised
      obtain ⟨ans, _, _, _, _, raised⟩ := exec_request_bind.mp raised
      cases ans <;> cases (exec_pure.mp raised).2.1
    · obtain ⟨ans, rfl, _, rfl⟩ := exec_readCrawlerParams.mp read
      obtain ⟨rfl, rfl, _⟩ := exec_pure.mp run
      cases ans <;> exact ⟨rfl, rfl⟩

theorem exec_squidAndWireNames {squidId : String} {r : Except Exit (Dict String String × Fields)}
    (run : Exec W (squidAndWireNames squidId) st tr r mid) :
    r = .ok (namesRead tr, (squidRead tr).getD []) ∧
      ∀ record, squidRead tr = some record → ∃ next, W st (.getSquid (.str squidId)) (.ok record) next := by
  unfold squidAndWireNames at run
  obtain ⟨ans, next, rest, step, rfl, tail⟩ := exec_request_bind.mp run
  cases ans with
  | error e =>
    obtain ⟨rfl, rfl, _⟩ := exec_pure.mp tail
    exact ⟨rfl, fun record absurd => by cases absurd⟩
  | ok squid =>
    refine ⟨?_, fun record read => ?_⟩
    · dsimp only at tail
      split at tail
      · obtain ⟨rfl, rfl, _⟩ := exec_pure.mp tail
        rfl
      · rcases exec_bind.mp tail with ⟨e, _, schema⟩ | ⟨found, _, first, _, rfl, schema, run⟩
        · cases (exec_translatedSchema schema).1
        · have same : found = schemaRead first := Except.ok.inj (exec_translatedSchema schema).1
          subst same
          have known : namesRead (⟨st, .getSquid (.str squidId), .ok squid⟩ :: first) = namesRead first := rfl
          cases read : schemaRead first with
          | none =>
            rw [read] at run
            obtain ⟨rfl, rfl, _⟩ := exec_pure.mp run
            rw [List.append_nil, known, namesRead, read]
            rfl
          | some t =>
            rw [read] at run
            obtain ⟨rfl, rfl, _⟩ := exec_pure.mp run
            rw [List.append_nil, known, namesRead, read]
            rfl
    · cases read
      exact ⟨next, step⟩

end Reads

/-! ### What a save leaves as it was -/

/-- The params of a record, or of a body; empty when they are no object. -/
def paramsIn (record : Fields) : Fields := ((Fields.get record "params").asObj?).getD []

/-- The function toggles among params. -/
def togglesIn (params : Fields) : Fields := ((Fields.get params "functions").asObj?).getD []

/-- A config, under the API's names, says something of this toggle. -/
def SaysToggle (said : Fields) (toggle : String) : Prop :=
  match Dict.get? said "functions" with
  | none => False
  | some (.obj functions) => toggle ∈ Dict.keys functions
  | some _ => True

/-- What a config does not mention stays as it was saved; so does the name, when none is given. -/
structure Frames (saved : Fields) (name : Option String) (said body : Fields) : Prop where
  settings : ∀ key value, Dict.get? (paramsIn saved) key = some value → key ∉ Dict.keys said →
    Dict.get? (paramsIn body) key = some value
  toggles : ∀ toggle value, Dict.get? (togglesIn (paramsIn saved)) toggle = some value →
    ¬ SaysToggle said toggle → Dict.get? (togglesIn (paramsIn body)) toggle = some value
  name : name = none → Fields.get body "name" = Fields.get saved "name"

/-- The config mentions everything that is saved. -/
structure SaysAll (saved said : Fields) : Prop where
  settings : ∀ key value, Dict.get? (paramsIn saved) key = some value → key ∈ Dict.keys said
  toggles : ∀ toggle value, Dict.get? (togglesIn (paramsIn saved)) toggle = some value →
    SaysToggle said toggle

section Body
variable {squidId : String} {name : Option String} {config said saved : Fields} {concurrency : Json}
  {wireNames : Dict String String} {squid : Fields} {key toggle : String} {value : Json}

theorem updateScraperBody_params (given : config ≠ []) :
    Fields.get (updateScraperBody squidId name config concurrency wireNames squid) "params" =
      .obj (effectiveSettings squid (applyWireNames config wireNames)) := by
  have present : config.isEmpty = false := by simpa using given
  unfold updateScraperBody
  cases name <;> by_cases absent : concurrency = .null <;> simp [present, absent, Dict.contains]

theorem updateScraperBody_sends (given : config ≠ []) :
    Dict.contains (updateScraperBody squidId name config concurrency wireNames squid) "params" = true := by
  have present : config.isEmpty = false := by simpa using given
  unfold updateScraperBody
  cases name <;> by_cases absent : concurrency = .null <;> simp [present, absent, Dict.contains]

theorem updateScraperBody_no_params :
    Dict.contains (updateScraperBody squidId name [] concurrency wireNames squid) "params" = false := by
  unfold updateScraperBody
  cases name <;> by_cases absent : concurrency = .null <;> simp [absent, Dict.contains]

theorem updateScraperBody_name (given : config ≠ []) :
    Fields.get (updateScraperBody squidId none config concurrency wireNames squid) "name" =
      ((Fields.get squid "name").orElse (Fields.get squid "crawler")).orElse (.str squidId) := by
  have present : config.isEmpty = false := by simpa using given
  unfold updateScraperBody
  by_cases absent : concurrency = .null <;> simp [present, absent, Dict.contains]

/-- The merge keeps a param the config does not mention. -/
theorem effectiveSettings_keeps (held : Dict.get? (paramsIn saved) key = some value)
    (unsaid : key ∉ Dict.keys said) : Dict.get? (effectiveSettings saved said) key = some value := by
  have updated : Dict.get? (Dict.update (paramsIn saved) said) key = some value :=
    (Dict.get?_update_absent unsaid).trans held
  unfold effectiveSettings
  dsimp only
  split
  · rename_i savedFunctions newFunctions _ said'
    have other : "functions" ≠ key := by
      rintro rfl
      apply unsaid
      rw [Dict.mem_keys_iff, Dict.contains]
      cases read : Dict.get? said "functions" with
      | some v => rfl
      | none =>
        rw [Fields.get, read] at said'
        cases said'
    rw [Dict.get?_set_other _ _ other]
    exact updated
  · exact updated

/-- It keeps a toggle the config says nothing of. -/
theorem effectiveSettings_keeps_toggle (held : Dict.get? (togglesIn (paramsIn saved)) toggle = some value)
    (unsaid : ¬ SaysToggle said toggle) :
    Dict.get? (togglesIn (effectiveSettings saved said)) toggle = some value := by
  unfold SaysToggle at unsaid
  cases functions : Dict.get? said "functions" with
  | none =>
    have absent : "functions" ∉ Dict.keys said := by
      rw [Dict.mem_keys_iff, Dict.contains, functions]
      simp
    cases kept : Dict.get? (paramsIn saved) "functions" with
    | none =>
      rw [togglesIn, Fields.get, kept] at held
      cases held
    | some saved' =>
      have still := effectiveSettings_keeps kept absent
      rw [togglesIn, Fields.get_of_get? kept] at held
      rw [togglesIn, Fields.get_of_get? still]
      exact held
  | some functions' =>
    rw [functions] at unsaid
    cases functions' with
    | obj new =>
      have said' : Fields.get said "functions" = .obj new := Fields.get_of_get? functions
      cases savedFunctions : Fields.get (paramsIn saved) "functions" with
      | obj old =>
        have merged : Fields.get (effectiveSettings saved said) "functions" = .obj (Dict.update old new) := by
          unfold effectiveSettings
          dsimp only
          rw [show ((Fields.get saved "params").asObj?).getD [] = paramsIn saved from rfl, savedFunctions, said']
          simp
        rw [togglesIn, savedFunctions] at held
        rw [togglesIn, merged]
        exact (Dict.get?_update_absent unsaid).trans held
      | _ =>
        rw [togglesIn, savedFunctions] at held
        cases held
    | _ => exact absurd trivial unsaid

theorem nodup_applyWireNames (config : Fields) (wireNames : Dict String String) :
    (Dict.keys (applyWireNames config wireNames)).Nodup := by
  have renamed : (Dict.keys (renamed wireNames (Dict.erase config "functions"))).Nodup :=
    Dict.nodup_keys_update (d := []) List.nodup_nil _
  unfold applyWireNames
  dsimp only
  split
  · exact Dict.nodup_keys_update renamed [("functions", _)]
  · exact renamed

theorem effectiveSettings_unread (config : Fields) (wireNames : Dict String String) :
    effectiveSettings [] (applyWireNames config wireNames) = applyWireNames config wireNames :=
  Dict.collect_eq_self (nodup_applyWireNames config wireNames)

theorem saysToggle_of_held (held : Dict.get? (togglesIn said) toggle = some value) : SaysToggle said toggle := by
  unfold SaysToggle
  cases functions : Dict.get? said "functions" with
  | none =>
    rw [togglesIn, Fields.get, functions] at held
    cases held
  | some functions' =>
    rw [togglesIn, Fields.get_of_get? functions] at held
    cases functions' with
    | obj new => exact (Dict.mem_keys_iff _ _).mpr ((Dict.contains_iff _ _).mpr ⟨value, held⟩)
    | _ => cases held

theorem fallback_eq_iff {saved crawler : Json} {text : String} :
    (saved.orElse crawler).orElse (.str text) = saved ↔
      saved.truthy = true ∨ (crawler.truthy = false ∧ saved = .str text) := by
  cases named : saved.truthy with
  | true => simp [Json.orElse_of_truthy named]
  | false =>
    rw [Json.orElse_of_not named]
    cases known : crawler.truthy with
    | true =>
      rw [Json.orElse_of_truthy known]
      have different : crawler ≠ saved := by
        rintro rfl
        rw [named] at known
        cases known
      simp [different]
    | false =>
      rw [Json.orElse_of_not known]
      simp [eq_comm]

/-- A save after the squid was read leaves everything else as it was, but for a missing name. -/
theorem frames_of_read (given : config ≠ []) :
    Frames saved name (applyWireNames config wireNames)
        (updateScraperBody squidId name config concurrency wireNames saved) ↔
      name ≠ none ∨ (Fields.get saved "name").truthy = true ∨
        ((Fields.get saved "crawler").truthy = false ∧ Fields.get saved "name" = .str squidId) := by
  have sent : paramsIn (updateScraperBody squidId name config concurrency wireNames saved) =
      effectiveSettings saved (applyWireNames config wireNames) := by
    rw [paramsIn, updateScraperBody_params given]
    rfl
  constructor
  · intro frames
    by_cases unnamed : name = none
    · subst unnamed
      have kept := frames.name rfl
      rw [updateScraperBody_name given, fallback_eq_iff] at kept
      exact .inr kept
    · exact .inl unnamed
  · intro named
    refine ⟨?_, ?_, ?_⟩
    · intro key value held unsaid
      rw [sent]
      exact effectiveSettings_keeps held unsaid
    · intro toggle value held unsaid
      rw [sent]
      exact effectiveSettings_keeps_toggle held unsaid
    · rintro rfl
      rw [updateScraperBody_name given, fallback_eq_iff]
      exact named.resolve_left fun absurd => absurd rfl

/-- A save of a squid that could not be read leaves nothing that the config does not mention. -/
theorem frames_of_unread (given : config ≠ []) :
    Frames saved name (applyWireNames config wireNames)
        (updateScraperBody squidId name config concurrency wireNames []) ↔
      SaysAll saved (applyWireNames config wireNames) ∧
        (name ≠ none ∨ Fields.get saved "name" = .str squidId) := by
  have sent : paramsIn (updateScraperBody squidId name config concurrency wireNames []) =
      applyWireNames config wireNames := by
    rw [paramsIn, updateScraperBody_params given, effectiveSettings_unread]
    rfl
  constructor
  · intro frames
    refine ⟨⟨?_, ?_⟩, ?_⟩
    · intro key value held
      by_contra unsaid
      have still := frames.settings key value held unsaid
      rw [sent] at still
      exact unsaid ((Dict.mem_keys_iff _ _).mpr ((Dict.contains_iff _ _).mpr ⟨value, still⟩))
    · intro toggle value held
      by_contra unsaid
      have still := frames.toggles toggle value held unsaid
      rw [sent] at still
      exact unsaid (saysToggle_of_held still)
    · by_cases unnamed : name = none
      · subst unnamed
        have kept := frames.name rfl
        rw [updateScraperBody_name given] at kept
        exact .inr kept.symm
      · exact .inl unnamed
  · rintro ⟨all, named⟩
    refine ⟨fun key value held unsaid => absurd (all.settings key value held) unsaid,
      fun toggle value held unsaid => absurd (all.toggles toggle value held) unsaid, ?_⟩
    rintro rfl
    rw [updateScraperBody_name given, named.resolve_left fun absurd => absurd rfl]
    rfl

end Body

/-! ### Every call -/

/-- When a save frames: the config has no params to send, or the squid was read and has a name to
go with them, or everything that is saved is mentioned. -/
def FramesWhen (squidId : String) (name : Option String) (config saved said : Fields)
    (read : Option Fields) : Prop :=
  Dict.erase config "concurrency" = [] ∨
    match read with
    | some _ => name ≠ none ∨ (Fields.get saved "name").truthy = true ∨
        ((Fields.get saved "crawler").truthy = false ∧ Fields.get saved "name" = .str squidId)
    | none => SaysAll saved said ∧ (name ≠ none ∨ Fields.get saved "name" = .str squidId)

section Call
variable {reports : List Json → Json → Prop} {u v : Upstream} {tr : List (Event Call Answer Upstream)}
  {r : Except Exc Fields} {squidId : String} {name : Option String} {config : Fields}
  {concurrency : Option Int} {squid : Squid}

theorem uses_squidAndWireNames (squidId : String) : (squidAndWireNames squidId).Uses Call.Fetches := by
  refine Program.uses_bind ((uses_request _).mpr (fetches_getSquid _)) fun ans => ?_
  cases ans with
  | error e => trivial
  | ok squid =>
    dsimp only
    split
    · trivial
    refine Program.uses_bind ?_ fun found => by cases found <;> trivial
    refine Program.uses_bind ((uses_request _).mpr (fetches_getCrawler _)) fun ans => ?_
    cases ans with
    | error e => trivial
    | ok crawler =>
      exact Program.uses_bind (uses_readCrawlerParams _ (fetches_getCrawlerParams _)) fun _ => trivial

/-- The save of a call that comes to one. -/
def saveOf (squidId : String) (name : Option String) (config : Fields) (concurrency : Option Int)
    (reads : List (Event Call Answer σ)) : Call :=
  .updateSquid (.str squidId) (updateScraperBody squidId name (Dict.erase config "concurrency")
    (effectiveConcurrency concurrency config) (namesRead reads) ((squidRead reads).getD []))

/-- A call reads, and then saves once; or it has nothing to change. -/
theorem exec_updateScraperImpl {W : World Call Answer σ} {st mid : σ} {tr : List (Event Call Answer σ)}
    (run : Exec W (updateScraperImpl squidId name config concurrency) st tr r mid) :
    (tr = [] ∧ Dict.erase config "concurrency" = []) ∨
      ∃ reads b ans, tr = reads ++ [⟨b, saveOf squidId name config concurrency reads, ans⟩] ∧
        (∀ e ∈ reads, e.op.Fetches) ∧ ∀ record, squidRead reads = some record →
          ∃ next, W st (.getSquid (.str squidId)) (.ok record) next := by
  obtain ⟨outcome, run, _⟩ := exec_structured.mp run
  unfold updateScraper at run
  dsimp only at run
  split at run
  · rename_i nothing
    obtain ⟨rfl, _⟩ := exec_returned.mp run
    simp only [Bool.and_eq_true, List.isEmpty_iff] at nothing
    exact .inl ⟨rfl, nothing.1.2⟩
  · rcases exec_bind.mp run with ⟨e, _, head⟩ | ⟨found, b, reads, rest, rfl, head, tail⟩
    · cases (exec_squidAndWireNames head).1
    · obtain ⟨same, answered⟩ := exec_squidAndWireNames head
      cases same
      have fetches := head.uses (uses_squidAndWireNames squidId)
      unfold updateSquid send at tail
      rw [Program.bind_assoc] at tail
      obtain ⟨ans, next, last, _, rfl, done⟩ := exec_request_bind.mp tail
      have none' : last = [] := by
        cases ans with
        | error e =>
          rcases exec_bind.mp done with ⟨_, _, raised⟩ | ⟨_, _, _, _, _, absurd, _⟩
          · exact (exec_raised.mp raised).1
          · exact (not_exec_raised absurd).elim
        | ok updated => exact (exec_pure.mp done).1
      subst none'
      exact .inr ⟨reads, b, ans, rfl, fetches, answered⟩

theorem read_save (reads : List (Event Call Answer σ)) (b : σ) {c : Call} (ans : Answer c)
    (save : ∃ squid body, c = .updateSquid squid body) :
    squidRead (reads ++ [⟨b, c, ans⟩]) = squidRead reads ∧ namesRead (reads ++ [⟨b, c, ans⟩]) = namesRead reads := by
  obtain ⟨squid, body, rfl⟩ := save
  simp [squidRead, namesRead, schemaRead, squidAnswered, crawlerAnswered, paramsAnswered]

/-- `update_scraper` changes only what it is asked to change, exactly when it may: a save that
sends params keeps every saved param and toggle the config does not mention, and the name. -/
theorem update_scraper_frames_iff (held : u.squids (.str squidId) = some squid)
    (run : Exec (Upstream.world reports) (updateScraperImpl squidId name config concurrency) u tr r v) :
    (∀ e ∈ tr, ∀ id body, e.op = .updateSquid id body → Dict.contains body "params" = true →
      Frames squid.record name (applyWireNames (Dict.erase config "concurrency") (namesRead tr)) body) ↔
    FramesWhen squidId name config squid.record
      (applyWireNames (Dict.erase config "concurrency") (namesRead tr)) (squidRead tr) := by
  unfold FramesWhen
  by_cases given : Dict.erase config "concurrency" = []
  · refine iff_of_true ?_ (.inl given)
    intro e member id body save sent
    rcases exec_updateScraperImpl run with ⟨rfl, _⟩ | ⟨reads, b, ans, rfl, fetches, _⟩
    · cases member
    · rcases List.mem_append.mp member with member | member
      · have fetched := (fetches e member).1
        rw [save] at fetched
        cases fetched
      · rw [List.mem_singleton.mp member] at save
        cases save
        rw [given, updateScraperBody_no_params] at sent
        cases sent
  rw [or_iff_right given]
  obtain ⟨_, absurd⟩ | ⟨reads, b, ans, rfl, fetches, answered⟩ := exec_updateScraperImpl run
  · exact (given absurd).elim
  obtain ⟨squid_eq, names_eq⟩ := read_save reads b ans ⟨_, _, rfl⟩
  rw [squid_eq, names_eq]
  -- the one save of the call is its last request
  have only : (∀ e ∈ reads ++ [⟨b, saveOf squidId name config concurrency reads, ans⟩], ∀ id body,
      e.op = .updateSquid id body → Dict.contains body "params" = true →
        Frames squid.record name (applyWireNames (Dict.erase config "concurrency") (namesRead reads)) body) ↔
      Frames squid.record name (applyWireNames (Dict.erase config "concurrency") (namesRead reads))
        (updateScraperBody squidId name (Dict.erase config "concurrency")
          (effectiveConcurrency concurrency config) (namesRead reads) ((squidRead reads).getD [])) := by
    constructor
    · intro all
      exact all _ (List.mem_append_right _ List.mem_cons_self) _ _ rfl (updateScraperBody_sends given)
    · intro frames e member id body save _
      rcases List.mem_append.mp member with member | member
      · have fetched := (fetches e member).1
        rw [save] at fetched
        cases fetched
      · rw [List.mem_singleton.mp member] at save
        cases save
        exact frames
  rw [only]
  cases read : squidRead reads with
  | none => exact frames_of_unread given
  | some record =>
    obtain ⟨next, step⟩ := answered record read
    obtain ⟨_, found, same, rfl, _⟩ := (Upstream.world_read rfl).mp step
    rw [held] at same
    cases same
    exact frames_of_read given

end Call

/-! ### A squid with two settings -/

def leads : Squid where
  record := [("id", .str "squid"), ("name", .str "Leads"), ("crawler", .str plainCrawlerId),
    ("params", .obj [("region", .str "fr"), ("max_results", .int 10)])]
  rows := []

def raiseCap : Program Call Answer Exc Fields :=
  updateScraperImpl "squid" none [("max_results", .int 20)] none

/-- When the squid was read, the region and the name stay. -/
theorem raising_the_cap_frames : May (Upstream.world Upstream.listsAny) raiseCap (oneSquid "squid" leads)
    fun tr _ v => (v.squids (.str "squid")).map (fun q => paramsIn q.record) =
        some [("region", .str "fr"), ("max_results", .int 20)] ∧
      ∀ e ∈ tr, ∀ id body, e.op = .updateSquid id body → Dict.contains body "params" = true →
        Frames leads.record none (applyWireNames [("max_results", .int 20)] (namesRead tr)) body := by
  suffices followed : May (Upstream.world Upstream.listsAny) raiseCap (oneSquid "squid" leads) fun tr _ v =>
      (v.squids (.str "squid")).map (fun q => paramsIn q.record) =
        some [("region", .str "fr"), ("max_results", .int 20)] ∧ squidRead tr = some leads.record by
    obtain ⟨tr, r, v, run, settings, read⟩ := followed
    refine ⟨tr, r, v, run, settings, ?_⟩
    refine (update_scraper_frames_iff (oneSquid_held _ _) run).mpr (.inr ?_)
    rw [read]
    exact .inr (.inl rfl)
  unfold raiseCap updateScraperImpl
  refine may_structured ?_
  unfold updateScraper
  refine may_bind (may_request (.ok leads.record) ⟨rfl, leads, rfl, rfl, rfl⟩ ?_)
  refine may_bind (may_request (.ok { input := [] }) ⟨rfl, trivial⟩ ?_)
  refine may_bind (may_request (.ok .null) ⟨rfl, trivial⟩ (may_pure.mpr (may_pure.mpr (may_pure.mpr ?_))))
  refine may_send .null ⟨trivial, rfl⟩ (may_pure.mpr ⟨?_, rfl⟩)
  decide +kernel

/-- When it was not, the region is dropped, and the squid loses its name. -/
theorem a_failed_read_drops_the_region : May (Upstream.world Upstream.listsAny) raiseCap (oneSquid "squid" leads)
    fun tr _ v => (v.squids (.str "squid")).map (fun q => (Fields.get q.record "name", paramsIn q.record)) =
        some (.str "squid", [("max_results", .int 20)]) ∧
      ¬ ∀ e ∈ tr, ∀ id body, e.op = .updateSquid id body → Dict.contains body "params" = true →
        Frames leads.record none (applyWireNames [("max_results", .int 20)] (namesRead tr)) body := by
  unfold raiseCap updateScraperImpl
  refine may_structured ?_
  unfold updateScraper
  refine may_bind (may_request (.error (.api (ApiError.make 500 none none))) ⟨rfl, trivial⟩ (may_pure.mpr ?_))
  refine may_send .null ⟨trivial, rfl⟩ (may_pure.mpr ⟨by decide +kernel, fun frames => ?_⟩)
  have kept := frames _ (List.mem_append_right _ List.mem_cons_self) _ _ rfl (by decide +kernel)
  have region := kept.settings "region" (.str "fr") (by decide +kernel) (by decide +kernel)
  exact absurd region (by decide +kernel)

end LobstrMcp
