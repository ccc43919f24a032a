import LobstrMcp.Model.RunScraper

/-!
`tools/primitives.py`: the steps of `run_scraper` as tools of their own. Aliases are translated
as `run_scraper` translates them; `config` nests function toggles under "functions" itself.
-/

namespace LobstrMcp
open Interaction Tool

/-- `_translated_schema`, none where it raises: every caller catches that. -/
def translatedSchema (crawlerId : Json) : Tool (Option Translated) := do
  match ← request (.getCrawler crawlerId) with
  | .error _ => pure none
  | .ok crawler => do
    let params ← readCrawlerParams crawlerId
    pure (some (translateInputSchema crawler params))

/-- `{wire_names.get(k, k): v for k, v in values.items()}` -/
def renamed (wireNames : Dict String String) (values : Fields) : Fields :=
  Dict.collect (values.map fun e => ((Dict.get? wireNames e.1).getD e.1, e.2))

def applyWireNames (values : Fields) (wireNames : Dict String String) : Fields :=
  let out := renamed wireNames (Dict.erase values "functions")
  match Fields.get values "functions" with
  | .obj functions => Dict.set out "functions" (.obj (renamed wireNames functions))
  | _ => out

/-- `concurrency if concurrency is not None else cfg_concurrency` -/
def effectiveConcurrency (concurrency : Option Int) (config : Fields) : Json :=
  match concurrency with
  | some n => .int n
  | none => Fields.get config "concurrency"

/-! ### create_squid -/

def remediationTail (squidId : Json) : String :=
  let squid := squidId.text
  "Retrying create_squid with the same name will fail (name taken). To fix it " ++
  "without running anything: call create_squid again under a different name with " ++
  "the corrected config (check get_scraper_details' param_levels first — " ++
  "function-level params go under a \"functions\" key in config, never flat; " ++
  "task-level fields don't belong in config at all, add them with add_tasks) — then, " ++
  s!"once you've confirmed squid_id='{squid}' isn't needed, call " ++
  s!"deactivate_scraper(squid_id='{squid}') so the half-built one isn't left " ++
  "behind for nothing. To fix and reuse this same squid instead, call " ++
  s!"run_scraper(squid_id='{squid}', input=<the crawler's full input: its task-level " ++
  "fields together with the corrected squid- and function-level ones, all FLAT — unlike " ++
  "`config`, run_scraper's `input` takes no nesting, it classifies each key by level and " ++
  "nests the function-level ones under \"functions\" itself>). This starts a run and " ++
  "spends credits immediately, unless the cost is unknown or above your confirmation " ++
  "threshold, in which case it asks for confirm=true first — it is not run-free like the " ++
  "option above."

/-- `_config_rejected`: the squid is deleted, or named when even that fails. -/
def configRejected (squidId crawlerId : Json) (upstreamMessage : String) : Tool Fields := do
  let squid := squidId.text
  let reply (deleted : Bool) (message : String) : Fields :=
    [("squid_id", squidId), ("scraper", crawlerId), ("deleted", .bool deleted),
     ("message", .str message)]
  match ← request (.deleteSquid squidId) with
  | .ok _ => pure (reply true (
      s!"Configuration was rejected: {upstreamMessage} Squid {squid} (created " ++
      "for this call) was deleted, so nothing is left behind — no concurrency slot " ++
      "spent, nothing to clean up by hand. Fix the config (check " ++
      "get_scraper_details' param_levels: function-level params go under a " ++
      "\"functions\" key, never flat; task-level fields don't belong in config at " ++
      "all, add them with add_tasks) and call create_squid again."))
  | .error _ => pure (reply false (
      s!"Squid {squid} was created but its configuration was rejected, so it exists " ++
      s!"with no saved config and is not runnable yet: {upstreamMessage} It could not " ++
      "be deleted automatically either, so it is still there under that id. " ++
      remediationTail squidId))

def configApplyUnknown (squidId crawlerId : Json) (detail : String) : Fields :=
  let squid := squidId.text
  [("squid_id", squidId), ("scraper", crawlerId), ("error_code", .str "upstream_unavailable"),
   ("message", .str (
     s!"Squid {squid} was created, but the request to save its configuration failed " ++
     s!"before a response came back ({detail}) — whether the configuration was saved is " ++
     "unknown, not rejected: it may have reached the server anyway. Check first with " ++
     s!"get_my_scraper(squid_id='{squid}') (its `params`/`is_ready`) before deciding " ++
     "what to do next. " ++ remediationTail squidId))]

/-- The values a config is checked on: its flat ones, and the toggles nested in it. -/
def flattened (config : Fields) : Fields :=
  Dict.update (Dict.erase config "functions") (((Fields.get config "functions").asObj?).getD [])

/-- One round of the loop over `defaults_to_fill`; none where `functions` is no dict. -/
def fillDefault (t : Translated) (config : Fields) (default : String × Json) : Option Fields :=
  match t.levelOf default.1 with
  | some "task" => some config
  | some "function" =>
    match Dict.get? config "functions" with
    | none => some (Dict.set config "functions" (.obj [default]))
    | some (.obj functions) =>
      some (Dict.set config "functions" (.obj (Dict.setDefault functions default.1 default.2)))
    | some _ => none
  | _ => some (Dict.setDefault config default.1 default.2)

/-- A config that was checked and completed, with the names to send it under. -/
structure Config where
  values : Fields
  wireNames : Dict String String

/-- The config to send: as given when there is no schema to check it against. -/
def checkConfig (crawlerId : Json) (config : Fields) : Tool Config := do
  if config.isEmpty then pure ⟨config, []⟩ else
  match ← translatedSchema crawlerId with
  | none => pure ⟨config, []⟩
  | some t =>
    let errors := validateInput (flattened config) t false
    if !errors.isEmpty then
      returned [("error_code", .str "validation_error"), ("errors", .arr (errors.map .str)),
        ("scraper", crawlerId)]
    else match t.defaultsToFill.foldlM (fillDefault t) config with
      | some values => pure ⟨values, t.wireNames⟩
      | none => raised .attributeError

/-- Save the configuration of the squid that was just created. -/
def saveConfig (squidId crawlerId : Json) (body : Fields) : Tool Unit := do
  match ← request (.updateSquid squidId body) with
  | .ok _ => pure ()
  | .error (.api rejection) => do
    let failed := toErrorDict rejection
    let reply ← configRejected squidId crawlerId (messageOf failed)
    returned (Dict.update failed reply)
  | .error (.transport lost) =>
    returned (configApplyUnknown squidId crawlerId (Exc.transport lost).detail)
  | .error e => raised e

/-- `name`, null when it is None. -/
def nameJson (name : Option String) : Json := (name.map Json.str).getD .null

def createSquidBody (lower : String → String) (scraper : String) (name : Option String) (config : Fields)
    (concurrency : Option Int) : Tool Fields := do
  let crawlerId ← resolveCrawlerId lower (.str scraper)
  let concurrency := effectiveConcurrency concurrency config
  let cfg ← checkConfig crawlerId (Dict.erase config "concurrency")
  let squid ← createSquid crawlerId name
  let squidId := Fields.get squid "id"
  let body : Fields :=
    [("name", ((nameJson name).orElse (Fields.get squid "name")).orElse crawlerId)]
  let body := if cfg.values.isEmpty then body else
    Dict.set body "params" (.obj (applyWireNames cfg.values cfg.wireNames))
  let body := if concurrency = .null then body else Dict.set body "concurrency" concurrency
  let reply : Fields := [("squid_id", squidId), ("scraper", crawlerId),
    ("name", (nameJson name).orElse (Fields.get squid "name")), ("concurrency", concurrency),
    ("message", .str ("Squid created. Add inputs with add_tasks, then run it with " ++
      "run_scraper(squid_id=...). estimate_run gives the cost first."))]
  if cfg.values.isEmpty && concurrency = .null then pure reply else
  saveConfig squidId crawlerId body
  pure reply

/-- `create_squid_impl`; a `config` of None is the empty one. -/
def createSquidImpl (lower : String → String) (scraper : String) (name : Option String) (config : Fields)
    (concurrency : Option Int) : Program Call Answer Exc Fields :=
  structured (some "list_my_scrapers(name=...), which lists the scraper if it was created")
    (createSquidBody lower scraper name config concurrency)

/-! ### add_tasks and update_scraper -/

/-- `_squid_and_wire_names`: whatever fails, the call goes on with what it has. -/
def squidAndWireNames (squidId : String) : Tool (Dict String String × Fields) := do
  match ← request (.getSquid (.str squidId)) with
  | .error _ => pure ([], [])
  | .ok squid =>
    if !(Fields.get squid "crawler").truthy then pure ([], squid) else
    match ← translatedSchema (Fields.get squid "crawler") with
    | none => pure ([], squid)
    | some t => pure (t.wireNames, squid)

def addTasksBody (squidId : String) (tasks : List Json) : Tool Fields := do
  if tasks.isEmpty then
    returned [("error_code", .str "invalid_request"),
      ("message", .str "provide at least one task row in `tasks`")]
  else
  let (wireNames, _) ← squidAndWireNames squidId
  let translated := tasks.map fun task => match task with
    | .obj row => .obj (applyWireNames row wireNames)
    | other => other
  let result ← addTasks (.str squidId) translated
  let result := (result.asObj?).getD []
  let added := match Fields.get result "tasks" with
    | .arr rows => rows.length
    | _ => tasks.length
  pure [("squid_id", .str squidId), ("added", .int added),
    ("duplicated", Fields.get result "duplicated_count"),
    ("message", .str ("Tasks added. Check cost with estimate_run, then run with " ++
      "run_scraper(squid_id=...)."))]

def addTasksImpl (squidId : String) (tasks : List Json) : Program Call Answer Exc Fields :=
  structured (some ("estimate_run(squid_id=...), whose `tasks.count` is how many input " ++
    "rows the scraper holds now")) (addTasksBody squidId tasks)

/-- The body `update_scraper_impl` sends: only what it was asked to change, and a name beside
the params, without which the API does not take them. -/
def updateScraperBody (squidId : String) (name : Option String) (config : Fields)
    (concurrency : Json) (wireNames : Dict String String) (squid : Fields) : Fields :=
  let body : Fields := match name with
    | some name => [("name", .str name)]
    | none => []
  let body := if config.isEmpty then body else
    Dict.set body "params" (.obj (effectiveSettings squid (applyWireNames config wireNames)))
  let body := if concurrency = .null then body else Dict.set body "concurrency" concurrency
  if Dict.contains body "params" && !Dict.contains body "name" then
    Dict.set body "name"
      (((Fields.get squid "name").orElse (Fields.get squid "crawler")).orElse (.str squidId))
  else body

def updateScraper (squidId : String) (name : Option String) (config : Fields)
    (concurrency : Option Int) : Tool Fields := do
  let cfg := Dict.erase config "concurrency"
  let concurrency := effectiveConcurrency concurrency config
  if name.isNone && cfg.isEmpty && concurrency = .null then
    returned [("error_code", .str "invalid_request"),
      ("message", .str "provide at least one of name, config, concurrency")]
  else
  let (wireNames, squid) ← squidAndWireNames squidId
  let body := updateScraperBody squidId name cfg concurrency wireNames squid
  let updated ← updateSquid (.str squidId) body
  let updated := (updated.asObj?).getD []
  pure [("squid_id", .str squidId),
    ("name", (Dict.get? updated "name").getD (Fields.get body "name")),
    ("concurrency", (Dict.get? updated "concurrency").getD concurrency),
    ("message", .str "Scraper settings updated.")]

/-- `update_scraper_impl`; a `config` of None is the empty one. -/
def updateScraperImpl (squidId : String) (name : Option String) (config : Fields)
    (concurrency : Option Int) : Program Call Answer Exc Fields :=
  structured (some "get_my_scraper(squid_id=...)") (updateScraper squidId name config concurrency)

end LobstrMcp
