import LobstrMcp.Run.Crawler
import LobstrMcp.Schema.Config
import LobstrMcp.Schema.Required
import LobstrMcp.Tools.RetrySafe

/-!
One call of `run_scraper` against its steps: `create_squid` with the squid- and function-level part of an input
as its `config`, then `add_tasks` with the task-level part as its row.
-/

namespace LobstrMcp
open Interaction Tool

/-! ### What is sent -/

def savedBy : Call → Option Fields
  | .updateSquid _ settings => (Dict.get? settings "params").bind Json.asObj?
  | _ => none

def addedBy : Call → Option (List Json)
  | .addTasks _ rows => some rows
  | _ => none

/-- The params a squid is given, none of them when none are sent. -/
def paramsSent (calls : List Call) : Fields := (calls.findSome? savedBy).getD []

/-- The rows it is given. -/
def rowsSent (calls : List Call) : List Json := (calls.findSome? addedBy).getD []

/-- Two ways to set a squid up send the same params and the same row. -/
structure SentAlike (calls others : List Call) : Prop where
  params : valuesOf (paramsSent calls) = valuesOf (paramsSent others)
  rows : ∃ row row', rowsSent calls = [.obj row] ∧ rowsSent others = [.obj row'] ∧ Dict.get? row = Dict.get? row'

theorem sentAlike_iff {calls others : List Call} {row row' : Fields} (rows : rowsSent calls = [.obj row])
    (rows' : rowsSent others = [.obj row']) : SentAlike calls others ↔
      valuesOf (paramsSent calls) = valuesOf (paramsSent others) ∧ Dict.get? row = Dict.get? row' := by
  constructor
  · rintro ⟨params, one, other, first, second, same⟩
    rw [rows] at first
    rw [rows'] at second
    cases first
    cases second
    exact ⟨params, same⟩
  · rintro ⟨params, same⟩
    exact ⟨params, row, row', rows, rows', same⟩

/-- `create_squid`, and then `add_tasks` on the squid it made. -/
def stepByStep (lower : String → String) (scraper : String) (name : Option String) (config row : Fields) :
    Program Call Answer Exc Fields := do
  let created ← createSquidImpl lower scraper name config none
  addTasksImpl (((Fields.get created "squid_id").asStr?).getD "") [.obj row]

theorem paramsSent_cons {c : Call} {calls : List Call} {params : Fields} (silent : savedBy c = none)
    (sent : paramsSent calls = params) : paramsSent (c :: calls) = params := by
  unfold paramsSent
  rw [List.findSome?_cons, silent]
  exact sent

theorem paramsSent_save {squid : Json} {settings params : Fields}
    (sent : Dict.get? settings "params" = some (.obj params)) (calls : List Call) :
    paramsSent (.updateSquid squid settings :: calls) = params := by
  unfold paramsSent
  rw [List.findSome?_cons, savedBy, sent]
  rfl

section Machine
variable {σ : Type} (m : Machine Call Answer σ)

/-- The API keeps to one answer about a scraper, and takes what is written for it. -/
structure Serves (lower : String → String) (scraper : String) (crawlerId : Json) (crawler : Crawler) (params : Json) : Prop where
  resolves : ∃ catalog, (∀ st, (m st .listCrawlers).1 = catalog) ∧ resolvedId lower catalog scraper = crawlerId
  crawler : ∀ st, (m st (.getCrawler crawlerId)).1 = .ok crawler
  params : ∀ st, paramsOf (m st (.getCrawlerParams crawlerId)).1 = params
  creates : ∀ st name, ∃ squid id, (m st (.createSquid crawlerId name)).1 = .ok squid ∧
    Dict.get? squid "id" = some (.str id)
  saves : ∀ st squid settings, ∃ saved, (m st (.updateSquid squid settings)).1 = .ok saved

/-- A squid that was just created is read, if it is read at all, as one of its crawler. -/
def ReadsBack (st : σ) (crawlerId : Json) (create : Program Call Answer Exc Fields) : Prop :=
  ∀ reply id record, (create.run m st).1 = .ok reply → Fields.get reply "squid_id" = .str id →
    (m (create.run m st).2 (.getSquid (.str id))).1 = .ok record → Fields.get record "crawler" = crawlerId

end Machine

/-! ### The reads -/

section Reads
variable {σ : Type} {m : Machine Call Answer σ} {lower : String → String} {scraper : String} {crawlerId params : Json} {crawler : Crawler}

theorem Serves.resolve (serves : Serves m lower scraper crawlerId crawler params) (st : σ) :
    ∃ w, (resolveCrawlerId lower (.str scraper)).run m st = (.ok crawlerId, w) := by
  obtain ⟨catalog, answers, rfl⟩ := serves.resolves
  unfold resolveCrawlerId resolvedId resolveInCatalog
  show ∃ w, (if decide (scraper ≠ "") && isCrawlerId scraper then _ else _ : Tool Json).run m st = _
  by_cases isId : (decide (scraper ≠ "") && isCrawlerId scraper) = true
  · rw [if_pos isId, if_pos isId]
    exact ⟨st, rfl⟩
  rw [if_neg isId, if_neg isId, request, Program.run_ask_bind, answers st]
  refine ⟨(m st .listCrawlers).2, ?_⟩
  cases catalog <;> rfl

theorem Serves.readParams (serves : Serves m lower scraper crawlerId crawler params) (st : σ) :
    ∃ w, (readCrawlerParams crawlerId).run m st = (.ok params, w) := by
  refine ⟨(m st (.getCrawlerParams crawlerId)).2, ?_⟩
  unfold readCrawlerParams request
  rw [Program.run_ask_bind, ← serves.params st]
  cases (m st (.getCrawlerParams crawlerId)).1 <;> rfl

theorem Serves.schema (serves : Serves m lower scraper crawlerId crawler params) (st : σ) :
    ∃ w, (translatedSchema crawlerId).run m st = (.ok (some (translateInputSchema crawler params)), w) := by
  unfold translatedSchema request
  rw [Program.run_ask_bind, serves.crawler st]
  obtain ⟨w, read⟩ := serves.readParams (m st (.getCrawler crawlerId)).2
  refine ⟨w, ?_⟩
  dsimp only
  rw [Program.run_bind_ok read]
  rfl

end Reads

/-! ### One call -/

/-- A plan for a target, from a valid input. -/
structure PlannedFor (args : RunArgs) (target : Target) (plan : RunPlan) : Prop where
  target_eq : plan.target = target
  args_eq : plan.args = args
  input_eq : plan.input = finalInput args target.translated
  valid : inputErrors args target.translated = []

section OneCall
variable {σ : Type} {m : Machine Call Answer σ} {s : Session} {args : RunArgs} {scraper : String}
  {crawlerId params : Json} {crawler : Crawler} {st : σ}

theorem ends_prepareFrom (s : Session) (args : RunArgs) (target : Target) :
    (prepareFrom s args target).Ends fun r => ∀ plan, r = .ok plan → PlannedFor args target plan := by
  unfold prepareFrom
  dsimp only
  split
  · intro plan absurd
    cases absurd
  · rename_i passed
    refine Program.ends_bind_value fun _ => Program.ends_bind_value fun account => ?_
    refine Program.ends_bind_value fun snapshot plan same => ?_
    cases same
    exact ⟨rfl, rfl, rfl, by simpa using passed⟩

/-- What a call for a new squid is about. -/
def newTarget (crawlerId : Json) (crawler : Crawler) (params : Json) : Target where
  squid := []
  scraper := crawlerId
  crawler := crawler
  translated := translateInputSchema crawler params

theorem Serves.target (serves : Serves m s.lower scraper crawlerId crawler params) (named : args.scraper = some scraper)
    (some' : scraper ≠ "") (fresh : args.reuse = false) (st : σ) :
    ∃ w, (readTarget s args).run m st = (.ok (newTarget crawlerId crawler params), w) := by
  have none' : args.reused = none := by
    unfold RunArgs.reuse at fresh
    cases reused : args.reused with
    | none => rfl
    | some squid =>
      rw [reused] at fresh
      cases fresh
  have squid : (readSquid args).run m st = (.ok [], st) := by
    unfold readSquid
    rw [none']
    rfl
  have asked : args.scraperJson.orElse (Fields.get [] "crawler") = .str scraper := by
    unfold RunArgs.scraperJson
    rw [named]
    exact Json.orElse_of_truthy (by simpa using some') _
  obtain ⟨w, resolved⟩ := serves.resolve st
  obtain ⟨w', read⟩ := serves.readParams (m w (.getCrawler crawlerId)).2
  refine ⟨w', ?_⟩
  unfold readTarget
  rw [Program.run_bind_ok squid, asked, Program.run_bind_ok resolved]
  unfold getCrawler
  rw [Program.run_bind_ok (run_send (serves.crawler w))]
  show (readCrawlerParams crawlerId >>= _).run m (m w (.getCrawler crawlerId)).2 = _
  rw [Program.run_bind_ok read]
  rfl

/-- A call that comes to a plan has read its schema, and found the input valid. -/
theorem Serves.planned (serves : Serves m s.lower scraper crawlerId crawler params) (named : args.scraper = some scraper)
    (fresh : args.reuse = false) {plan : RunPlan} {w : σ} (ran : (prepareRun s args).run m st = (.ok plan, w)) :
    PlannedFor args (newTarget crawlerId crawler params) plan := by
  unfold prepareRun at ran
  split at ran
  · cases ran
  · rename_i asked
    have some' : scraper ≠ "" := by
      rintro rfl
      apply asked
      simp [RunArgs.scraperJson, named, fresh]
    obtain ⟨v, target⟩ := serves.target named some' fresh st
    rw [Program.run_bind_ok target] at ran
    have ends := (ends_prepareFrom s args (newTarget crawlerId crawler params)).run (m := m) v
    exact ends plan (congrArg Prod.fst ran)

theorem trace_send_bind {α : Type} {c : Call} {v : c.Resp} (answers : (m st c).1 = .ok v) (f : c.Resp → Tool α) :
    (send c >>= f).trace m st = ⟨st, c, .ok v⟩ :: (f v).trace m (m st c).2 := by
  unfold send request
  rw [Program.bind_assoc, Program.trace_ask_bind, answers]
  rfl

theorem changes_cons {e : Event Call Answer σ} (writes : e.op.writes = true) (tr : List (Event Call Answer σ)) :
    changes (e :: tr) = e.op :: changes tr := by
  simp [changes, writes]

/-- A new squid is created, configured and given its row, in this order. -/
theorem Serves.writes (serves : Serves m s.lower scraper crawlerId crawler params) {plan : RunPlan} {α : Type}
    (target : plan.target.scraper = crawlerId) (rest : Written → Tool α) (st : σ) :
    ∃ squid settings later, Dict.get? settings "params" = some (.obj plan.squidParams) ∧
      changes ((writeNew plan >>= rest).trace m st) = .createSquid crawlerId none ::
        .updateSquid squid settings :: .addTasks squid [.obj plan.taskParams] :: later := by
  obtain ⟨made, id, created, held⟩ := serves.creates st none
  have read : item made "id" = pure (.str id) := by
    unfold item
    rw [held]
  unfold writeNew createSquid
  rw [target, Program.bind_assoc, trace_send_bind created, changes_cons rfl, read]
  simp only [Program.bind_assoc, Program.pure_bind]
  unfold request
  rw [Program.trace_ask_bind, changes_cons rfl]
  obtain ⟨saved, answered⟩ := serves.saves (m st (.createSquid crawlerId none)).2 (.str id)
    (withAccounts plan.account.toSave [
      ("name", ((Fields.get made "name").orElse (Fields.get plan.target.crawler.fields "name")).orElse crawlerId),
      ("params", .obj plan.squidParams)])
  rw [answered]
  simp only [Program.bind_assoc]
  rw [Program.trace_ask_bind, changes_cons rfl]
  refine ⟨_, _, _, ?_, rfl⟩
  unfold withAccounts
  split
  · rfl
  · rw [Dict.get?_set_other _ _ (by decide)]
    rfl

/-- A call that sends a row got past what it only reads. -/
theorem passed_of_rows {α β : Type} {p : Tool α} {f : α → Tool β} (reads : p.Uses Call.Reads)
    (sent : rowsSent (changes ((p >>= f).trace m st)) ≠ []) : ∃ a w, p.run m st = (.ok a, w) ∧
      changes ((p >>= f).trace m st) = changes ((f a).trace m w) := by
  cases ran : p.run m st with
  | mk outcome w =>
    cases outcome with
    | error e =>
      rw [Program.trace_bind_error ran, changes_uses reads] at sent
      exact absurd rfl sent
    | ok a =>
      rw [Program.trace_bind_ok ran, changes_append, changes_uses reads, List.nil_append]
      exact ⟨a, w, rfl, rfl⟩

/-- What one call sends, if it comes to send a row at all. -/
theorem Serves.oneCall (serves : Serves m s.lower scraper crawlerId crawler params) (named : args.scraper = some scraper)
    (fresh : args.reuse = false) (accepted : rowsSent (changes ((runScraperImpl s args).trace m st)) ≠ []) :
    ∃ plan, PlannedFor args (newTarget crawlerId crawler params) plan ∧
      paramsSent (changes ((runScraperImpl s args).trace m st)) = plan.squidParams ∧
      rowsSent (changes ((runScraperImpl s args).trace m st)) = [.obj plan.taskParams] := by
  rw [runScraperImpl, changes_structured] at accepted ⊢
  obtain ⟨plan, w, prepared, after⟩ := passed_of_rows (uses_prepareRun s args) accepted
  have planned := serves.planned named fresh prepared
  rw [after] at accepted ⊢
  unfold commitRun at accepted ⊢
  split at accepted
  · exact absurd rfl accepted
  · rename_i confirmed
    rw [if_neg confirmed]
    obtain ⟨funds, v, _, after'⟩ :=
      passed_of_rows ((uses_readFunds plan).mono fun _ => Call.Fetches.reads) accepted
    have new : writeInput plan = writeNew plan := by
      unfold writeInput
      rw [planned.args_eq, fresh, if_neg Bool.false_ne_true]
    have target : plan.target.scraper = crawlerId := by
      rw [planned.target_eq]
      rfl
    obtain ⟨squid, settings, later, sent, wrote⟩ := serves.writes target (startAndReport plan funds) v
    rw [after', new, wrote]
    refine ⟨plan, planned, ?_, rfl⟩
    exact paramsSent_cons rfl (paramsSent_save sent _)

end OneCall

/-! ### Its steps -/

section Steps
variable {σ : Type} {m : Machine Call Answer σ} {lower : String → String} {scraper : String} {crawlerId params : Json} {crawler : Crawler}
  {name : Option String} {config values : Fields} {st : σ}

theorem run_structured {verify : Option String} {body : Tool Fields} {reply : Fields} {w : σ}
    (ran : body.run m st = (.ok reply, w)) : (structured verify body).run m st = (.ok reply, w) := by
  unfold structured
  rw [Program.run_bind_ok (Program.run_attempt body st), ran]
  rfl

/-- The API's crawler lets a config go on as these values, without aliases. -/
def Completes (m : Machine Call Answer σ) (crawlerId : Json) (config values : Fields) : Prop :=
  ∀ st, ∃ w, (checkConfig crawlerId config).run m st = (.ok ⟨values, []⟩, w)

theorem completes_nil (m : Machine Call Answer σ) (crawlerId : Json) : Completes m crawlerId [] [] :=
  fun st => ⟨st, rfl⟩

theorem Serves.completes (serves : Serves m lower scraper crawlerId crawler params)
    (plain : (translateInputSchema crawler params).Plain) (given : config ≠ [])
    (valid : validateInput (flattened config) (translateInputSchema crawler params) false = [])
    (filled : (translateInputSchema crawler params).defaultsToFill.foldlM
      (fillDefault (translateInputSchema crawler params)) config = some values) :
    Completes m crawlerId config values := by
  intro st
  obtain ⟨w, read⟩ := serves.schema st
  refine ⟨w, ?_⟩
  unfold checkConfig
  rw [if_neg (by simpa using given), Program.run_bind_ok read]
  dsimp only
  rw [valid, filled, plain.wires]
  rfl

/-- What `create_squid` saves of a config: its name, its params if there are any, and its concurrency. -/
def createdBody (crawlerId : Json) (name : Option String) (squid values : Fields) (concurrency : Json) : Fields :=
  let body : Fields := [("name", ((nameJson name).orElse (Fields.get squid "name")).orElse crawlerId)]
  let body := if values.isEmpty then body else Dict.set body "params" (.obj (applyWireNames values []))
  if concurrency = .null then body else Dict.set body "concurrency" concurrency

theorem createdBody_params (crawlerId : Json) (name : Option String) (squid values : Fields) (concurrency : Json) :
    Dict.get? (createdBody crawlerId name squid values concurrency) "params" =
      if values.isEmpty then none else some (.obj (applyWireNames values [])) := by
  unfold createdBody
  by_cases empty : values.isEmpty = true <;> by_cases none' : concurrency = .null <;> simp [empty, none']

/-- What `create_squid` does once the squid is there. -/
def finishCreated (crawlerId : Json) (name : Option String) (squid values : Fields) (concurrency : Json) :
    Tool Fields := do
  let reply : Fields := [("squid_id", Fields.get squid "id"), ("scraper", crawlerId),
    ("name", (nameJson name).orElse (Fields.get squid "name")), ("concurrency", concurrency),
    ("message", .str ("Squid created. Add inputs with add_tasks, then run it with " ++
      "run_scraper(squid_id=...). estimate_run gives the cost first."))]
  if values.isEmpty && concurrency = .null then pure reply else
  saveConfig (Fields.get squid "id") crawlerId (createdBody crawlerId name squid values concurrency)
  pure reply

theorem Serves.finished (serves : Serves m lower scraper crawlerId crawler params) (name : Option String)
    (squid values : Fields) (concurrency : Json) (st : σ) : ∃ reply w, (finishCreated crawlerId name squid values concurrency).run m st = (.ok reply, w) ∧
      Fields.get reply "squid_id" = Fields.get squid "id" ∧
      (changes ((finishCreated crawlerId name squid values concurrency).trace m st)).findSome? addedBy = none ∧
      paramsSent (changes ((finishCreated crawlerId name squid values concurrency).trace m st)) =
        if values.isEmpty then [] else applyWireNames values [] := by
  unfold finishCreated
  dsimp only
  by_cases nothing : (values.isEmpty && concurrency = .null) = true
  · rw [if_pos nothing]
    have empty : values.isEmpty = true := (Bool.and_eq_true_iff.mp nothing).1
    rw [if_pos empty]
    exact ⟨_, st, rfl, rfl, rfl, rfl⟩
  · rw [if_neg nothing]
    obtain ⟨saved, answered⟩ := serves.saves st (Fields.get squid "id")
      (createdBody crawlerId name squid values concurrency)
    have params := createdBody_params crawlerId name squid values concurrency
    unfold saveConfig request
    rw [Program.bind_assoc, Program.run_ask_bind, Program.trace_ask_bind, answered, changes_cons rfl]
    refine ⟨_, _, rfl, rfl, rfl, ?_⟩
    show paramsSent [.updateSquid (Fields.get squid "id") (createdBody crawlerId name squid values concurrency)] = _
    by_cases empty : values.isEmpty = true
    · rw [if_pos empty] at params ⊢
      refine paramsSent_cons ?_ rfl
      show (Dict.get? (createdBody crawlerId name squid values concurrency) "params").bind Json.asObj? = none
      rw [params]
      rfl
    · rw [if_neg empty] at params ⊢
      exact paramsSent_save params []

/-- The squid is created; its params are sent where there are any. -/
theorem Serves.created (serves : Serves m lower scraper crawlerId crawler params) (name : Option String)
    (completes : Completes m crawlerId (Dict.erase config "concurrency") values) (st : σ) :
    ∃ reply id w, (createSquidImpl lower scraper name config none).run m st = (.ok reply, w) ∧
      Fields.get reply "squid_id" = .str id ∧
      (changes ((createSquidImpl lower scraper name config none).trace m st)).findSome? addedBy = none ∧
      paramsSent (changes ((createSquidImpl lower scraper name config none).trace m st)) =
        if values.isEmpty then [] else applyWireNames values [] := by
  obtain ⟨w₁, resolved⟩ := serves.resolve st
  obtain ⟨w₂, checked⟩ := completes w₁
  obtain ⟨squid, id, made, held⟩ := serves.creates w₂ name
  obtain ⟨reply, w₃, finished, named, added, sent⟩ := serves.finished name squid values
    (effectiveConcurrency none config) (m w₂ (.createSquid crawlerId name)).2
  have silent : ∀ {α : Type} {p : Tool α} (_ : p.Uses Call.Fetches) (v : σ), changes (p.trace m v) = [] :=
    fun uses v => changes_uses (uses.mono fun _ => Call.Fetches.reads) v
  have ran : (createSquidBody lower scraper name config none).run m st = (.ok reply, w₃) := by
    unfold createSquidBody createSquid
    rw [Program.run_bind_ok resolved, Program.run_bind_ok checked, Program.run_bind_ok (run_send made)]
    exact finished
  have wrote : changes ((createSquidBody lower scraper name config none).trace m st) = .createSquid crawlerId name ::
      changes ((finishCreated crawlerId name squid values (effectiveConcurrency none config)).trace m
        (m w₂ (.createSquid crawlerId name)).2) := by
    unfold createSquidBody createSquid
    rw [Program.trace_bind_ok resolved, changes_append, silent (uses_resolveCrawlerId _ _ fetches_listCrawlers),
      List.nil_append, Program.trace_bind_ok checked, changes_append, silent (uses_checkConfig _ _), List.nil_append,
      trace_send_bind made, changes_cons rfl]
    rfl
  unfold createSquidImpl
  rw [changes_structured, wrote]
  refine ⟨reply, id, w₃, run_structured ran, ?_, ?_, ?_⟩
  · rw [named]
    exact Fields.get_of_get? held
  · exact added
  · exact paramsSent_cons rfl sent

/-- The row is added as it is: no alias is known for its squid. -/
theorem Serves.added (serves : Serves m lower scraper crawlerId crawler params)
    (plain : (translateInputSchema crawler params).Plain) {id : String}
    (reads : ∀ record, (m st (.getSquid (.str id))).1 = .ok record → Fields.get record "crawler" = crawlerId)
    (row : Fields) : ((changes ((addTasksImpl id [.obj row]).trace m st)).findSome? savedBy = none) ∧
      rowsSent (changes ((addTasksImpl id [.obj row]).trace m st)) = [.obj (applyWireNames row [])] := by
  have unnamed : ∃ squid w, (squidAndWireNames id).run m st = (.ok ([], squid), w) := by
    unfold squidAndWireNames request
    rw [Program.run_ask_bind]
    cases read : (m st (.getSquid (.str id))).1 with
    | error e => exact ⟨_, _, rfl⟩
    | ok record =>
      dsimp only
      split
      · exact ⟨_, _, rfl⟩
      · rw [reads record read]
        obtain ⟨w, found⟩ := serves.schema (m st (.getSquid (.str id))).2
        rw [Program.run_bind_ok found]
        dsimp only
        rw [plain.wires]
        exact ⟨_, _, rfl⟩
  obtain ⟨squid, w, found⟩ := unnamed
  have wrote : changes ((addTasksImpl id [.obj row]).trace m st) =
      [.addTasks (.str id) [.obj (applyWireNames row [])]] := by
    unfold addTasksImpl
    rw [changes_structured]
    unfold addTasksBody addTasks send request
    rw [if_neg (by simp), Program.trace_bind_ok found, changes_append,
      changes_uses ((uses_squidAndWireNames id).mono fun _ => Call.Fetches.reads), List.nil_append]
    dsimp only
    rw [Program.bind_assoc, Program.trace_ask_bind, changes_cons rfl]
    -- nothing follows the rows, however they are answered
    split <;> rfl
  rw [wrote]
  exact ⟨rfl, rfl⟩

/-- What the steps send. -/
theorem Serves.steps (serves : Serves m lower scraper crawlerId crawler params)
    (plain : (translateInputSchema crawler params).Plain)
    (completes : Completes m crawlerId (Dict.erase config "concurrency") values)
    (reads : ReadsBack m st crawlerId (createSquidImpl lower scraper name config none)) (row : Fields) :
    paramsSent (changes ((stepByStep lower scraper name config row).trace m st)) =
        (if values.isEmpty then [] else applyWireNames values []) ∧
      rowsSent (changes ((stepByStep lower scraper name config row).trace m st)) = [.obj (applyWireNames row [])] := by
  obtain ⟨reply, id, w, ran, named, added, sent⟩ := serves.created name completes st
  have read : ∀ record, (m w (.getSquid (.str id))).1 = .ok record → Fields.get record "crawler" = crawlerId := by
    intro record answered
    have back := reads reply id record
    rw [ran] at back
    exact back rfl named answered
  obtain ⟨saved, rows⟩ := serves.added plain read row
  have identified : ((Fields.get reply "squid_id").asStr?).getD "" = id := by
    rw [named]
    rfl
  unfold stepByStep
  rw [Program.trace_bind_ok ran, changes_append, identified]
  constructor
  · rw [← sent]
    unfold paramsSent
    rw [List.findSome?_append, saved, Option.or_none]
  · rw [← rows]
    unfold rowsSent
    rw [List.findSome?_append, added, Option.none_or]

end Steps

/-! ### When the two agree -/

/-- A key that makes a `config` non-empty: a concurrency does not, it is lifted out. -/
def Translated.Configures (t : Translated) (key : String) : Prop :=
  t.isFunctionKey key = true ∨ t.isSquidKey key = true ∧ key ≠ "concurrency"

/-- The defaults that an input leaves out all come to the squid step by step as well. Those of the row never do.
The others do where the input configures something at all; a default that goes to the row without saying `task`
is then sent as a param, and a concurrency that is given is not. -/
structure StepsSuffice (t : Translated) (input : Fields) : Prop where
  row : ∀ key ∈ Dict.keys t.defaultsToFill, t.isTaskKey key = true → key ∈ Dict.keys input
  configured : (∃ key ∈ Dict.keys input, t.Configures key) →
    (∀ key ∈ Dict.keys t.defaultsToFill, t.isTaskKey key = true → t.levelOf key = some "task") ∧
      (t.isSquidKey "concurrency" = true → ∀ value, Dict.get? input "concurrency" = some value →
        Dict.get? t.defaultsToFill "concurrency" = some value)
  unconfigured : (¬ ∃ key ∈ Dict.keys input, t.Configures key) →
    (∀ key ∈ Dict.keys t.defaultsToFill, t.isTaskKey key = true) ∧
      ¬ (t.isSquidKey "concurrency" = true ∧ "concurrency" ∈ Dict.keys input)

section Agreement
variable {t : Translated} {input : Fields}

/-- A flat input configures something exactly when its `config` is not empty, the concurrency aside. -/
theorem configures_iff (plain : t.Plain) (distinct : (Dict.keys input).Nodup) (flat : "functions" ∉ Dict.keys input) :
    (∃ key ∈ Dict.keys input, t.Configures key) ↔ Dict.erase (t.squidParams input) "concurrency" ≠ [] := by
  have held : ∀ {key value}, key ≠ "concurrency" → Dict.get? (t.squidParams input) key = some value →
      Dict.erase (t.squidParams input) "concurrency" ≠ [] := by
    intro key value other read none'
    have kept : Dict.get? (Dict.erase (t.squidParams input) "concurrency") key = some value := by
      rw [Dict.get?_erase, if_neg (Ne.symm other), read]
    rw [none'] at kept
    cases kept
  constructor
  · rintro ⟨key, member, function | ⟨squid, other⟩⟩
    · have section' : Dict.get? (t.squidParams input) "functions" = _ := Translated.get?_squidParams "functions"
      rw [if_pos ⟨rfl, Translated.routed_nonempty member function⟩] at section'
      exact held (by decide) section'
    · obtain ⟨value, given⟩ := Dict.exists_get?_of_mem_keys member
      have beside : key ≠ "functions" := fun same => flat (same ▸ member)
      have sent : Dict.get? (t.squidParams input) key = some value := by
        rw [Translated.get?_squidParams, if_neg fun both => beside both.1, plain.get?_routed distinct,
          placed_here squid, given]
      exact held other sent
  · intro nonempty
    obtain ⟨⟨key, value⟩, listed⟩ := List.exists_mem_of_ne_nil _ nonempty
    obtain ⟨member, other⟩ := List.mem_filter.mp listed
    obtain ⟨value', read⟩ := Dict.exists_get?_of_mem_keys (Dict.mem_keys_of_mem member)
    rw [Translated.get?_squidParams] at read
    split at read
    · rename_i toggled
      obtain ⟨toggle, held, function⟩ := Translated.key_of_routed toggled.2
      exact ⟨toggle, held, .inl function⟩
    · rw [plain.get?_routed distinct] at read
      cases squid : t.isSquidKey key with
      | false =>
        rw [placed_elsewhere squid] at read
        cases read
      | true =>
        rw [placed_here squid] at read
        exact ⟨key, Dict.mem_keys_of_get? read, .inr ⟨squid, of_decide_eq_true other⟩⟩

/-- Where nothing is configured, nothing is sent beside the row exactly when no default belongs there. -/
theorem unconfigured_iff (none' : ¬ ∃ key ∈ Dict.keys input, t.Configures key) :
    t.sentValues (Dict.update t.defaultsToFill input) = valuesOf [] ↔
      (∀ key ∈ Dict.keys t.defaultsToFill, t.isTaskKey key = true) ∧
        ¬ (t.isSquidKey "concurrency" = true ∧ "concurrency" ∈ Dict.keys input) := by
  rw [sentValues_nil_iff]
  constructor
  · intro tasks
    refine ⟨fun key held => tasks key (Dict.mem_keys_update.mpr (.inl held)), ?_⟩
    rintro ⟨squid, given⟩
    have task := tasks "concurrency" (Dict.mem_keys_update.mpr (.inr given))
    rw [not_squid_of_task task] at squid
    cases squid
  · rintro ⟨tasks, unlifted⟩ key member
    rcases Dict.mem_keys_update.mp member with held | given
    · exact tasks key held
    · rcases Translated.place_cases (t := t) key with squid | function | task
      · by_cases concurrency : key = "concurrency"
        · subst concurrency
          exact absurd ⟨squid, given⟩ unlifted
        · exact absurd ⟨key, given, .inr ⟨squid, concurrency⟩⟩ none'
      · exact absurd ⟨key, given, .inl function⟩ none'
      · exact task

theorem mem_of_placed {goes : String → Bool} {key : String} {value : Json}
    (read : placed goes input key = some value) : (key, value) ∈ input := by
  unfold placed at read
  split at read
  · exact Dict.mem_of_get? read
  · cases read

/-- What is valid as an input is valid as a config. -/
theorem valid_config (plain : t.Plain) (distinct : (Dict.keys input).Nodup) (flat : "functions" ∉ Dict.keys input)
    (typed : ∀ e ∈ input, typeError t e = none) :
    validateInput (flattened (Dict.erase (t.squidParams input) "concurrency")) t false = [] := by
  obtain ⟨nests, values⟩ := plain.squidParams distinct flat
  obtain ⟨lifted, values'⟩ := nests.erase (show "concurrency" ≠ "functions" by decide)
  unfold validateInput
  rw [if_neg Bool.false_ne_true, List.nil_append, List.filterMap_eq_nil_iff]
  rintro ⟨key, value⟩ listed
  apply typed
  have held := lifted.of_mem_flattened listed
  rw [values', values] at held
  rcases held with read | read
  · dsimp only at read
    split at read
    · cases read
    · exact mem_of_placed read
  · exact mem_of_placed ((toggles_sentValues key).symm.trans read)

theorem valuesOf_applied {values : Fields} (nests : Nests values) :
    valuesOf (if values.isEmpty then [] else applyWireNames values []) = valuesOf values := by
  split
  · rename_i empty
    rw [List.isEmpty_iff.mp empty]
  · exact nests.applyWireNames

end Agreement

section Result
variable {σ : Type} {m : Machine Call Answer σ} {s : Session} {args : RunArgs} {scraper : String}
  {crawlerId params : Json} {crawler : Crawler} {st st' : σ} {name : Option String}

/-- Without anything configured, the steps send the row and nothing else. -/
theorem Serves.steps_unconfigured (serves : Serves m s.lower scraper crawlerId crawler params)
    (plain : (translateInputSchema crawler params).Plain) {input : Fields} (distinct : (Dict.keys input).Nodup)
    (flat : "functions" ∉ Dict.keys input)
    (none' : ¬ ∃ key ∈ Dict.keys input, (translateInputSchema crawler params).Configures key)
    (reads : ReadsBack m st crawlerId
      (createSquidImpl s.lower scraper name ((translateInputSchema crawler params).squidParams input) none)) :
    valuesOf (paramsSent (changes ((stepByStep s.lower scraper name ((translateInputSchema crawler params).squidParams input)
        ((translateInputSchema crawler params).taskParams input)).trace m st))) = valuesOf [] ∧
      rowsSent (changes ((stepByStep s.lower scraper name ((translateInputSchema crawler params).squidParams input)
        ((translateInputSchema crawler params).taskParams input)).trace m st)) =
          [.obj ((translateInputSchema crawler params).taskParams input)] := by
  rw [configures_iff plain distinct flat, not_not] at none'
  have completes := completes_nil m crawlerId
  rw [← none'] at completes
  obtain ⟨sent, rows⟩ := serves.steps plain completes reads ((translateInputSchema crawler params).taskParams input)
  rw [plain.taskParams distinct flat] at rows
  rw [sent, none']
  exact ⟨rfl, rows⟩

/-- With something configured, they send the params that are configured, completed, and the row. -/
theorem Serves.steps_configured (serves : Serves m s.lower scraper crawlerId crawler params)
    (plain : (translateInputSchema crawler params).Plain) {input : Fields} (distinct : (Dict.keys input).Nodup)
    (flat : "functions" ∉ Dict.keys input) (typed : ∀ e ∈ input, typeError (translateInputSchema crawler params) e = none)
    (some' : ∃ key ∈ Dict.keys input, (translateInputSchema crawler params).Configures key)
    (reads : ReadsBack m st crawlerId
      (createSquidImpl s.lower scraper name ((translateInputSchema crawler params).squidParams input) none)) :
    valuesOf (paramsSent (changes ((stepByStep s.lower scraper name ((translateInputSchema crawler params).squidParams input)
        ((translateInputSchema crawler params).taskParams input)).trace m st))) =
        ParamValues.filled (translateInputSchema crawler params) (translateInputSchema crawler params).defaultsToFill
          { flat := fun key => if key = "concurrency" then none
              else ((translateInputSchema crawler params).sentValues input).flat key
            toggles := ((translateInputSchema crawler params).sentValues input).toggles } ∧
      rowsSent (changes ((stepByStep s.lower scraper name ((translateInputSchema crawler params).squidParams input)
        ((translateInputSchema crawler params).taskParams input)).trace m st)) =
          [.obj ((translateInputSchema crawler params).taskParams input)] := by
  obtain ⟨nests, values⟩ := plain.squidParams distinct flat
  obtain ⟨lifted, values'⟩ := nests.erase (show "concurrency" ≠ "functions" by decide)
  obtain ⟨filled, made, kept, completed⟩ :=
    foldlM_fillDefault (t := translateInputSchema crawler params) lifted plain.toggles
  have completes := serves.completes plain ((configures_iff plain distinct flat).mp some')
    (valid_config plain distinct flat typed) made
  obtain ⟨sent, rows⟩ := serves.steps plain completes reads ((translateInputSchema crawler params).taskParams input)
  rw [plain.taskParams distinct flat] at rows
  refine ⟨?_, rows⟩
  rw [sent, valuesOf_applied kept, completed, values', values]

/-- One call and its steps send a new squid the same params and the same row exactly when the steps suffice for the
defaults of its crawler. -/
theorem steps_agree_iff (serves : Serves m s.lower scraper crawlerId crawler params) (apart : crawler.NamesApart)
    (named : args.scraper = some scraper) (fresh : args.reuse = false) (distinct : (Dict.keys args.input).Nodup)
    (flat : "functions" ∉ Dict.keys args.input)
    (accepted : rowsSent (changes ((runScraperImpl s args).trace m st)) ≠ [])
    (reads : ReadsBack m st' crawlerId (createSquidImpl s.lower scraper name
      ((translateInputSchema crawler params).squidParams args.input) none)) :
    SentAlike (changes ((runScraperImpl s args).trace m st))
        (changes ((stepByStep s.lower scraper name ((translateInputSchema crawler params).squidParams args.input)
          ((translateInputSchema crawler params).taskParams args.input)).trace m st')) ↔
      StepsSuffice (translateInputSchema crawler params) args.input := by
  have plain := plain_of_apart apart params
  obtain ⟨plan, planned, sent, rows⟩ := serves.oneCall named fresh accepted
  have typed := (accepted_valid fresh planned.valid).2
  have completed : (Dict.keys (Dict.update (translateInputSchema crawler params).defaultsToFill args.input)).Nodup :=
    Dict.nodup_keys_update plain.distinct args.input
  have completed_flat :
      "functions" ∉ Dict.keys (Dict.update (translateInputSchema crawler params).defaultsToFill args.input) := by
    rw [Dict.mem_keys_update, not_or]
    exact ⟨plain.toggles, flat⟩
  have input : plan.input = Dict.update (translateInputSchema crawler params).defaultsToFill args.input := by
    rw [planned.input_eq, finalInput, fresh]
    rfl
  have translated : plan.target.translated = translateInputSchema crawler params := by
    rw [planned.target_eq]
    rfl
  rw [RunPlan.squidParams, translated, input] at sent
  rw [RunPlan.taskParams, translated, input] at rows
  have values := (plain.squidParams completed completed_flat).2
  have row := row_filled_iff plain distinct plain.distinct
  by_cases some' : ∃ key ∈ Dict.keys args.input, (translateInputSchema crawler params).Configures key
  · obtain ⟨sent', rows'⟩ := serves.steps_configured plain distinct flat typed some' reads
    rw [sentAlike_iff rows rows', sent, sent', values, row, eq_comm, filled_iff distinct]
    constructor
    · rintro ⟨configured, given⟩
      exact ⟨given, fun _ => configured, fun none' => absurd some' none'⟩
    · intro suffices'
      exact ⟨suffices'.configured some', suffices'.row⟩
  · obtain ⟨sent', rows'⟩ := serves.steps_unconfigured plain distinct flat some' reads
    rw [sentAlike_iff rows rows', sent, sent', values, row, unconfigured_iff some']
    constructor
    · rintro ⟨unconfigured, given⟩
      exact ⟨given, fun configured => absurd configured some', fun _ => unconfigured⟩
    · intro suffices'
      exact ⟨suffices'.unconfigured some', suffices'.row⟩

end Result

/-! ### With defaults at every level -/

/-- An API with one scraper, of this crawler. -/
def oneScraper (crawler : Crawler) : Machine Call Answer Unit :=
  steadyApi (plainRecord "squid" .null) (.ok []) fun _ => crawler

theorem serves_oneScraper (crawler : Crawler) :
    Serves (oneScraper crawler) plainSession.lower plainCrawlerId (.str plainCrawlerId) crawler .null where
  resolves := ⟨.ok [], fun _ => rfl, rfl⟩
  crawler := fun _ => rfl
  params := fun _ => rfl
  creates := fun _ _ => ⟨_, "squid", rfl, rfl⟩
  saves := fun _ _ _ => ⟨_, rfl⟩

theorem readsBack_oneScraper (crawler : Crawler) (create : Program Call Answer Exc Fields) :
    ReadsBack (oneScraper crawler) () (.str plainCrawlerId) create := by
  intro reply id record _ _ answered
  cases answered
  rfl

/-- A crawler with a required input at each level, the last three with a default. -/
def everyDefault : Crawler where
  input := [{ name := "url", level := some (some "task"), required := .bool true },
    { name := "country", level := some (some "task"), required := .bool true, default := some (.str "US") },
    { name := "language", level := some (some "squid"), required := .bool true, default := some (.str "en") },
    { name := "emails", level := some (some "function"), required := .bool true, default := some (.bool false) }]

theorem everyDefault_apart : everyDefault.NamesApart := by
  constructor
  · intro a first b second same
    simp only [everyDefault, List.mem_cons, List.not_mem_nil, or_false] at first second
    rcases first with rfl | rfl | rfl | rfl <;> rcases second with rfl | rfl | rfl | rfl <;>
      first | rfl | exact absurd same (by decide)
  · decide

/-- A call with only what has no default. -/
def onlyUrl : RunArgs := { scraper := some plainCrawlerId, input := [("url", .str "https://example.com")], confirm := true }

/-- A call with its row complete, and one setting. -/
def rowAndLanguage : RunArgs where
  scraper := some plainCrawlerId
  input := [("url", .str "https://example.com"), ("country", .str "FR"), ("language", .str "fr")]
  confirm := true

theorem a_complete_row_is_sent_alike : SentAlike
    (changes ((runScraperImpl plainSession rowAndLanguage).trace (oneScraper everyDefault) ()))
    (changes ((stepByStep plainSession.lower plainCrawlerId none
      ((translateInputSchema everyDefault .null).squidParams rowAndLanguage.input)
      ((translateInputSchema everyDefault .null).taskParams rowAndLanguage.input)).trace (oneScraper everyDefault) ())) := by
  refine (steps_agree_iff (serves_oneScraper everyDefault) everyDefault_apart rfl rfl (by decide) (by decide)
    (by decide +kernel) (readsBack_oneScraper everyDefault _)).mpr ?_
  constructor
  · decide +kernel
  · intro _
    decide +kernel
  · intro none'
    exact absurd ⟨"language", by decide, .inr ⟨by decide +kernel, by decide⟩⟩ none'

/-- The defaults of all three levels are sent by the one call, and none of them by its steps. -/
theorem the_steps_send_no_default : everyDefault.NamesApart ∧
    Serves (oneScraper everyDefault) plainSession.lower plainCrawlerId (.str plainCrawlerId) everyDefault .null ∧
    ReadsBack (oneScraper everyDefault) () (.str plainCrawlerId) (createSquidImpl plainSession.lower plainCrawlerId none
      ((translateInputSchema everyDefault .null).squidParams onlyUrl.input) none) ∧
    rowsSent (changes ((runScraperImpl plainSession onlyUrl).trace (oneScraper everyDefault) ())) =
      [.obj [("country", .str "US"), ("url", .str "https://example.com")]] ∧
    paramsSent (changes ((runScraperImpl plainSession onlyUrl).trace (oneScraper everyDefault) ())) =
      [("language", .str "en"), ("functions", .obj [("emails", .bool false)])] ∧
    ¬ SentAlike (changes ((runScraperImpl plainSession onlyUrl).trace (oneScraper everyDefault) ()))
      (changes ((stepByStep plainSession.lower plainCrawlerId none
        ((translateInputSchema everyDefault .null).squidParams onlyUrl.input)
        ((translateInputSchema everyDefault .null).taskParams onlyUrl.input)).trace (oneScraper everyDefault) ())) := by
  have one : paramsSent (changes ((runScraperImpl plainSession onlyUrl).trace (oneScraper everyDefault) ())) =
      [("language", .str "en"), ("functions", .obj [("emails", .bool false)])] := by decide +kernel
  have steps : paramsSent (changes ((stepByStep plainSession.lower plainCrawlerId none
      ((translateInputSchema everyDefault .null).squidParams onlyUrl.input)
      ((translateInputSchema everyDefault .null).taskParams onlyUrl.input)).trace (oneScraper everyDefault) ())) = [] := by
    decide +kernel
  refine ⟨everyDefault_apart, serves_oneScraper everyDefault, readsBack_oneScraper everyDefault _,
    by decide +kernel, one, fun alike => ?_⟩
  have same := alike.params
  rw [one, steps] at same
  have language := congrFun (congrArg ParamValues.flat same) "language"
  exact absurd language (by decide)

end LobstrMcp
