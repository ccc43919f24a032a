import LobstrMcp.Interaction.Machine
import LobstrMcp.Run.Attached

/-!
Which crawler a re-run is made with. The squid names one, but a `scraper` that the caller passes is
taken before it: schema, account, price and writes are those of the squid's crawler only if the two
resolve to one.
-/

namespace LobstrMcp
open Interaction Tool

/-- `resolve_crawler_id` of a name, by what the catalogue answers. -/
def resolvedId (lower : String → String) (catalog : Except Exc (List Fields)) (scraper : String) : Json :=
  if decide (scraper ≠ "") && isCrawlerId scraper then .str scraper else
  match catalog with
  | .ok crawlers => (resolveInCatalog lower crawlers (.str scraper)).getD (.str scraper)
  | .error _ => .str scraper

/-- The calls of a run that change something, upstream or in the store. -/
def changes {σ : Type} (tr : List (Event Call Answer σ)) : List Call :=
  (tr.map Event.op).filter fun c => c.writes || match c with
    | .idemPut _ _ _ => true
    | _ => false

section Machine
variable {σ : Type} (m : Machine Call Answer σ) (st : σ) (s : Session)

/-- A tool's outcome is what its body comes to, with an upstream failure put into a reply. -/
theorem structured_run (verify : Option String) (body : Tool Fields) :
    ((structured verify body).run m st).1 = settle verify (body.run m st).1 := by
  unfold structured
  rw [Program.run_bind_ok (Program.run_attempt _ _), Program.run_ofExcept]

/-- What a call runs, on a machine. -/
def targetOn (args : RunArgs) : Except Exit Target := ((readTarget s args).run m st).1

/-- What it comes to before its writes. -/
def planOn (args : RunArgs) : Except Exit RunPlan := ((prepareRun s args).run m st).1

/-- Two calls make the same run: the same writes, by the same schema, with the same account
requirement and at the same price. -/
structure RunsAlike (a b : RunArgs) : Prop where
  writes : changes ((runScraperImpl s a).trace m st) = changes ((runScraperImpl s b).trace m st)
  schema : (targetOn m st s a).map Target.translated = (targetOn m st s b).map Target.translated
  account : (targetOn m st s a).map (fun t => crawlerAccountType t.crawler) =
    (targetOn m st s b).map fun t => crawlerAccountType t.crawler
  price : (planOn m st s a).map RunPlan.estimate = (planOn m st s b).map RunPlan.estimate

/-- The squid is held and names its crawler, and the catalogue is as given; reading it changes nothing. -/
structure Names (name own : String) (catalog : Except Exc (List Fields)) : Prop where
  squid : ∃ record, (m st (.getSquid (.str name))).1 = .ok record ∧ Fields.get record "crawler" = .str own
  catalog : m (m st (.getSquid (.str name))).2 .listCrawlers = (catalog, (m st (.getSquid (.str name))).2)

end Machine

/-- A call that passes a scraper, or none. -/
def RunArgs.passing (args : RunArgs) (scraper : Option String) : RunArgs := { args with scraper }

/-- The name that a call goes by: what it passes, or else the squid's own. -/
def namedBy (own : String) (scraper : Option String) : String := (scraper.filter (· ≠ "")).getD own

section Same
variable {σ : Type} {m : Machine Call Answer σ} {st : σ} {s : Session} {args : RunArgs} {name own : String}
  {catalog : Except Exc (List Fields)} {scraper : Option String}

theorem run_send {c : Call} {v : c.Resp} (answers : (m st c).1 = .ok v) :
    (send c).run m st = (.ok v, (m st c).2) := by
  unfold send request
  rw [Program.run_ask_bind, answers]
  rfl

theorem run_resolveCrawlerId {v : σ} (answers : m v .listCrawlers = (catalog, v)) (name : String) :
    (resolveCrawlerId s.lower (.str name)).run m v = (.ok (resolvedId s.lower catalog name), v) := by
  unfold resolveCrawlerId resolvedId
  show (if decide (name ≠ "") && isCrawlerId name then _ else _ : Tool Json).run m v = _
  by_cases isId : (decide (name ≠ "") && isCrawlerId name) = true
  · rw [if_pos isId, if_pos isId]
    rfl
  rw [if_neg isId, if_neg isId, request, Program.run_ask_bind, answers]
  cases catalog <;> rfl

/-- The crawler is looked up by the name the call goes by. -/
theorem run_readTarget (reused : args.reused = some name) (names : Names m st name own catalog) :
    (readTarget s (args.passing scraper)).run m st =
      (do let squid ← readSquid args
          let crawler ← getCrawler (resolvedId s.lower catalog (namedBy own scraper))
          let params ← readCrawlerParams (resolvedId s.lower catalog (namedBy own scraper))
          pure { squid, scraper := resolvedId s.lower catalog (namedBy own scraper), crawler,
                 translated := translateInputSchema crawler params } : Tool Target).run m st := by
  obtain ⟨record, held, crawler⟩ := names.squid
  have squid : (readSquid args).run m st = (.ok record, (m st (.getSquid (.str name))).2) := by
    unfold readSquid
    rw [reused]
    exact run_send held
  have named : (args.passing scraper).scraperJson.orElse (Fields.get record "crawler") =
      .str (namedBy own scraper) := by
    rw [crawler]
    cases scraper with
    | none => rfl
    | some passed =>
      by_cases empty : passed = ""
      · subst empty
        rfl
      · simp [RunArgs.scraperJson, RunArgs.passing, Json.orElse, Json.truthy, namedBy, Option.filter, empty]
  unfold readTarget
  have passing : (readSquid (args.passing scraper)).run m st = _ := squid
  rw [Program.run_bind_ok squid, Program.run_bind_ok passing, named,
    Program.run_bind_ok (run_resolveCrawlerId names.catalog _)]

/-- What a call does once it knows what it runs. -/
def prepareFrom (s : Session) (args : RunArgs) (target : Target) : Tool RunPlan := do
  let errors := inputErrors args target.translated
  if !errors.isEmpty then
    returned [("error_code", .str "validation_error"), ("errors", .arr (errors.map .str))]
  else
  let input := finalInput args target.translated
  let entry := idempotencyEntry s args target.scraper input
  lookUpRun entry.1
  let account ← chooseAccount s args target
  let snapshot ← readRows args
  pure { floats := s.floats, args, target, input, key := entry.1, keyTtl := entry.2, account, snapshot }

theorem prepareRun_reused (args : RunArgs) (reused : args.reused = some name) :
    prepareRun s args = readTarget s args >>= prepareFrom s args := by
  have reuse : args.reuse = true := by
    rw [RunArgs.reuse, reused]
    rfl
  unfold prepareRun
  rw [reuse, Bool.not_true, Bool.and_false, if_neg Bool.false_ne_true]
  rfl

def RunPlan.passing (plan : RunPlan) (scraper : Option String) : RunPlan :=
  { plan with args := plan.args.passing scraper }

theorem prepareFrom_passing (args : RunArgs) (target : Target) :
    prepareFrom s (args.passing scraper) target =
      prepareFrom s args target >>= fun plan => pure (plan.passing scraper) := by
  unfold prepareFrom
  have errors : inputErrors (args.passing scraper) target.translated = inputErrors args target.translated := rfl
  dsimp only
  rw [errors]
  split
  · rfl
  simp only [Program.bind_assoc, Program.pure_bind]
  rfl

@[simp] theorem RunPlan.passing_target (plan : RunPlan) : (plan.passing scraper).target = plan.target := rfl

@[simp] theorem RunPlan.passing_account (plan : RunPlan) : (plan.passing scraper).account = plan.account := rfl

@[simp] theorem RunPlan.passing_squidParams (plan : RunPlan) :
    (plan.passing scraper).squidParams = plan.squidParams := rfl

@[simp] theorem RunPlan.passing_taskParams (plan : RunPlan) :
    (plan.passing scraper).taskParams = plan.taskParams := rfl

theorem writeInput_passing (plan : RunPlan) : writeInput (plan.passing scraper) = writeInput plan := by
  have created : writeNew (plan.passing scraper) = writeNew plan := by
    unfold writeNew
    simp only [RunPlan.passing_target, RunPlan.passing_account, RunPlan.passing_squidParams,
      RunPlan.passing_taskParams]
    -- the type of an answer mentions the request, and so the plan: the two agree answer by answer
    refine congrArg _ (funext fun squid => congrArg _ (funext fun squidId => congrArg _ (funext fun saved => ?_)))
    cases saved with
    | error e => rfl
    | ok _ =>
      dsimp only
      refine congrArg _ (funext fun added => ?_)
      cases added <;> rfl
  unfold writeInput
  rw [created]
  rfl

/-- From there on, what was passed is not looked at again. -/
theorem commitRun_passing (plan : RunPlan) : commitRun s (plan.passing scraper) = commitRun s plan := by
  unfold commitRun
  rw [writeInput_passing]
  rfl

theorem body_passing (reused : args.reused = some name) :
    prepareRun s (args.passing scraper) >>= commitRun s =
      readTarget s (args.passing scraper) >>= fun target => prepareFrom s args target >>= commitRun s := by
  rw [prepareRun_reused (args.passing scraper) reused, Program.bind_assoc]
  congr 1
  funext target
  rw [prepareFrom_passing, Program.bind_assoc]
  congr 1
  funext plan
  exact commitRun_passing plan

theorem changes_uses {α : Type} {p : Tool α} (uses : p.Uses Call.Reads) (st : σ) : changes (p.trace m st) = [] := by
  unfold changes
  rw [List.filter_eq_nil_iff]
  intro c member
  obtain ⟨e, issued, rfl⟩ := List.mem_map.mp member
  obtain ⟨quiet, notPut⟩ := Program.trace_uses uses st e issued
  rw [quiet]
  cases op : e.op with
  | idemPut key runId ttl => exact absurd op (notPut key runId ttl)
  | _ => simp

theorem changes_append (before after : List (Event Call Answer σ)) :
    changes (before ++ after) = changes before ++ changes after := by
  simp [changes]

theorem changes_structured (verify : Option String) (body : Tool Fields) :
    changes ((structured verify body).trace m st) = changes (body.trace m st) := by
  unfold structured
  rw [Program.trace_bind_ok (Program.run_attempt body st), Program.trace_attempt, Program.trace_ofExcept,
    List.append_nil]

theorem changes_bind_congr {α β : Type} {p q : Tool α} {f : α → Tool β} (reads : p.Uses Call.Reads)
    (others : q.Uses Call.Reads) (same : p.run m st = q.run m st) :
    changes ((p >>= f).trace m st) = changes ((q >>= f).trace m st) := by
  cases ran : p.run m st with
  | mk outcome t =>
    have other : q.run m st = (outcome, t) := same.symm.trans ran
    cases outcome with
    | error e =>
      rw [Program.trace_bind_error ran, Program.trace_bind_error other, changes_uses reads, changes_uses others]
    | ok a =>
      rw [Program.trace_bind_ok ran, Program.trace_bind_ok other, changes_append, changes_append,
        changes_uses reads, changes_uses others]

/-- Where the name a call goes by resolves to the squid's crawler, nothing depends on it. -/
theorem same_of_resolved (reused : args.reused = some name) (names : Names m st name own catalog)
    (resolved : resolvedId s.lower catalog (namedBy own scraper) = resolvedId s.lower catalog own) :
    RunsAlike m st s (args.passing none) (args.passing scraper) := by
  have target : (readTarget s (args.passing none)).run m st = (readTarget s (args.passing scraper)).run m st := by
    rw [run_readTarget reused names, run_readTarget reused names, resolved]
    rfl
  have plans : planOn m st s (args.passing scraper) =
      (planOn m st s (args.passing none)).map fun plan => plan.passing scraper := by
    unfold planOn
    rw [prepareRun_reused (args.passing scraper) reused, ← Program.run_bind_congr target,
      prepareRun_reused (args.passing none) reused, ← Program.run_map, Program.bind_assoc]
    congr 3
    funext found
    exact prepareFrom_passing (args.passing none) found
  constructor
  · rw [runScraperImpl, runScraperImpl, changes_structured, changes_structured, body_passing reused,
      body_passing reused]
    exact changes_bind_congr ((uses_readTarget _ _).mono fun _ => Call.Fetches.reads)
      ((uses_readTarget _ _).mono fun _ => Call.Fetches.reads) target
  · rw [targetOn, targetOn, target]
  · rw [targetOn, targetOn, target]
  · rw [plans]
    cases planOn m st s (args.passing none) <;> rfl

end Same

/-! ### Where it is not the squid's crawler -/

/-- An API that holds one squid, without rows, and knows every crawler it is asked about. -/
def steadyApi (record : Fields) (catalog : Except Exc (List Fields)) (find : Json → Crawler) :
    Machine Call Answer Unit
  | _, .getSquid _ => (.ok record, ())
  | _, .listCrawlers => (catalog, ())
  | _, .getCrawler id => (.ok (find id), ())
  | _, .getCrawlerParams _ => (.ok .null, ())
  | _, .getAccount _ => (.ok .null, ())
  | _, .listAccounts _ _ _ _ => (.ok .null, ())
  | _, .listTasks _ => (.ok (.arr []), ())
  | _, .listSquids => (.ok [record], ())
  | _, .pageSquids _ _ _ => (.ok (.arr [.obj record]), ())
  | _, .getRunStats _ => (.ok [("id", .str "run")], ())
  | _, .getRun _ => (.ok [("id", .str "run")], ())
  | _, .getRunCredits _ => (.ok .null, ())
  | _, .getBalance => (.ok [], ())
  | _, .createSquid _ _ => (.ok record, ())
  | _, .updateSquid _ _ => (.ok .null, ())
  | _, .deleteSquid _ => (.ok .null, ())
  | _, .emptySquid _ => (.ok .null, ())
  | _, .addTasks _ _ => (.ok .null, ())
  | _, .startRun _ => (.ok [("id", .str "run")], ())
  | _, .setSquidActive _ _ => (.ok .null, ())
  | _, .abortRun _ => (.ok .null, ())
  | _, .idemGet _ => (.ok none, ())
  | _, .idemPut _ _ _ => (.ok (), ())

theorem names_steadyApi {record : Fields} {catalog : Except Exc (List Fields)} {find : Json → Crawler}
    {own : String} (name : String) (crawler : Fields.get record "crawler" = .str own) :
    Names (steadyApi record catalog find) () name own catalog :=
  ⟨⟨record, rfl, crawler⟩, rfl⟩

/-- A squid of its own crawler, the only one that needs an account. -/
def tellingApi (lower : String → String) (catalog : Except Exc (List Fields)) (own : String) :
    Machine Call Answer Unit :=
  steadyApi [("crawler", .str own)] catalog fun id => {
    input := []
    fields := [("account", .obj [("type", if id = resolvedId lower catalog own then .str "linkedin" else .null)])] }

theorem account_tellingApi {args : RunArgs} {name : String} (reused : args.reused = some name)
    (s : Session) (catalog : Except Exc (List Fields)) (own : String) (scraper : Option String) :
    (targetOn (tellingApi s.lower catalog own) () s (args.passing scraper)).map
      (fun t => crawlerAccountType t.crawler) = .ok (if resolvedId s.lower catalog (namedBy own scraper) =
        resolvedId s.lower catalog own then .str "linkedin" else .null) := by
  unfold targetOn tellingApi
  rw [run_readTarget reused (names_steadyApi name rfl)]
  unfold readSquid
  rw [reused]
  rfl

/-- A re-run is that of the squid's crawler, in every environment, exactly when the name it goes by
resolves to it: no scraper is passed, or an empty one, or one of the same crawler. -/
theorem squid_decides_crawler_iff {args : RunArgs} {name : String} (reused : args.reused = some name)
    (s : Session) (own : String) (catalog : Except Exc (List Fields)) (scraper : Option String) :
    (∀ (σ : Type) (m : Machine Call Answer σ) (st : σ), Names m st name own catalog →
      RunsAlike m st s (args.passing none) (args.passing scraper)) ↔
      resolvedId s.lower catalog (namedBy own scraper) = resolvedId s.lower catalog own := by
  constructor
  · intro same
    -- where only the squid's own crawler needs an account, another one shows
    have account := (same Unit (tellingApi s.lower catalog own) () (names_steadyApi name rfl)).account
    rw [account_tellingApi reused, account_tellingApi reused] at account
    have unpassed : resolvedId s.lower catalog (namedBy own none) = resolvedId s.lower catalog own := rfl
    by_contra other
    rw [if_pos unpassed, if_neg other] at account
    cases account
  · intro resolved σ m st names
    exact same_of_resolved reused names resolved

/-- A squid of a dear crawler, and a cheap one beside it. -/
def pricedApi : Machine Call Answer Unit :=
  steadyApi (plainRecord "squid" .null) (.ok []) fun id =>
    { input := [], fields := [("credits_per_task", .int (if id = .str plainCrawlerId then 500 else 1))] }

def cheapCrawlerId : String := "11111111111111111111111111111111"

def unconfirmed : RunArgs := { squidId := some "squid" }

/-- The squid's own crawler can be passed as well. -/
theorem own_crawler_passed :
    RunsAlike pricedApi () plainSession (unconfirmed.passing none) (unconfirmed.passing (some plainCrawlerId)) :=
  (squid_decides_crawler_iff (show unconfirmed.reused = some "squid" from rfl) plainSession plainCrawlerId (.ok [])
    (some plainCrawlerId)).mpr rfl Unit pricedApi () (names_steadyApi "squid" rfl)

/-- A run that needs the user's word is started without it, by the name of a cheaper crawler. -/
theorem cheap_crawler_slips_through :
    Names pricedApi () "squid" plainCrawlerId (.ok []) ∧
      changes ((runScraperImpl plainSession (unconfirmed.passing none)).trace pricedApi ()) = [] ∧
      Call.startRun (.str "squid") ∈
        changes ((runScraperImpl plainSession (unconfirmed.passing (some cheapCrawlerId))).trace pricedApi ()) ∧
      ¬ RunsAlike pricedApi () plainSession (unconfirmed.passing none)
        (unconfirmed.passing (some cheapCrawlerId)) := by
  have asked : changes ((runScraperImpl plainSession (unconfirmed.passing none)).trace pricedApi ()) = [] := by
    decide +kernel
  have started : Call.startRun (.str "squid") ∈ changes
      ((runScraperImpl plainSession (unconfirmed.passing (some cheapCrawlerId))).trace pricedApi ()) := by
    decide +kernel
  refine ⟨names_steadyApi "squid" rfl, asked, started, fun same => ?_⟩
  rw [← same.writes, asked] at started
  cases started

end LobstrMcp
