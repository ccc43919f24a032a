import LobstrMcp.Model.AccountLinking
import LobstrMcp.Model.TaskRows

/-!
`run_scraper_impl`, in the order of the source: the reads, the input's validation and the
idempotency key, the account, the routing of the input, the rows, the estimate and its gate, the
balance; then the writes and the start of the run. What the reads found is a `RunPlan`; what the
source computes from it is a function of the plan.
-/

namespace LobstrMcp
open Interaction Tool

/-! ### Routing -/

namespace Translated
variable (t : Translated)

/-- `levels.get(k) in _SQUID_LEVELS` -/
def isSquidKey (k : String) : Bool := t.levelOf k = some "squid" ∨ t.levelOf k = some "cluster"

/-- `levels.get(k) == _FUNCTION_LEVEL` -/
def isFunctionKey (k : String) : Bool := t.levelOf k = some "function"

/-- Every other key goes to the task row, known or not. -/
def isTaskKey (k : String) : Bool := !t.isSquidKey k && !t.isFunctionKey k

/-- The entries of an input that go to one place, under the names the API knows. -/
def routed (goes : String → Bool) (input : Fields) : Fields :=
  Dict.collect ((input.filter fun e => goes e.1).map fun e => (t.wireName e.1, e.2))

def squidParams (input : Fields) : Fields :=
  let functions := t.routed t.isFunctionKey input
  let flat := t.routed t.isSquidKey input
  if functions.isEmpty then flat else Dict.set flat "functions" (.obj functions)

def taskParams (input : Fields) : Fields := t.routed t.isTaskKey input

end Translated

/-! ### The arguments and the reads -/

/-- The arguments of `run_scraper_impl`; an `input` of None is the empty one. -/
structure RunArgs where
  scraper : Option String := none
  input : Fields := []
  confirm : Bool := false
  idempotencyKey : Option String := none
  squidId : Option String := none
  accountId : Option String := none
  replaceTasks : Bool := false

namespace RunArgs

/-- `squid_id`, when there is one: an empty string is none. -/
def reused (args : RunArgs) : Option String := args.squidId.filter (· ≠ "")

/-- `reuse = bool(squid_id)` -/
def reuse (args : RunArgs) : Bool := args.reused.isSome

/-- `scraper`, null when it is None. -/
def scraperJson (args : RunArgs) : Json := (args.scraper.map Json.str).getD .null

end RunArgs

/-- What a run is about: the squid it reuses (empty when there is none), its crawler's id, the
crawler, and the translated schema. -/
structure Target where
  squid : Fields
  scraper : Json
  crawler : Crawler
  translated : Translated

/-- `existing_squid` -/
def readSquid (args : RunArgs) : Tool Fields :=
  match args.reused with
  | some squid => getSquid (.str squid)
  | none => pure []

/-- `crawler_params`: null when the read failed, however it failed. -/
def readCrawlerParams (crawler : Json) : Tool Json := do
  match ← request (.getCrawlerParams crawler) with
  | .ok payload => pure payload
  | .error _ => pure .null

/-- The reads that decide what runs. -/
def readTarget (s : Session) (args : RunArgs) : Tool Target := do
  let squid ← readSquid args
  let scraper ← resolveCrawlerId s.lower (args.scraperJson.orElse (Fields.get squid "crawler"))
  let crawler ← getCrawler scraper
  let params ← readCrawlerParams scraper
  pure { squid, scraper, crawler, translated := translateInputSchema crawler params }

/-- The errors of the input. One that only carries settings for a squid that is reused need not
have the required fields; no input at all is not looked at there. -/
def inputErrors (args : RunArgs) (t : Translated) : List String :=
  if args.input.isEmpty ∧ args.reuse then [] else
  let hasTaskInput := (Dict.keys args.input).any t.isTaskKey
  validateInput args.input t (!args.reuse || hasTaskInput)

/-- The input with the declared defaults filled in, which a new squid needs. -/
def finalInput (args : RunArgs) (t : Translated) : Fields :=
  if args.reuse then args.input else Dict.update t.defaultsToFill args.input

/-- What a derived key is about: the squid reused, else the crawler. -/
def dedupeTarget (args : RunArgs) (scraper : Json) : String := (args.reused).getD scraper.text

/-- `key` and `key_ttl` -/
def idempotencyEntry (s : Session) (args : RunArgs) (scraper : Json) (input : Fields) :
    String × Option Int :=
  match args.idempotencyKey.filter (· ≠ "") with
  | some key => (s.userScope ++ ":" ++ key, none)
  | none =>
    ("derived:" ++ computeIdempotencyKey s.hash s.userScope (dedupeTarget args scraper) input,
      some derivedIdempotencyTtl)

/-- The reply to a call whose key is taken. -/
def alreadySubmitted (runId : Json) : Fields :=
  [("status", .str "already_submitted"), ("run_id", runId), ("idempotent", .bool true)]

/-- Answer at once when the key has a run. -/
def lookUpRun (key : String) : Tool Unit := do
  match ← send (.idemGet key) with
  | some runId => if runId.truthy then returned (alreadySubmitted runId) else pure ()
  | none => pure ()

/-! ### The account -/

/-- The account of a run: what the squid has, what to write, which one was chosen, and the
warning about it. `toSave` is empty where the source has None. -/
structure AccountChoice where
  current : List String := []
  toSave : List Json := []
  resolvedId : Option Json := none
  warning : Option String := none

def redactAccountError (error : Fields) : Fields :=
  match Fields.get error "error_code" with
  | .str "multiple_accounts_available" => [
      ("error_code", .str "multiple_accounts_available"),
      ("message", .str ("Multiple healthy accounts match this scraper's required platform; " ++
        "run_scraper won't guess between them. Call list_accounts to see " ++
        "them, then call run_scraper again with account_id (or call " ++
        "attach_account(squid_id, account_id) first).")),
      ("required_type", Fields.get error "required_type")]
  | .str "account_locked" => [
      ("error_code", .str "account_locked"),
      ("message", .str ("A connected account matches this scraper's required platform but " ++
        "is currently locked — routine on LinkedIn/Sales Navigator, not a " ++
        "broken account. Auto-pick skips it. Call list_accounts to see it, " ++
        "then call run_scraper again with account_id if you want to use it " ++
        "anyway (or call attach_account(squid_id, account_id) first).")),
      ("required_type", Fields.get error "required_type")]
  | _ => error

/-- `crawler.get("name") or "This scraper"` -/
def crawlerTitle (crawler : Crawler) : String :=
  ((Fields.get crawler.fields "name").orElse (.str "This scraper")).text

/-- The account named by the caller. -/
def chooseGiven (s : Session) (accountId : String) (accountType : Json) (current : List String) :
    Tool AccountChoice := do
  match ← resolveAccount accountId accountType with
  | .error error => returned error
  | .ok account =>
    let id ← item account "id"
    pure { current, resolvedId := some id, warning := accountHealthNote s.now account
           toSave := if id ∈ current.map Json.str then [] else current.map Json.str ++ [id] }

/-- The one account that can be picked unasked. -/
def choosePicked (s : Session) (accountType : Json) : Tool AccountChoice := do
  match ← pickOrExplain s.now accountType with
  | .error error => returned (redactAccountError error)
  | .ok account =>
    let id ← item account "id"
    pure { resolvedId := some id, toSave := [id] }

/-- The account to run with, or the refusal. -/
def chooseAccount (s : Session) (args : RunArgs) (target : Target) : Tool AccountChoice :=
  let accountType := crawlerAccountType target.crawler
  match if args.reuse then squidAccountIds target.squid else some [] with
  | none => returned [
      ("error_code", .str "accounts_unreadable"),
      ("message", .str ("This squid's current accounts couldn't be read in a shape " ++
        "this client recognizes, so nothing was changed — attaching " ++
        "now could have silently dropped an existing link. Check it " ++
        "directly (get_my_scraper) and try again.")),
      ("squid_id", (args.squidId.map Json.str).getD .null)]
  | some current =>
    if accountType = .null then
      match args.accountId with
      | some _ =>
        let title := crawlerTitle target.crawler
        returned [
          ("error_code", .str "no_account_needed"),
          ("message", .str (s!"{title} does not use a " ++
            "platform account; remove account_id and try again."))]
      | none => pure { current }
    else match args.accountId with
      | some accountId => chooseGiven s accountId accountType current
      | none => if current.isEmpty then choosePicked s accountType else pure { current }

/-! ### The plan and its price -/

/-- Everything a call has found out when it comes to its price. -/
structure RunPlan where
  floats : Floats
  args : RunArgs
  target : Target
  input : Fields
  key : String
  keyTtl : Option Int
  account : AccountChoice
  snapshot : Snapshot

def effectiveSettings (existingSquid squidParams : Fields) : Fields :=
  let saved := ((Fields.get existingSquid "params").asObj?).getD []
  let effective := Dict.update saved squidParams
  match Fields.get saved "functions", Fields.get squidParams "functions" with
  | .obj savedFunctions, .obj newFunctions =>
    Dict.set effective "functions" (.obj (Dict.update savedFunctions newFunctions))
  | _, _ => effective

namespace RunPlan
variable (plan : RunPlan)

def squidParams : Fields := plan.target.translated.squidParams plan.input

def taskParams : Fields := plan.target.translated.taskParams plan.input

/-- `rows_this_run` -/
def rows : Option Nat :=
  rowsThisRun plan.args.reuse (!plan.taskParams.isEmpty) plan.args.replaceTasks plan.snapshot

/-- `effective`: the squid read is empty when none is reused. -/
def effective : Fields := effectiveSettings plan.target.squid plan.squidParams

/-- `est` -/
def estimate : CostEstimate :=
  let rows := plan.rows.getD 0
  estimateCost plan.floats plan.target.crawler (if rows = 0 then 1 else rows)
    (Fields.get plan.effective "max_results") (Fields.get plan.effective "max_unique_results_per_run")
    plan.effective

def verificationNote : Option String :=
  let given := Fields.get plan.squidParams "auto_verify_emails"
  let verify := if given = .null then Fields.get plan.target.squid "auto_verify_emails" else given
  verificationCostNote plan.target.crawler verify.truthy

end RunPlan

def creditsJson : Option Rat → Json
  | some q => .float q
  | none => .null

def estimateDict (est : CostEstimate) (note : Option String) : Json :=
  let out : Fields := [("credits", creditsJson est.credits), ("basis", .str est.basis),
    ("currency", .str est.currency), ("rate_per_row", creditsJson est.rate)]
  match note with
  | some note => .obj (Dict.set out "verification_note" (.str note))
  | none => .obj out

/-- Whether the price calls for the user's word: it is unknown, or above the threshold. -/
def needsWord (s : Session) (est : CostEstimate) : Bool :=
  match est.credits with
  | none => true
  | some credits => s.settings.runConfirmThreshold < credits

/-- The reply that asks for confirmation. -/
def confirmationReply (s : Session) (plan : RunPlan) : Fields :=
  let credits := (creditsJson plan.estimate.credits).text
  let threshold := s.settings.runConfirmThreshold
  let known := plan.estimate.credits.isSome
  let price := if known then
      s!"Estimated {credits} credits exceeds the {threshold} " ++
      "credit threshold; confirm to proceed."
    else "Cost cannot be estimated before running; confirm to proceed."
  let scope := match plan.rows with
    | some rows => if 1 < rows then
        s!" This run scrapes all {rows} input row(s) the scraper holds, " ++
        "which is what the estimate covers."
      else ""
    | none => " How many input rows this scraper holds could not be read, so the " ++
        "estimate covers one row and the real total may be a multiple of it."
  let cost := if known then s!"up to {credits} credits" else "an unknown number of credits"
  [("needs_confirmation", .bool true),
   ("estimate", estimateDict plan.estimate plan.verificationNote),
   ("message", .str (price ++ scope)),
   ("rows_this_run", (plan.rows.map fun n => Json.int n).getD .null),
   ("hint", .str (s!"Show the user that this run will spend {cost} and ask them to approve " ++
     "it. Only after they say yes, call run_scraper again with confirm=true; " ++
     "never confirm on their behalf."))]

/-- The rows of the squid a call reuses. -/
def readRows (args : RunArgs) : Tool Snapshot :=
  match args.reused with
  | some squid => snapshotTasks (.str squid)
  | none => pure {}

/-- The first half of `run_scraper_impl`: everything up to the estimate. It only reads. -/
def prepareRun (s : Session) (args : RunArgs) : Tool RunPlan := do
  if !args.scraperJson.truthy && !args.reuse then
    returned [
      ("error_code", .str "invalid_request"),
      ("message", .str ("provide `scraper` (to run a new scraper) or `squid_id` " ++
        "(to re-run an existing one)"))]
  else
  let target ← readTarget s args
  let errors := inputErrors args target.translated
  if !errors.isEmpty then
    returned [("error_code", .str "validation_error"), ("errors", .arr (errors.map .str))]
  else
  let input := finalInput args target.translated
  let entry := idempotencyEntry s args target.scraper input
  lookUpRun entry.1
  let account ← chooseAccount s args target
  let snapshot ← readRows args
  pure { floats := s.floats, args, target, input, key := entry.1, keyTtl := entry.2, account, snapshot }

/-! ### The balance -/

/-- What is left to spend, and the warning about it. -/
structure Funds where
  remaining : Option Json
  warning : Option String

/-- `_remaining_credits`: `consumed` counts for nothing where it is no number. -/
def remainingCredits (floats : Floats) (available consumed : Json) : Option Json :=
  if (number? available).isNone then none
  else if (number? consumed).isNone then some available
  else floats.difference available consumed

def creditWarning (est : CostEstimate) (remaining : Option Json) : Option String :=
  match est.credits, remaining with
  | some credits, some figure =>
    let left := (number? figure).getD 0
    if credits ≤ left then none else
    let leftText := figure.text
    let creditsText := Json.floatRepr credits
    if left ≤ 0 then
      some s!"This account has {leftText} credit(s) left this period; the API may refuse the run."
    else some s!"Only {leftText} credit(s) left this period, estimate is up to {creditsText}."
  | _, _ => none

def readFunds (plan : RunPlan) : Tool Funds := do
  let balance ← getBalance
  let available := (Dict.get? balance "available").getD (Fields.get balance "balance")
  let remaining := remainingCredits plan.floats available (Fields.get balance "consumed")
  pure { remaining, warning := creditWarning plan.estimate remaining }

/-! ### The writes -/

/-- What the writes left behind: the squid, and what became of its rows. -/
structure Written where
  squidId : Json
  action : TasksAction
  taskCount : Option Nat
  replacedCount : Nat := 0

/-- An update body, with the accounts when there are any to save. -/
def withAccounts (accounts : List Json) (body : Fields) : Fields :=
  if accounts.isEmpty then body else Dict.set body "accounts" (.arr accounts)

/-- The body that saves a reused squid's configuration. -/
def RunPlan.updateBody (plan : RunPlan) : Fields :=
  withAccounts plan.account.toSave [
    ("name", ((Fields.get plan.target.squid "name").orElse
      (Fields.get plan.target.crawler.fields "name")).orElse plan.target.scraper),
    ("params", .obj plan.effective)]

/-- The refusal when a row would be added to rows that could not be read. -/
def tasksUnreadable (squidId scraper : Json) : Fields :=
  let squid := squidId.text
  let crawler := scraper.text
  [("error_code", .str "tasks_unreadable"), ("squid_id", squidId), ("tasks_lost", .bool false),
   ("message", .str ("This scraper's saved inputs could not be read, so " ++
     "nothing was changed and no run was started; retry, " ++
     "or pass replace_tasks=true to overwrite anyway.")),
   ("options", .arr [
     .str s!"run_scraper(squid_id='{squid}')",
     .str s!"run_scraper(scraper='{crawler}', input=...)",
     .str s!"run_scraper(squid_id='{squid}', input=..., replace_tasks=true)"])]

/-- Save the configuration and, with a task-level input, its row; nothing is deleted. -/
def saveInput (plan : RunPlan) (squidId : Json) (existing : Option Nat) : Tool Written := do
  match ← saveSquidInput squidId plan.updateBody plan.taskParams with
  | some failure => returned failure
  | none =>
    if plan.taskParams.isEmpty then pure { squidId, action := .unchanged, taskCount := existing }
    else pure { squidId, action := .added, taskCount := some 1 }

/-- The reuse branch without `replace_tasks`. -/
def addInput (plan : RunPlan) (squidId : Json) : Tool Written :=
  match plan.snapshot.rows with
  | none =>
    if !plan.taskParams.isEmpty then returned (tasksUnreadable squidId plan.target.scraper)
    else saveInput plan squidId none
  | some _ =>
    if !plan.taskParams.isEmpty && plan.snapshot.totalSeen ≠ 0 then
      returned (refuseToTouchSavedTasks squidId plan.target.scraper plan.taskParams
        plan.snapshot.totalSeen)
    else saveInput plan squidId (some plan.snapshot.totalSeen)

/-- The reuse branch with `replace_tasks`. -/
def replaceInput (plan : RunPlan) (squidId : Json) : Tool Written := do
  match ← replaceSquidInput squidId plan.updateBody plan.taskParams plan.snapshot with
  | (some failure, _) => returned failure
  | (none, replaced) => pure { squidId, action := .replaced, taskCount := some 1, replacedCount := replaced }

/-- `if accounts_to_save:` save them, without touching params or tasks. -/
def saveAccounts (accounts : List Json) (squidId : Json) : Tool Unit := do
  if accounts.isEmpty then pure () else
  let _ ← updateSquid squidId [("accounts", .arr accounts)]
  pure ()

/-- The reuse branch: nothing is written unless an input came, or an account was found. -/
def writeReused (plan : RunPlan) : Tool Written := do
  let squidId ← item plan.target.squid "id"
  if plan.input.isEmpty then
    saveAccounts plan.account.toSave squidId
    pure { squidId, action := .unchanged,
           taskCount := plan.snapshot.rows.map fun _ => plan.snapshot.totalSeen }
  else if plan.args.replaceTasks then replaceInput plan squidId
  else addInput plan squidId

def newSquidWriteFailed (squidId scraper : Json) (base : Fields) : Tool Fields := do
  let squid := squidId.text
  let message := messageOf base
  let reply (deleted : Bool) (tail : String) : Fields :=
    Dict.update base [("squid_id", squidId), ("scraper", scraper), ("deleted", .bool deleted),
      ("message", .str (message ++ tail))]
  match ← request (.deleteSquid squidId) with
  | .ok _ => pure (reply true (s!" Squid {squid} (created for this call) was deleted, so nothing is left " ++
      "behind — no concurrency slot spent. Fix the input and call run_scraper again."))
  | .error _ => pure (reply false (
      s!" Squid {squid} was created but its configuration could not be saved, and " ++
      "the automatic cleanup delete also failed — it still exists with no usable " ++
      s!"config. Check get_my_scraper(squid_id='{squid}') or delete it by hand."))

/-- A failed write on the squid this call created. -/
def newSquidFailed (squidId scraper : Json) (e : Exc) : Tool Written :=
  match e with
  | .api rejection => do
    let reply ← newSquidWriteFailed squidId scraper (toErrorDict rejection)
    returned reply
  | .transport lost =>
    let squid := squidId.text
    returned (Dict.update (transportErrorDict lost (some s!"get_my_scraper(squid_id='{squid}')"))
      [("squid_id", squidId), ("scraper", scraper)])
  | _ => raised e

/-- The branch that creates the squid. -/
def writeNew (plan : RunPlan) : Tool Written := do
  let squid ← createSquid plan.target.scraper none
  let squidId ← item squid "id"
  let body := withAccounts plan.account.toSave [
    ("name", ((Fields.get squid "name").orElse
      (Fields.get plan.target.crawler.fields "name")).orElse plan.target.scraper),
    ("params", .obj plan.squidParams)]
  match ← request (.updateSquid squidId body) with
  | .error e => newSquidFailed squidId plan.target.scraper e
  | .ok _ =>
  match ← request (.addTasks squidId [.obj plan.taskParams]) with
  | .error e => newSquidFailed squidId plan.target.scraper e
  | .ok _ => pure { squidId, action := .created, taskCount := some 1 }

/-- Everything between the gate and the start of the run. -/
def writeInput (plan : RunPlan) : Tool Written :=
  if plan.args.reuse then writeReused plan else writeNew plan

/-! ### The run -/

/-- What a reply about a squid whose run was asked for says. -/
def runFacts (plan : RunPlan) (w : Written) : Fields := [
  ("squid_id", w.squidId), ("scraper", plan.target.scraper), ("tasks_action", .str w.action.text),
  ("task_count", (w.taskCount.map fun n => Json.int n).getD .null),
  ("estimate", estimateDict plan.estimate plan.verificationNote)]

/-- The reply when the run did not start: replaced rows are put back. -/
def startFailed (plan : RunPlan) (funds : Funds) (w : Written) (e : Exc) : Tool Fields := do
  let failed ← (match e with
    | .api rejection => pure (toErrorDict rejection)
    | .transport lost => pure (transportErrorDict lost (some "list_runs(squid_id=...)"))
    | _ => raised e : Tool Fields)
  let failed := Dict.update failed (runFacts plan w)
  let failed := match funds.remaining with
    | some left => Dict.set failed "remaining" left
    | none => failed
  if w.action = .replaced then restoreTasks w.squidId plan.snapshot failed else pure failed

def accountAttached (plan : RunPlan) : Json :=
  if plan.args.accountId.isSome then plan.account.resolvedId.getD .null
  else .bool (!plan.account.toSave.isEmpty || !plan.account.current.isEmpty)

/-- The reply of a run that started. -/
def runReport (plan : RunPlan) (funds : Funds) (w : Written) (run : Fields) (runId : Json) : Fields :=
  let result : Fields := [
    ("run_id", runId), ("squid_id", w.squidId), ("scraper", plan.target.scraper),
    ("reused_squid", .bool plan.args.reuse), ("status", Fields.get run "status"),
    ("estimate", estimateDict plan.estimate plan.verificationNote),
    ("submitted_input", .obj plan.input), ("account_attached", accountAttached plan),
    ("tasks_action", .str w.action.text),
    ("task_count", (w.taskCount.map fun n => Json.int n).getD .null),
    ("tasks_note", .str (tasksNote w.action w.taskCount w.replacedCount))]
  let result := if w.action = .replaced
    then Dict.set result "replaced_task_count" (.int w.replacedCount) else result
  let result := match plan.account.warning with
    | some warning => Dict.set result "account_warning" (.str warning)
    | none => result
  let result := match funds.remaining with
    | some left => Dict.set result "remaining" left
    | none => result
  match funds.warning with
  | some warning => Dict.set result "credit_warning" (.str warning)
  | none => result

/-- What follows `start_run`: the key is stored once the run has an id. -/
def afterStart (plan : RunPlan) (funds : Funds) (w : Written) (started : Except Exc Fields) : Tool Fields :=
  match started with
  | .error e => startFailed plan funds w e
  | .ok run => do
    let runId ← item run "id"
    send (.idemPut plan.key runId plan.keyTtl)
    pure (runReport plan funds w run runId)

def startAndReport (plan : RunPlan) (funds : Funds) (w : Written) : Tool Fields := do
  let started ← request (.startRun w.squidId)
  afterStart plan funds w started

/-- The second half of `run_scraper_impl`: the gate, the balance, the writes and the run. -/
def commitRun (s : Session) (plan : RunPlan) : Tool Fields := do
  if !plan.args.confirm && needsWord s plan.estimate then returned (confirmationReply s plan) else
  let funds ← readFunds plan
  let w ← writeInput plan
  startAndReport plan funds w

def runScraperVerify : String :=
  "list_runs(squid_id=...), where a run that started is listed, " ++
  "and get_my_scraper(squid_id=...) for the saved configuration"

def runScraperImpl (s : Session) (args : RunArgs) : Program Call Answer Exc Fields :=
  structured (some runScraperVerify) (prepareRun s args >>= commitRun s)

end LobstrMcp
