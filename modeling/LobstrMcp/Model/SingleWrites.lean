import LobstrMcp.Model.Primitives

/-!
The tools that make at most one write: `attach_account_impl`, `empty_scraper_impl`,
`deactivate_scraper_impl` and `abort_run_impl`.
-/

namespace LobstrMcp
open Interaction Tool

/-! ### attach_account -/

/-- An account found for a squid: what to attach and what to say of it. -/
structure Attachment where
  accountId : Json
  status : Json
  autoPicked : Bool
  warning : Option String

/-- The account to attach, or the refusal; `squid_id` rides on both. -/
def findAttachment (s : Session) (squidId : String) (accountId : Option String) (accountType : Json)
    (current : List String) : Tool Attachment := do
  match accountId with
  | none =>
    if !current.isEmpty then
      returned [("error_code", .str "account_already_attached"),
        ("message", .str ("This squid already has account(s) attached; auto-pick " ++
          "only runs on a squid with none, so an existing link is " ++
          "never silently replaced. Pass account_id explicitly to " ++
          "add another — it merges with what's already there.")),
        ("squid_id", .str squidId), ("current_accounts", .arr (current.map .str))]
    else
    match ← pickOrExplain s.now accountType with
    | .error error => returned (Dict.set error "squid_id" (.str squidId))
    | .ok account =>
      let id ← item account "id"
      pure { accountId := id, status := Fields.get account "status", autoPicked := true, warning := none }
  | some accountId =>
    match ← resolveAccount accountId accountType with
    | .error error => returned (Dict.set error "squid_id" (.str squidId))
    | .ok account =>
      pure { accountId := .str accountId, status := Fields.get account "status", autoPicked := false
             warning := accountHealthNote s.now account }

/-- `client.get_crawler(crawler_id) if crawler_id else {}` -/
def crawlerOf (squid : Fields) : Tool Crawler :=
  let crawlerId := Fields.get squid "crawler"
  if crawlerId.truthy then getCrawler crawlerId else pure { input := [] }

def attachAccount (s : Session) (squidId : String) (accountId : Option String) : Tool Fields := do
  let squid ← getSquid (.str squidId)
  let crawler ← crawlerOf squid
  let accountType := crawlerAccountType crawler
  if accountType = .null then
    let title := crawlerTitle crawler
    returned [("error_code", .str "no_account_needed"),
      ("message", .str (s!"{title} does not use a " ++
        "platform-account login — do not attach one; the API rejects " ++
        "an `accounts` field on this squid.")),
      ("squid_id", .str squidId)]
  else
  match squidAccountIds squid with
  | none => returned [("error_code", .str "accounts_unreadable"),
      ("message", .str ("This squid's current accounts couldn't be read in a shape " ++
        "this client recognizes, so nothing was written — attaching now " ++
        "could have silently dropped an existing link. Check it directly " ++
        "(get_my_scraper) and try again.")),
      ("squid_id", .str squidId)]
  | some current =>
    let found ← findAttachment s squidId accountId accountType current
    let result : Fields := [("squid_id", .str squidId), ("account_id", found.accountId),
      ("account_status", found.status), ("auto_picked", .bool found.autoPicked)]
    let result := match found.warning with
      | some warning => Dict.set result "warning" (.str warning)
      | none => result
    let attached := current.map Json.str
    if found.accountId ∈ attached then
      pure (Dict.update result [("accounts", .arr attached),
        ("message", .str "That account was already attached; nothing changed.")])
    else
    let _ ← updateSquid (.str squidId) [("accounts", .arr (attached ++ [found.accountId]))]
    pure (Dict.update result [("accounts", .arr (attached ++ [found.accountId])),
      ("previously_attached", .arr attached), ("message", .str "Account attached.")])

def attachAccountImpl (s : Session) (squidId : String) (accountId : Option String) :
    Program Call Answer Exc Fields :=
  structured (some "get_my_scraper(squid_id=...) and its `accounts`") (attachAccount s squidId accountId)

/-! ### empty_scraper, deactivate_scraper and abort_run -/

def emptyScraper (squidId : String) : Tool Fields := do
  let _ ← emptySquid (.str squidId)
  pure [("squid_id", .str squidId), ("status", .str "emptied"),
    ("message", .str ("All tasks removed. The squid's configuration is kept; " ++
      "add new tasks and run again."))]

def emptyScraperImpl (squidId : String) : Program Call Answer Exc Fields :=
  structured (some ("estimate_run(squid_id=...), whose `tasks.count` is how many input " ++
    "rows the scraper still holds")) (emptyScraper squidId)

def deactivateScraper (squidId : String) : Tool Fields := do
  let _ ← setSquidActive (.str squidId) false
  pure [("squid_id", .str squidId), ("is_active", .bool false), ("status", .str "deactivated"),
    ("message", .str ("Scraper deactivated — any in-progress run was stopped and its slots are " ++
      "free, and it keeps all its configuration and results (unlike deleting). " ++
      "Reactivate it from your lobstr.io dashboard to run it again."))]

def deactivateScraperImpl (squidId : String) : Program Call Answer Exc Fields :=
  structured (some "get_my_scraper(squid_id=...) and its `is_active`") (deactivateScraper squidId)

def terminalRunStates : List String :=
  ["done", "success", "succeeded", "failed", "aborted", "cancelled", "canceled", "error"]

section Lower
variable (lower : String → String)

/-- `str(run.get(key) or "").lower()` -/
def lowerText (run : Fields) (key : String) : String := lower ((Fields.get run key).orElse (.str "")).text

/-- What `abort_run_impl` says of the state the API reports. -/
def abortReport (runId : String) (run : Fields) : Fields :=
  let status := lowerText lower run "status"
  let reply (status : String) (aborted : Bool) (message : String) : Fields :=
    [("run_id", .str runId), ("status", .str status), ("aborted", .bool aborted), ("message", .str message)]
  let orElse (word : String) := if status = "" then word else status
  if lowerText lower run "done_reason" = "aborted" ∨ status = "uploading" then
    reply "aborting" true "Abort requested; the run is stopping. Poll get_run to confirm."
  else if (Fields.get run "is_done").truthy ∨ status ∈ terminalRunStates then
    let state := orElse "finished"
    reply (orElse "done") false (s!"Run was already {state} — nothing to abort. " ++
      "Already-scraped results are available via get_results.")
  else reply (orElse "aborting") true
    "Abort requested; the run stops shortly. Poll get_run to confirm."

def abortRunBody (runId : String) : Tool Fields := do
  let run ← abortRun (.str runId)
  pure (abortReport lower runId ((run.asObj?).getD []))

def abortRunImpl (runId : String) : Program Call Answer Exc Fields :=
  structured (some "get_run(run_id=...)") (abortRunBody lower runId)

end Lower

end LobstrMcp
