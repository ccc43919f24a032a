import LobstrMcp.Data.Rounding
import LobstrMcp.Interaction.Polling
import LobstrMcp.Model.LobstrClient

/-!
`get_run_impl` and `wait_for_run_impl`: how a run stands, from its stats, which must answer, and its
detail, which may be refused. `lower` is `str.lower`, of which only ASCII letters matter here.
-/

namespace LobstrMcp
open Interaction Tool

/-- `_verification_out`: none when the run has no verification step at all. -/
def verificationOut (detail : Fields) : Option Fields :=
  match Fields.get detail "email_verification" with
  | .obj verification => some [
      ("status", Fields.get verification "status"),
      ("progress", Fields.get verification "progress"),
      ("verified_emails", Fields.get verification "verified_emails"),
      ("total_emails", Fields.get verification "total_emails"),
      ("is_done", .bool (Fields.get verification "is_done").truthy)]
  | _ => none

/-- `verification["is_done"]` of what `_verification_out` made. -/
def verified (verification : Fields) : Bool := (Fields.get verification "is_done").truthy

def unfinishedRunStates : List String := ["pending", "running", "uploading"]

section Lower
variable (lower : String → String)

/-- `_fully_done`: run done, no verification or verification done, and export done. -/
def fullyDone (statsIsDone : Json) (verification : Option Fields) (exportDone runStatus : Json) : Bool :=
  if !statsIsDone.truthy || lower runStatus.text ∈ unfinishedRunStates then false
  else if verification.any fun v => !verified v then false
  else exportDone ≠ .bool false

def runStatusOf (stats detail : Fields) : Json :=
  ((Fields.get detail "status").orElse (Fields.get stats "status")).orElse
    (if (Fields.get stats "is_done").truthy then .str "done" else .str "running")

def accountLimitMessage : String :=
  "The platform account attached to this squid (e.g. LinkedIn) hit its " ++
  "own daily limit. This is not a lobstr.io credits problem: topping up " ++
  "credits won't help. Wait for the account's limit to reset (get_account " ++
  "shows lock_time), or attach another account with attach_account."

/-- `_account_limit_out`: a run paused on `limit_exceeded`, with the accounts that hit the limit
where the squid can be read. -/
def accountLimitOut (squidId : Json) : Tool Fields := do
  let limited ← if squidId.truthy then do
      match ← request (.getSquid squidId) with
      | .ok squid => pure ((Fields.get squid "last_run_limited_accounts").orElse (.arr []))
      | .error (.api _) | .error (.transport _) => pure (.arr [])
      | .error e => raised e
    else pure (.arr [])
  pure [("limited_accounts", limited), ("message", .str accountLimitMessage)]

def verifyingNote : String :=
  "The run itself finished, but email verification is still running — " ++
  "credits for it are still being billed and results aren't final. Poll " ++
  "again; wait_for_run(run_id=...) can do this for you, bounded by a " ++
  "timeout."

def relaunchNote : String :=
  "This paused run relaunches by itself at next_launch_at and " ++
  "spends credits then; call abort_run(run_id=...) if the user " ++
  "doesn't want that."

def totalResultsNote : String :=
  "get_results' own total_results is the count to trust " ++
  "for how many rows are fetchable, not either field here."

/-- The run is over and its verification is not. -/
def verifying (stats detail : Fields) : Bool :=
  (verificationOut detail).any (fun v => !verified v) ∧
    lower (runStatusOf stats detail).text ∈ ["done", "success", "succeeded"]

/-- What `get_run_impl` says of every run. -/
def runSummary (runId : String) (stats detail : Fields) : Fields :=
  let runStatus := runStatusOf stats detail
  [("run_id", (Dict.get? stats "id").getD (.str runId)),
   ("status", if verifying lower stats detail then .str "verifying_emails" else runStatus),
   ("run_status", runStatus),
   ("is_done", .bool (fullyDone lower (Fields.get stats "is_done") (verificationOut detail)
     (Fields.get detail "export_done") runStatus)),
   ("progress", Fields.get stats "percent_done"),
   ("tasks_total", Fields.get stats "total_tasks"),
   ("tasks_done", Fields.get stats "total_tasks_done"),
   ("total_results", (Dict.get? detail "total_results").getD (Fields.get stats "total_results")),
   ("credits_consumed", Fields.get detail "credit_used"),
   ("done_reason", (Fields.get detail "done_reason_desc").orElse (Fields.get detail "done_reason")),
   ("started_at", Fields.get stats "started_at"),
   ("ended_at", Fields.get stats "ended_at"),
   ("duration", Fields.get stats "duration")]

/-- What it adds for some. -/
def runExtras (stats detail out : Fields) : Fields :=
  let out := if lower (runStatusOf stats detail).text = "paused" ∧ (Fields.get detail "next_launch_at").truthy then
      Dict.set (Dict.set out "next_launch_at" (Fields.get detail "next_launch_at")) "relaunch_note" (.str relaunchNote)
    else out
  let out := match Dict.get? detail "total_unique_results" with
    | some unique => Dict.set (Dict.set out "total_unique_results" unique) "total_results_note" (.str totalResultsNote)
    | none => out
  let out := if (Dict.get? detail "email_verification").isSome then
      Dict.set out "email_verification" (((verificationOut detail).map .obj).getD .null)
    else out
  let out := match Dict.get? detail "export_done" with
    | some exportDone => Dict.set out "export_done" exportDone
    | none => out
  if verifying lower stats detail then Dict.set out "note" (.str verifyingNote) else out

/-- The credits of a run, where it has a ledger. -/
def creditsBreakdown (runId : String) (out : Fields) : Tool Fields := do
  match ← request (.getRunCredits (.str runId)) with
  | .ok credits =>
    match if credits.truthy then credits else .obj [] with
    | .obj credits => pure (Dict.set out "credits_breakdown" (.obj [
        ("total_credits", Fields.get credits "total_credits"), ("breakdown", Fields.get credits "breakdown")]))
    | _ => raised .attributeError
  | .error (.api _) => pure out
  | .error e => raised e

/-- The run's detail, nothing where the API rejects the read. -/
def readDetail (runId : String) : Tool Fields := do
  match ← request (.getRun (.str runId)) with
  | .ok detail => pure detail
  | .error (.api _) => pure []
  | .error e => raised e

def getRunBody (runId : String) (full : Bool) : Tool Fields := do
  let stats ← getRunStats (.str runId)
  let detail ← readDetail runId
  let out := runSummary lower runId stats detail
  let doneCode := Fields.get detail "done_reason"
  let out := if doneCode.truthy then Dict.set out "done_reason_code" doneCode else out
  let out ← if doneCode = .str "limit_exceeded" then do
      let limit ← accountLimitOut (Fields.get detail "squid")
      pure (Dict.set out "account_limit" (.obj limit))
    else pure out
  let out := runExtras lower stats detail out
  if full then creditsBreakdown runId (Dict.set out "stats" (.obj stats)) else pure out

def getRunImpl (runId : String) (full : Bool) : Program Call Answer Exc Fields :=
  structured none (getRunBody lower runId full)

end Lower

/-! ### wait_for_run -/

def waitMaxTimeoutSeconds : Rat := 50

def waitPollIntervalSeconds : Rat := 2

/-- `max(1.0, min(timeout_seconds, _WAIT_MAX_TIMEOUT_SECONDS))` -/
def clampTimeout (timeoutSeconds : Rat) : Rat := max 1 (min timeoutSeconds waitMaxTimeoutSeconds)

/-- The loop of `wait_for_run_impl` goes on while this does not hold. -/
def waitSettled (out : Fields) : Bool := (Fields.get out "is_done").truthy || (Dict.get? out "error_code").isSome

/-- `.0f` prints the nearest whole number, an even one when two are as near. -/
def stillRunningMessage (runId : String) (timeoutSeconds : Rat) : String :=
  let seconds := Rounding.halfEven timeoutSeconds
  s!"Still running after {seconds}s — call " ++
  s!"wait_for_run(run_id='{runId}') again, or poll get_run " ++
  s!"(run_id='{runId}') directly."

/-- What is said of the last poll. -/
def waitReply (runId : String) (timeoutSeconds : Rat) (out : Fields) : Fields :=
  if (Dict.get? out "error_code").isSome then out
  else if (Fields.get out "is_done").truthy then out
  else Dict.set (Dict.set (Dict.set out "status" (.str "still_running")) "timed_out" (.bool true))
    "message" (.str (stillRunningMessage runId timeoutSeconds))

/-- The body of `wait_for_run_impl`. A look is a call of `get_run_impl`; the loop is given so many
rounds, and comes to nothing where it needs more. -/
def waitForRun (rounds : Nat) (runId : String) (timeoutSeconds : Rat) :
    Program Polling (Polling.Ans Exc Fields) Exit (Option Fields) := do
  let timeoutSeconds := clampTimeout timeoutSeconds
  let started : Rat ← .ask Polling.now
  let deadline := started + timeoutSeconds
  let out ← Polling.look Exit.raised
  let last ← Polling.pollUntil Exit.raised waitSettled waitPollIntervalSeconds deadline rounds out
  pure (last.map (waitReply runId timeoutSeconds))

/-- `@structured` around the wait. -/
def settleWait : Except Exit (Option Fields) → Except Exc (Option Fields)
  | .ok reply => .ok reply
  | .error exit => (settle none (.error exit)).map some

def waitForRunImpl (rounds : Nat) (runId : String) (timeoutSeconds : Rat) :
    Program Polling (Polling.Ans Exc Fields) Exc (Option Fields) := do
  let outcome ← (waitForRun rounds runId timeoutSeconds).attempt
  .ofExcept (settleWait outcome)

end LobstrMcp
