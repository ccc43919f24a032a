import LobstrMcp.Model.LobstrClient

/-!
`execution.py`, the part about a squid's saved task rows: reading them before a rewrite, the
destructive rewrite and its undo, the rewrite that only adds, and the refusal in between.
-/

namespace LobstrMcp
open Interaction Tool

/-- What was read of a squid's rows: the re-addable ones, none when the listing failed, and how
many tasks were reported. -/
structure Snapshot where
  rows : Option (List Fields) := none
  totalSeen : Nat := 0
  deriving DecidableEq

/-- The params of a listed task, when they can be added again. -/
def taskRow (task : Json) : Option Fields :=
  match task with
  | .obj task =>
    match Fields.get task "params" with
    | .obj params => if params.isEmpty then none else some params
    | _ => none
  | _ => none

def snapshotTasks (squidId : Json) : Tool Snapshot := do
  match ← request (.listTasks squidId) with
  | .ok (.arr tasks) => pure { rows := some (tasks.filterMap taskRow), totalSeen := tasks.length }
  | .ok _ => pure {}
  | .error (.api _) => pure {}
  | .error (.transport _) => pure {}
  | .error e => raised e

/-- `failed['message']` -/
def messageOf (failed : Fields) : String := (Fields.get failed "message").text

/-- The reply of a step that catches `(LobstrAPIError, httpx.TransportError)`: the rejection as
it came, or `upstream_unavailable` with the step's own message. Other exceptions are raised on. -/
def stepFailed (e : Exc) (message : String → String) : Tool Fields :=
  match e with
  | .api rejection => pure (toErrorDict rejection)
  | .transport _ => pure [("error_code", .str "upstream_unavailable"), ("message", .str (message e.detail))]
  | _ => raised e

def restoreTasks (squidId : Json) (snapshot : Snapshot) (failure : Fields) : Tool Fields := do
  let out := Dict.set failure "squid_id" squidId
  let message := messageOf failure
  let squid := squidId.text
  match snapshot.rows with
  | none =>
    pure (Dict.set (Dict.set out "tasks_lost" (.bool true)) "message"
      (.str (s!"{message} This client could not read them beforehand, so it cannot put " ++
        s!"them back — check get_my_scraper(squid_id='{squid}') and re-add with add_tasks.")))
  | some [] =>
    let out := Dict.set (Dict.set out "tasks_lost" (.bool false)) "tasks_restored" (.int 0)
    pure (Dict.set out "message"
      (.str s!"{message} It had no saved inputs, so nothing was destroyed."))
  | some rows =>
    let n := rows.length
    let restored : Fields :=
      let out := Dict.set (Dict.set out "tasks_lost" (.bool false)) "tasks_restored" (.int n)
      let total := snapshot.totalSeen
      let missing := total - n
      let part := if n = total then "" else s!" ({missing} of {total} could not be restored)"
      Dict.set out "message" (.str (s!"{message} Its {n} saved input(s) were put back{part}; " ++
        "no run was started."))
    let lost (detail : String) : Fields :=
      let out := Dict.set (Dict.set out "tasks_lost" (.bool true)) "lost_tasks"
        (.arr (rows.map .obj))
      Dict.set out "message" (.str (s!"{message} Restoring the {n} deleted row(s) also failed " ++
        s!"({detail}); they're in `lost_tasks` — re-add with " ++
        s!"add_tasks(squid_id='{squid}', tasks=[...])."))
    match ← request (.addTasks squidId (rows.map .obj)) with
    | .ok _ => pure restored
    | .error (.api e) => pure (lost (Exc.api e).detail)
    | .error (.transport e) => pure (lost (Exc.transport e).detail)
    | .error e => raised e

/-- The reply when the new configuration could not be saved, before anything was deleted. -/
def replaceNotSaved (squidId : Json) (e : Exc) : Tool Fields :=
  match e with
  | .api rejection =>
    let failed := toErrorDict rejection
    let message := messageOf failed
    pure (Dict.update failed [("squid_id", squidId), ("tasks_lost", .bool false),
      ("message", .str s!"{message} Nothing was changed — no inputs were touched.")])
  | .transport _ =>
    let detail := e.detail
    let squid := squidId.text
    pure [("error_code", .str "upstream_unavailable"), ("squid_id", squidId),
      ("tasks_lost", .bool false),
      ("message", .str (s!"Saving the new configuration failed before a response came back " ++
        s!"({detail}). No inputs were deleted; check " ++
        s!"get_my_scraper(squid_id='{squid}') before retrying."))]
  | _ => raised e

/-- The last two steps of `_replace_squid_input`: empty the squid, then add the new row. -/
def swapRows (squidId : Json) (taskParams : Fields) (snapshot : Snapshot) :
    Tool (Option Fields × Nat) := do
  match ← request (.emptySquid squidId) with
  | .error e => do
    let failed ← stepFailed e fun detail => s!"Clearing the scraper's old inputs failed ({detail})."
    let reply ← restoreTasks squidId snapshot failed
    pure (some reply, 0)
  | .ok _ =>
  match ← request (.addTasks squidId [.obj taskParams]) with
  | .error e => do
    let failed ← stepFailed e fun detail => s!"Adding the new input failed ({detail})."
    let reply ← restoreTasks squidId snapshot failed
    pure (some reply, 0)
  | .ok _ => pure (none, snapshot.totalSeen)

/-- `_replace_squid_input`: the failure to answer, if any, and how many rows were destroyed. -/
def replaceSquidInput (squidId : Json) (updateBody taskParams : Fields) (snapshot : Snapshot) :
    Tool (Option Fields × Nat) := do
  match ← request (.updateSquid squidId updateBody) with
  | .error e => do
    let reply ← replaceNotSaved squidId e
    pure (some reply, 0)
  | .ok _ => swapRows squidId taskParams snapshot

/-- `_save_squid_input`: the failure to answer, if any. -/
def saveSquidInput (squidId : Json) (updateBody taskParams : Fields) : Tool (Option Fields) := do
  let kept (failed : Fields) (tail : String) : Option Fields :=
    let message := messageOf failed
    some (Dict.update failed [("squid_id", squidId), ("tasks_lost", .bool false),
      ("message", .str s!"{message}{tail}")])
  match ← request (.updateSquid squidId updateBody) with
  | .error e => do
    let failed ← stepFailed e fun detail =>
      "Saving the new configuration failed before a response came " ++
      s!"back ({detail}) — whether it was saved is unknown, " ++ "not rejected."
    pure (kept failed " No saved input was deleted — nothing was started.")
  | .ok _ =>
  if taskParams.isEmpty then pure none else
  match ← request (.addTasks squidId [.obj taskParams]) with
  | .error e => do
    let failed ← stepFailed e fun detail => s!"Adding the new input failed ({detail})."
    pure (kept failed " No saved input was deleted; nothing was started.")
  | .ok _ => pure none

def refuseToTouchSavedTasks (squidId scraper : Json) (taskParams : Fields) (existingCount : Nat) :
    Fields :=
  let n := existingCount
  let more := n + 1
  let squid := squidId.text
  let crawler := scraper.text
  let names := String.intercalate ", " ((Dict.keys taskParams).insertionSort (· ≤ ·))
  let fields := if names = "" then "none" else names
  [("error_code", .str "squid_has_tasks"), ("squid_id", squidId),
   ("existing_task_count", .int n), ("tasks_lost", .bool false), ("new_task", .obj taskParams),
   ("message", .str (s!"This scraper already has {n} saved input row(s) ({fields} was not " ++
     "applied); nothing was changed and no run was started — see `options`.")),
   ("cost_multiplier_if_added", .int more),
   ("options", .arr [
     .str s!"run_scraper(squid_id='{squid}')  # run the {n} saved row(s) as they are",
     .str s!"run_scraper(scraper='{crawler}', input=...)  # your input, on a separate scraper",
     .str (s!"add_tasks(squid_id='{squid}', tasks=[<new_task>]) " ++
       s!"then run_scraper(squid_id='{squid}')  # run all {more} together"),
     .str (s!"run_scraper(squid_id='{squid}', input=..., replace_tasks=true)" ++
       s!"  # delete the {n} saved row(s), keep only yours")])]

inductive TasksAction where
  | unchanged | created | replaced | added
  deriving DecidableEq

def TasksAction.text : TasksAction → String
  | .unchanged => "unchanged"
  | .created => "created"
  | .replaced => "replaced"
  | .added => "added"

def tasksNote (action : TasksAction) (taskCount : Option Nat) (replacedCount : Nat) : String :=
  match action, taskCount with
  | .created, _ =>
    "This is a new scraper holding only the input you passed; the run scrapes that one input."
  | .replaced, _ =>
    if replacedCount ≠ 0 then
      s!"replace_tasks=true: this scraper's {replacedCount} previously saved " ++
      "input(s) were deleted and replaced by the one you passed, so the run " ++
      "scrapes yours alone."
    else "The scraper had no saved inputs to replace; the run scrapes the one you passed, alone."
  | .added, _ =>
    "The scraper had no saved inputs, so yours was added and is now its only " ++
    "one; the run scrapes it alone."
  | .unchanged, none =>
    "The scraper's saved inputs were left as they are and the run scrapes all " ++
    "of them, but how many could not be read, so the estimate covers one row."
  | .unchanged, some 0 =>
    "The scraper has no saved inputs at all, so this run has nothing to scrape " ++
    "— add one with add_tasks, or pass a task-level input."
  | .unchanged, some n =>
    s!"The scraper's {n} saved input(s) were left exactly as they are — only " ++
    s!"the settings were saved — and the run scrapes all {n}, which is what " ++ "the estimate covers."

/-- `_rows_this_run`: none when the rows could not be read at all. -/
def rowsThisRun (reuse hasTaskInput replaceTasks : Bool) (snapshot : Snapshot) : Option Nat :=
  if !reuse then some 1 else
  if snapshot.rows.isNone then none else
  if !hasTaskInput then some snapshot.totalSeen else
  if replaceTasks then some 1 else
  some (snapshot.totalSeen + 1)

end LobstrMcp
