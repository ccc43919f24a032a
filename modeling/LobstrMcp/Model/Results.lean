import LobstrMcp.Model.ApiReads
import LobstrMcp.Model.Scrapers
import Mathlib.Data.List.Sort

/-!
The reading half of `execution.py`: a page of results with the index of the tasks they came of, the
runs of a squid, and the download of a run as a file.
-/

namespace LobstrMcp
open Interaction Served

/-! ### get_results -/

def resultListKeys : List String := ["data", "results", "records"]

/-- `_strip_empty`: 0 and False are kept. -/
def stripEmpty (row : Fields) : Fields :=
  row.filter fun e => e.2 ≠ .null ∧ e.2 ≠ .str "" ∧ e.2 ≠ .arr [] ∧ e.2 ≠ .obj []

def defaultPageSize : Int := 10

def fullDefaultPageSize : Int := 25

def maxPageSize : Int := 100

/-- `effective_page_size`: no page size, and one of zero, is the default one. -/
def effectivePageSize (pageSize : Option Int) (full : Bool) : Int :=
  let asked := (pageSize.filter (· ≠ 0)).getD (if full then fullDefaultPageSize else defaultPageSize)
  max 1 (min asked maxPageSize)

/-- The rows of a `/results` payload. -/
def resultRecords (payload : Fields) : List Json :=
  (resultListKeys.findSome? fun k => (Fields.get payload k).asArr?).getD []

/-- Every column that some row has, in order. -/
def availableFields (records : List Json) : List String :=
  ((records.filterMap Json.asObj?).flatMap Dict.keys).dedup.insertionSort (· ≤ ·)

/-- The rows cut down to the fields that are asked for. -/
def selectFields (fields : List String) (records : List Json) : List Json :=
  if fields.isEmpty then records else
  (records.filterMap Json.asObj?).map fun r => .obj (Dict.collect (fields.map fun k => (k, Fields.get r k)))

/-- The rows of the reply. -/
def shownRows (fields : List String) (full : Bool) (maxRows : Int) (records : List Json) : List Json :=
  let capped := slice (selectFields fields records) 0 maxRows
  if full then capped else capped.map fun r => match r with
    | .obj row => .obj (stripEmpty row)
    | other => other

def taskIndexCap : Nat := 50

/-- The index of a list of tasks, nothing where there are less than two. -/
def indexTasks (tasks : List Json) : Fields :=
  if tasks.length < 2 then [] else
  let out : Fields := [
    ("tasks", .arr ((tasks.take taskIndexCap).filterMap fun t => t.asObj?.map fun t =>
      .obj [("task_id", Fields.get t "id"), ("input", Fields.get t "params")])),
    ("tasks_hint", .str "rows don't say which task produced them; pass task_id to get one task's rows")]
  if taskIndexCap < tasks.length then Dict.set out "tasks_truncated" (.bool true) else out

/-- The tasks of a squid, an empty listing where there is no squid; none where the read fails. -/
def readTasks (squid : Json) : Served (Option Json) := do
  if !squid.truthy then pure (some (.arr [])) else
  match ← request (.listTasks squid) with
  | .ok tasks => pure (some tasks)
  | .error _ => pure none

/-- The squid whose tasks are listed, by its id or by its run's; none where the read fails. -/
def indexedSquid (runId squidId : Option String) : Served (Option Json) :=
  match squidId.filter (· ≠ "") with
  | some squid => pure (some (.str squid))
  | none => do
    match ← request (.getRun ((runId.map Json.str).getD .null)) with
    | .ok run => pure (some (Fields.get run "squid"))
    | .error _ => pure none

/-- `_task_index`: whatever fails, it adds nothing. -/
def taskIndex (runId squidId : Option String) : Served Fields := do
  match ← indexedSquid runId squidId with
  | none => pure []
  | some squid =>
    match ← readTasks squid with
    | some (.arr tasks) => pure (indexTasks tasks)
    | _ => pure []

/-- The arguments of `get_results_impl`; no `fields` is the empty list. -/
structure ResultsArgs where
  runId : Option String := none
  squidId : Option String := none
  page : Int := 1
  pageSize : Option Int := none
  fields : List String := []
  full : Bool := false
  maxRows : Option Int := none
  taskId : Option String := none

/-- A string argument that is given, an empty one is not. -/
def given (text : Option String) : Bool := (text.filter (· ≠ "")).isSome

namespace ResultsArgs
variable (args : ResultsArgs)

def effectivePageSize : Int := LobstrMcp.effectivePageSize args.pageSize args.full

/-- `max_rows` -/
def rowCap : Int := match args.maxRows with
  | none => args.effectivePageSize
  | some n => min n args.effectivePageSize

end ResultsArgs

/-- What the reply says of one page. -/
def resultsPage (args : ResultsArgs) (payload : Fields) : Fields :=
  let records := resultRecords payload
  let shown := shownRows args.fields args.full args.rowCap records
  [("total_results", Fields.get payload "total_results"),
   ("page", (Dict.get? payload "page").getD (.int args.page)),
   ("page_size", .int args.effectivePageSize),
   ("total_pages", Fields.get payload "total_pages"),
   ("returned", .int shown.length),
   ("available_fields", .arr ((availableFields records).map .str)),
   ("next", Fields.get payload "next"),
   ("results", .arr shown)]

def getResultsBody (args : ResultsArgs) (index : Bool) : Served Fields := do
  if !given args.runId && !given args.squidId then
    returned [("error_code", .str "invalid_request"),
      ("message", .str ("provide run_id or squid_id (exactly one)" ++
        if given args.taskId then "; task_id narrows one of them, it can't be used alone" else ""))]
  else
  let payload ← getResults args.squidId args.runId args.taskId args.page (some args.effectivePageSize)
  match payload with
  | .obj payload =>
    let reply := resultsPage args payload
    if given args.taskId || args.page ≠ 1 || !index then pure reply else do
    let tasks ← taskIndex args.runId args.squidId
    pure (Dict.update reply tasks)
  | _ => Served.raised .attributeError

/-- `get_results_impl`; `index` is its `task_index`. -/
def getResultsImpl (args : ResultsArgs) (index : Bool) : Program ServerCall ServerCall.Ans Exc Fields :=
  structured none (getResultsBody args index)

/-! ### list_runs and get_results_url -/

def runEntry (run : Fields) : Fields := [
  ("run_id", Fields.get run "id"), ("status", Fields.get run "status"),
  ("total_results", Fields.get run "total_results"), ("credits_consumed", Fields.get run "credit_used"),
  ("started_at", Fields.get run "started_at"), ("ended_at", Fields.get run "ended_at")]

def listRunsImpl (squidId : String) (limit : Int) : Program ServerCall ServerCall.Ans Exc Fields :=
  structured none do
    let runs ← listRuns squidId limit
    pure [("count", .int runs.length), ("runs", .arr (runs.map fun r => .obj (runEntry r)))]

def downloadFormats : List String := ["csv", "xlsx", "json", "jsonl"]

section Lower
variable (lower : String → String)

def getResultsUrlBody (runId format : String) : Served Fields := do
  let fmt := lower (if format = "" then "csv" else format)
  if fmt ∉ downloadFormats then
    returned [("error_code", .str "invalid_request"),
      ("message", .str ("format must be one of " ++ String.intercalate ", " downloadFormats))]
  else
  let result ← getRunDownloadUrl runId fmt
  match result with
  | .obj state =>
    if Fields.get state "status" = .str "processing" then
      pure [("run_id", .str runId), ("format", .str fmt), ("status", .str "processing"),
        ("progress", Fields.get state "progress"),
        ("message", .str ("The file is still being built in this format; call " ++
          "get_results_url again shortly."))]
    else pure [("run_id", .str runId), ("format", .str fmt), ("download_url", result)]
  | _ => pure [("run_id", .str runId), ("format", .str fmt), ("download_url", result)]

def getResultsUrlImpl (runId format : String) : Program ServerCall ServerCall.Ans Exc Fields :=
  structured none (getResultsUrlBody lower runId format)

end Lower
end LobstrMcp
