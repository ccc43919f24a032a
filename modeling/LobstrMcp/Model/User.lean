import LobstrMcp.Model.ApiReads
import LobstrMcp.Model.Safeguards

/-!
`tools/user.py`: the credits and slots of the caller, and who the caller is. `lower` is `str.lower`.
-/

namespace LobstrMcp
open Interaction Served

/-! ### check_credits -/

def dailyNote : String :=
  "interval=daily: 'available' is TODAY's allowance (the period's credits " ++
  "minus everything spent in it, divided by the days left) and 'consumed' is " ++
  "what has been spent TODAY. 'available' does NOT have 'consumed' taken off " ++
  "it: what can still be spent today is 'remaining', and budget a run against " ++
  "that. Neither figure is the account balance, and 'consumed' reads 0 for " ++
  "the rest of a day on an account that has spent a great deal in the period " ++
  "(measured: consumed 0 beside 125,000 spent in the period). reset_time is " ++
  "when TODAY's counter rolls over; the period's own reset is not reported on " ++
  "this interval."

/-- `_PERIOD_NOTE.format(interval=interval)` -/
def periodNote (interval : String) : String :=
  s!"interval={interval}: 'available' is the current billing period's whole " ++
  "allowance and 'consumed' is what has been spent in it — 'available' does " ++
  "NOT have 'consumed' taken off it, so what can still be spent is " ++
  "'remaining'. The period resets at reset_time."

def unknownIntervalNote : String :=
  "The API reported no interval for this account, so what period 'available' " ++
  "and 'consumed' cover is unknown; do not present them as the account " ++
  "balance. 'available' is an allowance with nothing taken off it, so what " ++
  "can still be spent is 'remaining'."

def remainingNote : String :=
  "remaining = available - consumed, the figure to budget a run against; 0 " ++
  "means nothing is left, and it can go negative (the account is over its " ++
  "period's allowance, not merely at zero)."

def slotsNote : String :=
  "used_slots is the concurrency of this account's runs in progress (PENDING or " ++
  "RUNNING); scrapers at rest use none. total_slots is what the plan allows: a " ++
  "launch that would go past it is refused (slots_limit_exceeded) and nothing is " ++
  "queued. Creating scrapers uses no slot: the plan holds up to max_squids of " ++
  "them (100 per slot), squids is how many exist."

def slotsOverNote : String :=
  " used_slots is above total_slots here, which happens when runs overlapped " ++
  "around a plan change and on staff accounts, which skip the check; on its own " ++
  "it is not an error."

/-- `isinstance(v, (int, float))`, which a boolean is too. -/
def numeric? : Json → Option Rat
  | .bool b => some (if b then 1 else 0)
  | v => number? v

/-- `_slots_note` -/
def slotsNoteFor (used total : Json) : String :=
  match numeric? used, numeric? total with
  | some u, some t => if t < u then slotsNote ++ slotsOverNote else slotsNote
  | _, _ => slotsNote

/-- `_remaining`: null where either figure is missing. -/
def remaining (floats : Floats) (available consumed : Json) : Json :=
  (floats.difference available consumed).getD .null

section Runtime
variable (lower : String → String) (floats : Floats)

def creditsNote (interval : Json) : String :=
  let note := if interval = .null then unknownIntervalNote
    else if lower interval.text = "daily" then dailyNote
    else periodNote interval.text
  note ++ " " ++ remainingNote

/-- What `check_credits_impl` says of a balance. -/
def creditsReply (b : Fields) : Fields := [
  ("available", Fields.get b "available"),
  ("consumed", Fields.get b "consumed"),
  ("remaining", remaining floats (Fields.get b "available") (Fields.get b "consumed")),
  ("interval", Fields.get b "interval"),
  ("reset_time", Fields.get b "reset_time"),
  ("credits_note", .str (creditsNote lower (Fields.get b "interval"))),
  ("used_slots", Fields.get b "used_slots"),
  ("total_slots", Fields.get b "total_available_slots"),
  ("squids", Fields.get b "squids"),
  ("max_squids", Fields.get b "max_squids"),
  ("slots_note", .str (slotsNoteFor (Fields.get b "used_slots") (Fields.get b "total_available_slots")))]

def checkCreditsImpl : Program Call Answer Exc Fields :=
  structured none do
    let balance ← getBalance
    pure (creditsReply lower floats balance)

end Runtime

/-! ### whoami -/

def currentPlan (plans : Json) : Fields :=
  match plans with
  | .arr plans =>
    let entries := plans.filterMap Json.asObj?
    (entries.find? fun p => Fields.get p "type" = .str "current").getD (entries.head?.getD [])
  | _ => []

/-- The name of `/me`, null when there is none; none where a part of it is no text. -/
def fullName (me : Fields) : Option Json := do
  let parts := [Fields.get me "first_name", Fields.get me "last_name"].filter Json.truthy
  let parts ← parts.mapM Json.asStr?
  let name := strip (String.intercalate " " parts)
  some (if name = "" then .null else .str name)

/-- What `whoami_impl` says of `/me`; none where that has no name to be told. -/
def whoamiReply (serverVersion : String) (me : Fields) : Option Fields := do
  let name ← fullName me
  let plan := currentPlan (Fields.get me "plan")
  some [
    ("email", Fields.get me "email"),
    ("name", name),
    ("is_staff", Fields.get me "is_staff"),
    ("plan", Fields.get plan "name"),
    ("plan_status", Fields.get plan "status"),
    ("credit_interval", Fields.get me "credit_interval"),
    ("server_version", .str serverVersion)]

/-- `whoami_impl`; the version is the one the package is installed under. -/
def whoamiImpl (serverVersion : String) : Program ServerCall ServerCall.Ans Exc Fields :=
  structured none do
    let me ← getMe
    match me with
    | .obj me =>
      match whoamiReply serverVersion me with
      | some reply => pure reply
      | none => Served.raised .typeError
    | _ => Served.raised .attributeError

end LobstrMcp
