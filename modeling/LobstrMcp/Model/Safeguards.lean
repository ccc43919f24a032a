import LobstrMcp.Data.JsonText
import LobstrMcp.Data.Rounding
import LobstrMcp.Model.SchemaTranslator

/-!
`safeguards.py`: input validation, the cost estimate, and the idempotency store. A float stands
for the number it prints; what an operation on floats rounds to is up to `Floats`.
-/

namespace LobstrMcp

/-! ### Input validation -/

/-- `_PY_TYPE_OK`: whether a value has a JSON-schema type, none for a type it does not list. -/
def pyTypeOk (type : Json) (v : Json) : Option Bool :=
  match type with
  | .str "string" => some (match v with | .str _ => true | _ => false)
  | .str "integer" => some (match v with | .int _ => true | _ => false)
  | .str "number" => some (match v with | .int _ | .float _ => true | _ => false)
  | .str "boolean" => some (match v with | .bool _ => true | _ => false)
  | .str "array" => some (match v with | .arr _ => true | _ => false)
  | .str "object" => some (match v with | .obj _ => true | _ => false)
  | _ => none

/-- The errors of the required fields and of the alternative input sets. -/
def requiredErrors (values : Fields) (t : Translated) : List String :=
  let missing := (t.required.filter fun req => !Dict.contains values req).map fun req =>
    s!"{req} is required"
  match t.inputModes with
  | none => missing
  | some modes =>
    if !modes.either.isEmpty && !(modes.either.any fun g => g.all (Dict.contains values)) then
      missing ++ ["provide one of these input sets: " ++
        String.intercalate " OR " (modes.either.map joinGroup)]
    else missing

/-- The type error of one value, if its property states a type it fails. -/
def typeError (t : Translated) (entry : String × Json) : Option String :=
  match Dict.get? t.properties entry.1 with
  | none => none
  | some spec =>
    match pyTypeOk (Fields.get spec "type") entry.2 with
    | some false => some (entry.1 ++ " must be " ++ (Fields.get spec "type").text)
    | _ => none

/-- `validate_input`: the list of errors, empty if valid. -/
def validateInput (values : Fields) (t : Translated) (checkRequired : Bool) : List String :=
  (if checkRequired then requiredErrors values t else []) ++ values.filterMap (typeError t)

/-! ### Prices -/

/-- A number that is not a boolean. -/
def number? : Json → Option Rat
  | .int n => some n
  | .float q => some q
  | _ => none

def resolveCreditRate : Json → Option Rat
  | .obj fields => (number? (Fields.get fields "current")).or (number? (Fields.get fields "legacy"))
  | v => number? v

structure CostEstimate where
  credits : Option Rat
  basis : String
  currency : String := "credits"
  /-- The per-row rate, where the crawler prices per row. -/
  rate : Option Rat := none

def positiveInt : Json → Option Nat
  | .int n => if 0 < n then some n.toNat else none
  | _ => none

/-- A paid extra step that is on for a run. -/
structure PaidStep where
  name : String
  rate : Rat
  successRatio : Rat

/-- Whether a priced input is on: the value given under `functions` or flat, else its default. -/
def stepState (settings : Fields) (item : InputItem) : Json :=
  let functions := ((Fields.get settings "functions").asObj?).getD []
  match Dict.get? functions item.name with
  | some state => state
  | none => match Dict.get? settings item.name with
    | some state => state
    | none => item.default.getD .null

/-- One round of the loop of `paid_steps`. -/
def paidStep (settings : Fields) (item : InputItem) : Option PaidStep :=
  match item.creditsPerFunction with
  | none => none
  | some price =>
    if !(stepState settings item).truthy then none else
    match resolveCreditRate price with
    | none => none
    | some rate =>
      let ratio := (number? (Fields.get (item.workerStats.getD []) "success_ratio")).getD 1
      some { name := item.name, rate, successRatio := ratio }

def paidSteps (crawler : Crawler) (settings : Fields) : List PaidStep :=
  crawler.input.filterMap (paidStep settings)

/-- `int(q)`: rounding toward zero. -/
def truncate (q : Rat) : Int := if 0 ≤ q then q.floor else q.ceil

/-- To the nearest ten-thousandth, an even one when two are as near. -/
def round4 (q : Rat) : Rat := Rounding.halfEven (q * 10000) / 10000

/-- The arithmetic of floats, on whole numbers and floats alike. -/
structure Floats where
  add : Rat → Rat → Rat
  sub : Rat → Rat → Rat
  mul : Rat → Rat → Rat
  /-- `int(q)` -/
  toInt : Rat → Int
  /-- `round(q, 4)` -/
  round4 : Rat → Rat

namespace Floats

/-- The arithmetic that rounds nothing but where it is asked to. -/
def exact : Floats where
  add := (· + ·)
  sub := (· - ·)
  mul := (· * ·)
  toInt := truncate
  round4 := LobstrMcp.round4

/-- `a - b` of two numbers, a whole one where both are. -/
def difference (floats : Floats) (a b : Json) : Option Json :=
  match a, b with
  | .int m, .int n => some (.int (m - n))
  | _, _ => match number? a, number? b with
    | some p, some q => some (.float (floats.sub p q))
    | _, _ => none

end Floats

section Estimate
variable (floats : Floats)

/-- How many of `maxRows` rows a paid step is billed on. -/
def billedRows (maxRows : Nat) (step : PaidStep) : Int := floats.toInt (floats.mul maxRows step.successRatio)

/-- The credits of a paid step on `maxRows` rows. -/
def stepCredits (maxRows : Nat) (step : PaidStep) : Rat := floats.mul (billedRows floats maxRows step) step.rate

/-- The first published price per task, with its key. -/
def taskPrice (crawler : Crawler) : Option (String × Rat) :=
  ["credits_per_task", "price_per_task", "cost_per_task"].findSome? fun key =>
    (number? (Fields.get crawler.fields key)).map (key, ·)

def estimateCost (crawler : Crawler) (taskCount : Nat) (maxResultsPerTask runResultCap : Json)
    (settings : Fields) : CostEstimate :=
  match taskPrice crawler with
  | some (key, price) =>
    { credits := some (floats.mul price taskCount), basis := s!"{key} x {taskCount} task(s)" }
  | none =>
  match resolveCreditRate (Fields.get crawler.fields "credits_per_row") with
  | none =>
    { credits := none
      basis := "unknown: crawler exposes no pre-run price; cost depends on results produced" }
  | some rate =>
  let steps := paidSteps crawler settings
  let rateText := Json.floatRepr rate
  match positiveInt runResultCap, positiveInt maxResultsPerTask with
  | none, none =>
    let extras := if steps.isEmpty then "" else
      ", plus " ++ String.intercalate ", " (steps.map PaidStep.name) ++ " on each row it applies to"
    { credits := none
      basis := s!"{rateText} credit(s) per row across {taskCount} task(s){extras}; the total " ++
        "depends on how many rows the run produces"
      rate := some rate }
  | runCap, perTask =>
    let maxRows := match runCap with
      | some cap => cap
      | none => perTask.getD 0 * taskCount
    let perTaskRows := perTask.getD 0
    let rowsBasis := if runCap.isSome then
        s!"up to {maxRows} row(s) (capped for the whole run by max_unique_results_per_run)"
      else s!"up to {maxRows} row(s) ({perTaskRows} per task x {taskCount} task(s))"
    let total := steps.foldl (fun total step => floats.add total (stepCredits floats maxRows step))
      (floats.mul rate maxRows)
    let stepBasis := String.join (steps.map fun step =>
      let billed := billedRows floats maxRows step
      let stepRate := Json.floatRepr step.rate
      s!"; + {step.name} on ~{billed} row(s) x {stepRate} credit(s)")
    { credits := some (floats.round4 total)
      basis := s!"{rowsBasis} x {rateText} credit(s)/row{stepBasis}. Upper bound: the actual " ++
        "total is lower if the run yields fewer rows. estimate_run(squid_id=...) " ++
        "is the API's own figure and the authoritative one"
      rate := some rate }

end Estimate

def verificationCostNote (crawler : Crawler) (autoVerifyEmails : Bool) : Option String :=
  if !autoVerifyEmails then none else
  match resolveCreditRate (Fields.get crawler.fields "credits_per_email") with
  | some rate =>
    let rateText := Json.floatRepr rate
    some ("auto_verify_emails is on for this run — the estimate does NOT include " ++
      "email verification, billed separately after the scrape at " ++
      s!"email_verification_credits={rateText} per email verified; budget up to " ++
      "email_verification_credits x emails found on top of it.")
  | none =>
    some ("auto_verify_emails is on for this run — the estimate does NOT include email " ++
      "verification, billed separately after the scrape, and this crawler publishes " ++
      "no email_verification_credits to size it by; budget for it separately.")

/-! ### Idempotency -/

def isHexChar (c : Char) : Bool := c ∈ "0123456789abcdef".toList

/-- `hashlib.sha256(…).hexdigest()`: 64 hexadecimal digits. -/
structure Sha256 where
  hexdigest : String → String
  length_hexdigest : ∀ s, (hexdigest s).length = 64
  hex_hexdigest : ∀ s, ∀ c ∈ (hexdigest s).toList, isHexChar c = true

def derivedIdempotencyTtl : Int := 120

def defaultIdempotencyTtl : Int := 24 * 3600

/-- What `compute_idempotency_key` hashes. -/
def idempotencyBlob (userScope scraper : String) (values : Fields) : String :=
  userScope ++ "|" ++ scraper ++ "|" ++ Json.dumpsSorted (.obj values)

def computeIdempotencyKey (hash : Sha256) (userScope scraper : String) (values : Fields) : String :=
  hash.hexdigest (idempotencyBlob userScope scraper values)

/-- `IdempotencyStore`: an entry is a run id and the time it stops being served, if any. -/
structure IdempotencyStore where
  entries : Dict String (Json × Option Rat) := []
  ttl : Int := defaultIdempotencyTtl

namespace IdempotencyStore

def expired (now : Rat) (expiresAt : Option Rat) : Bool :=
  match expiresAt with
  | some t => t ≤ now
  | none => false

/-- `get(key)`: the run id, and the store with an expired entry dropped. -/
def get (store : IdempotencyStore) (now : Rat) (key : String) : Option Json × IdempotencyStore :=
  match Dict.get? store.entries key with
  | none => (none, store)
  | some (runId, expiresAt) =>
    if expired now expiresAt then (none, { store with entries := Dict.erase store.entries key })
    else (some runId, store)

/-- `put(key, run_id, ttl=…)` -/
def put (store : IdempotencyStore) (now : Rat) (key : String) (runId : Json) (ttl : Option Int) :
    IdempotencyStore :=
  let ttl := ttl.getD store.ttl
  let expiresAt := if ttl = 0 then none else some (now + ttl)
  { store with entries := Dict.set store.entries key (runId, expiresAt) }

end IdempotencyStore
end LobstrMcp
