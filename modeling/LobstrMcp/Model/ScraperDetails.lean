import LobstrMcp.Data.FloatRepr
import LobstrMcp.Data.Rounding
import LobstrMcp.Model.ApiReads
import LobstrMcp.Model.RunScraper
import Mathlib.Data.Nat.Log

/-!
What the tools tell of a scraper before it runs: its schema and its prices (`get_scraper_details_impl`),
the configuration of a squid (`get_my_scraper_impl`), and the API's estimate (`estimate_run_impl`).
-/

namespace LobstrMcp
open Interaction Served

/-! ### Prices as text -/

/-- The power of ten of a positive number's first digit. -/
def leadingPower (q : Rat) : Int :=
  let guess : Int := (Nat.log 10 q.num.natAbs : Int) - Nat.log 10 q.den
  if q < (10 : Rat) ^ guess then guess - 1 else guess

/-- Six digits of a positive number, without the zeros at their end. -/
def sixDigits (q : Rat) : List Char :=
  let power := leadingPower q
  let units := Rounding.halfEven (q * (10 : Rat) ^ (5 - power))
  let (power, units) := if units = 1000000 then (power + 1, 100000) else (power, units)
  if -4 ≤ power ∧ power < 6 then
    let shown := units * (10 : Rat) ^ (power - 5)
    if shown.den = 1 then Json.intText shown.num else Json.floatText shown
  else Json.mantissa ((Nat.toDigits 10 units.natAbs).rdropWhile (· = '0')) ++ 'e' :: Json.exponentText power

/-- `f"{q:g}"` -/
def generalText (q : Rat) : List Char :=
  if q = 0 then ['0'] else if q < 0 then '-' :: sixDigits (-q) else sixDigits q

/-- `s.replace(old, new)` -/
def replaceText (old new : List Char) : List Char → List Char
  | [] => []
  | c :: rest =>
    if old.isPrefixOf (c :: rest) ∧ old ≠ [] then new ++ replaceText old new (rest.drop (old.length - 1))
    else c :: replaceText old new rest
  termination_by s => s.length
  decreasing_by all_goals simp only [List.length_drop, List.length_cons]; omega

/-! ### get_scraper_details -/

/-- The JSON schema that `translate_input_schema` returns. -/
def Translated.jsonSchema (t : Translated) : Fields := [
  ("type", .str "object"),
  ("properties", .obj (t.properties.map fun e => (e.1, .obj e.2))),
  ("required", .arr (t.required.map .str))]

def InputModes.toJson (modes : InputModes) : Json := .obj [
  ("either", .arr (modes.either.map fun g => .arr (g.map .str))),
  ("always", .arr (modes.always.map .str)),
  ("description", .str modes.description)]

def levelJson (level : Option String) : Json := (level.map Json.str).getD .null

def stripExamples (schema : Fields) : Fields :=
  match Fields.get schema "properties" with
  | .obj props => Dict.set schema "properties" (.obj (props.map fun e => (e.1, match e.2 with
      | .obj spec => .obj (spec.filter fun s => s.1 ≠ "examples")
      | other => other)))
  | _ => schema

/-- One entry of `_paid_functions`, nothing where the entry has no price; none where its cost
description is no text. -/
def paidFunction (item : InputItem) (costDescription : Json) : Option (Option Json) :=
  match item.creditsPerFunction.bind resolveCreditRate with
  | none => some none
  | some rate =>
    match costDescription.orElse (.str "") with
    | .str text =>
      let billed := String.ofList (replaceText "\x7bcredits\x7d".toList (generalText rate) text.toList)
      some (some (.obj [("name", .str item.name), ("credits", creditsJson (some rate)),
        ("on_by_default", .bool (item.default.getD .null).truthy),
        ("billed", if billed = "" then .null else .str billed)]))
    | _ => none

/-- `_paid_functions`; an entry without a cost description has none. -/
def paidFunctions (priced : PricedCrawler) : Option (List Json) := do
  let entries ← (priced.crawler.input.zipIdx).mapM fun (item, i) =>
    paidFunction item (priced.costDescriptions[i]?.getD .null)
  some (entries.filterMap id)

def zipCodeSearchesNearbySlugs : List String := ["google-maps-leads-scraper"]

def geoIdSlugs : List String := ["linkedin-search-scraper"]

/-- The heads-up about one crawler, by its slug. -/
def slugNote (slug : Json) : Option String :=
  if slug ∈ zipCodeSearchesNearbySlugs.map Json.str then
    some ("A ZIP/postal code in `city` returns nearby towns too, not just " ++
      "that one — filter on the `city` output field for city limits only.")
  else if slug ∈ geoIdSlugs.map Json.str then
    some ("`location` and `industry` take LinkedIn's numeric ids, which no tool here " ++
      "can look up. Ask the user to run the search on linkedin.com with those " ++
      "filters and paste the result URL as the task: filters in the URL are kept.")
  else none

/-- What `get_scraper_details_impl` says of a crawler; none where a cost description is no text. -/
def detailsReply (scraper : Json) (priced : PricedCrawler) (params : Json) (full : Bool) : Option Fields := do
  let crawler := priced.crawler
  let t := translateInputSchema crawler params
  let schema := if full then t.jsonSchema else stripExamples t.jsonSchema
  let paid ← paidFunctions priced
  let result : Fields := [
    ("id", (Dict.get? crawler.fields "id").getD scraper),
    ("name", Fields.get crawler.fields "name"),
    ("description", (Dict.get? crawler.fields "description").getD (.str "")),
    ("input_schema", .obj schema),
    ("param_levels", .obj (t.levels.map fun e => (e.1, levelJson e.2))),
    ("output_fields", (Dict.get? crawler.fields "result").getD (.arr [])),
    ("credits_per_row", creditsJson (resolveCreditRate (Fields.get crawler.fields "credits_per_row"))),
    ("paid_functions", .arr paid),
    ("email_verification_credits",
      creditsJson (resolveCreditRate (Fields.get crawler.fields "credits_per_email"))),
    ("is_available", Fields.get crawler.fields "is_available"),
    ("max_concurrency", Fields.get crawler.fields "max_concurrency"),
    ("required_account_type", crawlerAccountType crawler)]
  let result := match t.inputModes with
    | some modes => Dict.set result "input_modes" modes.toJson
    | none => result
  let result := if t.wireNames.isEmpty then result else
    Dict.set result "param_wire_names" (.obj (t.wireNames.map fun e => (e.1, .str e.2)))
  match slugNote (Fields.get crawler.fields "slug") with
  | some note => some (Dict.set result "note" (.str note))
  | none => some result

section Lower
variable (lower : String → String)

def getScraperDetailsBody (scraper : String) (full : Bool) : Served Fields := do
  let scraper ← onServer (resolveCrawlerId lower (.str scraper))
  let priced ← getPricedCrawler scraper
  let params ← onServer (Tool.send (.getCrawlerParams scraper))
  match detailsReply scraper priced params full with
  | some reply => pure reply
  | none => Served.raised .attributeError

def getScraperDetailsImpl (scraper : String) (full : Bool) : Program ServerCall ServerCall.Ans Exc Fields :=
  structured none (getScraperDetailsBody lower scraper full)

end Lower

/-! ### get_my_scraper -/

def squidDropFields : List String := ["icon", "ui_state"]

def secretDeliveryKeys : List String := ["password", "token", "aws_access_key", "aws_secret_key"]

def withoutSecrets (value : Json) : Json :=
  match value with
  | .obj fields => .obj (fields.filter fun e => e.1 ∉ secretDeliveryKeys)
  | other => other

/-- `k.endswith("_fields")` -/
def isDelivery (key : String) : Bool := "_fields".toList <:+ key.toList

/-- What `get_my_scraper_impl` shows of a squid. -/
def squidView (squid : Fields) : Fields :=
  (squid.filter fun e => e.1 ∉ squidDropFields).map fun e =>
    (e.1, if isDelivery e.1 then withoutSecrets e.2 else e.2)

def getMyScraperImpl (squidId : String) : Program Call Answer Exc Fields :=
  structured none do
    let squid ← getSquid (.str squidId)
    pure (squidView squid)

/-! ### estimate_run -/

def estimateCreditsNote : String :=
  "total_credits is authoritative; run_scraper's own is an upper bound. Neither counts " ++
  "result filters, or email verification (see verification_note)."

def estimateTimeNote : String :=
  "estimated_time is a floor, not an ETA — a filtered run takes longer than this " ++
  "suggests; poll get_run for real progress."

/-- `_verification_note`: what cannot be read says nothing. -/
def verificationNoteOf (squidId : String) : Tool (Option String) := do
  match ← Tool.request (.getSquid (.str squidId)) with
  | .error _ => pure none
  | .ok squid =>
    let verifies := (Fields.get squid "auto_verify_emails").truthy
    let crawlerId := Fields.get squid "crawler"
    if !crawlerId.truthy then pure (verificationCostNote { input := [] } verifies) else
    match ← Tool.request (.getCrawler crawlerId) with
    | .ok crawler => pure (verificationCostNote crawler verifies)
    | .error _ => pure (verificationCostNote { input := [] } verifies)

/-- What `estimate_run_impl` says of the API's estimate. -/
def estimateReply (squidId : String) (est : Fields) : Fields := [
  ("squid_id", .str squidId),
  ("total_credits", Fields.get est "total_credits"),
  ("estimate_note", .str estimateCreditsNote),
  ("estimated_time", Fields.get est "estimated_time"),
  ("estimated_time_note", .str estimateTimeNote),
  ("max_results", Fields.get est "max_results"),
  ("services", Fields.get est "services"),
  ("tasks", Fields.get est "tasks"),
  ("recommended_upgrade_plan", Fields.get est "recommended_upgrade_plan")]

def estimateRunImpl (squidId : String) : Program ServerCall ServerCall.Ans Exc Fields :=
  structured none do
    let est ← estimateSquid squidId
    let out := estimateReply squidId ((est.asObj?).getD [])
    let note ← onServer (verificationNoteOf squidId)
    match note with
    | some note => pure (Dict.set out "verification_note" (.str note))
    | none => pure out

end LobstrMcp
