import LobstrMcp.Model.LobstrClient
import Mathlib.Data.List.Infix

/-!
`tools/scrapers.py`: listing the squids of the caller, a page at a time. By name the API filters and
pages; by crawler the tool reads them all, filters, and cuts the page out of the list itself.
-/

namespace LobstrMcp
open Interaction Tool

/-- `str.lower`, of text in ASCII. -/
def asciiLower (s : String) : String := .ofList (s.toList.map Char.toLower)

/-- `needle in text` -/
def within (needle text : String) : Bool := needle.toList <:+: text.toList

/-- `(v or "").lower()`; none where the value has no such method. -/
def loweredText (lower : String → String) (v : Json) : Option String :=
  match v.orElse (.str "") with
  | .str s => some (lower s)
  | _ => none

/-! ### Slices -/

/-- Where an index of a slice falls in a list of this length: a negative one counts from the end. -/
def sliceIndex (length : Nat) (i : Int) : Nat := if i < 0 then (i + length).toNat else min i.toNat length

/-- `xs[start:stop]` -/
def slice {α : Type} (xs : List α) (start stop : Int) : List α :=
  (xs.take (sliceIndex xs.length stop)).drop (sliceIndex xs.length start)

/-- `a // b` -/
def floorDiv (a b : Int) : Except Exc Int := if b = 0 then .error .zeroDivisionError else .ok (a.fdiv b)

/-! ### list_my_scrapers -/

def squidListKeys : List String := ["data", "results", "records"]

/-- `_squid_rows`; none where the response has no such method. -/
def squidRows (payload : Json) : Option (List Json) :=
  match payload with
  | .arr rows => some rows
  | .obj envelope => some ((squidListKeys.findSome? fun k => (Fields.get envelope k).asArr?).getD [])
  | _ => none

def squidSummary (s : Fields) : Fields :=
  let out : Fields := [("id", Fields.get s "id"), ("name", Fields.get s "name")]
  let crawler := (Fields.get s "crawler_name").orElse (Fields.get s "crawler")
  let out := if crawler.truthy then Dict.set out "crawler" crawler else out
  ["last_run_status", "last_run_at", "created_via"].foldl (fun out key =>
    if (Fields.get s key).truthy then Dict.set out key (Fields.get s key) else out) out

section Lower
variable (lower : String → String)

/-- `keep`, of a squid; none where a name of it has no `lower`. -/
def keepSquid (crawlerId : Json) (needle : String) (name : Option String) (s : Fields) : Option Bool := do
  let hit ← if Fields.get s "crawler" = crawlerId then some true
    else (loweredText lower (Fields.get s "crawler_name")).map (within needle)
  if !hit then some false else
  match name with
  | none => some true
  | some name => (loweredText lower (Fields.get s "name")).map (within name)

/-- `[s for s in squids if keep(s)]` -/
def matchedSquids (crawlerId : Json) (crawler : String) (name : Option String) (squids : List Fields) :
    Option (List Fields) := do
  let kept ← squids.mapM fun s =>
    (keepSquid lower crawlerId (lower crawler) ((name.filter (· ≠ "")).map lower) s).map (·, s)
  some ((kept.filter (·.1)).map (·.2))

/-- The reply: a page of squids and where it stands among the pages. -/
def squidPage (rows : List Json) (page total totalPages next : Json) : Fields := [
  ("count", .int rows.length),
  ("page", page),
  ("total_pages", totalPages),
  ("total", total),
  ("next", next),
  ("scrapers", .arr (rows.filterMap fun s => s.asObj?.map fun s => .obj (squidSummary s)))]

/-- The page cut out of what the filter kept. -/
def filteredPage (matched : List Fields) (page pageSize : Int) : Except Exc Fields := do
  let total : Int := matched.length
  let pages ← floorDiv (total + pageSize - 1) pageSize
  let totalPages := max 1 pages
  let start := (page - 1) * pageSize
  let rows := slice matched start (start + pageSize)
  let next : Json := if page < totalPages then .int (page + 1) else .null
  pure (squidPage (rows.map .obj) (.int page) (.int total) (.int totalPages) next)

/-- The page as the API cut it. -/
def servedPage (env : Json) (page : Int) : Option Fields := do
  let rows ← squidRows env
  match env with
  | .obj envelope => some (squidPage rows ((Dict.get? envelope "page").getD (.int page))
      (Fields.get envelope "total_results") (Fields.get envelope "total_pages") (Fields.get envelope "next"))
  | _ => some (squidPage rows (.int page) (.int rows.length) (.int 1) .null)

def listMyScrapers (name crawler : Option String) (page pageSize : Int) : Tool Fields := do
  match crawler.filter (· ≠ "") with
  | some crawler =>
    let crawlerId ← resolveCrawlerId lower (.str crawler)
    let squids ← listSquids
    match matchedSquids lower crawlerId crawler name squids with
    | none => raised .attributeError
    | some matched => .ofExcept ((filteredPage matched page pageSize).mapError Exit.raised)
  | none =>
    let env ← pageSquids name page pageSize
    match servedPage env page with
    | none => raised .attributeError
    | some reply => pure reply

def listMyScrapersImpl (name crawler : Option String) (page pageSize : Int) : Program Call Answer Exc Fields :=
  structured none (listMyScrapers lower name crawler page pageSize)

end Lower
end LobstrMcp
