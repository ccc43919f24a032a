import LobstrMcp.Model.Safeguards

/-!
`lobstr_client.py`: the requests the server makes, and what each may answer. A request answers
with the parsed payload or with the exception it raised. The idempotency store is called the
same way: over Redis it is a service too, and its calls can fail.
-/

namespace LobstrMcp
open Interaction

structure Settings where
  runConfirmThreshold : Int

/-- A caller's session: its client's `authorization` header, the settings, the instant its
accounts are judged at (microseconds since the epoch), the hash function, `str.lower` and the
arithmetic of floats. -/
structure Session where
  settings : Settings
  hash : Sha256
  lower : String → String
  floats : Floats
  authorization : String
  now : Int

def Session.userScope (s : Session) : String :=
  String.ofList ((s.hash.hexdigest s.authorization).toList.take 32)

/-- The requests of a tool: to the API, and to the idempotency store. -/
inductive Call where
  | getSquid (squid : Json)
  | listCrawlers
  | getCrawler (crawler : Json)
  | getCrawlerParams (crawler : Json)
  | getAccount (account : String)
  | listAccounts (limit page : Nat) (type : Json) (status : Nat)
  | listTasks (squid : Json)
  | listSquids
  | pageSquids (name : Option String) (page pageSize : Int)
  | getRunStats (run : Json)
  | getRun (run : Json)
  | getRunCredits (run : Json)
  | getBalance
  | createSquid (crawler : Json) (name : Option String)
  | updateSquid (squid : Json) (settings : Fields)
  | deleteSquid (squid : Json)
  | emptySquid (squid : Json)
  | addTasks (squid : Json) (tasks : List Json)
  | startRun (squid : Json)
  | setSquidActive (squid : Json) (active : Bool)
  | abortRun (run : Json)
  | idemGet (key : String)
  | idemPut (key : String) (runId : Json) (ttl : Option Int)
  deriving DecidableEq

/-- What a successful request returns. -/
abbrev Call.Resp : Call → Type
  | .getSquid _ => Fields
  | .listCrawlers => List Fields
  | .getCrawler _ => Crawler
  | .listSquids => List Fields
  | .getRunStats _ => Fields
  | .getRun _ => Fields
  | .getBalance => Fields
  | .createSquid _ _ => Fields
  | .startRun _ => Fields
  | .idemGet _ => Option Json
  | .idemPut _ _ _ => Unit
  | _ => Json

/-- What a request answers: its payload, or the exception it raised. -/
abbrev Answer (c : Call) : Type := Except Exc c.Resp

/-- The body of a tool. -/
abbrev Tool (α : Type) : Type := Program Call Answer Exit α

namespace Call

/-- A request that changes something upstream when it takes effect. -/
def writes : Call → Bool
  | .createSquid _ _ | .updateSquid _ _ | .deleteSquid _ | .emptySquid _ | .addTasks _ _
  | .startRun _ | .setSquidActive _ _ | .abortRun _ => true
  | _ => false

/-- A request that changes nothing, upstream or in the store. -/
def Reads (c : Call) : Prop := c.writes = false ∧ ∀ key runId ttl, c ≠ .idemPut key runId ttl

/-- A request that neither starts a run nor goes to the store. -/
def Quiet (c : Call) : Prop :=
  match c with
  | .startRun _ | .idemGet _ | .idemPut _ _ _ => False
  | _ => True

/-- A read of the API. -/
def Fetches (c : Call) : Prop := c.writes = false ∧ c.Quiet

theorem Fetches.reads {c : Call} (fetches : c.Fetches) : c.Reads := by
  refine ⟨fetches.1, ?_⟩
  rintro key runId ttl rfl
  exact fetches.2

end Call

namespace Tool

/-- `raise` -/
def raised {α : Type} (e : Exc) : Tool α := .raise (.raised e)

/-- `return`, from the middle of a tool. -/
def returned {α : Type} (reply : Fields) : Tool α := .raise (.returned reply)

/-- Make a request and look at how it went: `try: … except …`. -/
def request (c : Call) : Tool (Answer c) := .ask c

/-- Make a request; its exception is raised here. -/
def send (c : Call) : Tool c.Resp := do
  match ← request c with
  | .ok v => pure v
  | .error e => raised e

end Tool

open Tool

/-! The methods of the client. -/

def getSquid (squid : Json) : Tool Fields := send (.getSquid squid)
def getCrawler (crawler : Json) : Tool Crawler := send (.getCrawler crawler)
def getBalance : Tool Fields := send .getBalance
def createSquid (crawler : Json) (name : Option String) : Tool Fields := send (.createSquid crawler name)
def updateSquid (squid : Json) (settings : Fields) : Tool Json := send (.updateSquid squid settings)
def emptySquid (squid : Json) : Tool Json := send (.emptySquid squid)
def addTasks (squid : Json) (tasks : List Json) : Tool Json := send (.addTasks squid tasks)
def setSquidActive (squid : Json) (active : Bool) : Tool Json := send (.setSquidActive squid active)
def abortRun (run : Json) : Tool Json := send (.abortRun run)
def listAccounts (limit page : Nat) (type : Json) (status : Nat) : Tool Json :=
  send (.listAccounts limit page type status)
def listCrawlers : Tool (List Fields) := send .listCrawlers
def listSquids : Tool (List Fields) := send .listSquids
def pageSquids (name : Option String) (page pageSize : Int) : Tool Json := send (.pageSquids name page pageSize)
def getRunStats (run : Json) : Tool Fields := send (.getRunStats run)

/-- `d[key]` -/
def item (d : Fields) (key : String) : Tool Json :=
  match Dict.get? d key with
  | some v => pure v
  | none => raised (.keyError key)

/-! ### Resolving a scraper's name -/

/-- `_CRAWLER_ID.match`: 32 lower-case hexadecimal digits. A final newline passes too: `$`
matches in front of it. -/
def isCrawlerId (s : String) : Bool :=
  let chars := s.toList
  let digits := if chars.getLast? = some '\n' then chars.dropLast else chars
  digits.length = 32 && digits.all isHexChar

/-- `scraper in (crawler.get("slug"), crawler.get("id"))` -/
def named (scraper : Json) (crawler : Fields) : Bool :=
  scraper = Fields.get crawler "slug" ∨ scraper = Fields.get crawler "id"

/-- `(c.get("slug") or "").startswith(prefix)`; none where the slug has no such method. -/
def slugStartsWith (crawler : Fields) (front : String) : Option Bool :=
  match (Fields.get crawler "slug").orElse (.str "") with
  | .str slug => some (front.toList.isPrefixOf slug.toList)
  | _ => none

/-- The body of the `try` in `resolve_crawler_id`, none where it raises. What `str.lower` makes of
a letter outside ASCII is up to `lower`. -/
def resolveInCatalog (lower : String → String) (crawlers : List Fields) (scraper : Json) : Option Json :=
  match crawlers.find? (named scraper) with
  | some crawler => some ((Fields.get crawler "id").orElse scraper)
  | none => do
    let text ← if scraper.truthy then scraper.asStr? else some ""
    let short := lower (strip text)
    if short = "" then some scraper else
    match crawlers.find? fun c => Fields.get c "slug" = .str (short ++ "-scraper") with
    | some crawler => some ((Fields.get crawler "id").orElse scraper)
    | none =>
      let starts ← crawlers.mapM fun c => (slugStartsWith c (short ++ "-")).map (·, c)
      match (starts.filter (·.1)).map (·.2) with
      | [crawler] => some ((Fields.get crawler "id").orElse scraper)
      | _ => some scraper

/-- `scraper and _CRAWLER_ID.match(scraper)`, which raises on what is no string. -/
def matchesId : Json → Tool Bool
  | .str s => pure (decide (s ≠ "") && isCrawlerId s)
  | v => if v.truthy then raised .typeError else pure false

/-- `resolve_crawler_id`: an id as it is, a slug or a short name by the catalogue, and anything
that cannot be resolved unchanged. -/
def resolveCrawlerId (lower : String → String) (scraper : Json) : Tool Json := do
  let isId ← matchesId scraper
  if isId then pure scraper else
  match ← request .listCrawlers with
  | .ok crawlers => pure ((resolveInCatalog lower crawlers scraper).getD scraper)
  | .error _ => pure scraper

/-! ### What the methods issue -/

section Uses
variable {allowed : Call → Prop}

@[simp] theorem uses_request (c : Call) : (request c).Uses allowed ↔ allowed c :=
  Program.uses_ask c

@[simp] theorem uses_send (c : Call) : (send c).Uses allowed ↔ allowed c := by
  constructor
  · intro uses
    exact uses.1
  · intro permitted
    refine Program.uses_bind ((uses_request c).mpr permitted) ?_
    rintro (e | v) <;> trivial

@[simp] theorem uses_item (d : Fields) (key : String) : (item d key).Uses allowed := by
  unfold item
  split <;> trivial

theorem uses_resolveCrawlerId (lower : String → String) (scraper : Json) (permitted : allowed .listCrawlers) :
    (resolveCrawlerId lower scraper).Uses allowed := by
  unfold resolveCrawlerId
  refine Program.uses_bind ?_ fun isId => ?_
  · unfold matchesId
    split
    · trivial
    · split <;> trivial
  · split
    · trivial
    · refine Program.uses_bind ((uses_request _).mpr permitted) ?_
      rintro (e | v) <;> trivial

end Uses
end LobstrMcp
