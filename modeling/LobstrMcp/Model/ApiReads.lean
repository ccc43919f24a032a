import LobstrMcp.Interaction.Handler
import LobstrMcp.Model.LobstrClient

/-!
The rest of `lobstr_client.py`: the reads that no writing tool makes, and what a served tool does
altogether, which is to make requests and, while it waits for a run, to read the clock and sleep.
-/

namespace LobstrMcp
open Interaction

/-- A crawler, and what each entry of its `input[]` says of its price. -/
structure PricedCrawler where
  crawler : Crawler
  costDescriptions : List Json := []

/-- The reads that only reading tools make. `getPricedCrawler` is `get_crawler`, of which the details
of a scraper also tell the cost descriptions. -/
inductive ApiRead where
  | getPricedCrawler (crawler : Json)
  | pageAccounts (limit page : Int)
  | whoami
  | listRuns (squid : String) (limit : Int)
  | getRunDownloadUrl (run fileFormat : String)
  | estimateSquid (squid : String)
  | getResults (query : Fields)
  deriving DecidableEq

abbrev ApiRead.Resp : ApiRead → Type
  | .getPricedCrawler _ => PricedCrawler
  | .listRuns _ _ => List Fields
  | _ => Json

/-- What a served tool does. -/
inductive ServerCall where
  | call (c : Call)
  | read (r : ApiRead)
  | now
  | sleep (seconds : Rat)
  deriving DecidableEq

abbrev ServerCall.Ans : ServerCall → Type
  | .call c => Answer c
  | .read r => Except Exc r.Resp
  | .now => Rat
  | .sleep _ => Unit

/-- The body of a tool that is served. -/
abbrev Served (α : Type) : Type := Program ServerCall ServerCall.Ans Exit α

/-- A request of a tool, made by the server. -/
def ServerCall.make {ε : Type} (c : Call) : Program ServerCall ServerCall.Ans ε (Answer c) := .ask (ServerCall.call c)

/-- A tool, its requests made by the server. -/
def onServer {ε α : Type} (p : Program Call Answer ε α) : Program ServerCall ServerCall.Ans ε α :=
  p.handle ServerCall.make

namespace Served

def raised {α : Type} (e : Exc) : Served α := .raise (.raised e)

def returned {α : Type} (reply : Fields) : Served α := .raise (.returned reply)

/-- Make a read; its exception is raised here. -/
def fetch (r : ApiRead) : Served r.Resp := do
  let answer : Except Exc r.Resp ← .ask (ServerCall.read r)
  match answer with
  | .ok v => pure v
  | .error e => raised e

/-- Make a request and look at how it went. -/
def request (c : Call) : Served (Answer c) := ServerCall.make c

end Served

open Served

/-! The methods of the client. -/

def getPricedCrawler (crawler : Json) : Served PricedCrawler := fetch (.getPricedCrawler crawler)
def pageAccounts (limit page : Int) : Served Json := fetch (.pageAccounts limit page)
def getMe : Served Json := fetch .whoami
def listRuns (squid : String) (limit : Int) : Served (List Fields) := fetch (.listRuns squid limit)
def estimateSquid (squid : String) : Served Json := fetch (.estimateSquid squid)

/-- `if value: params[key] = value` -/
def queryText (key : String) (value : Option String) : Fields :=
  ((value.filter (· ≠ "")).map fun text => (key, Json.str text)).toList

/-- The query of `GET /results`. -/
def resultsQuery (squid run task : Option String) (page : Int) (pageSize : Option Int) : Fields :=
  [("page", .int page)] ++ queryText "squid" squid ++ queryText "run" run ++ queryText "task" task ++
    ((pageSize.filter (· ≠ 0)).map fun n => ("page_size", Json.int n)).toList

def getResults (squid run task : Option String) (page : Int) (pageSize : Option Int) : Served Json :=
  fetch (.getResults (resultsQuery squid run task page pageSize))

/-- A signed URL, or what the API says of a file that is still being built. -/
def getRunDownloadUrl (run fileFormat : String) : Served Json := do
  let data ← fetch (.getRunDownloadUrl run fileFormat)
  match data with
  | .obj fields => pure ((Dict.get? fields "s3").getD data)
  | _ => pure data

/-! ### What the methods do -/

section Uses
variable {allowed : ServerCall → Prop} {ε α : Type}

@[simp] theorem uses_make (c : Call) :
    (ServerCall.make c : Program ServerCall ServerCall.Ans ε (Answer c)).Uses allowed ↔ allowed (.call c) :=
  Program.uses_ask _

@[simp] theorem uses_served_request (c : Call) : (Served.request c).Uses allowed ↔ allowed (.call c) := uses_make c

@[simp] theorem uses_fetch (r : ApiRead) : (fetch r).Uses allowed ↔ allowed (.read r) := by
  constructor
  · intro uses
    exact uses.1
  · intro permitted
    refine Program.uses_bind ((Program.uses_ask _).mpr permitted) ?_
    rintro (e | v) <;> trivial

/-- A tool on the server does what it requests. -/
theorem uses_onServer {p : Program Call Answer ε α} (uses : p.Uses fun c => allowed (.call c)) :
    (onServer p).Uses allowed :=
  Program.uses_handle uses fun c permitted => (uses_make c).mpr permitted

theorem uses_structured {Op : Type} {Ans : Op → Type} {may : Op → Prop} {verify : Option String}
    {body : Program Op Ans Exit Fields} (uses : body.Uses may) : (structured verify body).Uses may :=
  Program.uses_bind (Program.uses_attempt uses) fun _ => Program.uses_ofExcept _

/-- A tool's outcome is what its body comes to, with an upstream failure put into a reply. -/
theorem run_settle {Op : Type} {Ans : Op → Type} {σ : Type} (m : Machine Op Ans σ) (st : σ) (verify : Option String)
    (body : Program Op Ans Exit Fields) : ((structured verify body).run m st).1 = settle verify (body.run m st).1 := by
  unfold structured
  rw [Program.run_bind_ok (Program.run_attempt _ _), Program.run_ofExcept]

end Uses
/-! ### What they come to -/

/-- What a server's requests are answered, as its tools see it. -/
def callsOf {σ : Type} (m : Machine ServerCall ServerCall.Ans σ) : Machine Call Answer σ := fun st c => m st (.call c)

section Runs
variable {σ : Type} {m : Machine ServerCall ServerCall.Ans σ} {st : σ}

theorem run_onServer {ε α : Type} (p : Program Call Answer ε α) : (onServer p).run m st = p.run (callsOf m) st := by
  induction p generalizing st with
  | pure a => rfl
  | raise e => rfl
  | call op next ih => exact ih _

theorem run_fetch {r : ApiRead} {v : r.Resp} (answered : (m st (.read r)).1 = .ok v) :
    (fetch r).run m st = (.ok v, (m st (.read r)).2) := by
  unfold fetch
  rw [Program.run_ask_bind, answered]
  rfl

end Runs
end LobstrMcp
