import LobstrMcp.Model.Accounts
import LobstrMcp.Model.OAuthProvider
import LobstrMcp.Model.Results
import LobstrMcp.Model.RunStatus
import LobstrMcp.Model.ScraperDetails
import LobstrMcp.Model.Search
import LobstrMcp.Model.SingleWrites
import LobstrMcp.Model.Toon
import LobstrMcp.Model.User

/-!
The server as a whole: the scopes (`auth/scopes.py`), the caller of a request (`auth/identity.py`), and
the tools that `register_*` registers, each with the scopes it asks for. A call checks them first, then
looks for the caller's client, and only then does what its tool does.
-/

namespace LobstrMcp
open Interaction

/-! ### auth/scopes.py -/

def crawlersRead : String := "crawlers:read"
def runsRead : String := "runs:read"
def resultsRead : String := "results:read"
def profileRead : String := "profile:read"
def accountRead : String := "account:read"
def runsExecute : String := "runs:execute"

def readScopes : List String := [crawlersRead]
def executeScopes : List String := [runsExecute]
def runReadScopes : List String := [runsRead]
def resultsReadScopes : List String := [resultsRead]
def profileReadScopes : List String := [profileRead]
def accountReadScopes : List String := [accountRead]

/-- `_IMPLIED_SCOPES`: tokens from before `profile:read` carry only `account:read`. -/
def impliedScopes : Dict String (List String) := [(accountRead, [profileRead])]

/-- `expand_granted`, as a list of the set. -/
def expandGranted (granted : List String) : List String :=
  impliedScopes.foldl (fun out implied => if implied.1 ∈ out then out ++ implied.2 else out) granted

/-- What is answered in place of a reply. -/
inductive ToolError where
  /-- `ScopeError` -/
  | scope (missing : List String)
  /-- `NotAuthenticatedError` -/
  | notAuthenticated (message : String)
  /-- An exception that the tool lets through. -/
  | failed (e : Exc)
  deriving DecidableEq

def checkScopes (granted required : List String) : Except ToolError Unit :=
  let missing := required.filter (· ∉ expandGranted granted)
  if missing.isEmpty then .ok () else .error (.scope missing)

/-! ### auth/identity.py -/

/-- What scores are taken in. -/
class ScoreField (K : Type) extends Field K, LinearOrder K

instance : ScoreField ℚ := { (inferInstance : Field ℚ), (inferInstance : LinearOrder ℚ) with }

/-- What a server is built with, and what the process around it provides: the header its SDK sends for a
token, `str.lower`, the arithmetic of floats, the logarithm, and how many rounds a wait for a run is given. -/
structure Host (K : Type) where
  settings : Settings
  hash : Sha256
  authorization : String → String
  lower : String → String
  floats : Floats
  log : K → K
  serverVersion : String
  waitRounds : Nat

section Host
variable {K : Type} (host : Host K)

/-- The session of a client with this token, at this instant. -/
def Host.session (now : Int) (token : String) : Session where
  settings := host.settings
  hash := host.hash
  lower := host.lower
  floats := host.floats
  authorization := host.authorization token
  now := now

def noToken : ToolError := .notAuthenticated "no authenticated MCP access token in context"

def noLobstrToken : ToolError := .notAuthenticated "access token has no linked Lobstr token"

def clientFromAccessToken (now : Int) (access : AccessToken) : Except ToolError Session :=
  if access.lobstrToken = "" then .error noLobstrToken else .ok (host.session now access.lobstrToken)

/-- `current_user_client`, for the access token of the request. -/
def currentUserClient (now : Int) (access : Option AccessToken) : Except ToolError Session :=
  match access with
  | none => .error noToken
  | some access => clientFromAccessToken host now access

/-- `make_authorizer`, for the access token of the request. -/
def authorizer (access : Option AccessToken) (required : List String) : Except ToolError Unit :=
  match access with
  | none => .error noToken
  | some access => checkScopes access.scopes required

/-! ### The tools -/

/-- A call of a tool, with its arguments. -/
inductive ToolCall where
  | searchScrapers (query : String) (full toon : Bool)
  | getScraperDetails (scraper : String) (full : Bool)
  | listMyScrapers (name crawler : Option String) (page pageSize : Int) (toon : Bool)
  | getMyScraper (squidId : String)
  | emptyScraper (squidId : String)
  | deactivateScraper (squidId : String)
  | runScraper (args : RunArgs)
  | getRun (runId : String) (full toon : Bool)
  | waitForRun (runId : String) (timeoutSeconds : Rat) (toon : Bool)
  | getResults (args : ResultsArgs) (toon : Bool)
  | listRuns (squidId : String) (limit : Int) (toon : Bool)
  | getResultsUrl (runId format : String)
  | abortRun (runId : String)
  | createSquid (scraper : String) (name : Option String) (config : Fields) (concurrency : Option Int)
  | addTasks (squidId : String) (tasks : List Json)
  | updateScraper (squidId : String) (name : Option String) (config : Fields) (concurrency : Option Int)
  | estimateRun (squidId : String) (toon : Bool)
  | checkCredits (toon : Bool)
  | whoami
  | listAccounts (platform : Option String) (limit page : Int) (toon : Bool)
  | getAccount (accountId : String)
  | attachAccount (squidId : String) (accountId : Option String)

namespace ToolCall

/-- What the tool passes to `authz`. -/
def scopes : ToolCall → List String
  | searchScrapers .. | getScraperDetails .. | listMyScrapers .. | getMyScraper .. | estimateRun .. => readScopes
  | getRun .. | waitForRun .. | listRuns .. => runReadScopes
  | getResults .. | getResultsUrl .. => resultsReadScopes
  | checkCredits .. | whoami => profileReadScopes
  | listAccounts .. | getAccount .. => accountReadScopes
  | emptyScraper .. | deactivateScraper .. | runScraper .. | abortRun .. | createSquid .. | addTasks ..
  | updateScraper .. => executeScopes
  | attachAccount .. => accountReadScopes ++ executeScopes

/-- Whether TOON is asked for. -/
def toon : ToolCall → Bool
  | searchScrapers _ _ toon | listMyScrapers _ _ _ _ toon | getRun _ _ toon | waitForRun _ _ toon
  | getResults _ toon | listRuns _ _ toon | estimateRun _ toon | checkCredits toon
  | listAccounts _ _ _ toon => toon
  | _ => false

end ToolCall

/-- The scopes the task index of `get_results` needs besides. -/
def indexScopes (args : ResultsArgs) : List String :=
  readScopes ++ if given args.runId && !given args.squidId then runReadScopes else []

/-- `wait_for_run` on the server: a look is a call of `get_run_impl`. -/
def pollOnServer (runId : String) :
    (op : Polling) → Program ServerCall ServerCall.Ans Exc (Polling.Ans Exc Fields op)
  | .poll => onServer (getRunImpl host.lower runId false).attempt
  | .now => .ask ServerCall.now
  | .sleep seconds => .ask (ServerCall.sleep seconds)

/-- A reply that always comes. -/
def always {ε : Type} (p : Program ServerCall ServerCall.Ans ε Fields) :
    Program ServerCall ServerCall.Ans ε (Option Fields) := p >>= fun out => pure (some out)

variable [ScoreField K]

/-- What a tool does once it has its client; `granted` is `_granted`. A wait comes to nothing where it
needs more rounds than it is given. -/
def ToolCall.body (s : Session) (granted : List String → Bool) :
    ToolCall → Program ServerCall ServerCall.Ans Exc (Option Fields)
  | searchScrapers query full _ => always (onServer (searchScrapersImpl host.lower host.log query full))
  | getScraperDetails scraper full => always (getScraperDetailsImpl host.lower scraper full)
  | listMyScrapers name crawler page pageSize _ =>
    always (onServer (listMyScrapersImpl host.lower name crawler page pageSize))
  | getMyScraper squidId => always (onServer (getMyScraperImpl squidId))
  | emptyScraper squidId => always (onServer (emptyScraperImpl squidId))
  | deactivateScraper squidId => always (onServer (deactivateScraperImpl squidId))
  | runScraper args => always (onServer (runScraperImpl s args))
  | getRun runId full _ => always (onServer (getRunImpl host.lower runId full))
  | waitForRun runId timeoutSeconds _ =>
    (waitForRunImpl host.waitRounds runId timeoutSeconds).handle (pollOnServer host runId)
  | getResults args _ => always (getResultsImpl { args with maxRows := none } (granted (indexScopes args)))
  | listRuns squidId limit _ => always (listRunsImpl squidId limit)
  | getResultsUrl runId format => always (getResultsUrlImpl host.lower runId format)
  | abortRun runId => always (onServer (abortRunImpl host.lower runId))
  | createSquid scraper name config concurrency =>
    always (onServer (createSquidImpl host.lower scraper name config concurrency))
  | addTasks squidId tasks => always (onServer (addTasksImpl squidId tasks))
  | updateScraper squidId name config concurrency =>
    always (onServer (updateScraperImpl squidId name config concurrency))
  | estimateRun squidId _ => always (estimateRunImpl squidId)
  | checkCredits _ => always (onServer (checkCreditsImpl host.lower host.floats))
  | whoami => always (whoamiImpl host.serverVersion)
  | listAccounts platform limit page _ => always (listAccountsImpl host.lower s.now platform limit page)
  | getAccount accountId => always (onServer (getAccountImpl s.now accountId))
  | attachAccount squidId accountId => always (onServer (attachAccountImpl s squidId accountId))

/-- A tool's result: its payload, and the text that stands for it where TOON is asked for. -/
structure Reply where
  structured : Fields
  content : Option String := none

/-- `toon_result(out) if toon else out` -/
def render (toon : Bool) (out : Fields) : Reply where
  structured := out
  content := if toon then some (Toon.toToon (.obj out)) else none

/-- A call: the scopes, the client, and then the tool. A server without an authorizer asks for no scopes. -/
def ToolCall.run (authz : Option (List String → Except ToolError Unit)) (client : Except ToolError Session)
    (call : ToolCall) : Program ServerCall ServerCall.Ans ToolError (Option Reply) := do
  let check (scopes : List String) : Except ToolError Unit := authz.elim (.ok ()) (· scopes)
  .ofExcept (check call.scopes)
  let s ← .ofExcept client
  let out ← (call.body host s fun scopes => (check scopes).isOk).mapError ToolError.failed
  pure (out.map (render call.toon))

/-- A call on the authenticated server, at this instant, for the access token of the request. -/
def serve (now : Int) (access : Option AccessToken) (call : ToolCall) :
    Program ServerCall ServerCall.Ans ToolError (Option Reply) :=
  call.run host (some (authorizer access)) (currentUserClient host now access)

end Host
end LobstrMcp
