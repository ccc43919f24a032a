import LobstrMcp.Model.Server
import LobstrMcp.Tools.Ownership

/-!
What each tool may issue, and that it keeps to it: one table for every tool, over the requests of the
API, its store and the clock.
-/

namespace LobstrMcp
open Interaction

/-! ### The table -/

namespace ServerCall

/-- A request that writes nothing. -/
def quiet : ServerCall → Bool
  | .call c => !c.writes
  | _ => true

def searches : ServerCall → Bool
  | .call .listCrawlers => true
  | _ => false

def details : ServerCall → Bool
  | .call .listCrawlers | .call (.getCrawlerParams _) | .read (.getPricedCrawler _) => true
  | _ => false

def listsSquids : ServerCall → Bool
  | .call .listCrawlers | .call .listSquids | .call (.pageSquids _ _ _) => true
  | _ => false

def readsSquid : ServerCall → Bool
  | .call (.getSquid _) => true
  | _ => false

/-- A run that hit the limit of its account is explained by its squid. -/
def readsRun : ServerCall → Bool
  | .call (.getRunStats _) | .call (.getRun _) | .call (.getRunCredits _) | .call (.getSquid _) => true
  | _ => false

def waits : ServerCall → Bool
  | .now | .sleep _ => true
  | op => readsRun op

/-- The tasks are listed only where the token's scopes allow it, and the run is only read for them where
no squid is given. -/
def readsResults (index run : Bool) : ServerCall → Bool
  | .read (.getResults _) => true
  | .call (.listTasks _) => index
  | .call (.getRun _) => index && run
  | _ => false

def listsRuns : ServerCall → Bool
  | .read (.listRuns _ _) => true
  | _ => false

def downloads : ServerCall → Bool
  | .read (.getRunDownloadUrl _ _) => true
  | _ => false

def estimates : ServerCall → Bool
  | .read (.estimateSquid _) | .call (.getSquid _) | .call (.getCrawler _) => true
  | _ => false

def readsBalance : ServerCall → Bool
  | .call .getBalance => true
  | _ => false

def readsMe : ServerCall → Bool
  | .read .whoami => true
  | _ => false

def listsAccounts : ServerCall → Bool
  | .read (.pageAccounts _ _) => true
  | _ => false

def readsAccount : ServerCall → Bool
  | .call (.getAccount _) => true
  | _ => false

/-- A request of a writing tool, of these kinds. -/
def sends (kind : Call → Bool) : ServerCall → Bool
  | .call c => kind c
  | _ => false

end ServerCall

namespace ToolCall
open ServerCall

/-- What a call may issue; `index` says that the token has the scopes of a task index. -/
def issues (index : Bool) : ToolCall → ServerCall → Bool
  | searchScrapers .. => searches
  | getScraperDetails .. => details
  | listMyScrapers .. => listsSquids
  | getMyScraper _ => readsSquid
  | emptyScraper _ => sends emptyKind
  | deactivateScraper _ => sends deactivateKind
  | runScraper args => sends (runKind args)
  | getRun .. => readsRun
  | waitForRun .. => waits
  | getResults args _ => readsResults index (given args.runId && !given args.squidId)
  | listRuns .. => listsRuns
  | getResultsUrl .. => downloads
  | abortRun _ => sends abortKind
  | createSquid .. => sends createKind
  | addTasks .. => sends addKind
  | updateScraper .. => sends updateKind
  | estimateRun .. => estimates
  | checkCredits _ => readsBalance
  | whoami => readsMe
  | listAccounts .. => listsAccounts
  | getAccount _ => readsAccount
  | attachAccount .. => sends attachKind

/-- The scopes of the task index of a call. -/
def indexNeeds : ToolCall → List String
  | getResults args _ => indexScopes args
  | _ => []

/-- The squid a call names as one to write to. -/
def target : ToolCall → Option String
  | runScraper args => args.reused
  | emptyScraper squidId | deactivateScraper squidId | addTasks squidId _ | updateScraper squidId _ _ _
  | attachAccount squidId _ => some squidId
  | _ => none

/-- What a call owns from the start. -/
def own (call : ToolCall) : Own where
  named := (call.target.map Json.str).toList

end ToolCall

/-- A served tool that issues these kinds of requests, and writes to its own squids only. -/
def serverKeeps (kind : ServerCall → Bool) : Protocol ServerCall ServerCall.Ans Own := fun own op ans own' =>
  kind op = true ∧
    match op, ans with
    | .call c, ans => ownNext own c ans own'
    | _, _ => own' = own

theorem answered (op : ServerCall) : Nonempty (ServerCall.Ans op) := by
  cases op with
  | call c => exact ⟨.error .typeError⟩
  | read r => exact ⟨.error .typeError⟩
  | now => exact ⟨0⟩
  | sleep _ => exact ⟨()⟩

section Keeps
variable {kind : ServerCall → Bool} {own : Own} {ε α : Type}

/-- What writes nothing owns what it did. -/
theorem serverKeeps_quiet {op : ServerCall} (allowed : kind op = true) (quiet : op.quiet = true)
    (ans : ServerCall.Ans op) : serverKeeps kind own op ans own := by
  refine ⟨allowed, ?_⟩
  cases op with
  | call c =>
    have silent : c.writes = false := by simpa [ServerCall.quiet] using quiet
    have stays : Stays (fun _ => true) own c := stays_quiet rfl silent
    exact stays.2 ans
  | _ => rfl

theorem follows_quiet {p : Program ServerCall ServerCall.Ans ε α}
    (uses : p.Uses fun op => kind op = true ∧ op.quiet = true) :
    p.Follows (serverKeeps kind) (fun _ _ => True) own :=
  Program.follows_of_uses uses (fun _ both ans => serverKeeps_quiet both.1 both.2 ans)
    (Program.ends_of_forall (fun _ => trivial) _)

/-- A tool that keeps to its squids does so on the server. -/
theorem onServer_keeps {calls : Call → Bool} {p : Program Call Answer ε α}
    (follows : p.Follows (keepsTo calls) (fun _ _ => True) own) :
    (onServer p).Follows (serverKeeps (ServerCall.sends calls)) (fun _ _ => True) own := by
  refine Program.follows_handle (R := Eq) follows rfl (fun {q q'} c keeps same led ans => ?_) fun _ _ => trivial
  subst same
  obtain ⟨r, step, rest⟩ := led ans
  exact ⟨r, ⟨step.1, step.2⟩, ans, r, rfl, rest, rfl⟩

theorem uses_always {allowed : ServerCall → Prop} {p : Program ServerCall ServerCall.Ans ε Fields}
    (uses : p.Uses allowed) : (always p).Uses allowed := Program.uses_bind uses fun _ => trivial

theorem always_keeps {p : Program ServerCall ServerCall.Ans ε Fields}
    (follows : p.Follows (serverKeeps kind) (fun _ _ => True) own) :
    (always p).Follows (serverKeeps kind) (fun _ _ => True) own := by
  refine Program.follows_bind.mpr (follows.mono fun q r _ => ?_)
  cases r <;> trivial

end Keeps

/-! ### The reading tools -/

section Reading
variable {allowed : Call → Prop} {lower : String → String}

theorem uses_searchScrapersImpl {K : Type} [ScoreField K] {log : K → K} (query : String) (full : Bool)
    (permitted : allowed .listCrawlers) : (searchScrapersImpl lower log query full).Uses allowed := by
  refine uses_structured ?_
  unfold searchScrapers
  refine Program.uses_bind ((uses_send _).mpr permitted) fun crawlers => ?_
  dsimp only
  split
  · trivial
  split
  · split <;> trivial
  · split <;> trivial

theorem uses_listMyScrapersImpl (name crawler : Option String) (page pageSize : Int) (catalog : allowed .listCrawlers)
    (all : allowed .listSquids) (cut : ∀ name page size, allowed (.pageSquids name page size)) :
    (listMyScrapersImpl lower name crawler page pageSize).Uses allowed := by
  refine uses_structured ?_
  unfold listMyScrapers
  split
  · refine Program.uses_bind (uses_resolveCrawlerId _ _ catalog) fun crawlerId => ?_
    refine Program.uses_bind ((uses_send _).mpr all) fun squids => ?_
    split
    · trivial
    · exact Program.uses_ofExcept _
  · refine Program.uses_bind ((uses_send _).mpr (cut _ _ _)) fun env => ?_
    split <;> trivial

theorem uses_getMyScraperImpl (squidId : String) (permitted : allowed (.getSquid (.str squidId))) :
    (getMyScraperImpl squidId).Uses allowed :=
  uses_structured (Program.uses_bind ((uses_send _).mpr permitted) fun _ => trivial)

theorem uses_accountLimitOut (squidId : Json) (permitted : allowed (.getSquid squidId)) :
    (accountLimitOut squidId).Uses allowed := by
  unfold accountLimitOut
  dsimp only
  split
  · refine Program.uses_bind ((uses_request _).mpr permitted) fun ans => ?_
    split <;> trivial
  · trivial

theorem uses_readDetail (runId : String) (permitted : allowed (.getRun (.str runId))) :
    (readDetail runId).Uses allowed := by
  refine Program.uses_bind ((uses_request _).mpr permitted) fun ans => ?_
  split <;> trivial

theorem uses_creditsBreakdown (runId : String) (out : Fields) (permitted : allowed (.getRunCredits (.str runId))) :
    (creditsBreakdown runId out).Uses allowed := by
  refine Program.uses_bind ((uses_request _).mpr permitted) fun ans => ?_
  split
  · split <;> trivial
  · trivial
  · trivial

theorem uses_getRunImpl (runId : String) (full : Bool) (stats : allowed (.getRunStats (.str runId)))
    (detail : allowed (.getRun (.str runId))) (credits : allowed (.getRunCredits (.str runId)))
    (squid : ∀ id, allowed (.getSquid id)) : (getRunImpl lower runId full).Uses allowed := by
  refine uses_structured ?_
  unfold getRunBody
  refine Program.uses_bind ((uses_send _).mpr stats) fun stats => ?_
  refine Program.uses_bind (uses_readDetail runId detail) fun detail => ?_
  have told (out : Fields) : (if full = true then creditsBreakdown runId (Dict.set out "stats" (.obj stats))
      else pure out).Uses allowed := by
    split
    · exact uses_creditsBreakdown runId _ credits
    · trivial
  dsimp only
  split
  · exact Program.uses_bind (uses_accountLimitOut _ (squid _)) fun limit => told _
  · exact told _

theorem uses_checkCreditsImpl (floats : Floats) (permitted : allowed .getBalance) :
    (checkCreditsImpl lower floats).Uses allowed :=
  uses_structured (Program.uses_bind ((uses_send _).mpr permitted) fun _ => trivial)

theorem uses_getAccountImpl (now : Int) (accountId : String) (permitted : allowed (.getAccount accountId)) :
    (getAccountImpl now accountId).Uses allowed :=
  uses_structured (Program.uses_bind ((uses_send _).mpr permitted) fun _ => trivial)

theorem uses_verificationNoteOf (squidId : String) (squid : allowed (.getSquid (.str squidId)))
    (crawler : ∀ id, allowed (.getCrawler id)) : (verificationNoteOf squidId).Uses allowed := by
  refine Program.uses_bind ((uses_request _).mpr squid) fun ans => ?_
  split
  · trivial
  dsimp only
  split
  · trivial
  · refine Program.uses_bind ((uses_request _).mpr (crawler _)) fun read => ?_
    split <;> trivial

end Reading

section Serving
variable {allowed : ServerCall → Prop} {lower : String → String}

theorem uses_getScraperDetailsImpl (scraper : String) (full : Bool) (catalog : allowed (.call .listCrawlers))
    (crawler : ∀ id, allowed (.read (.getPricedCrawler id))) (params : ∀ id, allowed (.call (.getCrawlerParams id))) :
    (getScraperDetailsImpl lower scraper full).Uses allowed := by
  refine uses_structured ?_
  refine Program.uses_bind (uses_onServer (uses_resolveCrawlerId _ _ catalog)) fun scraper => ?_
  refine Program.uses_bind ((uses_fetch _).mpr (crawler _)) fun priced => ?_
  refine Program.uses_bind (uses_onServer ((uses_send _).mpr (params _))) fun params => ?_
  split <;> trivial

theorem uses_waitOnServer {K : Type} (host : Host K) (runId : String) (timeoutSeconds : Rat) (now : allowed .now)
    (sleep : ∀ seconds, allowed (.sleep seconds))
    (look : (getRunImpl host.lower runId false).Uses fun c => allowed (.call c)) :
    ((waitForRunImpl host.waitRounds runId timeoutSeconds).handle (pollOnServer host runId)).Uses allowed := by
  refine Program.uses_handle (Program.uses_any _) fun op _ => ?_
  cases op with
  | poll => exact uses_onServer (Program.uses_attempt look)
  | now => exact (Program.uses_ask _).mpr now
  | sleep seconds => exact (Program.uses_ask _).mpr (sleep seconds)

theorem uses_indexedSquid (runId squidId : Option String)
    (run : given squidId = false → ∀ id, allowed (.call (.getRun id))) : (indexedSquid runId squidId).Uses allowed := by
  unfold indexedSquid
  split
  · trivial
  · rename_i missing
    refine Program.uses_bind ((uses_served_request _).mpr (run ?_ _)) fun ans => ?_
    · rw [given, missing]
      rfl
    · cases ans <;> trivial

theorem uses_readTasks (squid : Json) (permitted : allowed (.call (.listTasks squid))) :
    (readTasks squid).Uses allowed := by
  unfold readTasks
  split
  · trivial
  · refine Program.uses_bind ((uses_served_request _).mpr permitted) fun ans => ?_
    cases ans <;> trivial

theorem uses_taskIndex (runId squidId : Option String) (tasks : ∀ id, allowed (.call (.listTasks id)))
    (run : given squidId = false → ∀ id, allowed (.call (.getRun id))) : (taskIndex runId squidId).Uses allowed := by
  refine Program.uses_bind (uses_indexedSquid runId squidId run) fun squid => ?_
  cases squid with
  | none => trivial
  | some squid =>
    refine Program.uses_bind (uses_readTasks squid (tasks squid)) fun listed => ?_
    split <;> trivial

/-- The tasks are read only for an index. -/
theorem uses_getResultsImpl (args : ResultsArgs) (index : Bool) (results : ∀ query, allowed (.read (.getResults query)))
    (tasks : index = true → ∀ id, allowed (.call (.listTasks id)))
    (run : index = true → given args.runId = true → given args.squidId = false → ∀ id, allowed (.call (.getRun id))) :
    (getResultsImpl args index).Uses allowed := by
  refine uses_structured ?_
  unfold getResultsBody
  split
  · trivial
  rename_i named
  have byRun (noSquid : given args.squidId = false) : given args.runId = true := by
    simpa [noSquid] using named
  refine Program.uses_bind ((uses_fetch _).mpr (results _)) fun payload => ?_
  split
  · dsimp only
    split
    · trivial
    · rename_i indexed
      have on : index = true := by
        cases index
        · simp at indexed
        · rfl
      exact Program.uses_bind (uses_taskIndex _ _ (tasks on) fun noSquid => run on
        (byRun noSquid) noSquid) fun _ => trivial
  · trivial

theorem uses_listRunsImpl (squidId : String) (limit : Int) (permitted : allowed (.read (.listRuns squidId limit))) :
    (listRunsImpl squidId limit).Uses allowed :=
  uses_structured (Program.uses_bind ((uses_fetch _).mpr permitted) fun _ => trivial)

theorem uses_getResultsUrlImpl (runId format : String)
    (permitted : ∀ fmt, allowed (.read (.getRunDownloadUrl runId fmt))) :
    (getResultsUrlImpl lower runId format).Uses allowed := by
  refine uses_structured ?_
  unfold getResultsUrlBody
  generalize lower (if format = "" then "csv" else format) = fmt
  dsimp only
  split
  · trivial
  refine Program.uses_bind ?_ fun result => ?_
  · refine Program.uses_bind ((uses_fetch _).mpr (permitted _)) fun data => ?_
    split <;> trivial
  · split
    · split <;> trivial
    · trivial

theorem uses_estimateRunImpl (squidId : String) (estimate : allowed (.read (.estimateSquid squidId)))
    (squid : allowed (.call (.getSquid (.str squidId)))) (crawler : ∀ id, allowed (.call (.getCrawler id))) :
    (estimateRunImpl squidId).Uses allowed := by
  refine uses_structured ?_
  refine Program.uses_bind ((uses_fetch _).mpr estimate) fun est => ?_
  refine Program.uses_bind (uses_onServer (uses_verificationNoteOf squidId squid crawler)) fun note => ?_
  split <;> trivial

theorem uses_whoamiImpl (serverVersion : String) (permitted : allowed (.read .whoami)) :
    (whoamiImpl serverVersion).Uses allowed := by
  refine uses_structured (Program.uses_bind ((uses_fetch _).mpr permitted) fun me => ?_)
  split
  · split <;> trivial
  · trivial

theorem uses_listAccountsImpl (now : Int) (platform : Option String) (limit page : Int)
    (permitted : allowed (.read (.pageAccounts limit page))) :
    (listAccountsImpl lower now platform limit page).Uses allowed := by
  refine uses_structured (Program.uses_bind ((uses_fetch _).mpr permitted) fun payload => ?_)
  split <;> trivial

end Serving

/-! ### Every tool -/

section Body
variable {K : Type} [ScoreField K] (host : Host K)

/-- A call issues what its tool may issue, and writes to its own squids only. -/
theorem body_keeps (s : Session) (granted : List String → Bool) (call : ToolCall) :
    (call.body host s granted).Follows (serverKeeps (call.issues (granted call.indexNeeds))) (fun _ _ => True)
      call.own := by
  cases call with
  | searchScrapers query full _ =>
    exact follows_quiet (uses_always (uses_onServer (uses_searchScrapersImpl query full ⟨rfl, rfl⟩)))
  | getScraperDetails scraper full =>
    refine follows_quiet (uses_always (uses_getScraperDetailsImpl scraper full ⟨rfl, rfl⟩ ?_ ?_))
    · exact fun _ => ⟨rfl, rfl⟩
    · exact fun _ => ⟨rfl, rfl⟩
  | listMyScrapers name crawler page pageSize _ =>
    refine follows_quiet (uses_always (uses_onServer (uses_listMyScrapersImpl name crawler page pageSize ⟨rfl, rfl⟩
      ⟨rfl, rfl⟩ ?_)))
    exact fun _ _ _ => ⟨rfl, rfl⟩
  | getMyScraper squidId => exact follows_quiet (uses_always (uses_onServer (uses_getMyScraperImpl squidId ⟨rfl, rfl⟩)))
  | emptyScraper squidId => exact always_keeps (onServer_keeps (emptyScraperImpl_owns squidId))
  | deactivateScraper squidId => exact always_keeps (onServer_keeps (deactivateScraperImpl_owns squidId))
  | runScraper args => exact always_keeps (onServer_keeps (runScraperImpl_owns s args))
  | getRun runId full _ =>
    refine follows_quiet (uses_always (uses_onServer (uses_getRunImpl runId full ⟨rfl, rfl⟩ ⟨rfl, rfl⟩ ⟨rfl, rfl⟩ ?_)))
    exact fun _ => ⟨rfl, rfl⟩
  | waitForRun runId timeoutSeconds _ =>
    refine follows_quiet (uses_waitOnServer host runId timeoutSeconds ⟨rfl, rfl⟩ (fun _ => ⟨rfl, rfl⟩) ?_)
    exact uses_getRunImpl runId false ⟨rfl, rfl⟩ ⟨rfl, rfl⟩ ⟨rfl, rfl⟩ fun _ => ⟨rfl, rfl⟩
  | getResults args _ =>
    refine follows_quiet (uses_always (uses_getResultsImpl _ _ (fun _ => ⟨rfl, rfl⟩) (fun on _ => ⟨?_, rfl⟩)
      fun on run noSquid _ => ⟨?_, rfl⟩))
    · exact on
    · simp only [ToolCall.issues, ServerCall.readsResults, ToolCall.indexNeeds, on, Bool.true_and]
      simp only [run, noSquid, Bool.not_false, Bool.and_self]
  | listRuns squidId limit _ => exact follows_quiet (uses_always (uses_listRunsImpl squidId limit ⟨rfl, rfl⟩))
  | getResultsUrl runId format =>
    exact follows_quiet (uses_always (uses_getResultsUrlImpl runId format fun _ => ⟨rfl, rfl⟩))
  | abortRun runId => exact always_keeps (onServer_keeps (abortRunImpl_owns host.lower runId))
  | createSquid scraper name config concurrency =>
    exact always_keeps (onServer_keeps (createSquidImpl_owns host.lower scraper name config concurrency))
  | addTasks squidId tasks => exact always_keeps (onServer_keeps (addTasksImpl_owns squidId tasks))
  | updateScraper squidId name config concurrency =>
    exact always_keeps (onServer_keeps (updateScraperImpl_owns squidId name config concurrency))
  | estimateRun squidId _ =>
    exact follows_quiet (uses_always (uses_estimateRunImpl squidId ⟨rfl, rfl⟩ ⟨rfl, rfl⟩ fun _ => ⟨rfl, rfl⟩))
  | checkCredits _ => exact follows_quiet (uses_always (uses_onServer (uses_checkCreditsImpl _ ⟨rfl, rfl⟩)))
  | whoami => exact follows_quiet (uses_always (uses_whoamiImpl _ ⟨rfl, rfl⟩))
  | listAccounts platform limit page _ =>
    exact follows_quiet (uses_always (uses_listAccountsImpl _ platform limit page ⟨rfl, rfl⟩))
  | getAccount accountId =>
    exact follows_quiet (uses_always (uses_onServer (uses_getAccountImpl _ accountId ⟨rfl, rfl⟩)))
  | attachAccount squidId accountId => exact always_keeps (onServer_keeps (attachAccountImpl_owns s squidId accountId))

end Body
end LobstrMcp
