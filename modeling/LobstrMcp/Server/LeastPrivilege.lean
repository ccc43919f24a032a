import LobstrMcp.Run.Attached
import LobstrMcp.Server.Issues

/-!
What a token may cause upstream. The scopes a tool asks for govern what it does: every request of a
call is one that some scope of the token stands for, the account inventory and every write included.
-/

namespace LobstrMcp
open Interaction

/-! ### Scopes -/

/-- What the scopes of a token stand for besides themselves. -/
theorem mem_expandGranted {granted : List String} {scope : String} :
    scope ∈ expandGranted granted ↔ scope ∈ granted ∨ (scope = profileRead ∧ accountRead ∈ granted) := by
  simp only [expandGranted, impliedScopes, List.foldl_cons, List.foldl_nil]
  split
  · rename_i held
    simp [held]
  · rename_i missing
    simp [missing]

theorem expandGranted_mono {granted wider : List String} (widens : granted ⊆ wider) :
    expandGranted granted ⊆ expandGranted wider := fun scope held => by
  rw [mem_expandGranted] at held ⊢
  exact held.imp (fun held => widens held) fun held => ⟨held.1, widens held.2⟩

theorem checkScopes_ok {granted required : List String} :
    checkScopes granted required = .ok () ↔ required ⊆ expandGranted granted := by
  simp only [checkScopes, List.isEmpty_iff, List.filter_eq_nil_iff, decide_eq_true_eq, not_not]
  split
  · rename_i none
    exact ⟨fun _ scope member => none scope member, fun _ => rfl⟩
  · rename_i some
    constructor
    · intro refused
      cases refused
    · exact fun all => (some fun scope member => all member).elim

theorem checkScopes_isOk {granted required : List String} :
    (checkScopes granted required).isOk = true ↔ required ⊆ expandGranted granted := by
  rw [← checkScopes_ok]
  cases checkScopes granted required with
  | ok u => simp [Except.isOk, Except.toBool]
  | error e => simp [Except.isOk, Except.toBool]

/-! ### The table -/

/-- The scopes under which a request is made. -/
def Call.governing : Call → List String
  | .getSquid _ => [crawlersRead, runsRead, runsExecute]
  | .listCrawlers | .getCrawler _ | .getCrawlerParams _ | .listTasks _ => [crawlersRead, runsExecute]
  | .listSquids | .pageSquids _ _ _ => [crawlersRead]
  | .getRunStats _ | .getRun _ | .getRunCredits _ => [runsRead]
  | .getBalance => [profileRead, runsExecute]
  | .getAccount _ => [accountRead, runsExecute]
  | _ => [runsExecute]

def ApiRead.governing : ApiRead → List String
  | .getPricedCrawler _ | .estimateSquid _ => [crawlersRead]
  | .listRuns _ _ => [runsRead]
  | .getResults _ | .getRunDownloadUrl _ _ => [resultsRead]
  | .pageAccounts _ _ => [accountRead]
  | .whoami => [profileRead]

def ServerCall.governing : ServerCall → List String
  | .call c => c.governing
  | .read r => r.governing
  | .now | .sleep _ => [runsRead]

theorem writes_governed {c : Call} (writes : c.writes = true) : c.governing = [runsExecute] := by
  cases c <;> first | rfl | cases writes

section Governed
variable {op : ServerCall} {c : Call}

/-- What no tool that executes may ask for: the squids of the caller, and its runs. -/
def Call.listsOwn : Call → Bool
  | .listSquids | .pageSquids _ _ _ | .getRunStats _ | .getRun _ | .getRunCredits _ => true
  | _ => false

theorem executes_governed (apart : c.listsOwn = false) : runsExecute ∈ c.governing := by
  cases c with
  | listSquids => cases apart
  | pageSquids _ _ _ => cases apart
  | getRunStats _ => cases apart
  | getRun _ => cases apart
  | getRunCredits _ => cases apart
  | getSquid _ => exact .tail _ (.tail _ (.head _))
  | listCrawlers => exact .tail _ (.head _)
  | getCrawler _ => exact .tail _ (.head _)
  | getCrawlerParams _ => exact .tail _ (.head _)
  | listTasks _ => exact .tail _ (.head _)
  | getBalance => exact .tail _ (.head _)
  | getAccount _ => exact .tail _ (.head _)
  | _ => exact .head _

/-- A tool that asks for none of these runs under `runs:execute`. -/
theorem sends_governed {kind : Call → Bool} (allowed : ServerCall.sends kind op = true)
    (apart : ∀ c, kind c = true → c.listsOwn = false) : runsExecute ∈ op.governing := by
  cases op with
  | call c => exact executes_governed (apart c allowed)
  | _ => cases allowed

/-- The requests of the tools that execute. -/
def executing (args : RunArgs) : List (Call → Bool) :=
  [emptyKind, deactivateKind, runKind args, abortKind, createKind, addKind, updateKind, attachKind]

theorem executing_apart {args : RunArgs} {kind : Call → Bool} (listed : kind ∈ executing args)
    (allowed : kind c = true) : c.listsOwn = false := by
  simp only [executing, List.mem_cons, List.not_mem_nil, or_false] at listed
  cases c <;> first
    | rfl
    | rcases listed with rfl | rfl | rfl | rfl | rfl | rfl | rfl | rfl <;> cases allowed

/-- What a tool that reads may issue, with the scope that it asks for. -/
def reading : List ((ServerCall → Bool) × String) := [
  (ServerCall.searches, crawlersRead), (ServerCall.details, crawlersRead), (ServerCall.listsSquids, crawlersRead),
  (ServerCall.readsSquid, crawlersRead), (ServerCall.estimates, crawlersRead), (ServerCall.readsRun, runsRead),
  (ServerCall.listsRuns, runsRead), (ServerCall.downloads, resultsRead), (ServerCall.readsBalance, profileRead),
  (ServerCall.readsMe, profileRead), (ServerCall.listsAccounts, accountRead), (ServerCall.readsAccount, accountRead)]

theorem reading_governed {kind : ServerCall → Bool} {scope : String} (listed : (kind, scope) ∈ reading)
    (allowed : kind op = true) : scope ∈ op.governing := by
  simp only [reading, List.mem_cons, Prod.mk.injEq, List.not_mem_nil, or_false] at listed
  rcases listed with ⟨rfl, rfl⟩ | ⟨rfl, rfl⟩ | ⟨rfl, rfl⟩ | ⟨rfl, rfl⟩ | ⟨rfl, rfl⟩ | ⟨rfl, rfl⟩ | ⟨rfl, rfl⟩ |
      ⟨rfl, rfl⟩ | ⟨rfl, rfl⟩ | ⟨rfl, rfl⟩ | ⟨rfl, rfl⟩ | ⟨rfl, rfl⟩ <;> rcases op with c | r | _ | _ <;>
    first
    | cases allowed
    | (cases c <;> first | exact .head _ | exact .tail _ (.head _) | cases allowed)
    | (cases r <;> first | exact .head _ | cases allowed)

/-- The index of the tasks has scopes of its own. -/
theorem readsResults_governed {index run : Bool} (allowed : ServerCall.readsResults index run op = true) :
    resultsRead ∈ op.governing ∨ (index = true ∧ crawlersRead ∈ op.governing) ∨
      (index = true ∧ run = true ∧ runsRead ∈ op.governing) := by
  unfold ServerCall.readsResults at allowed
  split at allowed
  · exact .inl (List.mem_singleton_self _)
  · exact .inr (.inl ⟨allowed, List.mem_cons_self⟩)
  · rw [Bool.and_eq_true] at allowed
    exact .inr (.inr ⟨allowed.1, allowed.2, List.mem_singleton_self _⟩)
  · cases allowed

/-- Every request a tool may issue is governed by a scope it asks for, or by one of its task index. -/
theorem issues_governed {index : Bool} {call : ToolCall} (allowed : call.issues index op = true) :
    ∃ scope ∈ op.governing, scope ∈ call.scopes ∨ (index = true ∧ scope ∈ call.indexNeeds) := by
  have of_scope {scope : String} (governs : scope ∈ op.governing) (asked : scope ∈ call.scopes) :
      ∃ scope ∈ op.governing, scope ∈ call.scopes ∨ (index = true ∧ scope ∈ call.indexNeeds) :=
    ⟨scope, governs, .inl asked⟩
  have own {scope : String} : scope ∈ [scope] := List.mem_singleton_self _
  have reads {scope : String} (kind : ServerCall → Bool) (allowed : kind op = true) (listed : (kind, scope) ∈ reading)
      (asked : scope ∈ call.scopes) : ∃ scope ∈ op.governing, scope ∈ call.scopes ∨
        (index = true ∧ scope ∈ call.indexNeeds) := of_scope (reading_governed listed allowed) asked
  have executes (args : RunArgs) (kind : Call → Bool) (allowed : ServerCall.sends kind op = true)
      (listed : kind ∈ executing args) (asked : runsExecute ∈ call.scopes) : ∃ scope ∈ op.governing,
        scope ∈ call.scopes ∨ (index = true ∧ scope ∈ call.indexNeeds) :=
    of_scope (sends_governed allowed fun _ => executing_apart listed) asked
  cases call with
  | searchScrapers _ _ _ => exact reads ServerCall.searches allowed (by simp [reading]) own
  | getScraperDetails _ _ => exact reads ServerCall.details allowed (by simp [reading]) own
  | listMyScrapers _ _ _ _ _ => exact reads ServerCall.listsSquids allowed (by simp [reading]) own
  | getMyScraper _ => exact reads ServerCall.readsSquid allowed (by simp [reading]) own
  | getRun _ _ _ => exact reads ServerCall.readsRun allowed (by simp [reading]) own
  | waitForRun _ _ _ =>
    cases op with
    | now => exact of_scope own own
    | sleep _ => exact of_scope own own
    | call _ => exact reads ServerCall.readsRun allowed (by simp [reading]) own
    | read _ => exact reads ServerCall.readsRun allowed (by simp [reading]) own
  | getResults args _ =>
    rcases readsResults_governed allowed with governs | ⟨on, governs⟩ | ⟨on, byRun, governs⟩
    · exact of_scope governs own
    · exact ⟨_, governs, .inr ⟨on, List.mem_append_left _ own⟩⟩
    · refine ⟨_, governs, .inr ⟨on, ?_⟩⟩
      rw [ToolCall.indexNeeds, indexScopes, if_pos byRun]
      exact List.mem_append_right _ own
  | listRuns _ _ _ => exact reads ServerCall.listsRuns allowed (by simp [reading]) own
  | getResultsUrl _ _ => exact reads ServerCall.downloads allowed (by simp [reading]) own
  | estimateRun _ _ => exact reads ServerCall.estimates allowed (by simp [reading]) own
  | checkCredits _ => exact reads ServerCall.readsBalance allowed (by simp [reading]) own
  | whoami => exact reads ServerCall.readsMe allowed (by simp [reading]) own
  | listAccounts _ _ _ _ => exact reads ServerCall.listsAccounts allowed (by simp [reading]) own
  | getAccount _ => exact reads ServerCall.readsAccount allowed (by simp [reading]) own
  | runScraper args => exact executes args (runKind args) allowed (by simp [executing]) own
  | emptyScraper _ => exact executes {} emptyKind allowed (by simp [executing]) own
  | deactivateScraper _ => exact executes {} deactivateKind allowed (by simp [executing]) own
  | abortRun _ => exact executes {} abortKind allowed (by simp [executing]) own
  | createSquid _ _ _ _ => exact executes {} createKind allowed (by simp [executing]) own
  | addTasks _ _ => exact executes {} addKind allowed (by simp [executing]) own
  | updateScraper _ _ _ _ => exact executes {} updateKind allowed (by simp [executing]) own
  | attachAccount _ _ => exact executes {} attachKind allowed (by simp [executing]) (List.mem_append_right _ own)

end Governed

/-! ### A served call -/

section Serve
variable {K : Type} [ScoreField K] (host : Host K)

/-- `_granted`, for an access token. -/
def AccessToken.grants (access : AccessToken) (scopes : List String) : Bool := (checkScopes access.scopes scopes).isOk

/-- What a call does for a token that may make it. -/
def ToolCall.served (now : Int) (access : AccessToken) (call : ToolCall) :
    Program ServerCall ServerCall.Ans ToolError (Option Reply) :=
  (call.body host (host.session now access.lobstrToken) access.grants).mapError ToolError.failed >>= fun out =>
    pure (out.map (render call.toon))

/-- A call is served for a linked token that has the scopes of the tool. -/
theorem serve_held (now : Int) {access : AccessToken} {call : ToolCall}
    (held : call.scopes ⊆ expandGranted access.scopes)
    (linked : access.lobstrToken ≠ "") : serve host now (some access) call = call.served host now access := by
  unfold serve ToolCall.run
  simp only [Option.elim_some, authorizer, currentUserClient, clientFromAccessToken]
  rw [checkScopes_ok.mpr held, if_neg linked]
  rfl

/-- A call is refused, without a request, or its token has the scopes of the tool and a Lobstr token. -/
theorem serve_cases (now : Int) (access : Option AccessToken) (call : ToolCall) :
    (∃ e, serve host now access call = .raise e) ∨
      ∃ a, access = some a ∧ call.scopes ⊆ expandGranted a.scopes ∧ a.lobstrToken ≠ "" ∧
        serve host now access call = call.served host now a := by
  cases access with
  | none => exact .inl ⟨noToken, rfl⟩
  | some a =>
    by_cases held : call.scopes ⊆ expandGranted a.scopes
    · by_cases linked : a.lobstrToken = ""
      · refine .inl ⟨noLobstrToken, ?_⟩
        unfold serve ToolCall.run
        simp only [Option.elim_some, authorizer, currentUserClient, clientFromAccessToken]
        rw [checkScopes_ok.mpr held, if_pos linked]
        rfl
      · exact .inr ⟨a, rfl, held, linked, serve_held host now held linked⟩
    · unfold serve ToolCall.run
      simp only [Option.elim_some, authorizer]
      cases checked : checkScopes a.scopes call.scopes with
      | error e => exact .inl ⟨e, rfl⟩
      | ok _ => exact absurd (checkScopes_ok.mp checked) held

/-- A served call keeps to what its tool may issue, and to its own squids. -/
theorem served_keeps (now : Int) (access : AccessToken) (call : ToolCall) :
    (call.served host now access).Follows (serverKeeps (call.issues (access.grants call.indexNeeds))) (fun _ _ => True)
      call.own := by
  refine Program.follows_bind.mpr (Program.follows_mapError ?_)
  refine (body_keeps host _ _ call).mono fun own r _ => ?_
  cases r <;> trivial

theorem serve_keeps (now : Int) (access : Option AccessToken) (call : ToolCall) :
    (serve host now access call).Follows
      (serverKeeps (call.issues (access.any (AccessToken.grants · call.indexNeeds)))) (fun _ _ => True) call.own := by
  rcases serve_cases host now access call with ⟨e, refused⟩ | ⟨a, rfl, -, -, served⟩
  · rw [refused]
    trivial
  · rw [served]
    exact served_keeps host now a call

/-- Every request of a served call, whatever it is answered, is made under a scope that its token has. -/
theorem serve_governed (now : Int) (access : Option AccessToken) (call : ToolCall) :
    (serve host now access call).Uses fun op =>
      ∃ a, access = some a ∧ ∃ scope ∈ op.governing, scope ∈ expandGranted a.scopes := by
  rcases serve_cases host now access call with ⟨e, refused⟩ | ⟨a, rfl, held, -, served⟩
  · rw [refused]
    trivial
  rw [served]
  refine (served_keeps host now a call).uses answered fun own op ans own' keeps => ⟨a, rfl, ?_⟩
  obtain ⟨scope, governs, asked | ⟨index, asked⟩⟩ := issues_governed keeps.1
  · exact ⟨scope, governs, held asked⟩
  · exact ⟨scope, governs, checkScopes_isOk.mp index asked⟩

/-- A call makes no request under a token that is not linked or lacks a scope of its tool, and under any
other it makes only requests that a scope of the token stands for. -/
theorem serve_within_scopes (now : Int) (access : Option AccessToken) (call : ToolCall) :
    ((∀ a, access = some a → a.lobstrToken = "" ∨ ¬ call.scopes ⊆ expandGranted a.scopes) →
      ∃ e, serve host now access call = .raise e) ∧
    (serve host now access call).Uses fun op =>
      ∃ a, access = some a ∧ ∃ scope ∈ op.governing, scope ∈ expandGranted a.scopes := by
  refine ⟨fun lacks => ?_, serve_governed host now access call⟩
  rcases serve_cases host now access call with refused | ⟨a, presented, held, linked, -⟩
  · exact refused
  · exact absurd held ((lacks a presented).resolve_left linked)

end Serve

/-! ### A host -/

def plainHost : Host ℚ where
  settings := { runConfirmThreshold := 100 }
  hash := flatHash
  authorization token := "Token " ++ token
  lower text := text
  floats := .exact
  log x := x
  serverVersion := "1.0"
  waitRounds := 0

/-- A token of these scopes, of the user whose Lobstr token is `t`. -/
def plainToken (scopes : List String) : AccessToken where
  token := "access"
  clientId := "client"
  scopes := scopes
  expiresAt := none
  subject := "user"
  lobstrToken := "t"
  lobstrUserId := "user"

end LobstrMcp
