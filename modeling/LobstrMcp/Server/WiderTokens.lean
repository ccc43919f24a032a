import LobstrMcp.Data.DictKeys
import LobstrMcp.Interaction.Machine
import LobstrMcp.Server.LeastPrivilege

/-!
What more scopes give a caller. A token that has the scopes of another does whatever that one does and
is answered the same; only the results of a run come with more, the index of the tasks they came of.
-/

namespace LobstrMcp
open Interaction Served

/-! ### The index of the tasks -/

/-- What the index of the tasks adds to a reply. -/
def taskIndexKeys : List String := ["tasks", "tasks_hint", "tasks_truncated"]

theorem keys_indexTasks (tasks : List Json) : Dict.keys (indexTasks tasks) ⊆ taskIndexKeys := by
  unfold indexTasks
  split
  · exact List.nil_subset _
  dsimp only
  split
  · intro key member
    rcases Dict.mem_keys_set.mp member with rfl | member
    · simp [taskIndexKeys]
    · simp only [Dict.keys, List.map_cons, List.map_nil, List.mem_cons, List.not_mem_nil, or_false] at member
      rcases member with rfl | rfl <;> simp [taskIndexKeys]
  · intro key member
    simp only [Dict.keys, List.map_cons, List.map_nil, List.mem_cons, List.not_mem_nil, or_false] at member
    rcases member with rfl | rfl <;> simp [taskIndexKeys]

/-- Whatever fails, an index comes of it. -/
theorem ends_taskIndex (runId squidId : Option String) :
    (taskIndex runId squidId).Ends fun r => ∃ tasks, r = .ok tasks ∧ Dict.keys tasks ⊆ taskIndexKeys := by
  have nothing : ∃ tasks : Fields, (.ok [] : Except Exit Fields) = .ok tasks ∧ Dict.keys tasks ⊆ taskIndexKeys :=
    ⟨[], rfl, List.nil_subset _⟩
  unfold taskIndex
  refine Program.ends_bind.mpr ?_
  have squid : (indexedSquid runId squidId).Ends fun r => ∃ squid, r = .ok squid := by
    unfold indexedSquid
    split
    · exact ⟨_, rfl⟩
    · intro ans
      cases ans <;> exact ⟨_, rfl⟩
  refine squid.mono fun r ended => ?_
  obtain ⟨squid, rfl⟩ := ended
  cases squid with
  | none => exact nothing
  | some squid =>
    dsimp only
    refine Program.ends_bind.mpr ?_
    have listed : (readTasks squid).Ends fun r => ∃ tasks, r = .ok tasks := by
      unfold readTasks
      split
      · exact ⟨_, rfl⟩
      · intro ans
        cases ans <;> exact ⟨_, rfl⟩
    refine listed.mono fun r ended => ?_
    obtain ⟨tasks, rfl⟩ := ended
    dsimp only
    split
    · exact ⟨_, rfl, keys_indexTasks _⟩
    · exact nothing

/-- Two replies that differ in what the index adds, at most. -/
def SameBut (keys : List String) (reply more : Fields) : Prop := ∀ key ∉ keys, Dict.get? more key = Dict.get? reply key

section Run
variable {σ : Type} (m : Machine ServerCall ServerCall.Ans σ) (st : σ)

/-- The two outcomes of a page: with the index it is the same, or the same reply with more. -/
def Indexed {ε : Type} (plain indexed : Except ε Fields) : Prop :=
  indexed = plain ∨ ∃ reply more, plain = .ok reply ∧ indexed = .ok more ∧ SameBut taskIndexKeys reply more

theorem Indexed.settle {plain indexed : Except Exit Fields} (same : Indexed plain indexed) :
    Indexed (settle none plain) (settle none indexed) := by
  rcases same with rfl | ⟨reply, more, rfl, rfl, same⟩
  · exact .inl rfl
  · exact .inr ⟨reply, more, rfl, rfl, same⟩

theorem indexed_getResultsBody (args : ResultsArgs) :
    Indexed ((getResultsBody args false).run m st).1 ((getResultsBody args true).run m st).1 := by
  unfold getResultsBody
  split
  · exact .inl rfl
  simp only [Program.run_bind]
  rcases (getResults args.squidId args.runId args.taskId args.page
    (some args.effectivePageSize)).run m st with ⟨e | payload, w⟩
  · exact .inl rfl
  cases payload with
  | obj payload =>
    dsimp only
    simp only [Bool.not_false, Bool.or_true, if_true, Bool.not_true, Bool.or_false]
    split
    · exact .inl rfl
    · obtain ⟨tasks, ended, keys⟩ := (ends_taskIndex args.runId args.squidId).run (m := m) w
      have ran : (taskIndex args.runId args.squidId).run m w =
          (.ok tasks, ((taskIndex args.runId args.squidId).run m w).2) := Prod.ext ended rfl
      refine .inr ⟨_, Dict.update (resultsPage args payload) tasks, rfl, ?_, fun key absent => ?_⟩
      · rw [Program.run_bind_ok ran]
        rfl
      · exact Dict.get?_update_absent fun member => absent (keys member)
  | _ => exact .inl rfl

theorem indexed_getResultsImpl (args : ResultsArgs) :
    Indexed ((getResultsImpl args false).run m st).1 ((getResultsImpl args true).run m st).1 := by
  unfold getResultsImpl
  rw [run_settle, run_settle]
  exact (indexed_getResultsBody m st args).settle

/-- The other tools ask nothing of the scopes beyond those they need. -/
theorem body_granted {K : Type} [ScoreField K] (host : Host K) (s : Session) (granted granted' : List String → Bool)
    {call : ToolCall} (plain : ∀ args toon, call ≠ .getResults args toon) :
    call.body host s granted = call.body host s granted' := by
  cases call with
  | getResults args toon => exact absurd rfl (plain args toon)
  | _ => rfl

end Run

/-! ### Calls under two tokens -/

section Serve
variable {K : Type} [ScoreField K] (host : Host K) {σ : Type} (m : Machine ServerCall ServerCall.Ans σ) (st : σ)

/-- The outcome of a call for a token. -/
def outcome (now : Int) (access : AccessToken) (call : ToolCall) : Except ToolError (Option Reply) :=
  ((serve host now (some access) call).run m st).1

/-- What a call comes to when it is served. -/
def told (call : ToolCall) (outcome : Except Exc (Option Fields)) : Except ToolError (Option Reply) :=
  (outcome.mapError ToolError.failed).map fun out => out.map (render call.toon)

theorem outcome_served {now : Int} {access : AccessToken} {call : ToolCall}
    (served : serve host now (some access) call = call.served host now access) :
    outcome host m st now access call =
      told call ((call.body host (host.session now access.lobstrToken) access.grants).run m st).1 := by
  unfold outcome
  rw [served]
  unfold ToolCall.served told
  refine (Program.run_map _ _ st).trans ?_
  rw [Program.run_mapError]

theorem run_always {ε : Type} (p : Program ServerCall ServerCall.Ans ε Fields) :
    ((always p).run m st).1 = (p.run m st).1.map some := Program.run_map p some st

/-- A token with more scopes does what the other may do, and is told the same, or the same and the index
of the tasks besides. -/
theorem wider_tokens_do_no_less (now : Int) {access wider : AccessToken} (widens : access.scopes ⊆ wider.scopes)
    (linked : wider.lobstrToken = access.lobstrToken) (call : ToolCall) :
    (∃ e, serve host now (some access) call = .raise e) ∨ outcome host m st now wider call =
      outcome host m st now access call ∨
      ∃ reply more, outcome host m st now access call = .ok (some reply) ∧ outcome host m st now wider call =
        .ok (some more) ∧
        SameBut taskIndexKeys reply.structured more.structured := by
  rcases serve_cases host now (some access) call with refused | ⟨a, presented, held, token, served⟩
  · exact .inl refused
  cases presented
  right
  have wide := outcome_served host m st
    (serve_held host now (List.Subset.trans held (expandGranted_mono widens)) (linked ▸ token))
  rw [wide, outcome_served host m st served, linked]
  by_cases plain : ∀ args toon, call ≠ .getResults args toon
  · left
    rw [body_granted host _ wider.grants access.grants plain]
  · push Not at plain
    obtain ⟨args, toon, rfl⟩ := plain
    have more : access.grants (indexScopes args) = true → wider.grants (indexScopes args) = true := fun held =>
      checkScopes_isOk.mpr (List.Subset.trans (checkScopes_isOk.mp held) (expandGranted_mono widens))
    simp only [ToolCall.body, run_always]
    cases less : access.grants (indexScopes args) with
    | true =>
      left
      rw [more less]
    | false =>
      cases wider.grants (indexScopes args) with
      | false => exact .inl rfl
      | true =>
        rcases indexed_getResultsImpl m st { args with maxRows := none } with same | ⟨reply, more, plain, indexed, but⟩
        · left
          rw [same]
        · right
          rw [plain, indexed]
          exact ⟨_, _, rfl, rfl, but⟩

end Serve

/-- An API with one row of results, of a squid with two tasks. -/
def resultsApi : Machine ServerCall ServerCall.Ans Unit := fun st op =>
  (match op with
    | .read (.getResults _) => .ok (.obj [("data", .arr [.obj [("name", .str "Da Enzo")]])])
    | .call (.listTasks _) => .ok (.arr [.obj [("id", .str "one")], .obj [("id", .str "two")]])
    | .read _ | .call _ => .error .typeError
    | .now => (0 : Rat)
    | .sleep _ => (), st)

def firstPage : ToolCall := .getResults { squidId := some "squid" } false

theorem the_index_comes_with_crawlers_read :
    ∃ reply more, outcome plainHost resultsApi () 0 (plainToken [resultsRead]) firstPage = .ok (some reply) ∧
      outcome plainHost resultsApi () 0 (plainToken [resultsRead, crawlersRead]) firstPage = .ok (some more) ∧
      SameBut taskIndexKeys reply.structured more.structured := by
  have wider : (plainToken [resultsRead]).scopes ⊆ (plainToken [resultsRead, crawlersRead]).scopes :=
    List.subset_append_left [resultsRead] [crawlersRead]
  rcases wider_tokens_do_no_less plainHost resultsApi () 0 wider rfl firstPage with ⟨e, refused⟩ | same | both
  · cases refused
  · have hints := congrArg (fun r => r.toOption.bind fun reply => reply.bind fun reply =>
      Dict.get? reply.structured "tasks_hint") same
    cases hints
  · exact both

end LobstrMcp
