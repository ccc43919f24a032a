import LobstrMcp.Run.Reads

/-!
The second half of a `run_scraper` call: which writes a plan may issue, and how its outcome is
put to the model.
-/

namespace LobstrMcp
open Interaction Tool

variable {σ : Type} {W : World Call Answer σ} {st mid : σ} {tr : List (Event Call Answer σ)}

/-! ### The reply -/

theorem exec_structured {verify : Option String} {body : Tool Fields} {r : Except Exc Fields} :
    Exec W (structured verify body) st tr r mid ↔
      ∃ outcome, Exec W body st tr outcome mid ∧ r = settle verify outcome := by
  unfold structured
  constructor
  · intro run
    rcases exec_bind.mp run with ⟨e, rfl, head⟩ | ⟨outcome, m, first, rest, rfl, head, tail⟩
    · obtain ⟨_, absurd, _⟩ := exec_attempt.mp head
      cases absurd
    · obtain ⟨x, same, head⟩ := exec_attempt.mp head
      cases same
      obtain ⟨rfl, rfl, rfl⟩ := exec_ofExcept.mp tail
      exact ⟨outcome, by simpa using head, rfl⟩
  · rintro ⟨outcome, run, rfl⟩
    refine exec_bind.mpr (.inr ⟨outcome, mid, tr, [], by simp, exec_attempt.mpr ⟨_, rfl, run⟩, ?_⟩)
    exact exec_ofExcept.mpr ⟨rfl, rfl, rfl⟩

theorem ensures_structured {verify : Option String} {body : Tool Fields}
    {Q : List (Event Call Answer σ) → Except Exc Fields → σ → Prop} :
    Ensures W (structured verify body) st Q ↔
      Ensures W body st fun tr outcome t => Q tr (settle verify outcome) t := by
  constructor
  · intro h tr outcome t run
    exact h tr _ t (exec_structured.mpr ⟨outcome, run, rfl⟩)
  · intro h tr r t run
    obtain ⟨outcome, inner, rfl⟩ := exec_structured.mp run
    exact h tr outcome t inner

/-- What the report of every run says. -/
def startedFacts (plan : RunPlan) (w : Written) (run : Fields) (runId : Json) : Fields := [
  ("run_id", runId), ("squid_id", w.squidId), ("scraper", plan.target.scraper),
  ("reused_squid", .bool plan.args.reuse), ("status", Fields.get run "status"),
  ("estimate", estimateDict plan.estimate plan.verificationNote),
  ("submitted_input", .obj plan.input), ("account_attached", accountAttached plan),
  ("tasks_action", .str w.action.text),
  ("task_count", (w.taskCount.map fun n => Json.int n).getD .null),
  ("tasks_note", .str (tasksNote w.action w.taskCount w.replacedCount))]

section Report
variable (plan : RunPlan) (funds : Funds) (w : Written) (run : Fields) (runId : Json)

/-- Warnings, the balance and the count of replaced rows stand beside it. -/
theorem runReport_get? {key : String}
    (other : key ∉ ["replaced_task_count", "account_warning", "remaining", "credit_warning"]) :
    Dict.get? (runReport plan funds w run runId) key = Dict.get? (startedFacts plan w run runId) key := by
  simp only [List.mem_cons, List.not_mem_nil, or_false, not_or] at other
  obtain ⟨count, account, remaining, credit⟩ := other
  unfold runReport startedFacts
  by_cases replaced : w.action = .replaced <;> cases funds.warning <;> cases funds.remaining <;>
    cases plan.account.warning <;>
    simp only [replaced, if_true, if_false, Dict.get?_set_other _ _ (Ne.symm count),
      Dict.get?_set_other _ _ (Ne.symm account), Dict.get?_set_other _ _ (Ne.symm remaining),
      Dict.get?_set_other _ _ (Ne.symm credit)]

theorem runReport_get {key : String}
    (other : key ∉ ["replaced_task_count", "account_warning", "remaining", "credit_warning"]) :
    Fields.get (runReport plan funds w run runId) key = Fields.get (startedFacts plan w run runId) key := by
  rw [Fields.get, Fields.get, runReport_get? _ _ _ _ _ other]

theorem runReport_replaced (replaced : w.action = .replaced) :
    Fields.get (runReport plan funds w run runId) "replaced_task_count" = .int w.replacedCount := by
  unfold runReport
  cases funds.warning <;> cases funds.remaining <;> cases plan.account.warning <;> simp [replaced]

end Report

/-! ### What a plan may issue -/

/-- The calls between the gate and the start of the run, by the plan's mode. -/
def RunPlan.MayWrite (plan : RunPlan) (c : Call) : Prop :=
  match c with
  | .updateSquid _ _ => True
  | .createSquid _ _ | .deleteSquid _ => plan.args.reuse = false
  | .emptySquid _ => plan.args.reuse = true ∧ plan.args.replaceTasks = true ∧ plan.input ≠ []
  | .addTasks _ _ => plan.args.reuse = false ∨
      (plan.input ≠ [] ∧ (plan.args.replaceTasks = true ∨ plan.taskParams ≠ []))
  | .startRun _ | .idemGet _ | .idemPut _ _ _ | .setSquidActive _ _ | .abortRun _ => False
  | _ => True

/-- The calls of the second half. -/
def RunPlan.MayIssue (plan : RunPlan) (c : Call) : Prop :=
  match c with
  | .startRun _ | .idemPut _ _ _ => True
  | c => plan.MayWrite c

section Uses
variable {allowed : Call → Prop}

theorem uses_stepFailed (e : Exc) (message : String → String) :
    (stepFailed e message).Uses allowed := by
  cases e <;> trivial

theorem uses_restoreTasks {squidId : Json} {snapshot : Snapshot} {failure : Fields}
    (add : ∀ rows, snapshot.rows = some rows → allowed (.addTasks squidId (rows.map .obj))) :
    (restoreTasks squidId snapshot failure).Uses allowed := by
  unfold restoreTasks
  dsimp only
  split
  · trivial
  · trivial
  · rename_i present
    refine Program.uses_bind ((uses_request _).mpr (add _ present)) ?_
    intro answer
    rcases answer with e | _
    · cases e <;> trivial
    · trivial

theorem uses_swapRows {squidId : Json} {taskParams : Fields} {snapshot : Snapshot}
    (empty : allowed (.emptySquid squidId)) (add : ∀ rows, allowed (.addTasks squidId rows)) :
    (swapRows squidId taskParams snapshot).Uses allowed := by
  have undo (e : Exc) (message : String → String) : (do
      let failed ← stepFailed e message
      let reply ← restoreTasks squidId snapshot failed
      pure (some reply, 0) : Tool (Option Fields × Nat)).Uses allowed := by
    refine Program.uses_bind (uses_stepFailed e message) fun failed => ?_
    exact Program.uses_bind (uses_restoreTasks fun _ _ => add _) fun _ => trivial
  unfold swapRows
  refine Program.uses_bind ((uses_request _).mpr empty) ?_
  intro emptied
  cases emptied with
  | error e => exact undo e _
  | ok _ =>
    refine Program.uses_bind ((uses_request _).mpr (add _)) ?_
    intro added
    cases added with
    | error e => exact undo e _
    | ok _ => trivial

theorem uses_replaceSquidInput {squidId : Json} {body taskParams : Fields} {snapshot : Snapshot}
    (update : allowed (.updateSquid squidId body)) (empty : allowed (.emptySquid squidId))
    (add : ∀ rows, allowed (.addTasks squidId rows)) :
    (replaceSquidInput squidId body taskParams snapshot).Uses allowed := by
  unfold replaceSquidInput
  refine Program.uses_bind ((uses_request _).mpr update) ?_
  intro updated
  cases updated with
  | error e =>
    refine Program.uses_bind ?_ fun _ => trivial
    cases e <;> trivial
  | ok _ => exact uses_swapRows empty add

theorem uses_saveSquidInput {squidId : Json} {body taskParams : Fields}
    (update : allowed (.updateSquid squidId body))
    (add : taskParams ≠ [] → ∀ rows, allowed (.addTasks squidId rows)) :
    (saveSquidInput squidId body taskParams).Uses allowed := by
  unfold saveSquidInput
  refine Program.uses_bind ((uses_request _).mpr update) ?_
  intro updated
  cases updated with
  | error e => exact Program.uses_bind (uses_stepFailed e _) fun _ => trivial
  | ok _ =>
    dsimp only
    split
    · trivial
    · rename_i present
      refine Program.uses_bind ((uses_request _).mpr (add (by simpa using present) _)) ?_
      intro added
      cases added with
      | error e => exact Program.uses_bind (uses_stepFailed e _) fun _ => trivial
      | ok _ => trivial

theorem uses_newSquidFailed {squidId scraper : Json} {e : Exc}
    (delete : allowed (.deleteSquid squidId)) : (newSquidFailed squidId scraper e).Uses allowed := by
  cases e with
  | api rejection =>
    refine Program.uses_bind ?_ fun _ => trivial
    refine Program.uses_bind ((uses_request _).mpr delete) ?_
    intro deleted
    cases deleted <;> trivial
  | _ => trivial

end Uses

theorem ends_saveInput (plan : RunPlan) (squidId : Json) (existing : Option Nat) :
    (saveInput plan squidId existing).Ends fun r => ∀ w, r = .ok w → w.action ≠ .replaced := by
  unfold saveInput
  refine Program.ends_bind_value fun failure => ?_
  cases failure with
  | some failure => exact fun w absurd => by cases absurd
  | none =>
    dsimp only
    split
    · rintro w ⟨⟩ absurd
      cases absurd
    · rintro w ⟨⟩ absurd
      cases absurd

/-- Rows are only replaced on a reused squid, when asked for and with an input. -/
theorem ends_writeInput (plan : RunPlan) :
    (writeInput plan).Ends fun r => ∀ w, r = .ok w → w.action = .replaced →
      plan.args.reuse = true ∧ plan.args.replaceTasks = true ∧ plan.input ≠ [] := by
  have kept {p : Tool Written} (ends : p.Ends fun r => ∀ w, r = .ok w → w.action ≠ .replaced) :
      p.Ends fun r => ∀ w, r = .ok w → w.action = .replaced →
        plan.args.reuse = true ∧ plan.args.replaceTasks = true ∧ plan.input ≠ [] :=
    ends.mono fun r other w same replaced => absurd replaced (other w same)
  unfold writeInput
  split
  · rename_i reuse
    unfold writeReused
    refine Program.ends_bind_value fun squidId => ?_
    split
    · refine Program.ends_bind_value fun _ => ?_
      rintro w ⟨⟩ absurd
      cases absurd
    split
    · rename_i given replace
      exact Program.ends_of_forall (fun r w _ _ => ⟨reuse, replace, by simpa using given⟩) _
    · apply kept
      unfold addInput
      split
      · split
        · exact fun w absurd => by cases absurd
        · exact ends_saveInput plan squidId _
      · split
        · exact fun w absurd => by cases absurd
        · exact ends_saveInput plan squidId _
  · apply kept
    unfold writeNew
    refine Program.ends_bind_value fun squid => Program.ends_bind_value fun squidId => ?_
    have failed (e : Exc) : (newSquidFailed squidId plan.target.scraper e).Ends
        fun r => ∀ w, r = .ok w → w.action ≠ .replaced := by
      cases e with
      | api rejection => exact Program.ends_bind_value fun reply w absurd => by cases absurd
      | _ => exact fun w absurd => by cases absurd
    refine Program.ends_bind_value fun updated => ?_
    cases updated with
    | error e => exact failed e
    | ok _ =>
      refine Program.ends_bind_value fun added => ?_
      cases added with
      | error e => exact failed e
      | ok _ =>
        rintro w ⟨⟩ absurd
        cases absurd

theorem uses_writeInput (plan : RunPlan) : (writeInput plan).Uses plan.MayWrite := by
  unfold writeInput
  split
  · rename_i reuse
    unfold writeReused
    refine Program.uses_bind (uses_item _ _) fun squidId => ?_
    split
    · refine Program.uses_bind ?_ fun _ => trivial
      unfold saveAccounts
      split
      · trivial
      · exact Program.uses_bind ((uses_send _).mpr trivial) fun _ => trivial
    rename_i given
    have present : plan.input ≠ [] := by simpa using given
    split
    · rename_i replace
      unfold replaceInput
      refine Program.uses_bind ?_ ?_
      · exact uses_replaceSquidInput trivial ⟨reuse, replace, present⟩
          fun _ => .inr ⟨present, .inl replace⟩
      · rintro ⟨failure, replaced⟩
        cases failure <;> trivial
    · have save (existing : Option Nat) : (saveInput plan squidId existing).Uses plan.MayWrite := by
        unfold saveInput
        refine Program.uses_bind ?_ ?_
        · exact uses_saveSquidInput trivial fun row _ => .inr ⟨present, .inr row⟩
        · intro failure
          cases failure with
          | some failure => trivial
          | none => dsimp only; split <;> trivial
      unfold addInput
      split
      · split
        · trivial
        · exact save _
      · split
        · trivial
        · exact save _
  · rename_i reuse
    have new : plan.args.reuse = false := by simpa using reuse
    unfold writeNew
    refine Program.uses_bind ((uses_send _).mpr new) fun squid => ?_
    refine Program.uses_bind (uses_item _ _) fun squidId => ?_
    refine Program.uses_bind ((uses_request _).mpr trivial) fun updated => ?_
    cases updated with
    | error e => exact uses_newSquidFailed new
    | ok _ =>
      refine Program.uses_bind ((uses_request _).mpr (.inl new)) fun added => ?_
      cases added with
      | error e => exact uses_newSquidFailed new
      | ok _ => trivial

theorem RunPlan.MayWrite.mayIssue {plan : RunPlan} {c : Call} (may : plan.MayWrite c) :
    plan.MayIssue c := by
  cases c <;> first | exact may | trivial

theorem uses_afterStart {allowed : Call → Prop} (plan : RunPlan) (funds : Funds) (w : Written)
    (started : Except Exc Fields) (put : ∀ runId, allowed (.idemPut plan.key runId plan.keyTtl))
    (add : w.action = .replaced → ∀ rows, plan.snapshot.rows = some rows →
      (∃ e, started = .error e) → allowed (.addTasks w.squidId (rows.map .obj))) :
    (afterStart plan funds w started).Uses allowed := by
  unfold afterStart
  cases started with
  | ok run =>
    refine Program.uses_bind (uses_item _ _) fun runId => ?_
    exact Program.uses_bind ((uses_send _).mpr (put runId)) fun _ => trivial
  | error e =>
    unfold startFailed
    refine Program.uses_bind ?_ fun failed => ?_
    · cases e <;> trivial
    · dsimp only
      split
      · rename_i replaced
        exact uses_restoreTasks fun rows present => add replaced rows present ⟨e, rfl⟩
      · trivial

/-- The second half issues what its mode calls for, and nothing else. -/
theorem uses_commitRun (s : Session) (plan : RunPlan) : (commitRun s plan).Uses plan.MayIssue := by
  unfold commitRun
  split
  · trivial
  refine Program.uses_bind ?_ fun funds => ?_
  · exact Program.uses_bind ((uses_send _).mpr trivial) fun _ => trivial
  refine Program.uses_bind_of_ends ((uses_writeInput plan).mono fun _ may => may.mayIssue)
    (ends_writeInput plan) fun w modes => ?_
  refine Program.uses_bind ((uses_request _).mpr trivial) fun started => ?_
  refine uses_afterStart plan funds w started (fun _ => trivial) fun replaced _ _ _ => ?_
  obtain ⟨_, replace, present⟩ := modes replaced
  exact .inr ⟨present, .inl replace⟩

/-- The ways through the second half: it asks for confirmation, a read or a write fails, or the run
is started. -/
inductive Commits (W : World Call Answer σ) (s : Session) (plan : RunPlan) (st : σ) :
    List (Event Call Answer σ) → Except Exit Fields → σ → Prop
  | asks : Commits W s plan st [] (.error (.returned (confirmationReply s plan))) st
  | unread {tr e mid} (read : Exec W (readFunds plan) st tr (.error e) mid) :
      Commits W s plan st tr (.error e) mid
  | unwritten {funds first tr e m mid} (read : Exec W (readFunds plan) st first (.ok funds) m)
      (wrote : Exec W (writeInput plan) m tr (.error e) mid) : Commits W s plan st (first ++ tr) (.error e) mid
  | starts {funds first second w ans rest r m b next mid}
      (read : Exec W (readFunds plan) st first (.ok funds) m)
      (wrote : Exec W (writeInput plan) m second (.ok w) b) (step : W b (.startRun w.squidId) ans next)
      (after : Exec W (afterStart plan funds w ans) next rest r mid) :
      Commits W s plan st (first ++ (second ++ ⟨b, .startRun w.squidId, ans⟩ :: rest)) r mid

theorem Commits.of_exec {s : Session} {plan : RunPlan} {r : Except Exit Fields}
    (exec : Exec W (commitRun s plan) st tr r mid) : Commits W s plan st tr r mid := by
  unfold commitRun at exec
  split at exec
  · obtain ⟨rfl, rfl, rfl⟩ := exec_returned.mp exec
    exact .asks
  rcases exec_bind.mp exec with ⟨e, rfl, read⟩ | ⟨funds, m, first, rest, rfl, read, exec⟩
  · exact .unread read
  rcases exec_bind.mp exec with ⟨e, rfl, wrote⟩ | ⟨w, b, second, rest, rfl, wrote, exec⟩
  · exact .unwritten read wrote
  obtain ⟨ans, next, rest, step, rfl, after⟩ := exec_request_bind.mp exec
  exact .starts read wrote step after

end LobstrMcp
