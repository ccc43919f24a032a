import LobstrMcp.Run.Writes

/-!
What a call can answer. Before its writes it refuses in words of its own. After the first write a
failure is upstream's, put to the model as it came, and the tool only adds keys to it; so a property
of replies that those keys do not touch holds of every failure there.
-/

namespace LobstrMcp
open Interaction Tool

/-- The keys that the tool adds to a failure. -/
def addedKeys : List String :=
  ["squid_id", "tasks_lost", "tasks_restored", "lost_tasks", "message", "scraper", "deleted",
    "tasks_action", "task_count", "estimate", "remaining"]

/-- A property of replies that holds of what upstream answers, whatever the tool adds. -/
structure FromUpstream (fresh : Fields → Prop) : Prop where
  set : ∀ {reply : Fields} {key : String} (v : Json), fresh reply → key ∈ addedKeys →
    fresh (Dict.set reply key v)
  rejected : ∀ rejection, fresh (toErrorDict rejection)
  lost : ∀ lost verify, fresh (transportErrorDict lost verify)
  unavailable : ∀ rest : Fields, Dict.keys rest ⊆ addedKeys →
    fresh (("error_code", .str "upstream_unavailable") :: rest)

/-- An outcome of a part of a call: a reply it ends with is fresh, and a value meets `P`. -/
def Answers {α : Type} (fresh : Fields → Prop) (P : α → Prop) (r : Except Exit α) : Prop :=
  match r with
  | .ok a => P a
  | .error (.returned reply) => fresh reply
  | .error (.raised _) => True

section Answers
variable {α β : Type} {fresh : Fields → Prop}

theorem answers_bind {P : α → Prop} {Q : β → Prop} {p : Tool α} {f : α → Tool β}
    (first : p.Ends (Answers fresh P)) (rest : ∀ a, P a → (f a).Ends (Answers fresh Q)) :
    (p >>= f).Ends (Answers fresh Q) := by
  refine Program.ends_bind.mpr (first.mono fun r answers => ?_)
  rcases r with (_ | _) | a
  · exact answers
  · exact answers
  · exact rest a answers

theorem answers_request (c : Call) : (request c).Ends (Answers fresh fun _ => True) := fun _ => trivial

theorem answers_send (c : Call) : (send c).Ends (Answers fresh fun _ => True) := by
  refine answers_bind (answers_request c) fun ans _ => ?_
  cases ans <;> trivial

theorem answers_item (d : Fields) (key : String) : (item d key).Ends (Answers fresh fun _ => True) := by
  unfold item
  split <;> trivial

theorem Answers.mono {fresh' : Fields → Prop} {P : α → Prop} {r : Except Exit α} (answers : Answers fresh P r)
    (weaken : ∀ reply, fresh reply → fresh' reply) : Answers fresh' P r := by
  rcases r with (_ | reply) | _
  · trivial
  · exact weaken reply answers
  · exact answers

/-! ### The first half -/

/-- The codes that only the tool itself answers with. -/
def refusalCodes : List String := [
  "invalid_request", "no_account_needed", "accounts_unreadable", "account_not_found",
  "account_type_mismatch", "multiple_accounts_available", "account_locked", "no_account_available",
  "squid_has_tasks", "tasks_unreadable"]

/-- The keys of a reply that refuses an account. -/
def refusalFields : List String :=
  ["error_code", "message", "squid_id", "account_id", "required_type", "given_type", "candidates"]

/-- A reply with one of these codes, and no word of a run. -/
def IsRefusal (reply : Fields) : Prop :=
  (∃ code ∈ refusalCodes, Fields.get reply "error_code" = .str code) ∧ Dict.keys reply ⊆ refusalFields

theorem refuses_cons {code : String} {message : Json} {rest : Fields} (member : code ∈ refusalCodes)
    (fields : Dict.keys rest ⊆ refusalFields) :
    IsRefusal (("error_code", .str code) :: ("message", message) :: rest) := by
  refine ⟨⟨code, member, rfl⟩, fun key present => ?_⟩
  rcases List.mem_cons.mp present with rfl | present
  · show "error_code" ∈ refusalFields
    decide
  rcases List.mem_cons.mp present with rfl | present
  · show "message" ∈ refusalFields
    decide
  · exact fields present

theorem IsRefusal.absent {reply : Fields} (refuses : IsRefusal reply) {key : String} (other : key ∉ refusalFields) :
    Dict.get? reply key = none :=
  Dict.get?_of_not_mem fun member => other (refuses.2 member)

theorem answers_readTarget (s : Session) (args : RunArgs) : (readTarget s args).Ends (Answers fresh fun _ => True) := by
  unfold readTarget
  refine answers_bind (P := fun _ => True) ?_ fun squid _ => ?_
  · unfold readSquid
    split
    · exact answers_send _
    · trivial
  refine answers_bind (P := fun _ => True) ?_ fun scraper _ => ?_
  · unfold resolveCrawlerId
    refine answers_bind (P := fun _ => True) ?_ fun isId _ => ?_
    · unfold matchesId
      split
      · trivial
      · split <;> trivial
    · split
      · trivial
      · refine answers_bind (answers_request _) fun ans _ => ?_
        cases ans <;> trivial
  refine answers_bind (answers_send _) fun crawler _ => answers_bind (P := fun _ => True) ?_ fun _ _ => trivial
  refine answers_bind (answers_request _) fun ans _ => ?_
  cases ans <;> trivial

theorem answers_readRows (args : RunArgs) : (readRows args).Ends (Answers fresh fun _ => True) := by
  unfold readRows
  split
  · refine answers_bind (answers_request _) fun ans _ => ?_
    rcases ans with e | payload
    · cases e <;> trivial
    · cases payload <;> trivial
  · trivial

theorem isRefusal_redacted {error : Fields} (refuses : IsRefusal error) : IsRefusal (redactAccountError error) := by
  unfold redactAccountError
  split
  · exact refuses_cons (by decide) (by simp [Dict.keys, refusalFields])
  · exact refuses_cons (by decide) (by simp [Dict.keys, refusalFields])
  · exact refuses

theorem refuses_explainPick {accountType : Json} {unlocked locked : List Fields} {error : Fields}
    (explained : explainPick accountType unlocked locked = .error error) : IsRefusal error := by
  unfold explainPick at explained
  dsimp only at explained
  split at explained
  · cases explained
  · cases explained
    exact refuses_cons (by decide) (by simp [Dict.keys, refusalFields])
  · cases explained
    exact refuses_cons (by decide) (by simp [Dict.keys, refusalFields])
  · cases explained
    exact refuses_cons (by decide) (by simp [Dict.keys, refusalFields])

theorem answers_chooseAccount (s : Session) (args : RunArgs) (target : Target) :
    (chooseAccount s args target).Ends (Answers IsRefusal fun _ => True) := by
  unfold chooseAccount
  dsimp only
  split
  · exact refuses_cons (by decide) (by simp [Dict.keys, refusalFields])
  split
  · split
    · exact refuses_cons (by decide) (by simp [Dict.keys, refusalFields])
    · trivial
  split
  · unfold chooseGiven resolveAccount
    refine answers_bind (P := fun r => ∀ error, r = .error error → IsRefusal error) ?_ ?_
    · refine answers_bind (answers_request _) fun ans _ => ?_
      rcases ans with e | payload
      · cases e with
        | api _ =>
          rintro error ⟨⟩
          exact refuses_cons (by decide) (by simp [Dict.keys, refusalFields])
        | _ => trivial
      · dsimp only
        split
        · split
          · rintro error ⟨⟩
            exact refuses_cons (by decide) (by simp [Dict.keys, refusalFields])
          · split
            · rintro error ⟨⟩
              exact refuses_cons (by decide) (by simp [Dict.keys, refusalFields])
            · exact fun error absurd => by cases absurd
        · rintro error ⟨⟩
          exact refuses_cons (by decide) (by simp [Dict.keys, refusalFields])
    · intro r refuses
      cases r with
      | error error => exact refuses error rfl
      | ok account => exact answers_bind (answers_item _ _) fun _ _ => trivial
  · split
    · unfold choosePicked pickOrExplain findCandidates
      refine answers_bind (P := fun r => ∀ error, r = .error error → IsRefusal error) ?_ ?_
      · refine answers_bind (P := fun _ => True) (answers_bind (answers_send _) fun _ _ => trivial) ?_
        exact fun _ _ _ => refuses_explainPick
      · intro r refuses
        cases r with
        | error error => exact isRefusal_redacted (refuses error rfl)
        | ok account => exact answers_bind (answers_item _ _) fun _ _ => trivial
    · trivial

/-- The first half answers with a refusal of the call or its account, with the errors of the input, or
with the run that its key has. -/
theorem answers_prepareRun (s : Session) (args : RunArgs) (refusal : ∀ reply, IsRefusal reply → fresh reply)
    (invalid : ∀ errors, fresh [("error_code", .str "validation_error"), ("errors", errors)])
    (served : ∀ runId, fresh (alreadySubmitted runId)) :
    (prepareRun s args).Ends (Answers fresh fun _ => True) := by
  unfold prepareRun
  split
  · exact refusal _ (refuses_cons (by decide) (by simp [Dict.keys, refusalFields]))
  refine answers_bind (answers_readTarget s args) fun target _ => ?_
  dsimp only
  split
  · exact invalid _
  refine answers_bind (P := fun _ => True) ?_ fun _ _ => ?_
  · refine answers_bind (answers_send _) fun found _ => ?_
    cases found with
    | none => trivial
    | some runId =>
      dsimp only
      split
      · exact served runId
      · trivial
  refine answers_bind ((answers_chooseAccount s args target).mono fun _ answers => answers.mono refusal) fun _ _ => ?_
  exact answers_bind (answers_readRows args) fun _ _ => trivial

/-! ### The second half -/

theorem fromUpstream_absent {key : String} (added : key ∉ addedKeys)
    (rejected : key ∉ ["error_code", "message", "upstream_status", "upstream_type", "hint"])
    (lost : ∀ lost verify, Dict.get? (transportErrorDict lost verify) key = none) :
    FromUpstream fun reply => Dict.get? reply key = none where
  set {reply other} v absent known := by
    rw [Dict.get?_set_other]
    · exact absent
    · rintro rfl
      exact added known
  rejected rejection := toErrorDict_get_absent rejection rejected
  lost := lost
  unavailable rest known := by
    rw [Dict.get?_cons, if_neg]
    · exact Dict.get?_of_not_mem fun member => added (known member)
    · rintro rfl
      exact rejected (by simp)

variable (upstream : FromUpstream fresh)
include upstream

theorem FromUpstream.update {reply : Fields} (base : fresh reply) {more : Fields}
    (added : Dict.keys more ⊆ addedKeys) : fresh (Dict.update reply more) := by
  induction more generalizing reply with
  | nil => exact base
  | cons entry rest ih =>
    rw [Dict.update_cons]
    apply ih
    · exact upstream.set _ base (added List.mem_cons_self)
    · exact fun key member => added (List.mem_cons_of_mem _ member)

theorem answers_stepFailed (e : Exc) (message : String → String) :
    (stepFailed e message).Ends (Answers fresh fresh) := by
  cases e with
  | api rejection => exact upstream.rejected rejection
  | transport _ => exact upstream.unavailable _ (by simp [Dict.keys, addedKeys])
  | _ => trivial

theorem answers_restoreTasks {squidId : Json} {snapshot : Snapshot} {failure : Fields}
    (base : fresh failure) : (restoreTasks squidId snapshot failure).Ends (Answers fresh fresh) := by
  have report (key : String) (lost tasks message : Json) (added : key ∈ addedKeys) :
      fresh (Dict.set (Dict.set (Dict.set (Dict.set failure "squid_id" squidId) "tasks_lost" lost)
        key tasks) "message" message) := by
    apply upstream.set _ _ (by decide)
    apply upstream.set _ _ added
    apply upstream.set _ _ (by decide)
    exact upstream.set _ base (by decide)
  unfold restoreTasks
  dsimp only
  split
  · apply upstream.set _ _ (by decide)
    apply upstream.set _ _ (by decide)
    exact upstream.set _ base (by decide)
  · exact report _ _ _ _ (by decide)
  · refine answers_bind (answers_request _) fun ans _ => ?_
    rcases ans with e | payload
    · cases e with
      | api _ => exact report _ _ _ _ (by decide)
      | transport _ => exact report _ _ _ _ (by decide)
      | _ => trivial
    · exact report _ _ _ _ (by decide)

/-- A rewrite's failure, if any, is fresh. -/
def FreshFailure (fresh : Fields → Prop) (failure : Option Fields) : Prop :=
  ∀ reply, failure = some reply → fresh reply

theorem answers_replaceSquidInput (squidId : Json) (body taskParams : Fields) (snapshot : Snapshot) :
    (replaceSquidInput squidId body taskParams snapshot).Ends
      (Answers fresh fun r => FreshFailure fresh r.1) := by
  have undone (e : Exc) (message : String → String) : (do
      let failed ← stepFailed e message
      let reply ← restoreTasks squidId snapshot failed
      pure (some reply, 0) : Tool (Option Fields × Nat)).Ends
        (Answers fresh fun r => FreshFailure fresh r.1) := by
    refine answers_bind (answers_stepFailed upstream e message) fun failed base => ?_
    refine answers_bind (answers_restoreTasks upstream base) fun reply base => ?_
    rintro _ ⟨⟩
    exact base
  unfold replaceSquidInput
  refine answers_bind (answers_request _) fun updated _ => ?_
  cases updated with
  | error e =>
    refine answers_bind (P := fresh) ?_ fun reply base => ?_
    · cases e with
      | api rejection =>
        exact upstream.update (upstream.rejected rejection) (by simp [Dict.keys, addedKeys])
      | transport _ => exact upstream.unavailable _ (by simp [Dict.keys, addedKeys])
      | _ => trivial
    · rintro _ ⟨⟩
      exact base
  | ok _ =>
    unfold swapRows
    refine answers_bind (answers_request _) fun emptied _ => ?_
    cases emptied with
    | error e => exact undone e _
    | ok _ =>
      refine answers_bind (answers_request _) fun added _ => ?_
      cases added with
      | error e => exact undone e _
      | ok _ => exact fun reply absurd => by cases absurd

theorem answers_saveSquidInput (squidId : Json) (body taskParams : Fields) :
    (saveSquidInput squidId body taskParams).Ends (Answers fresh (FreshFailure fresh)) := by
  have kept (e : Exc) (message : String → String) (more : Fields → Fields)
      (added : ∀ failed, Dict.keys (more failed) ⊆ addedKeys) : (do
      let failed ← stepFailed e message
      pure (some (Dict.update failed (more failed))) : Tool (Option Fields)).Ends
        (Answers fresh (FreshFailure fresh)) := by
    refine answers_bind (answers_stepFailed upstream e message) fun failed base => ?_
    rintro _ ⟨⟩
    exact upstream.update base (added failed)
  unfold saveSquidInput
  refine answers_bind (answers_request _) fun updated _ => ?_
  cases updated with
  | error e => exact kept e _ _ (by simp [Dict.keys, addedKeys])
  | ok _ =>
    dsimp only
    split
    · exact fun reply absurd => by cases absurd
    · refine answers_bind (answers_request _) fun added _ => ?_
      cases added with
      | error e => exact kept e _ _ (by simp [Dict.keys, addedKeys])
      | ok _ => exact fun reply absurd => by cases absurd

theorem answers_saveInput (plan : RunPlan) (squidId : Json) (existing : Option Nat) :
    (saveInput plan squidId existing).Ends (Answers fresh fun _ => True) := by
  refine answers_bind (answers_saveSquidInput upstream _ _ _) fun failure base => ?_
  cases failure with
  | some failure => exact base failure rfl
  | none =>
    dsimp only
    split <;> trivial

theorem answers_newSquidFailed (squidId scraper : Json) (e : Exc) :
    (newSquidFailed squidId scraper e).Ends (Answers fresh fun _ => True) := by
  cases e with
  | api rejection =>
    refine answers_bind (P := fresh) ?_ fun reply base => base
    refine answers_bind (answers_request _) fun deleted _ => ?_
    cases deleted <;> exact upstream.update (upstream.rejected rejection) (by simp [Dict.keys, addedKeys])
  | transport lost => exact upstream.update (upstream.lost lost _) (by simp [Dict.keys, addedKeys])
  | _ => trivial

/-- A row joins others only past the two refusals. -/
theorem answers_addInput (plan : RunPlan) (squidId : Json)
    (refusal : plan.taskParams ≠ [] → plan.snapshot.rows = none ∨ plan.snapshot.totalSeen ≠ 0 →
      fresh (tasksUnreadable squidId plan.target.scraper) ∧
        fresh (refuseToTouchSavedTasks squidId plan.target.scraper plan.taskParams plan.snapshot.totalSeen)) :
    (addInput plan squidId).Ends (Answers fresh fun _ => True) := by
  unfold addInput
  split
  · rename_i unread
    split
    · rename_i row
      exact (refusal (by simpa using row) (.inl unread)).1
    · exact answers_saveInput upstream plan squidId _
  · split
    · rename_i row
      simp only [Bool.and_eq_true, decide_eq_true_eq] at row
      exact (refusal (by simpa using row.1) (.inr row.2)).2
    · exact answers_saveInput upstream plan squidId _

/-- The writes end with a fresh failure, if a row is not refused in front of the saved ones. -/
theorem answers_writeInput (plan : RunPlan)
    (refusal : plan.args.reuse = true → plan.input ≠ [] → plan.args.replaceTasks = false →
      ∀ squidId, (addInput plan squidId).Ends (Answers fresh fun _ => True)) :
    (writeInput plan).Ends (Answers fresh fun _ => True) := by
  unfold writeInput
  split
  · rename_i reuse
    unfold writeReused
    refine answers_bind (answers_item _ _) fun squidId _ => ?_
    split
    · refine answers_bind (P := fun _ => True) ?_ fun _ _ => trivial
      unfold saveAccounts
      split
      · trivial
      · exact answers_bind (answers_send _) fun _ _ => trivial
    rename_i given
    split
    · refine answers_bind (answers_replaceSquidInput upstream _ _ _ _) ?_
      rintro ⟨failure, replaced⟩ base
      cases failure with
      | some failure => exact base failure rfl
      | none => trivial
    · rename_i keep
      exact refusal reuse (by simpa using given) (by simpa using keep) squidId
  · unfold writeNew
    refine answers_bind (answers_send _) fun squid _ => ?_
    refine answers_bind (answers_item _ _) fun squidId _ => ?_
    refine answers_bind (answers_request _) fun updated _ => ?_
    cases updated with
    | error e => exact answers_newSquidFailed upstream _ _ e
    | ok _ =>
      refine answers_bind (answers_request _) fun added _ => ?_
      cases added with
      | error e => exact answers_newSquidFailed upstream _ _ e
      | ok _ => trivial

theorem answers_startFailed (plan : RunPlan) (funds : Funds) (w : Written) (e : Exc) :
    (startFailed plan funds w e).Ends (Answers fresh fresh) := by
  refine answers_bind (P := fresh) ?_ fun failed base => ?_
  · cases e with
    | api rejection => exact upstream.rejected rejection
    | transport lost => exact upstream.lost lost _
    | _ => trivial
  · have facts : fresh (Dict.update failed (runFacts plan w)) :=
      upstream.update base (by simp [runFacts, Dict.keys, addedKeys])
    have restored {reply : Fields} (base : fresh reply) :
        (if w.action = .replaced then restoreTasks w.squidId plan.snapshot reply else pure reply : Tool Fields).Ends
          (Answers fresh fresh) := by
      split
      · exact answers_restoreTasks upstream base
      · exact base
    cases funds.remaining with
    | some left => exact restored (upstream.set _ facts (by decide))
    | none => exact restored facts

theorem answers_afterStart (plan : RunPlan) (funds : Funds) (w : Written) (started : Except Exc Fields)
    (report : ∀ run runId, fresh (runReport plan funds w run runId)) :
    (afterStart plan funds w started).Ends (Answers fresh fresh) := by
  cases started with
  | error e => exact answers_startFailed upstream plan funds w e
  | ok run =>
    refine answers_bind (answers_item _ _) fun runId _ => ?_
    exact answers_bind (answers_send _) fun _ _ => report run runId

theorem answers_settle {verify : Option String} {outcome : Except Exit Fields} {reply : Fields}
    (answers : Answers fresh fresh outcome) (settled : settle verify outcome = .ok reply) : fresh reply := by
  rcases outcome with (e | returned) | value
  · cases e with
    | api rejection =>
      cases settled
      exact upstream.rejected rejection
    | transport lost =>
      cases settled
      exact upstream.lost lost verify
    | _ => cases settled
  · cases settled
    exact answers
  · cases settled
    exact answers

end Answers
end LobstrMcp
