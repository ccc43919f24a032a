import LobstrMcp.Tools.RetryPhases

/-!
What `run_scraper` says of a failure. It makes several writes in a row, and two of its replies are made
of the last failure alone: that of a write on the squid it created, and that of the start of the run.
-/

namespace LobstrMcp
open Interaction Tool

/-! ### A failure, put to the caller -/

section Failures
variable {squidId scraper : Json} {snapshot : Snapshot} {failure : Fields}

/-- What a step says of its own failure is not that a retry is safe. -/
theorem ends_stepFailed (e : Exc) (message : String → String) :
    (stepFailed e message).Ends (Unpromising Silent) := by
  cases e with
  | api rejection => exact silent_toErrorDict rejection
  | transport failure =>
    show Silent _
    simp [Silent, CallsRetrySafe]
  | _ => trivial

/-- Putting the rows back says nothing of its own about retrying. -/
theorem ends_restoreTasks (silent : Silent failure) :
    (restoreTasks squidId snapshot failure).Ends (Unpromising Silent) := by
  have told (key : String) (lost tasks message : Json) (other : key ≠ "retry_safe") :
      Silent (Dict.set (Dict.set (Dict.set (Dict.set failure "squid_id" squidId) "tasks_lost" lost) key tasks)
        "message" message) :=
    silent_set _ (by decide) (silent_set _ other (silent_set _ (by decide) (silent_set _ (by decide) silent)))
  unfold restoreTasks
  dsimp only
  split
  · exact silent_set _ (by decide) (silent_set _ (by decide) (silent_set _ (by decide) silent))
  · exact told _ _ _ _ (by decide)
  · intro ans
    cases ans with
    | ok _ => exact told _ _ _ _ (by decide)
    | error e =>
      cases e with
      | api _ => exact told _ _ _ _ (by decide)
      | transport _ => exact told _ _ _ _ (by decide)
      | _ => trivial

/-- A slip is repeated when the rows are put back. -/
theorem follows_restoreTasks (safe : CallsRetrySafe failure) : (restoreTasks squidId snapshot failure).Follows writeNext
    (bodyRetryEnds True runScraperVerify) .slipped := by
  have told (reply : Fields) (kept : CallsRetrySafe reply) :
      bodyRetryEnds True runScraperVerify .slipped (.ok reply) := iff_true_intro ⟨reply, rfl, kept⟩
  have fourth (key : String) (lost tasks message : Json) (other : key ≠ "retry_safe") :
      CallsRetrySafe (Dict.set (Dict.set (Dict.set (Dict.set failure "squid_id" squidId) "tasks_lost" lost) key tasks)
        "message" message) := by
    rw [callsRetrySafe_set _ (by decide), callsRetrySafe_set _ other, callsRetrySafe_set _ (by decide),
      callsRetrySafe_set _ (by decide)]
    exact safe
  unfold restoreTasks
  dsimp only
  split
  · refine told _ ?_
    rw [callsRetrySafe_set _ (by decide), callsRetrySafe_set _ (by decide), callsRetrySafe_set _ (by decide)]
    exact safe
  · exact told _ (fourth _ _ _ _ (by decide))
  · exact follows_write_bind rfl (fun _ => trivial) (fun _ => told _ (fourth _ _ _ _ (by decide)))
      (fun _ => told _ (fourth _ _ _ _ (by decide))) (fun _ _ => told _ (fourth _ _ _ _ (by decide)))
      fun _ _ => told _ (fourth _ _ _ _ (by decide))

end Failures

/-! ### The writes before the start -/

section Writes
variable {plan : RunPlan} {squidId scraper : Json}

/-- What was not written leaves the squid as it is. -/
def writeEnds (q : WritePhase) (r : Except Exit Written) : Prop :=
  match r with
  | .ok w => (q = .fresh ∧ w.action = .unchanged) ∨ q = .got ∨ q = .created ∨ q = .off
  | .error e => bodyRetryEnds True runScraperVerify q (.error e)

theorem writeEnds_off (r : Except Exit Written) : writeEnds .off r := by
  cases r with
  | ok w => exact .inr (.inr (.inr rfl))
  | error e => trivial

theorem follows_failed {p : Tool Written} (ends : p.Ends (Unpromising fun _ => False)) :
    p.Follows writeNext writeEnds .unsure := by
  refine follows_unsure writeEnds_off (ends.mono fun r unpromising => ?_)
  cases r with
  | ok w => exact unpromising.elim
  | error e => exact bodyRetryEnds_unsure unpromising

theorem follows_saveAccounts (accounts : List Json) (count : Option Nat) :
    (saveAccounts accounts squidId >>= fun _ =>
      pure { squidId, action := .unchanged, taskCount := count } : Tool Written).Follows writeNext writeEnds
      .fresh := by
  unfold saveAccounts
  split
  · exact .inl ⟨rfl, rfl⟩
  · rw [Program.bind_assoc]
    exact follows_first_bind rfl writeEnds_off (fun _ => .inr (.inl rfl)) (fun _ => trivial)
      fun _ sent => bodyRetryEnds_unsure sent

theorem follows_saveInput (existing : Option Nat) :
    (saveInput plan squidId existing).Follows writeNext writeEnds .fresh := by
  unfold saveInput saveSquidInput
  dsimp only
  rw [Program.bind_assoc]
  refine follows_write_bind rfl writeEnds_off (fun _ => ?_) (fun _ => trivial) (fun _ _ => trivial) fun _ _ => ?_
  · dsimp only
    by_cases empty : plan.taskParams.isEmpty = true
    · rw [if_pos empty]
      show Program.Follows _ _ _ (if plan.taskParams.isEmpty = true then _ else _)
      rw [if_pos empty]
      exact .inr (.inl rfl)
    · rw [if_neg empty, Program.bind_assoc]
      refine follows_write_bind rfl writeEnds_off (fun _ => ?_) (fun rejection => ?_) (fun _ _ => ?_) fun _ _ => ?_
      · show Program.Follows _ _ _ (if plan.taskParams.isEmpty = true then _ else _)
        rw [if_neg empty]
        exact .inr (.inl rfl)
      · exact follows_failed (silent_update _ (by simp [Dict.keys]) (silent_toErrorDict rejection))
      · exact follows_failed (silent_update _ (by simp [Dict.keys]) (by simp [Silent, CallsRetrySafe]))
      · exact follows_failed (silent_update _ (by simp [Dict.keys]) (by simp [Silent, CallsRetrySafe]))
  · exact follows_failed (silent_update _ (by simp [Dict.keys]) (by simp [Silent, CallsRetrySafe]))

theorem follows_addInput : (addInput plan squidId).Follows writeNext writeEnds .fresh := by
  unfold addInput
  split
  · split
    · trivial
    · exact follows_saveInput _
  · split
    · trivial
    · exact follows_saveInput _

theorem follows_replaceInput : (replaceInput plan squidId).Follows writeNext writeEnds .fresh := by
  -- a step that fails after the save is told of, with what became of the rows
  have undone (e : Exc) (message : String → String) (next : Option Fields × Nat → Tool Written)
      (returns : ∀ reply n, next (some reply, n) = returned reply) : ((do
      let failed ← stepFailed e message
      let reply ← restoreTasks squidId plan.snapshot failed
      pure (some reply, 0) : Tool (Option Fields × Nat)) >>= next).Follows writeNext writeEnds .unsure := by
    have told : (do
        let failed ← stepFailed e message
        let reply ← restoreTasks squidId plan.snapshot failed
        pure (some reply, 0) : Tool (Option Fields × Nat)).Ends
          (Unpromising fun r => ∃ reply, r = (some reply, 0) ∧ Silent reply) :=
      unpromising_bind (ends_stepFailed e message) fun failed silent =>
        unpromising_bind (ends_restoreTasks silent) fun reply told => ⟨reply, rfl, told⟩
    refine follows_failed (unpromising_bind told ?_)
    rintro _ ⟨reply, rfl, silent⟩
    rw [returns]
    exact silent
  unfold replaceInput replaceSquidInput
  rw [Program.bind_assoc]
  refine follows_write_bind rfl writeEnds_off (fun _ => ?_) (fun _ => trivial) (fun _ _ => trivial) fun _ _ => ?_
  · dsimp only
    unfold swapRows
    rw [Program.bind_assoc]
    refine follows_write_bind rfl writeEnds_off (fun _ => ?_) (fun _ => undone _ _ _ fun _ _ => rfl)
      (fun _ _ => undone _ _ _ fun _ _ => rfl) fun _ _ => undone _ _ _ fun _ _ => rfl
    dsimp only
    rw [Program.bind_assoc]
    exact follows_write_bind rfl writeEnds_off (fun _ => .inr (.inl rfl)) (fun _ => undone _ _ _ fun _ _ => rfl)
      (fun _ _ => undone _ _ _ fun _ _ => rfl) fun _ _ => undone _ _ _ fun _ _ => rfl
  · refine follows_failed (?_ : Silent _)
    simp [Silent, CallsRetrySafe]

theorem follows_writeReused : (writeReused plan).Follows writeNext writeEnds .fresh := by
  unfold writeReused
  refine follows_reads_bind (uses_item _ _) writeEnds_off (fun _ => trivial) fun squidId => ?_
  split
  · exact follows_saveAccounts _ _
  split
  · exact follows_replaceInput
  · exact follows_addInput

/-- A failed write on a new squid: where it was sent, or rejected, no retry is called safe. -/
theorem ends_newSquidFailed (e : Exc) (sent : ∀ failure, e = .transport failure → failure.kind.neverSent = false) :
    (newSquidFailed squidId scraper e).Ends (Unpromising fun _ => False) := by
  cases e with
  | api rejection =>
    have told : (newSquidWriteFailed squidId scraper (toErrorDict rejection)).Ends (Unpromising Silent) := by
      intro deleted
      cases deleted with
      | ok _ => exact silent_update _ (by simp [Dict.keys]) (silent_toErrorDict rejection)
      | error _ => exact silent_update _ (by simp [Dict.keys]) (silent_toErrorDict rejection)
    exact unpromising_bind told fun reply silent => silent
  | transport failure =>
    refine silent_update _ (by simp [Dict.keys]) fun safe => ?_
    rw [callsRetrySafe_transport, sent failure rfl] at safe
    cases safe
  | _ => trivial

/-- Where it was never sent, one is. -/
theorem newSquidFailed_slips {failure : TransportError} (unsent : failure.kind.neverSent = true) :
    (newSquidFailed squidId scraper (.transport failure)).Follows writeNext writeEnds .slipped := by
  refine iff_true_intro ⟨_, rfl, ?_⟩
  rw [callsRetrySafe_update (by simp [Dict.keys]), callsRetrySafe_transport]
  exact unsent

theorem follows_writeNew : (writeNew plan).Follows writeNext writeEnds .fresh := by
  have failed (e : Exc) (sent : ∀ failure, e = .transport failure → failure.kind.neverSent = false) (id : Json) :
      (newSquidFailed id plan.target.scraper e).Follows writeNext writeEnds .unsure :=
    follows_failed (ends_newSquidFailed e sent)
  unfold writeNew
  refine follows_first_bind rfl writeEnds_off (fun squid => ?_) (fun _ => trivial)
    fun _ sent => bodyRetryEnds_unsure sent
  unfold item
  cases Dict.get? squid "id" with
  | none => exact not_promises_of_unpromising trivial
  | some id =>
    refine follows_write_bind rfl writeEnds_off (fun _ => ?_) (fun _ => failed _ (fun _ absurd => by cases absurd) _)
      (fun _ unsent => newSquidFailed_slips unsent) fun _ sent => failed _ (by rintro _ ⟨⟩; exact sent) _
    exact follows_write_bind rfl writeEnds_off (fun _ => .inr (.inr (.inl rfl)))
      (fun _ => failed _ (fun _ absurd => by cases absurd) _) (fun _ unsent => newSquidFailed_slips unsent)
      fun _ sent => failed _ (by rintro _ ⟨⟩; exact sent) _

theorem follows_writeInput : (writeInput plan).Follows writeNext writeEnds .fresh := by
  unfold writeInput
  split
  · exact follows_writeReused
  · exact follows_writeNew

end Writes

/-! ### The start of the run -/

section Start
variable {plan : RunPlan} {funds : Funds} {w : Written}

/-- What is told of a start that failed: the failure, and facts that are not about retrying. -/
def startFacts (plan : RunPlan) (funds : Funds) (w : Written) (failed : Fields) : Fields :=
  match funds.remaining with
  | some left => Dict.set (Dict.update failed (runFacts plan w)) "remaining" left
  | none => Dict.update failed (runFacts plan w)

theorem callsRetrySafe_startFacts {failed : Fields} :
    CallsRetrySafe (startFacts plan funds w failed) ↔ CallsRetrySafe failed := by
  have facts : CallsRetrySafe (Dict.update failed (runFacts plan w)) ↔ CallsRetrySafe failed :=
    callsRetrySafe_update (by simp [runFacts, Dict.keys])
  unfold startFacts
  split
  · rw [callsRetrySafe_set _ (by decide), facts]
  · exact facts

theorem ends_startFailed (e : Exc) (sent : ∀ failure, e = .transport failure → failure.kind.neverSent = false) :
    (startFailed plan funds w e).Ends (Unpromising Silent) := by
  have told (failed : Fields) (silent : Silent failed) : (if w.action = .replaced
      then restoreTasks w.squidId plan.snapshot (startFacts plan funds w failed)
      else pure (startFacts plan funds w failed) : Tool Fields).Ends (Unpromising Silent) := by
    have facts : Silent (startFacts plan funds w failed) := fun safe => silent (callsRetrySafe_startFacts.mp safe)
    split
    · exact ends_restoreTasks facts
    · exact facts
  cases e with
  | api rejection => exact told _ (silent_toErrorDict rejection)
  | transport failure =>
    refine told (transportErrorDict failure (some "list_runs(squid_id=...)")) fun safe => ?_
    rw [callsRetrySafe_transport, sent failure rfl] at safe
    cases safe
  | _ => trivial

theorem startFailed_slips {failure : TransportError} (unsent : failure.kind.neverSent = true) :
    (startFailed plan funds w (.transport failure)).Follows writeNext (bodyRetryEnds True runScraperVerify)
      .slipped := by
  have facts : CallsRetrySafe (startFacts plan funds w (transportErrorDict failure (some "list_runs(squid_id=...)"))) :=
    callsRetrySafe_startFacts.mpr (callsRetrySafe_transport.mpr unsent)
  show Program.Follows _ _ _ (if w.action = .replaced then _ else _)
  split
  · exact follows_restoreTasks facts
  · exact iff_true_intro ⟨_, rfl, facts⟩

/-- The run has started, and its report is not about retrying. -/
theorem follows_report {q : WritePhase} (wrote : q = .got ∨ q = .created) (run : Fields) :
    (afterStart plan funds w (.ok run)).Follows writeNext (bodyRetryEnds True runScraperVerify) q := by
  have silent (outcome : Except Exit Fields) (unpromising : Unpromising Silent outcome) :
      bodyRetryEnds True runScraperVerify q outcome := by
    rcases wrote with rfl | rfl
    · exact not_promises_of_unpromising unpromising
    · exact not_promises_of_unpromising unpromising
  unfold afterStart item
  dsimp only
  cases Dict.get? run "id" with
  | none => exact silent _ trivial
  | some runId =>
    intro stored
    refine ⟨_, rfl, ?_⟩
    cases stored with
    | ok _ =>
      refine silent _ (?_ : ¬ Dict.get? _ _ = _)
      rw [runReport_get? _ _ _ _ _ (by decide)]
      simp [startedFacts]
    | error e =>
      cases e with
      | api _ => trivial
      | transport _ => trivial
      | _ => exact silent _ trivial

theorem follows_startAndReport {q : WritePhase}
    (ready : (q = .fresh ∧ w.action = .unchanged) ∨ q = .got ∨ q = .created) :
    (startAndReport plan funds w).Follows writeNext (bodyRetryEnds True runScraperVerify) q := by
  have failed (e : Exc) (sent : ∀ failure, e = .transport failure → failure.kind.neverSent = false) :
      (startFailed plan funds w e).Follows writeNext (bodyRetryEnds True runScraperVerify) .unsure :=
    follows_unsure (fun _ => trivial) ((ends_startFailed e sent).mono fun _ => bodyRetryEnds_unsure)
  have rejected (rejection : ApiError) := failed (.api rejection) fun _ absurd => by cases absurd
  have lost (failure : TransportError) (sent : failure.kind.neverSent = false) :=
    failed (.transport failure) (by rintro _ ⟨⟩; exact sent)
  unfold startAndReport
  rcases ready with ⟨rfl, unchanged⟩ | rfl | rfl
  · -- nothing was replaced: nothing is put back
    have missed (e : Exc) :
        (startFailed plan funds w e).Follows writeNext (bodyRetryEnds True runScraperVerify) .missed := by
      have kept : ¬ w.action = .replaced := by
        rw [unchanged]
        exact fun absurd => by cases absurd
      unfold startFailed
      simp only [if_neg kept]
      cases e <;> trivial
    exact follows_write_bind rfl (fun _ => trivial) (follows_report (.inl rfl))
      (fun rejection => missed (.api rejection)) (fun failure _ => missed (.transport failure)) lost
  · exact follows_write_bind rfl (fun _ => trivial) (follows_report (.inl rfl)) rejected
      (fun _ unsent => startFailed_slips unsent) lost
  · exact follows_write_bind rfl (fun _ => trivial) (follows_report (.inr rfl)) rejected
      (fun _ unsent => startFailed_slips unsent) lost

theorem runScraperImpl_retry_follows (s : Session) (args : RunArgs) :
    (runScraperImpl s args).Follows writeNext (retryEnds True) .fresh := by
  refine follows_structured ?_
  refine follows_reading ((uses_prepareRun s args).mono fun _ reads => reads.1) fun plan => ?_
  unfold commitRun
  split
  · trivial
  refine follows_reading ((uses_readFunds plan).mono fun _ fetches => fetches.1) fun funds => ?_
  refine Program.follows_bind.mpr (follows_writeInput.mono fun q r ends => ?_)
  cases r with
  | error e => exact ends
  | ok w =>
    rcases ends with unwritten | rfl | rfl | rfl
    · exact follows_startAndReport (.inl unwritten)
    · exact follows_startAndReport (.inr (.inl rfl))
    · exact follows_startAndReport (.inr (.inr rfl))
    · exact follows_off (fun _ => trivial) _

end Start

end LobstrMcp
