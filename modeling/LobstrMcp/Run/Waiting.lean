import LobstrMcp.Model.RunStatus

/-!
How long `wait_for_run` waits, and what it says then: whatever the polls answer and however fast the
clock runs, the loop is over after so many polls and never sleeps past its deadline.
-/

namespace LobstrMcp
open Interaction Polling

section Wait
variable {σ : Type} {m : Machine Polling (Polling.Ans Exc Fields) σ} {now : σ → Rat} {st : σ} {runId : String}
  {timeout : Rat} {rounds : Nat} {out : Fields}

theorem clampTimeout_le (timeout : Rat) : clampTimeout timeout ≤ 50 := by
  unfold clampTimeout waitMaxTimeoutSeconds
  exact max_le (by norm_num) (min_le_right _ _)

/-- A settled answer is the reply. -/
theorem waitReply_settled (settled : waitSettled out = true) : waitReply runId timeout out = out := by
  unfold waitReply
  unfold waitSettled at settled
  split
  · rfl
  · split
    · rfl
    · simp_all

/-- Any other says that the run goes on, and is that answer for the rest. -/
theorem waitReply_waiting (waiting : waitSettled out = false) :
    Fields.get (waitReply runId timeout out) "status" = .str "still_running" ∧
      Fields.get (waitReply runId timeout out) "timed_out" = .bool true ∧
      ∀ key, key ∉ ["status", "timed_out", "message"] →
        Dict.get? (waitReply runId timeout out) key = Dict.get? out key := by
  obtain ⟨notDone, noError⟩ := Bool.or_eq_false_iff.mp waiting
  unfold waitReply
  rw [if_neg (by simp [noError]), if_neg (by simp [notDone])]
  refine ⟨by simp, by simp, fun key other => ?_⟩
  simp only [List.mem_cons, List.not_mem_nil, or_false, not_or] at other
  simp [Ne.symm other.1, Ne.symm other.2.1, Ne.symm other.2.2]

/-- The deadline of a wait that starts in a state. -/
def waitDeadline (m : Machine Polling (Polling.Ans Exc Fields) σ) (st : σ) (timeout : Rat) : Rat :=
  (m st .now).1 + clampTimeout timeout

/-- The last look decides the outcome. -/
def outcomeOf (runId : String) (timeout : Rat) : Except Exc Fields → Except Exc (Option Fields)
  | .ok out => .ok (some (waitReply runId (clampTimeout timeout) out))
  | .error e => (settle none (.error (.raised e))).map some

theorem settleWait_last (last : Except Exc Fields) :
    settleWait (((last.mapError Exit.raised).map some).map (Option.map (waitReply runId (clampTimeout timeout)))) =
      outcomeOf runId timeout last := by
  cases last <;> rfl

theorem run_waitForRunImpl (rounds : Nat) (runId : String) (timeout : Rat) (st : σ) :
    ((waitForRunImpl rounds runId timeout).run m st).1 = settleWait ((waitForRun rounds runId timeout).run m st).1 := by
  unfold waitForRunImpl
  rw [Program.run_bind_ok (Program.run_attempt _ _), Program.run_ofExcept]

theorem trace_waitForRunImpl (rounds : Nat) (runId : String) (timeout : Rat) (st : σ) :
    (waitForRunImpl rounds runId timeout).trace m st = (waitForRun rounds runId timeout).trace m st := by
  unfold waitForRunImpl
  rw [Program.trace_bind_ok (Program.run_attempt _ _), Program.trace_attempt, Program.trace_ofExcept,
    List.append_nil]

/-- One look comes first, then the loop. -/
theorem halts_waitForRun (clock : Clock m now) (enough : 25 < rounds) (st : σ) (runId : String) (timeout : Rat) :
    ∃ first rest,
      (waitForRun rounds runId timeout).trace m st =
        ⟨st, .now, (m st .now).1⟩ :: ⟨(m st .now).2, .poll, first⟩ :: rest ∧
      (looks rest).length ≤ 25 ∧ SleepsWithin (waitDeadline m st timeout) none rest ∧
      ((waitForRunImpl rounds runId timeout).run m st).1 =
        outcomeOf runId timeout ((looks rest).getLast?.getD first) ∧
      ∀ out, (looks rest).getLast?.getD first = .ok out →
        waitSettled out = true ∨ RanOut (waitDeadline m st timeout) rest := by
  rw [run_waitForRunImpl]
  unfold waitForRun look
  dsimp only
  rw [Program.run_ask_bind, Program.trace_ask_bind, ← waitDeadline, Program.bind_assoc, Program.run_ask_bind,
    Program.trace_ask_bind]
  cases first : (m (m st .now).2 .poll).1 with
  | error e => exact ⟨_, [], rfl, Nat.zero_le _, trivial, rfl, fun _ absurd => by cases absurd⟩
  | ok out =>
    have left : waitDeadline m st timeout - now (m (m st .now).2 .poll).2 ≤ (25 : Nat) * waitPollIntervalSeconds := by
      have read := (clock.reads st).2
      have looked := clock.forward (m st .now).2 .poll
      have clamped := clampTimeout_le timeout
      unfold waitDeadline waitPollIntervalSeconds
      push_cast
      linarith
    have halts : Halts Exit.raised waitSettled (waitDeadline m st timeout) 25 out _ _ :=
      halts_pollUntil clock (by unfold waitPollIntervalSeconds; norm_num) left enough
    refine ⟨_, _, congrArg (fun tail => _ :: _ :: tail) (Program.trace_map _ _ _), halts.few, halts.timely, ?_,
      fun seen last => ?_⟩
    · refine (congrArg settleWait ((Program.run_map _ _ _).trans (congrArg _ halts.last))).trans ?_
      exact settleWait_last _
    · refine halts.honest seen ?_
      rw [halts.last, last]
      rfl

end Wait

/-- However long it is asked to wait, whatever the polls answer and however fast the clock runs, the
loop ends after 26 polls at most, never sleeping past its deadline; the reply is the last poll's answer,
changed only to say that the run goes on, and only once the time is up. -/
theorem wait_for_run_halts {σ : Type} {m : Machine Polling (Polling.Ans Exc Fields) σ} {now : σ → Rat}
    (clock : Clock m now) (st : σ) (runId : String) (timeout : Rat) {rounds : Nat} (enough : 25 < rounds) :
    ∃ tr last, (waitForRunImpl rounds runId timeout).trace m st = tr ∧ (looks tr).length ≤ 26 ∧
      SleepsWithin (waitDeadline m st timeout) none tr ∧ (looks tr).getLast? = some last ∧
      (∀ e, last = .error e →
        ((waitForRunImpl rounds runId timeout).run m st).1 = (settle none (.error (.raised e))).map some) ∧
      ∀ out, last = .ok out → ∃ reply, ((waitForRunImpl rounds runId timeout).run m st).1 = .ok (some reply) ∧
        (waitSettled out = true → reply = out) ∧
        (waitSettled out = false → RanOut (waitDeadline m st timeout) tr ∧
          Fields.get reply "status" = .str "still_running" ∧ Fields.get reply "timed_out" = .bool true ∧
          ∀ key, key ∉ ["status", "timed_out", "message"] → Dict.get? reply key = Dict.get? out key) := by
  obtain ⟨first, rest, traced, few, timely, ended, honest⟩ :=
    halts_waitForRun clock enough st runId timeout
  rw [trace_waitForRunImpl, traced]
  refine ⟨_, (looks rest).getLast?.getD first, rfl, Nat.succ_le_succ few, timely, ?_, fun e last => ?_,
    fun out last => ?_⟩
  · simp [looks, List.getLast?_cons]
  · rw [ended, last]
    rfl
  · refine ⟨waitReply runId (clampTimeout timeout) out, by rw [ended, last]; rfl, waitReply_settled, fun waiting => ?_⟩
    obtain settled | ⟨late, reading, passed, read⟩ := honest out last
    · rw [settled] at waiting
      cases waiting
    · exact ⟨⟨late, reading, passed, List.mem_cons_of_mem _ (List.mem_cons_of_mem _ read)⟩, waitReply_waiting waiting⟩

/-- A run that is never done, by a clock that only sleeps move. -/
def neverDone : Machine Polling (Polling.Ans Exc Fields) Rat
  | time, .poll => (.ok [("status", .str "running"), ("is_done", .bool false)], time)
  | time, .now => (time, time)
  | time, .sleep seconds => ((), time + max seconds 0)

theorem clock_neverDone : Clock neverDone id where
  forward time op := by
    cases op with
    | poll => exact le_refl _
    | now => exact le_refl _
    | sleep seconds => exact le_add_of_nonneg_right (le_max_right _ _)
  reads time := ⟨le_refl _, le_refl _⟩
  sleeps time seconds := add_le_add_right (le_max_left _ _) _

theorem never_done_times_out :
    (looks ((waitForRunImpl 26 "run" 999).trace neverDone 0)).length ≤ 26 := by
  obtain ⟨tr, last, same, few, -⟩ := wait_for_run_halts clock_neverDone 0 "run" 999 (by decide : 25 < 26)
  rw [same]
  exact few

example : (looks ((waitForRunImpl 26 "run" 999).trace neverDone 0)).length = 26 := by decide +kernel

example : ((waitForRunImpl 26 "run" 5).run neverDone 0).2 = 5 := by decide +kernel

end LobstrMcp
