import LobstrMcp.Interaction.Protocol
import LobstrMcp.Run.Replies

/-!
How a call treats its idempotency key: look it up once, answer at once when it has a run, else
start at most one run and store its id at once. Every `run_scraper` call keeps to this, whatever
the API and the store answer; the orders of several calls are then a matter of the protocol.
-/

namespace LobstrMcp
open Interaction Tool

/-- Where a call is with its key. -/
inductive RunPhase where
  /-- The key was not looked up yet. -/
  | waiting
  /-- The key had no run; one may be started. -/
  | working (key : String) (ttl : Option Int)
  /-- A run was started, and its id is not stored yet. -/
  | storing (key : String) (ttl : Option Int) (runId : Json)
  /-- Nothing is left to do with the key. -/
  | closed
  /-- The key had this run. -/
  | served (runId : Json)

/-- A phase in which other requests are made. -/
def RunPhase.Idle : RunPhase → Prop
  | .storing _ _ _ | .served _ => False
  | _ => True

theorem RunPhase.Idle.waiting : RunPhase.waiting.Idle := trivial

theorem RunPhase.Idle.working (key : String) (ttl : Option Int) : (RunPhase.working key ttl).Idle := trivial

theorem RunPhase.Idle.closed : RunPhase.closed.Idle := trivial

/-- The keys a call can come to. -/
def entriesOf (s : Session) (args : RunArgs) (key : String) (ttl : Option Int) : Prop :=
  ∃ scraper input, idempotencyEntry s args scraper input = (key, ttl)

theorem entriesOf_entry (s : Session) (args : RunArgs) (scraper : Json) (input : Fields) :
    entriesOf s args (idempotencyEntry s args scraper input).1 (idempotencyEntry s args scraper input).2 :=
  ⟨scraper, input, rfl⟩

/-- The run a look-up answers with; an id that is not truthy is none. -/
def foundRun (found : Option Json) : Option Json := found.filter Json.truthy

/-- Where the answer to a start leads. -/
def afterStartPhase (key : String) (ttl : Option Int) (started : Except Exc Fields) : RunPhase :=
  match started with
  | .error _ => .closed
  | .ok run =>
    match Dict.get? run "id" with
    | some runId => .storing key ttl runId
    | none => .closed

/-- The protocol of a call that may come to `keys`. -/
def runNext (keys : String → Option Int → Prop) (q : RunPhase) (c : Call) (ans : Answer c)
    (q' : RunPhase) : Prop :=
  match c, ans with
  | .idemGet key, .ok found => q = .waiting ∧ ∃ ttl, keys key ttl ∧
      q' = match foundRun found with
        | some runId => .served runId
        | none => .working key ttl
  | .idemGet _, .error _ => q = .waiting ∧ q' = .closed
  | .startRun _, ans => ∃ key ttl, q = .working key ttl ∧ q' = afterStartPhase key ttl ans
  | .idemPut key runId ttl, _ => q = .storing key ttl runId ∧ q' = .closed
  | _, _ => q.Idle ∧ q' = q

theorem runNext_quiet_iff {keys : String → Option Int → Prop} {q q' : RunPhase} {c : Call} (quiet : c.Quiet)
    {ans : Answer c} : runNext keys q c ans q' ↔ q.Idle ∧ q' = q := by
  cases c <;> first | exact quiet.elim | exact Iff.rfl

theorem runNext_quiet {keys : String → Option Int → Prop} {q : RunPhase} (idle : q.Idle) {c : Call}
    (quiet : c.Quiet) (ans : Answer c) : runNext keys q c ans q :=
  (runNext_quiet_iff quiet).mpr ⟨idle, rfl⟩

/-- A reply that does not come from the store. -/
def Unserved (reply : Fields) : Prop := Dict.get? reply "idempotent" = none

theorem Unserved.ne {reply : Fields} (unserved : Unserved reply) (runId : Json) :
    reply ≠ alreadySubmitted runId := by
  rintro rfl
  cases unserved

/-- What a call answers in the phase it ends in: the run it was served, and only then. -/
def runEnds (q : RunPhase) (r : Except Exc Fields) : Prop :=
  match q with
  | .served runId => r = .ok (alreadySubmitted runId)
  | .storing _ _ _ => False
  | _ => ∀ reply, r = .ok reply → Unserved reply

/-! ### Replies that do not come from the store -/

/-- An outcome of a part of a call: it has not answered from the store, and a value meets `P`. -/
def Clean {α : Type} (P : α → Prop) (r : Except Exit α) : Prop :=
  match r with
  | .ok a => P a
  | .error (.returned reply) => Unserved reply
  | .error (.raised _) => True

/-- A part that has not answered, whatever it comes to. -/
abbrev Unanswered {α : Type} (r : Except Exit α) : Prop := Clean (fun _ => True) r

section Clean
variable {α β : Type}

theorem clean_bind {P : α → Prop} {Q : β → Prop} {p : Tool α} {f : α → Tool β}
    (first : p.Ends (Clean P)) (rest : ∀ a, P a → (f a).Ends (Clean Q)) : (p >>= f).Ends (Clean Q) := by
  refine Program.ends_bind.mpr (first.mono fun r clean => ?_)
  rcases r with (_ | _) | a
  · exact clean
  · exact clean
  · exact rest a clean

theorem clean_request (c : Call) : (request c).Ends Unanswered := fun _ => trivial

theorem clean_send (c : Call) : (send c).Ends Unanswered := by
  refine clean_bind (clean_request c) fun ans _ => ?_
  cases ans <;> trivial

theorem clean_of_answers {P : α → Prop} {r : Except Exit α} (answers : Answers Unserved P r) : Clean P r := by
  rcases r with (_ | _) | _ <;> exact answers

/-! The first half. -/

theorem clean_readTarget (s : Session) (args : RunArgs) : (readTarget s args).Ends Unanswered :=
  (answers_readTarget s args).mono fun _ => clean_of_answers

theorem clean_readRows (args : RunArgs) : (readRows args).Ends Unanswered :=
  (answers_readRows args).mono fun _ => clean_of_answers

theorem clean_chooseAccount (s : Session) (args : RunArgs) (target : Target) :
    (chooseAccount s args target).Ends Unanswered :=
  (answers_chooseAccount s args target).mono fun _ answers =>
    clean_of_answers (answers.mono fun _ refuses => refuses.absent (by decide))

/-! The second half. -/

theorem unserved_fromUpstream : FromUpstream Unserved :=
  fromUpstream_absent (by decide) (by decide) fun _ _ => rfl

theorem clean_writeInput (plan : RunPlan) : (writeInput plan).Ends Unanswered := by
  refine (answers_writeInput unserved_fromUpstream plan fun _ _ _ squidId => ?_).mono fun _ => clean_of_answers
  exact answers_addInput unserved_fromUpstream plan squidId fun _ _ => ⟨rfl, rfl⟩

theorem unserved_runReport (plan : RunPlan) (funds : Funds) (w : Written) (run : Fields) (runId : Json) :
    Unserved (runReport plan funds w run runId) := by
  rw [Unserved, runReport_get? _ _ _ _ _ (by decide)]
  rfl

theorem clean_startFailed (plan : RunPlan) (funds : Funds) (w : Written) (e : Exc) :
    (startFailed plan funds w e).Ends (Clean Unserved) :=
  (answers_startFailed unserved_fromUpstream plan funds w e).mono fun _ => clean_of_answers

end Clean

/-! ### Every call follows -/

def bodyEnds (q : RunPhase) (outcome : Except Exit Fields) : Prop :=
  runEnds q (settle (some runScraperVerify) outcome)

theorem bodyEnds_of_clean {q : RunPhase} (idle : q.Idle) {outcome : Except Exit Fields}
    (clean : Clean Unserved outcome) : bodyEnds q outcome := by
  have fresh : ∀ reply, settle (some runScraperVerify) outcome = .ok reply → Unserved reply := by
    intro reply settled
    refine answers_settle unserved_fromUpstream ?_ settled
    rcases outcome with (_ | _) | _ <;> exact clean
  cases q with
  | storing key ttl runId => exact idle.elim
  | served runId => exact idle.elim
  | _ => exact fresh

section Follows
variable {keys : String → Option Int → Prop} {q : RunPhase}

theorem follows_quiet_bind {α β : Type} {good : RunPhase → Except Exit β → Prop} {p : Tool α}
    {f : α → Tool β} (idle : q.Idle) (uses : p.Uses Call.Quiet) (ends : p.Ends Unanswered)
    (stops : ∀ e, Unanswered (.error e : Except Exit α) → good q (.error e))
    (rest : ∀ a, (f a).Follows (runNext keys) good q) : (p >>= f).Follows (runNext keys) good q := by
  refine Program.follows_bind.mpr (Program.follows_of_uses uses
    (fun op quiet ans => runNext_quiet idle quiet ans) (ends.mono fun r clean => ?_))
  cases r with
  | error e => exact stops e clean
  | ok a => exact rest a

theorem bodyEnds_stop {α : Type} (idle : q.Idle) (e : Exit)
    (unanswered : Unanswered (.error e : Except Exit α)) : bodyEnds q (.error e) := by
  refine bodyEnds_of_clean idle ?_
  cases e <;> exact unanswered

theorem follows_afterStart {plan : RunPlan} (funds : Funds) (w : Written) (started : Except Exc Fields) :
    (afterStart plan funds w started).Follows (runNext keys) bodyEnds
      (afterStartPhase plan.key plan.keyTtl started) := by
  cases started with
  | error e =>
    have uses : (startFailed plan funds w e).Uses Call.Quiet := by
      unfold startFailed
      refine Program.uses_bind ?_ fun failed => ?_
      · cases e <;> trivial
      · dsimp only
        split
        · exact uses_restoreTasks fun _ _ => trivial
        · trivial
    exact Program.follows_of_uses uses (fun op quiet ans => runNext_quiet .closed quiet ans)
      ((clean_startFailed plan funds w e).mono fun _ => bodyEnds_of_clean .closed)
  | ok run =>
    unfold afterStart afterStartPhase item
    dsimp only
    cases Dict.get? run "id" with
    | none => exact bodyEnds_of_clean .closed trivial
    | some runId =>
      intro stored
      refine ⟨.closed, ⟨rfl, rfl⟩, ?_⟩
      cases stored with
      | ok _ => exact bodyEnds_of_clean .closed (unserved_runReport plan funds w run runId)
      | error e => exact bodyEnds_of_clean .closed trivial

theorem follows_commitRun (s : Session) (plan : RunPlan) :
    (commitRun s plan).Follows (runNext keys) bodyEnds (.working plan.key plan.keyTtl) := by
  unfold commitRun
  split
  · refine bodyEnds_of_clean (.working _ _) ?_
    rfl
  refine follows_quiet_bind (.working _ _) ((uses_readFunds plan).mono fun _ fetches => fetches.2)
    (clean_bind (clean_send _) fun _ _ => trivial) (bodyEnds_stop (.working _ _)) fun funds => ?_
  refine follows_quiet_bind (.working _ _) ((uses_writeInput plan).mono fun c may => ?_)
    (clean_writeInput plan) (bodyEnds_stop (.working _ _)) fun w => ?_
  · cases c <;> trivial
  · exact fun started => ⟨_, ⟨_, _, rfl, rfl⟩, follows_afterStart funds w started⟩

theorem follows_lookUpRun {α : Type} {good : RunPhase → Except Exit α → Prop} {key : String}
    {ttl : Option Int} {f : Unit → Tool α} (entry : keys key ttl)
    (served : ∀ runId, good (.served runId) (.error (.returned (alreadySubmitted runId))))
    (unread : ∀ e, good .closed (.error (.raised e)))
    (rest : (f ()).Follows (runNext keys) good (.working key ttl)) :
    (lookUpRun key >>= f).Follows (runNext keys) good .waiting := by
  intro ans
  rcases ans with e | found
  · exact ⟨.closed, ⟨rfl, rfl⟩, unread e⟩
  · refine ⟨_, ⟨rfl, ttl, entry, rfl⟩, ?_⟩
    rcases found with _ | runId
    · exact rest
    · cases truthy : runId.truthy with
      | true =>
        rw [foundRun, Option.filter_some, if_pos truthy]
        show Program.Follows _ _ _ ((if runId.truthy then _ else _) >>= f)
        rw [if_pos truthy]
        exact served runId
      | false =>
        rw [foundRun, Option.filter_some, if_neg (by simp [truthy])]
        show Program.Follows _ _ _ ((if runId.truthy then _ else _) >>= f)
        rw [if_neg (by simp [truthy])]
        exact rest

/-- The body, from the look-up of its key to the storing of its run. -/
theorem follows_body (s : Session) (args : RunArgs) :
    (prepareRun s args >>= commitRun s).Follows (runNext (entriesOf s args)) bodyEnds .waiting := by
  refine Program.follows_bind.mpr ?_
  unfold prepareRun
  split
  · refine bodyEnds_of_clean .waiting ?_
    rfl
  refine follows_quiet_bind .waiting ((uses_readTarget s args).mono fun _ fetches => fetches.2)
    (clean_readTarget s args) (bodyEnds_stop .waiting) fun target => ?_
  dsimp only
  split
  · refine bodyEnds_of_clean .waiting ?_
    rfl
  refine follows_lookUpRun (entriesOf_entry s args target.scraper _)
    (fun runId => rfl) (fun e => bodyEnds_of_clean .closed trivial) ?_
  refine follows_quiet_bind (.working _ _) ((fetches_chooseAccount s args target).mono fun _ fetches => fetches.2)
    (clean_chooseAccount s args target) (bodyEnds_stop (.working _ _)) fun account => ?_
  refine follows_quiet_bind (.working _ _) ((uses_readRows args fetches_listTasks).mono fun _ fetches => fetches.2)
    (clean_readRows args) (bodyEnds_stop (.working _ _)) fun snapshot => ?_
  refine Program.follows_pure.mpr ?_
  exact follows_commitRun s { args, target, account, snapshot, .. }

end Follows

/-- Every `run_scraper` call keeps to the protocol of its key. -/
theorem runScraperImpl_follows (s : Session) (args : RunArgs) :
    (runScraperImpl s args).Follows (runNext (entriesOf s args)) runEnds .waiting := by
  unfold runScraperImpl structured
  refine Program.follows_bind.mpr (Program.follows_attempt.mpr ((follows_body s args).mono ?_))
  intro q outcome ends
  exact Program.follows_ofExcept.mpr ends

end LobstrMcp
