import LobstrMcp.Run.Concurrent

/-!
What becomes of a run once it has started: the call answers with its id, or it has failed to store
the key and the id is gone.
-/

namespace LobstrMcp
open Interaction Tool

variable {σ : Type} {W : World Call Answer σ} {st mid : σ} {tr : List (Event Call Answer σ)}
  {s : Session} {args : RunArgs} {plan : RunPlan}

/-- A call up to the start of its run. -/
def BeforeStart (c : Call) : Prop :=
  match c with
  | .startRun _ | .idemPut _ _ _ => False
  | _ => True

theorem beforeStart_of_reads {c : Call} (reads : c.Reads) : BeforeStart c := by
  cases c with
  | startRun squid => cases reads.1
  | idemPut key runId ttl => exact reads.2 key runId ttl rfl
  | _ => trivial

theorem beforeStart_of_mayWrite {c : Call} (may : plan.MayWrite c) : BeforeStart c := by
  cases c <;> first | exact may | trivial

/-- The reply carries the run and its squid. -/
def Carries (squid runId : Json) (r : Except Exc Fields) : Prop :=
  ∃ reply, r = .ok reply ∧ Dict.get? reply "run_id" = some runId ∧ Dict.get? reply "squid_id" = some squid

/-- Every store of the key that was asked for was done. -/
def KeyStored (tr : List (Event Call Answer σ)) : Prop :=
  ∀ e ∈ tr, ∀ key runId ttl, e.op = .idemPut key runId ttl → ∃ done, e.ans = .ok done

theorem runReport_runId (plan : RunPlan) (funds : Funds) (w : Written) (run : Fields) (runId : Json) :
    Dict.get? (runReport plan funds w run runId) "run_id" = some runId ∧
      Dict.get? (runReport plan funds w run runId) "squid_id" = some w.squidId := by
  rw [runReport_get? _ _ _ _ _ (by decide), runReport_get? _ _ _ _ _ (by decide)]
  exact ⟨rfl, rfl⟩

theorem exec_afterStart_ok {funds : Funds} {w : Written} {run : Fields} {runId : Json}
    {r : Except Exit Fields} (id : Dict.get? run "id" = some runId)
    (exec : Exec W (afterStart plan funds w (.ok run)) st tr r mid) :
    ∃ ans, tr = [⟨st, .idemPut plan.key runId plan.keyTtl, ans⟩] ∧
      r = match ans with
        | .ok _ => .ok (runReport plan funds w run runId)
        | .error e => .error (.raised e) := by
  have stored : Exec W (send (.idemPut plan.key runId plan.keyTtl) >>=
      fun _ => pure (runReport plan funds w run runId)) st tr r mid := by
    unfold afterStart item at exec
    dsimp only at exec
    rw [id] at exec
    exact exec
  unfold send at stored
  rw [Program.bind_assoc] at stored
  obtain ⟨ans, next, rest, _, rfl, tail⟩ := exec_request_bind.mp stored
  refine ⟨ans, ?_⟩
  cases ans with
  | ok _ =>
    obtain ⟨rfl, rfl, _⟩ := exec_pure.mp tail
    exact ⟨rfl, rfl⟩
  | error e =>
    obtain ⟨rfl, rfl, _⟩ := exec_raise.mp tail
    exact ⟨rfl, rfl⟩

/-- A second half in which a run was started: all of it before the start, the start, and the rest. -/
theorem exec_commitRun_started {r : Except Exit Fields} {e : Event Call Answer σ} {squid : Json}
    (exec : Exec W (commitRun s plan) st tr r mid) (member : e ∈ tr) (starts : e.op = .startRun squid) :
    ∃ funds w b next before ans rest, tr = before ++ ⟨b, .startRun w.squidId, ans⟩ :: rest ∧
      (∀ x ∈ before, BeforeStart x.op) ∧ Exec W (afterStart plan funds w ans) next rest r mid := by
  have funding : (readFunds plan).Uses BeforeStart :=
    (uses_readFunds plan).mono fun _ fetches => beforeStart_of_reads fetches.reads
  have writing : (writeInput plan).Uses BeforeStart :=
    (uses_writeInput plan).mono fun _ may => beforeStart_of_mayWrite may
  have early {α : Type} {p : Tool α} (uses : p.Uses BeforeStart) {u v : σ} {part : List (Event Call Answer σ)}
      {o : Except Exit α} (run : Exec W p u part o v) : e ∉ part := by
    intro inside
    have before := run.uses uses e inside
    rw [starts] at before
    exact before
  cases Commits.of_exec exec with
  | asks => cases member
  | unread read => exact (early funding read member).elim
  | unwritten read wrote =>
    exact (early writing wrote ((List.mem_append.mp member).resolve_left (early funding read))).elim
  | @starts funds first second w ans rest _ _ b next _ read wrote _ after =>
    refine ⟨funds, w, b, next, first ++ second, ans, rest, (List.append_assoc ..).symm, ?_, after⟩
    exact List.forall_mem_append.mpr ⟨read.uses funding, wrote.uses writing⟩

/-- A run that was started is in the reply exactly when its key was stored. -/
theorem started_run_reported_iff {r : Except Exc Fields} {b : σ} {squid runId : Json} {run : Fields}
    (exec : Exec W (runScraperImpl s args) st tr r mid)
    (started : (⟨b, .startRun squid, .ok run⟩ : Event Call Answer σ) ∈ tr)
    (id : Dict.get? run "id" = some runId) : Carries squid runId r ↔ KeyStored tr := by
  obtain ⟨outcome, body, rfl⟩ := exec_structured.mp exec
  have unstarted {part : List (Event Call Answer σ)} (early : ∀ x ∈ part, BeforeStart x.op) :
      (⟨b, .startRun squid, .ok run⟩ : Event Call Answer σ) ∉ part := fun inside => early _ inside
  have reading {u v : σ} {part : List (Event Call Answer σ)} {o : Except Exit RunPlan}
      (head : Exec W (prepareRun s args) u part o v) : ∀ x ∈ part, BeforeStart x.op := fun x inside =>
    beforeStart_of_reads (head.uses (uses_prepareRun s args) x inside)
  rcases exec_bind.mp body with ⟨x, _, head⟩ | ⟨plan, m₁, first, rest₁, rfl, head, second⟩
  · exact (unstarted (reading head) started).elim
  have inRest : (⟨b, .startRun squid, .ok run⟩ : Event Call Answer σ) ∈ rest₁ :=
    (List.mem_append.mp started).resolve_left (unstarted (reading head))
  obtain ⟨funds, w, b', next, before, ans, rest, rfl, early, tail⟩ := exec_commitRun_started second inRest rfl
  have after : ∀ x ∈ rest, ∀ squid, x.op ≠ .startRun squid := by
    intro x inside squid same
    have once : (afterStart plan funds w ans).Uses fun c => ∀ squid, c ≠ .startRun squid :=
      uses_afterStart plan funds w ans (fun _ _ absurd => by cases absurd) fun _ _ _ _ _ absurd => by cases absurd
    exact tail.uses once x inside squid same
  have here : (⟨b, .startRun squid, .ok run⟩ : Event Call Answer σ) = ⟨b', .startRun w.squidId, ans⟩ := by
    rcases List.mem_append.mp inRest with inside | inside
    · exact (unstarted early inside).elim
    · rcases List.mem_cons.mp inside with same | inside
      · exact same
      · exact absurd rfl (after _ inside squid)
  cases here
  obtain ⟨put, rfl, rfl⟩ := exec_afterStart_ok id tail
  have puts {x : Event Call Answer σ} {key : String} {stored : Json} {ttl : Option Int}
      (member : x ∈ first ++ (before ++ ⟨b, .startRun w.squidId, .ok run⟩ ::
        [⟨next, .idemPut plan.key runId plan.keyTtl, put⟩])) (op : x.op = .idemPut key stored ttl) :
      x = ⟨next, .idemPut plan.key runId plan.keyTtl, put⟩ := by
    have late : ¬ BeforeStart x.op := by
      rw [op]
      exact fun absurd => absurd
    simp only [List.mem_append, List.mem_cons, List.not_mem_nil, or_false] at member
    rcases member with inside | inside | rfl | rfl
    · exact (late (reading head x inside)).elim
    · exact (late (early x inside)).elim
    · cases op
    · rfl
  cases put with
  | ok done =>
    refine iff_of_true ⟨_, rfl, runReport_runId plan funds w run runId⟩ ?_
    intro x member key stored ttl op
    rw [puts member op]
    exact ⟨done, rfl⟩
  | error failure =>
    refine iff_of_false ?_ ?_
    · rintro ⟨reply, settled, carried, _⟩
      cases failure with
      | api rejection =>
        cases settled
        rw [toErrorDict_get_absent rejection (by decide)] at carried
        cases carried
      | transport lost =>
        cases settled
        cases carried
      | _ => cases settled
    · intro all
      obtain ⟨done, absurd⟩ := all ⟨next, .idemPut plan.key runId plan.keyTtl, .error failure⟩ (by simp) _ _ _ rfl
      cases absurd

/-! ### A store that is up, and one that is down -/

def heldSquid : Upstream := oneSquid "squid" ⟨plainRecord "squid" .null, []⟩

/-- A retry starts its run, and the store answers as it will. -/
theorem may_start_retry (put : Except Exc Unit) :
    May (Upstream.world Upstream.listsAny) (runScraperImpl plainSession retryCall) heldSquid fun tr r _ =>
      (∃ b, ⟨b, .startRun (.str "squid"), .ok [("id", .str "run")]⟩ ∈ tr) ∧
        (∀ text, put = .error (.store text) → r = .error (.store text)) ∧ (put = .ok () → KeyStored tr) := by
  have within := (Upstream.world Upstream.listsAny).given_within (describes { input := [] } .null)
  have prepared := (exec_prepareRun_plain Upstream.listsAny plainSession leaves_retryCall .null []
    (.ok (.arr [])) rfl (fun _ _ => trivial) rfl).within within
  refine may_commit prepared rfl ⟨rfl, trivial⟩ fun funds => ?_
  rw [writeReused_eq leaves_retryCall.reuse rfl]
  refine may_bind (may_pure.mpr ?_)
  unfold startAndReport
  refine may_request (.ok [("id", .str "run")]) ⟨trivial, rfl⟩ ?_
  refine may_bind_of_exec (exec_pure.mpr ⟨rfl, rfl, rfl⟩) ?_
  unfold send
  rw [Program.bind_assoc]
  refine may_request put ⟨rfl, trivial⟩ ?_
  cases put with
  | ok done =>
    refine may_pure.mpr ⟨⟨heldSquid, by simp [heldSquid]⟩, fun _ absurd => (by cases absurd), fun _ => ?_⟩
    intro e member key runId ttl op
    simp only [attachedTrace, List.cons_append, List.nil_append, List.mem_cons, List.not_mem_nil, or_false]
      at member
    rcases member with rfl | rfl | rfl | rfl | rfl | rfl | rfl | rfl <;> exact ⟨_, rfl⟩
  | error failure =>
    refine may_raise.mpr ⟨⟨heldSquid, by simp [heldSquid]⟩, ?_, fun absurd => (by cases absurd)⟩
    rintro text ⟨⟩
    rfl

/-- Over a store that is up, the reply carries the run. -/
theorem a_stored_run_is_reported :
    May (Upstream.world Upstream.listsAny) (runScraperImpl plainSession retryCall) heldSquid fun _ r _ =>
      Carries (.str "squid") (.str "run") r := by
  obtain ⟨tr, r, v, exec, ⟨b, started⟩, _, stored⟩ := may_start_retry (.ok ())
  exact ⟨tr, r, v, exec, (started_run_reported_iff exec started rfl).mpr (stored rfl)⟩

/-- Over one that is down, the run has started and the call raises. -/
theorem an_unstored_run_is_lost :
    May (Upstream.world Upstream.listsAny) (runScraperImpl plainSession retryCall) heldSquid fun tr r _ =>
      (∃ b, ⟨b, .startRun (.str "squid"), .ok [("id", .str "run")]⟩ ∈ tr) ∧
        r = .error (.store "Connection refused") := by
  refine (may_start_retry (.error (.store "Connection refused"))).mono ?_
  rintro tr r v ⟨started, lost, _⟩
  exact ⟨started, lost _ rfl⟩

end LobstrMcp
