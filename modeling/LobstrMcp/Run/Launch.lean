import LobstrMcp.Run.Refusals

/-!
A call at the start of its run: the plan it made, what it wrote, and what the start was answered. On a
reused squid what was written, and what the call takes it to be, follow from the plan.
-/

namespace LobstrMcp
open Interaction Tool

/-- The parts of a call around the event that starts its run. -/
inductive Launch {σ : Type} (W : World Call Answer σ) (s : Session) (args : RunArgs) (st : σ) :
    Event Call Answer σ → Except Exc Fields → σ → Prop
  | mk {plan m first funds m' second w third b ans next rest outcome mid}
      (planned : Exec W (prepareRun s args) st first (.ok plan) m)
      (funded : Exec W (readFunds plan) m second (.ok funds) m')
      (wrote : Exec W (writeInput plan) m' third (.ok w) b) (step : W b (.startRun w.squidId) ans next)
      (after : Exec W (afterStart plan funds w ans) next rest outcome mid) :
      Launch W s args st ⟨b, .startRun w.squidId, ans⟩ (settle (some runScraperVerify) outcome) mid

theorem Launch.of_mem {σ : Type} {W : World Call Answer σ} {s : Session} {args : RunArgs} {st mid : σ}
    {tr : List (Event Call Answer σ)} {r : Except Exc Fields} {e : Event Call Answer σ}
    (exec : Exec W (runScraperImpl s args) st tr r mid) (member : e ∈ tr) (starts : e.op.Starts) :
    Launch W s args st e r mid := by
  obtain ⟨outcome, body, rfl⟩ := exec_structured.mp exec
  have quiet {α : Type} {p : Tool α} {u v : σ} {part : List (Event Call Answer σ)} {o : Except Exit α}
      (run : Exec W p u part o v) (uses : p.Uses fun c => ¬ c.Starts) : e ∉ part := fun inside =>
    run.uses uses e inside starts
  have planning : (prepareRun s args).Uses fun c => ¬ c.Starts :=
    (uses_prepareRun s args).mono fun _ => not_starts_of_reads
  rcases exec_bind.mp body with ⟨x, rfl, head⟩ | ⟨plan, m, first, rest, rfl, head, tail⟩
  · exact (quiet head planning member).elim
  have funding : (readFunds plan).Uses fun c => ¬ c.Starts :=
    (uses_readFunds plan).mono fun _ fetches => not_starts_of_reads fetches.reads
  have writing : (writeInput plan).Uses fun c => ¬ c.Starts :=
    (uses_writeInput plan).mono fun _ => not_starts_of_mayWrite
  have member := (List.mem_append.mp member).resolve_left (quiet head planning)
  cases Commits.of_exec tail with
  | asks => cases member
  | unread read => exact (quiet read funding member).elim
  | unwritten read wrote =>
    exact (quiet wrote writing ((List.mem_append.mp member).resolve_left (quiet read funding))).elim
  | @starts funds second third w ans rest _ m' b next _ read wrote step after =>
    have member := (List.mem_append.mp member).resolve_left (quiet read funding)
    have member := (List.mem_append.mp member).resolve_left (quiet wrote writing)
    rcases List.mem_cons.mp member with rfl | member
    · exact .mk head read wrote step after
    · refine (quiet after ?_ member).elim
      refine uses_afterStart plan funds w ans (fun _ => ?_) fun _ _ _ _ => ?_
      · rintro ⟨squid, absurd⟩
        cases absurd
      · rintro ⟨squid, absurd⟩
        cases absurd

/-- The listing of the rows answers as given. -/
def lists (listing : Except Exc Json) (c : Call) (ans : Answer c) : Prop :=
  match c, ans with
  | .listTasks _, ans => ans = listing
  | _, _ => True

/-- The API, with what the crawler reads and the listing answer; a listing is complete, or it fails. -/
abbrev listedWorld (crawler : Crawler) (params : Json) (listing : Except Exc Json) :
    World Call Answer Upstream :=
  ((Upstream.world Upstream.listsAll).given (describes crawler params)).given (lists listing)

/-! ### A reused squid -/

/-- What the writes report of a squid they reuse. -/
def RunPlan.written (plan : RunPlan) (squidId : Json) : Written :=
  let counted := plan.snapshot.rows.map fun _ => plan.snapshot.totalSeen
  if plan.input = [] then { squidId, action := .unchanged, taskCount := counted }
  else if plan.args.replaceTasks = true then
    { squidId, action := .replaced, taskCount := some 1, replacedCount := plan.snapshot.totalSeen }
  else if plan.taskParams = [] then { squidId, action := .unchanged, taskCount := counted }
  else { squidId, action := .added, taskCount := some 1 }

@[simp] theorem RunPlan.written_squidId (plan : RunPlan) (squidId : Json) :
    (plan.written squidId).squidId = squidId := by
  unfold RunPlan.written
  dsimp only
  split
  · rfl
  · split
    · rfl
    · split <;> rfl

section Written
variable {plan : RunPlan} {squidId : Json}

theorem ends_replaceSquidInput (body taskParams : Fields) (snapshot : Snapshot) :
    (replaceSquidInput squidId body taskParams snapshot).Ends fun r =>
      ∀ b, r = .ok b → b.1 = none → b.2 = snapshot.totalSeen := by
  have failed {reply : Fields} : (pure (some reply, 0) : Tool (Option Fields × Nat)).Ends fun r =>
      ∀ b, r = .ok b → b.1 = none → b.2 = snapshot.totalSeen := by
    rintro b ⟨⟩ absurd
    cases absurd
  unfold replaceSquidInput swapRows
  refine Program.ends_bind_value fun updated => ?_
  cases updated with
  | error e => exact Program.ends_bind_value fun reply => failed
  | ok _ =>
    refine Program.ends_bind_value fun emptied => ?_
    cases emptied with
    | error e => exact Program.ends_bind_value fun _ => Program.ends_bind_value fun reply => failed
    | ok _ =>
      refine Program.ends_bind_value fun added => ?_
      cases added with
      | error e => exact Program.ends_bind_value fun _ => Program.ends_bind_value fun reply => failed
      | ok _ =>
        rintro b ⟨⟩ _
        rfl

theorem ends_saveInput_written (existing : Option Nat) :
    (saveInput plan squidId existing).Ends fun r => ∀ w, r = .ok w → w =
      if plan.taskParams = [] then { squidId, action := .unchanged, taskCount := existing }
      else { squidId, action := .added, taskCount := some 1 } := by
  unfold saveInput
  refine Program.ends_bind_value fun failure => ?_
  cases failure with
  | some failure => exact fun w absurd => by cases absurd
  | none =>
    by_cases row : plan.taskParams = []
    · simp only [row, List.isEmpty_nil, if_true]
      rintro w ⟨⟩
      rfl
    · simp only [List.isEmpty_iff, row, if_false]
      rintro w ⟨⟩
      rfl

/-- On a reused squid the writes, when they come through, report what the plan has. -/
theorem ends_writeInput_written (reuse : plan.args.reuse = true)
    (id : Dict.get? plan.target.squid "id" = some squidId) :
    (writeInput plan).Ends fun r => ∀ w, r = .ok w → w = plan.written squidId := by
  rw [writeReused_eq reuse id]
  unfold RunPlan.written
  dsimp only
  simp only [List.isEmpty_iff]
  by_cases empty : plan.input = []
  · rw [if_pos empty, if_pos empty]
    refine Program.ends_bind_value fun _ => ?_
    rintro w ⟨⟩
    rfl
  rw [if_neg empty, if_neg empty]
  by_cases replace : plan.args.replaceTasks = true
  · rw [if_pos replace, if_pos replace]
    unfold replaceInput
    refine Program.ends_bind.mpr ((ends_replaceSquidInput _ _ _).mono fun r counted => ?_)
    rcases r with e | ⟨_ | failure, replaced⟩
    · exact fun w absurd => by cases absurd
    · rintro w ⟨⟩
      rw [show replaced = plan.snapshot.totalSeen from counted _ rfl rfl]
    · exact fun w absurd => by cases absurd
  · rw [if_neg replace, if_neg replace]
    unfold addInput
    cases read : plan.snapshot.rows with
    | none =>
      dsimp only
      by_cases row : (!plan.taskParams.isEmpty) = true
      · rw [if_pos row]
        exact fun w absurd => by cases absurd
      · rw [if_neg row]
        exact ends_saveInput_written none
    | some rows =>
      dsimp only
      by_cases held : (!plan.taskParams.isEmpty && decide (plan.snapshot.totalSeen ≠ 0)) = true
      · rw [if_pos held]
        exact fun w absurd => by cases absurd
      · rw [if_neg held]
        exact ends_saveInput_written _

end Written
section Reused
variable {reports : List Json → Json → Prop} {W : World Call Answer Upstream} {s : Session} {args : RunArgs}
  {name : String} {q : Squid} {u v : Upstream} {tr : List (Event Call Answer Upstream)} {plan : RunPlan}

/-- A plan for a squid that is held, and the listing its snapshot was taken from. -/
structure PlannedOn (reports : List Json → Json → Prop) (args : RunArgs) (name : String) (q : Squid) (u : Upstream)
    (listing : Answer (.listTasks (.str name))) (plan : RunPlan) : Prop where
  args_eq : plan.args = args
  reuse : plan.args.reuse = true
  input_eq : plan.input = args.input
  id : Dict.get? plan.target.squid "id" = some (.str name)
  held : u.squids (.str name) = some ⟨plan.target.squid, q.rows⟩
  read : snapshotOf listing = some plan.snapshot
  listed : ∀ payload, listing = .ok payload → reports q.rows payload

/-- The plan of a call that reuses a squid, and what it rests on. -/
theorem exec_prepareRun_reused (within : W.Within (Upstream.world reports)) (reused : args.reused = some name)
    (held : u.squids (.str name) = some q) (run : Exec W (prepareRun s args) u tr (.ok plan) v) :
    v = u ∧ ∃ b listing, ⟨b, .listTasks (.str name), listing⟩ ∈ tr ∧ PlannedOn reports args name q u listing plan := by
  obtain ⟨same, inert⟩ := inert_of_reads within (uses_prepareRun s args) run
  have prepared := Prepared.of_exec run
  have reuse : args.reuse = true := by
    rw [RunArgs.reuse, reused]
    rfl
  obtain ⟨b, atSquid⟩ := prepared.squid name reused
  obtain ⟨_, squidStep⟩ := run.step_of_mem _ atSquid
  obtain ⟨_, q', held', record, id⟩ := (Upstream.world_read rfl).mp (within _ _ _ _ squidStep)
  obtain ⟨b', listing, atRows, read⟩ := prepared.rows name reused
  obtain ⟨_, rowsStep⟩ := run.step_of_mem _ atRows
  have rowsStep := (Upstream.world_read rfl).mp (within _ _ _ _ rowsStep)
  obtain ⟨rfl, _⟩ := inert _ atSquid
  obtain ⟨here, _⟩ := inert _ atRows
  obtain rfl : q' = q := Option.some.inj (held'.symm.trans held)
  refine ⟨same, b', listing, atRows, prepared.args_eq, ?_, ?_, id, ?_, read, ?_⟩
  · rw [prepared.args_eq, reuse]
  · rw [prepared.input_eq, finalInput, if_pos reuse]
  · rw [record]
    exact held
  · rintro payload rfl
    obtain ⟨q'', present, reported⟩ := rowsStep.2
    rw [show b' = b from here] at present
    obtain rfl : q'' = q' := Option.some.inj (present.symm.trans held)
    exact reported

theorem translated_of_describes {crawler : Crawler} {params : Json}
    (run : Exec ((Upstream.world reports).given (describes crawler params)) (prepareRun s args) u tr (.ok plan) v) :
    plan.target.translated = translateInputSchema crawler params := by
  have prepared := Prepared.of_exec run
  obtain ⟨_, atCrawler⟩ := prepared.crawler
  obtain ⟨_, found, _⟩ := run.step_of_mem _ atCrawler
  obtain ⟨_, ans, atParams, translated⟩ := prepared.translated
  obtain ⟨_, schema, _⟩ := run.step_of_mem _ atParams
  rw [translated, show plan.target.crawler = crawler from found, show paramsOf ans = params from schema]

/-- The start of a run on a reused squid: what stands there, and what the call takes it to be. -/
theorem Launch.reused {e : Event Call Answer Upstream} {r : Except Exc Fields}
    (launch : Launch W s args u e r v) (within : W.Within (Upstream.world reports))
    (reused : args.reused = some name) (held : u.squids (.str name) = some q) :
    ∃ plan first b' listing funds next rest outcome, ∃ ans : Answer (.startRun (.str name)),
      e = ⟨e.before, .startRun (.str name), ans⟩ ∧ r = settle (some runScraperVerify) outcome ∧
      Exec W (prepareRun s args) u first (.ok plan) u ∧
      (⟨b', .listTasks (.str name), listing⟩ : Event Call Answer Upstream) ∈ first ∧
      PlannedOn reports args name q u listing plan ∧ ¬ plan.Refused ∧
      Ready plan q.rows (plan.written (.str name)) e.before ∧ W e.before (.startRun (.str name)) ans next ∧
      Exec W (afterStart plan funds (plan.written (.str name)) ans) next rest outcome v := by
  cases launch with
  | @mk plan m first funds m' _ w _ b ans next rest outcome _ planned funded wrote step after =>
    obtain ⟨rfl, b', listing, atRows, on⟩ := exec_prepareRun_reused within reused held planned
    obtain ⟨rfl, _⟩ := inert_of_reads within ((uses_readFunds plan).mono fun _ => Call.Fetches.reads) funded
    have open' : ¬ plan.Refused := fun refused =>
      Ensures.of_ends (ends_writeInput_refused refused) _ _ _ wrote w rfl
    have ready := ensures_writeInput_ready within (fun _ => ⟨_, on.id, on.held⟩)
      (fun new => absurd new (by simp [on.reuse])) _ _ _ wrote w rfl
    obtain rfl := Ensures.of_ends (ends_writeInput_written on.reuse on.id) _ _ _ wrote w rfl
    -- the call starts the squid that it was given
    have named : ∀ (squid : Json) (started : Except Exc Fields), squid = .str name →
        W b (.startRun squid) started next → W b (.startRun (.str name)) started next ∧
          (⟨b, .startRun squid, started⟩ : Event Call Answer Upstream) = ⟨b, .startRun (.str name), started⟩ := by
      rintro squid started rfl step
      exact ⟨step, rfl⟩
    obtain ⟨step, same⟩ := named _ ans (RunPlan.written_squidId plan (.str name)) step
    exact ⟨plan, first, b', listing, funds, next, rest, outcome, ans, same, rfl, planned, atRows, on, open', ready,
      step, after⟩

end Reused
end LobstrMcp
