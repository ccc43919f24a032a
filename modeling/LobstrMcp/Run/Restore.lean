import LobstrMcp.Run.RowSafety

/-!
When a failed replacement says that no input was lost. The undo puts back what the snapshot
holds, and the snapshot leaves out the rows that cannot be added again; the report looks at the
snapshot, not at the squid. It is right exactly for squids all of whose rows can be added again.
-/

namespace LobstrMcp
open Interaction Tool

/-- A row that the snapshot keeps: a non-empty object. -/
def reAddable (row : Json) : Option Fields :=
  match row with
  | .obj params => if params.isEmpty then none else some params
  | _ => none

theorem reAddable_eq_some {row : Json} {params : Fields} (h : reAddable row = some params) :
    row = .obj params := by
  unfold reAddable at h
  split at h
  · split at h
    · cases h
    · cases h
      rfl
  · cases h

/-- Every row of the list is on the squid. -/
def Kept (rows : List Json) (squid : Json) (v : Upstream) : Prop :=
  ∀ row ∈ rows, ∃ held, v.rowsOf squid = some held ∧ row ∈ held

/-- A reply that says nothing was lost says so with every row in place. -/
def Honest (rows : List Json) (squid : Json) (reply : Fields) (v : Upstream) : Prop :=
  Fields.get reply "tasks_lost" = .bool false → Kept rows squid v

/-- A snapshot that is missing, or from which every row can be put back. -/
def Complete (rows : List Json) (snapshot : Snapshot) : Prop :=
  ∀ saved, snapshot.rows = some saved → saved.map Json.obj = rows

/-! ### The snapshot -/

theorem taskRow_of_listed {task row : Json}
    (listed : ∃ fields, task = .obj fields ∧ Fields.get fields "params" = row) :
    taskRow task = reAddable row := by
  obtain ⟨fields, rfl, rfl⟩ := listed
  rfl

theorem filterMap_taskRow {tasks rows : List Json}
    (listed : List.Forall₂ (fun task row => ∃ fields, task = .obj fields ∧ Fields.get fields "params" = row)
      tasks rows) : tasks.filterMap taskRow = rows.filterMap reAddable := by
  induction listed with
  | nil => rfl
  | cons first _ ih => rw [List.filterMap_cons, List.filterMap_cons, taskRow_of_listed first, ih]

theorem map_filterMap_reAddable {rows : List Json} (all : ∀ row ∈ rows, (reAddable row).isSome) :
    (rows.filterMap reAddable).map Json.obj = rows := by
  induction rows with
  | nil => rfl
  | cons row rest ih =>
    obtain ⟨params, read⟩ := Option.isSome_iff_exists.mp (all row List.mem_cons_self)
    have tail := ih fun r member => all r (List.mem_cons_of_mem _ member)
    rw [List.filterMap_cons, read, List.map_cons, tail, reAddable_eq_some read]

theorem complete_of_listing {rows : List Json} {ans : Except Exc Json} {snapshot : Snapshot}
    (all : ∀ row ∈ rows, (reAddable row).isSome)
    (honest : ∀ payload, ans = .ok payload → Upstream.listsAll rows payload)
    (read : snapshotOf ans = some snapshot) : Complete rows snapshot := by
  intro saved present
  cases ans with
  | ok payload =>
    obtain ⟨tasks, rfl, listed⟩ := honest payload rfl
    cases read
    cases present
    rw [filterMap_taskRow listed]
    exact map_filterMap_reAddable all
  | error e =>
    cases e with
    | api _ | transport _ =>
      cases read
      cases present
    | _ => cases read

/-! ### The undo -/

section Undo
variable {u v : Upstream} {squid : Json} {rows : List Json}

theorem kept_of_addTasks {tasks : List Json} {made : Fields} (held : (u.squids squid).isSome)
    (all : ∀ row ∈ rows, row ∈ tasks) : Kept rows squid (u.effect (.addTasks squid tasks) made) := by
  obtain ⟨q, present⟩ := Option.isSome_iff_exists.mp held
  intro row member
  refine ⟨addRows q.rows tasks, ?_, (mem_addRows _ _ _).mpr (.inr (all row member))⟩
  simp [Upstream.rowsOf, Upstream.effect, present]

theorem Kept.of_rowsOf (kept : Kept rows squid u) (same : v.rowsOf squid = u.rowsOf squid) :
    Kept rows squid v := by
  intro row member
  rw [same]
  exact kept row member

/-- Whatever a write of this squid does, short of deleting it, the squid is still there. -/
theorem world_held {reports : List Json → Json → Prop} {c : Call} {ans : Answer c}
    (step : Upstream.world reports u c ans v) (own : c ∈ [.emptySquid squid] ∨
      (∃ settings, c = .updateSquid squid settings) ∨ (∃ tasks, c = .addTasks squid tasks))
    (held : (u.squids squid).isSome) : (v.squids squid).isSome := by
  have writes : c.writes = true := by
    rcases own with own | ⟨_, rfl⟩ | ⟨_, rfl⟩
    · rw [List.mem_singleton.mp own]
      rfl
    · rfl
    · rfl
  have effect (made : Fields) : ((u.effect c made).squids squid).isSome := by
    rcases own with own | ⟨_, rfl⟩ | ⟨_, rfl⟩
    · rw [List.mem_singleton.mp own]
      simpa [Upstream.effect] using held
    · simpa [Upstream.effect] using held
    · simpa [Upstream.effect] using held
  rw [Upstream.world_write writes] at step
  cases ans with
  | ok payload =>
    obtain ⟨_, rfl⟩ := (step : u.Takes c _ v)
    exact effect _
  | error e =>
    cases e with
    | api rejection =>
      rw [show v = u from step]
      exact held
    | transport lost =>
      rcases (step : v = u ∨ _) with rfl | ⟨_, made, _, rfl⟩
      · exact held
      · exact effect made
    | _ => exact step.elim

end Undo

/-- What a half of the tool owes: a reply it ends with is honest, and a value meets `Q`. -/
def Owes {α : Type} (rows : List Json) (squid : Json) (Q : α → Upstream → Prop)
    (outcome : Except Exit α) (v : Upstream) : Prop :=
  match outcome with
  | .ok a => Q a v
  | .error (.returned reply) => Honest rows squid reply v
  | .error (.raised _) => True

section Owes
variable {reports : List Json → Json → Prop} {u : Upstream} {squid : Json} {rows : List Json}
  {snapshot : Snapshot}

theorem owes_bind {α β : Type} {p : Tool α} {f : α → Tool β} {Q : α → Upstream → Prop}
    {R : β → Upstream → Prop}
    (first : Ensures (Upstream.world reports) p u fun _ r v => Owes rows squid Q r v)
    (rest : ∀ a v, Q a v → Ensures (Upstream.world reports) (f a) v fun _ r t => Owes rows squid R r t) :
    Ensures (Upstream.world reports) (p >>= f) u fun _ r t => Owes rows squid R r t := by
  refine ensures_bind.mpr (first.mono fun _ r v owed => ?_)
  cases r with
  | ok a => exact rest a v owed
  | error e => cases e <;> exact owed

theorem ensures_stepFailed {e : Exc} {message : String → String} {Q : Fields → Upstream → Prop}
    (any : ∀ failed, Q failed u) :
    Ensures (Upstream.world reports) (stepFailed e message) u
      fun _ r v => Owes rows squid Q r v := by
  unfold stepFailed
  split
  · exact ensures_pure.mpr (any _)
  · exact ensures_pure.mpr (any _)
  · exact ensures_raise.mpr trivial

/-- The undo is honest, from any state of the squid. -/
theorem ensures_restoreTasks (complete : Complete rows snapshot) (held : (u.squids squid).isSome)
    (failure : Fields) : Ensures (Upstream.world reports) (restoreTasks squid snapshot failure) u
      fun _ r v => Owes rows squid (fun reply => Honest rows squid reply) r v := by
  unfold restoreTasks
  dsimp only
  split
  · refine ensures_pure.mpr fun lost => ?_
    simp at lost
  · rename_i none'
    refine ensures_pure.mpr fun _ row member => ?_
    rw [← complete _ none'] at member
    simp at member
  · rename_i saved _ present
    refine ensures_bind.mpr (ensures_ask.mpr fun ans v step => ?_)
    cases ans with
    | ok payload =>
      refine ensures_pure.mpr fun _ => ?_
      obtain ⟨_, rfl⟩ := (step : u.Takes _ _ v)
      refine kept_of_addTasks held fun row member => ?_
      rw [complete saved present]
      exact member
    | error e =>
      cases e with
      | api _ | transport _ =>
        refine ensures_pure.mpr fun lost => ?_
        simp at lost
      | _ => exact ensures_raise.mpr trivial

/-- The answer of a half of the replacement: an honest failure, or a squid that is still there. -/
def Swapped (rows : List Json) (squid : Json) (answer : Option Fields × Nat) (v : Upstream) : Prop :=
  match answer.1 with
  | some reply => Honest rows squid reply v
  | none => (v.squids squid).isSome

theorem ensures_undo (complete : Complete rows snapshot) (held : (u.squids squid).isSome) (e : Exc)
    (message : String → String) : Ensures (Upstream.world reports)
      (do let failed ← stepFailed e message
          let reply ← restoreTasks squid snapshot failed
          pure (some reply, 0) : Tool (Option Fields × Nat)) u
      fun _ r v => Owes rows squid (Swapped rows squid) r v := by
  refine owes_bind (Q := fun _ v => (v.squids squid).isSome) (ensures_stepFailed fun _ => held) ?_
  intro failed v held
  refine owes_bind (ensures_restoreTasks complete held failed) ?_
  exact fun reply t honest => ensures_pure.mpr honest

theorem ensures_swapRows (complete : Complete rows snapshot) (held : (u.squids squid).isSome)
    (taskParams : Fields) : Ensures (Upstream.world reports) (swapRows squid taskParams snapshot) u
      fun _ r v => Owes rows squid (Swapped rows squid) r v := by
  unfold swapRows
  refine ensures_bind.mpr (ensures_ask.mpr fun emptied v step => ?_)
  have held := world_held step (.inl (by simp)) held
  cases emptied with
  | error e => exact ensures_undo complete held e _
  | ok _ =>
    refine ensures_bind.mpr (ensures_ask.mpr fun added t step => ?_)
    have held := world_held step (.inr (.inr ⟨_, rfl⟩)) held
    cases added with
    | error e => exact ensures_undo complete held e _
    | ok _ => exact ensures_pure.mpr held

/-- Until the squid is emptied no row is gone: a configuration that is not saved says so. -/
theorem ensures_replaceSquidInput (complete : Complete rows snapshot) (held : (u.squids squid).isSome)
    (kept : Kept rows squid u) (body taskParams : Fields) :
    Ensures (Upstream.world reports) (replaceSquidInput squid body taskParams snapshot) u
      fun _ r v => Owes rows squid (Swapped rows squid) r v := by
  unfold replaceSquidInput
  refine ensures_bind.mpr (ensures_ask.mpr fun updated v step => ?_)
  cases updated with
  | error e =>
    have kept : Kept rows squid v :=
      kept.of_rowsOf (world_rowsOf step (by simp) (by simp) (by simp) (by simp) squid)
    refine owes_bind (Q := fun reply t => Honest rows squid reply t) ?_ ?_
    · unfold replaceNotSaved
      split
      · exact ensures_pure.mpr fun _ => kept
      · exact ensures_pure.mpr fun _ => kept
      · exact ensures_raise.mpr trivial
    · exact fun reply t honest => ensures_pure.mpr honest
  | ok _ => exact ensures_swapRows complete (world_held step (.inr (.inl ⟨_, rfl⟩)) held) taskParams

theorem runReport_tasks_lost (plan : RunPlan) (funds : Funds) (w : Written) (run : Fields)
    (runId : Json) : Fields.get (runReport plan funds w run runId) "tasks_lost" = .null := by
  rw [runReport_get _ _ _ _ _ (by decide)]
  rfl

/-- The start of a run over replaced rows: a refusal puts them back, or says that it could not. -/
theorem ensures_startAndReport {plan : RunPlan} {funds : Funds} {w : Written}
    (complete : Complete rows plan.snapshot) (same : w.squidId = squid) (replaced : w.action = .replaced)
    (held : (u.squids squid).isSome) :
    Ensures (Upstream.world reports) (startAndReport plan funds w) u
      fun _ r v => Owes rows squid (fun reply => Honest rows squid reply) r v := by
  subst same
  unfold startAndReport
  refine ensures_bind.mpr (ensures_ask.mpr fun started v step => ?_)
  cases started with
  | error e =>
    have held : (v.squids w.squidId).isSome := by
      rcases Upstream.world_error rfl step with ⟨_, _, rfl⟩ | ⟨_, _, rfl | ⟨_, _, _, rfl⟩⟩
      · exact held
      · exact held
      · exact held
    unfold afterStart startFailed
    refine owes_bind (Q := fun _ t => (t.squids w.squidId).isSome) ?_ ?_
    · cases e with
      | api _ => exact ensures_pure.mpr held
      | transport _ => exact ensures_pure.mpr held
      | _ => exact ensures_raise.mpr trivial
    · intro failed t held
      dsimp only
      rw [if_pos replaced]
      exact ensures_restoreTasks complete held _
  | ok run =>
    unfold afterStart item
    refine owes_bind (Q := fun _ _ => True) ?_ ?_
    · split
      · exact ensures_pure.mpr trivial
      · exact ensures_raise.mpr trivial
    · intro runId t _
      refine owes_bind (Q := fun _ _ => True) ?_ ?_
      · refine ensures_bind.mpr (ensures_ask.mpr fun put _ _ => ?_)
        cases put with
        | ok _ => exact ensures_pure.mpr trivial
        | error _ => exact ensures_raise.mpr trivial
      · intro _ t' _
        refine ensures_pure.mpr fun lost => ?_
        rw [runReport_tasks_lost] at lost
        cases lost

/-- The second half of a replacement, from a plan whose snapshot is complete. -/
theorem ensures_commitRun_replace {s : Session} {plan : RunPlan} (reuse : plan.args.reuse = true)
    (replace : plan.args.replaceTasks = true) (present : plan.input ≠ [])
    (id : Dict.get? plan.target.squid "id" = some squid) (complete : Complete rows plan.snapshot)
    (held : (u.squids squid).isSome) (kept : Kept rows squid u) :
    Ensures (Upstream.world reports) (commitRun s plan) u
      fun _ r v => Owes rows squid (fun reply => Honest rows squid reply) r v := by
  unfold commitRun
  split
  · exact ensures_raise.mpr fun _ => kept
  refine owes_bind (Q := fun _ v => v = u) ?_ ?_
  · intro tr r v run
    obtain ⟨rfl, _⟩ := inert_of_reads (World.within_self _) ((uses_readFunds plan).mono fun _ => Call.Fetches.reads) run
    cases r with
    | ok _ => rfl
    | error e =>
      cases e with
      | raised _ => trivial
      | returned _ => exact fun _ => kept
  · rintro funds v rfl
    refine owes_bind (Q := fun w t => w.squidId = squid ∧ w.action = .replaced ∧ (t.squids squid).isSome)
      ?_ ?_
    · rw [writeInput_replace reuse id present replace]
      unfold replaceInput
      refine owes_bind (ensures_replaceSquidInput complete held kept _ _) ?_
      rintro ⟨failure, replaced⟩ t swapped
      cases failure with
      | some reply => exact ensures_raise.mpr swapped
      | none => exact ensures_pure.mpr ⟨rfl, rfl, swapped⟩
    · rintro w t ⟨same, replaced, held⟩
      exact ensures_startAndReport complete same replaced held

end Owes

/-! ### The report -/

theorem settle_honest {rows : List Json} {squid : Json} {verify : Option String}
    {outcome : Except Exit Fields} {v : Upstream}
    (owed : Owes rows squid (fun reply => Honest rows squid reply) outcome v) {reply : Fields}
    (settled : settle verify outcome = .ok reply) : Honest rows squid reply v := by
  rcases outcome with (e | returned) | value
  · cases e with
    | api rejection =>
      cases settled
      intro lost
      rw [Fields.get, toErrorDict_get_absent rejection (by decide)] at lost
      cases lost
    | transport lost' =>
      cases settled
      intro lost
      simp [transportErrorDict] at lost
    | _ => cases settled
  · cases settled
    exact owed
  · cases settled
    exact owed

theorem kept_self {u : Upstream} {squid : Json} {q : Squid} (held : u.squids squid = some q) :
    Kept q.rows squid u := by
  intro row member
  exact ⟨q.rows, by simp [Upstream.rowsOf, held], member⟩

/-- Every call with `replace_tasks` on a squid of re-addable rows reports honestly. -/
theorem runScraperImpl_honest (s : Session) {args : RunArgs} {name : String} {u : Upstream} {q : Squid}
    (reused : args.reused = some name) (replace : args.replaceTasks = true)
    (held : u.squids (.str name) = some q) (all : ∀ row ∈ q.rows, (reAddable row).isSome) :
    Ensures (Upstream.world Upstream.listsAll) (runScraperImpl s args) u fun _ r v =>
      ∀ reply, r = .ok reply → Honest q.rows (.str name) reply v := by
  have kept := kept_self held
  unfold runScraperImpl
  rw [ensures_structured]
  intro tr outcome v run reply settled
  refine settle_honest ?_ settled
  rcases exec_bind.mp run with ⟨e, rfl, head⟩ | ⟨plan, mid, first, rest, rfl, head, tail⟩
  · obtain ⟨rfl, _⟩ := inert_of_reads (World.within_self _) (uses_prepareRun s args) head
    cases e with
    | raised _ => trivial
    | returned _ => exact fun _ => kept
  · obtain ⟨rfl, before⟩ := inert_of_reads (World.within_self _) (uses_prepareRun s args) head
    have prepared := Prepared.of_exec head
    have reuse : plan.args.reuse = true := by
      rw [prepared.args_eq, RunArgs.reuse, reused]
      rfl
    by_cases present : plan.input = []
    · have noRow : plan.taskParams = [] := by
        rw [RunPlan.taskParams, present]
        rfl
      obtain ⟨_, _, same⟩ := commitRun_keeps_rows (World.within_self _) reuse noRow (.inl present) tail
      have after := kept.of_rowsOf (same (.str name))
      rcases outcome with (_ | _) | _
      · trivial
      · exact fun _ => after
      · exact fun _ => after
    · obtain ⟨b, atSquid⟩ := prepared.squid name reused
      obtain ⟨_, squidStep⟩ := head.step_of_mem _ atSquid
      obtain ⟨_, _, _, _, id⟩ := (Upstream.world_read rfl).mp squidStep
      obtain ⟨b', ans, atRows, read⟩ := prepared.rows name reused
      obtain ⟨_, rowsStep⟩ := head.step_of_mem _ atRows
      obtain ⟨_, listed⟩ := (Upstream.world_read rfl).mp rowsStep
      have here : b' = mid := (before _ atRows).1
      subst here
      have complete : Complete q.rows plan.snapshot := by
        refine complete_of_listing all ?_ read
        rintro payload rfl
        obtain ⟨q', held', listed⟩ := listed
        rw [show b'.squids (.str name) = some q' from held'] at held
        cases held
        exact listed
      have replaced : plan.args.replaceTasks = true := by rw [prepared.args_eq, replace]
      exact ensures_commitRun_replace reuse replaced present id complete
        (by rw [held]; rfl) kept _ _ _ tail

/-! ### The report, where it is wrong -/

/-- A crawler without inputs: every key is a row's. -/
def bareCrawler : Crawler := { input := [] }

/-- A call that replaces the rows of the squid `name` with one of its own. -/
def rowCall (name : String) : RunArgs where
  input := [("query", .str "new")]
  confirm := true
  squidId := some name
  replaceTasks := true

theorem leaves_rowCall (name : String) (named : name ≠ "") : LeavesToSquid (rowCall name) name :=
  ⟨rfl, named, rfl, rfl⟩

theorem inputErrors_rowCall (name : String) (named : name ≠ "") :
    inputErrors (rowCall name) (translateInputSchema bareCrawler .null) = [] := by
  unfold inputErrors
  rw [(leaves_rowCall name named).reuse]
  rfl

/-- The honest listing of a squid's rows. -/
def tasksOf (rows : List Json) : List Json := rows.map fun row => .obj [("params", row)]

theorem listsAll_tasksOf (rows : List Json) : Upstream.listsAll rows (.arr (tasksOf rows)) := by
  refine ⟨_, rfl, ?_⟩
  induction rows with
  | nil => exact .nil
  | cons row rest ih => exact .cons ⟨_, rfl, rfl⟩ ih

theorem reAddable_of_mem_snapshot {rows : List Json} {saved : List Fields}
    (read : (tasksOf rows).filterMap taskRow = saved) :
    ∀ row ∈ saved.map Json.obj, (reAddable row).isSome := by
  obtain ⟨tasks, same, listed⟩ := listsAll_tasksOf rows
  cases same
  rw [filterMap_taskRow listed] at read
  subst read
  intro row member
  obtain ⟨params, found, rfl⟩ := List.mem_map.mp member
  obtain ⟨row', _, read⟩ := List.mem_filterMap.mp found
  rw [← reAddable_eq_some read, read]
  rfl

/-- The undo puts back the re-addable rows, and the reply says that none is missing. -/
theorem may_lose_rows (s : Session) (name : String) (rows : List Json) (named : name ≠ "") :
    May (Upstream.world Upstream.listsAll) (runScraperImpl s (rowCall name))
      (oneSquid name ⟨plainRecord name .null, rows⟩) fun _ r v =>
        (∃ reply, r = .ok reply ∧ Fields.get reply "tasks_lost" = .bool false) ∧
        ∃ held, v.rowsOf (.str name) = some held ∧ ∀ row ∈ held, (reAddable row).isSome := by
  have leaves := leaves_rowCall name named
  obtain ⟨saved, read⟩ : ∃ saved, (tasksOf rows).filterMap taskRow = saved := ⟨_, rfl⟩
  have prepared := (exec_prepareRun_plain Upstream.listsAll s leaves .null rows (.ok (.arr (tasksOf rows)))
    (inputErrors_rowCall name named) (by rintro _ ⟨⟩; exact listsAll_tasksOf rows) rfl).within (World.given_within _ _)
  rw [read] at prepared
  refine may_commit prepared rfl ⟨rfl, trivial⟩ fun funds => ?_
  rw [writeInput_replace leaves.reuse rfl (List.cons_ne_nil _ _) rfl]
  refine may_bind ?_
  unfold replaceInput
  refine may_bind ?_
  unfold replaceSquidInput
  refine may_request (.ok Json.null) ⟨trivial, rfl⟩ ?_
  unfold swapRows
  refine may_request (.ok Json.null) ⟨trivial, rfl⟩ ?_
  refine may_request (.error (.api (ApiError.make 422 none none))) rfl ?_
  refine may_bind_of_exec (exec_pure.mpr ⟨rfl, rfl, rfl⟩) ?_
  refine may_bind ?_
  unfold restoreTasks
  dsimp only [plainPlan, attachedPlan]
  cases saved with
  | nil =>
    refine may_pure.mpr (may_pure.mpr (may_raise.mpr ⟨⟨_, rfl, ?_⟩, ?_⟩))
    · simp
    · simp [Upstream.rowsOf, Upstream.effect]
  | cons first rest =>
    refine may_request (.ok Json.null) ⟨trivial, rfl⟩ ?_
    refine may_pure.mpr (may_pure.mpr (may_raise.mpr ⟨⟨_, rfl, ?_⟩, ?_⟩))
    · simp
    · refine ⟨addRows [] ((first :: rest).map Json.obj), ?_, ?_⟩
      · simp [Upstream.rowsOf, Upstream.effect]
      · intro row member
        apply reAddable_of_mem_snapshot read
        simpa using (mem_addRows _ _ _).mp member

/-- A row that cannot be added again is lost under a reply that denies it. -/
theorem may_deny_the_loss (s : Session) (name : String) {rows : List Json} (named : name ≠ "") {row : Json}
    (member : row ∈ rows) (lost : (reAddable row).isSome = false) :
    May (Upstream.world Upstream.listsAll) (runScraperImpl s (rowCall name))
      (oneSquid name ⟨plainRecord name .null, rows⟩) fun _ r v =>
        ∃ reply, r = .ok reply ∧ ¬ Honest rows (.str name) reply v := by
  refine (may_lose_rows s name rows named).mono ?_
  rintro tr r v ⟨⟨reply, answered, denied⟩, held, present, again⟩
  refine ⟨reply, answered, fun honest => ?_⟩
  obtain ⟨held', present', here⟩ := honest denied row member
  rw [present'] at present
  cases present
  rw [again row here] at lost
  cases lost

/-- The report of a failed replacement, exactly: it is honest, whatever goes wrong, on the squids
all of whose rows can be added again. -/
theorem tasks_lost_honest_iff (s : Session) (rows : List Json) :
    (∀ (args : RunArgs) (name : String) (u : Upstream) (record : Fields), args.reused = some name →
      args.replaceTasks = true → u.squids (.str name) = some ⟨record, rows⟩ →
      Ensures (Upstream.world Upstream.listsAll) (runScraperImpl s args) u fun _ r v =>
        ∀ reply, r = .ok reply → Honest rows (.str name) reply v) ↔
    ∀ row ∈ rows, (reAddable row).isSome := by
  constructor
  · intro honest row member
    by_contra lost
    have denied := may_deny_the_loss s "squid" (by decide) member (by simpa using lost)
    have named := leaves_rowCall "squid" (by decide)
    have claimed := honest (rowCall "squid") "squid" (oneSquid "squid" ⟨plainRecord "squid" .null, rows⟩)
      _ named.reused rfl (oneSquid_held _ _)
    refine (denied.mono ?_).not_ensures claimed
    rintro tr r v ⟨reply, answered, broken⟩ all
    exact broken (all reply answered)
  · intro all args name u record reused replace held
    exact runScraperImpl_honest s reused replace held all

/-- A saved row without params is deleted, and the reply says that nothing was lost. -/
theorem a_row_without_params_is_lost :
    May (Upstream.world Upstream.listsAll) (runScraperImpl plainSession (rowCall "squid"))
      (oneSquid "squid" ⟨plainRecord "squid" .null, [.obj [], .obj [("query", .str "old")]]⟩) fun _ r v =>
        ∃ reply, r = .ok reply ∧
          ¬ Honest [.obj [], .obj [("query", .str "old")]] (.str "squid") reply v :=
  may_deny_the_loss plainSession "squid" (by decide) List.mem_cons_self (by decide)

end LobstrMcp
