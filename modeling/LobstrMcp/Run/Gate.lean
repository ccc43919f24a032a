import LobstrMcp.Run.Billing

/-!
When a run starts unconfirmed although its bill is not covered. The gate prices the rows that
were counted; where the listing failed, or left rows out, that is not what the run scrapes.
-/

namespace LobstrMcp
open Interaction Tool

/-- The refusal in front of rows that would be added to others. -/
def RunPlan.Refused (plan : RunPlan) : Prop :=
  plan.args.reuse = true ∧ plan.args.replaceTasks = false ∧ plan.taskParams ≠ [] ∧
    (plan.snapshot.rows = none ∨ plan.snapshot.totalSeen ≠ 0)

/-- The number of rows is within the threshold, at a known price. -/
def WithinThreshold (s : Session) (crawler : Crawler) (params : Fields) (rows : Nat) : Prop :=
  ∃ credits, priceOf s.floats crawler params rows = some credits ∧ credits ≤ s.settings.runConfirmThreshold

theorem taskParams_nil {plan : RunPlan} (empty : plan.input = []) : plan.taskParams = [] := by
  rw [RunPlan.taskParams, empty]
  rfl

theorem RunPlan.Refused.present {plan : RunPlan} (refused : plan.Refused) : ¬ plan.input.isEmpty = true := by
  obtain ⟨_, _, row, _⟩ := refused
  rw [List.isEmpty_iff]
  exact fun empty => row (taskParams_nil empty)

/-- A row that would join others ends in one of two refusals. -/
theorem addInput_refused {plan : RunPlan} (refused : plan.Refused) (squidId : Json) :
    addInput plan squidId = returned (tasksUnreadable squidId plan.target.scraper) ∨
      addInput plan squidId = returned (refuseToTouchSavedTasks squidId plan.target.scraper plan.taskParams
        plan.snapshot.totalSeen) := by
  obtain ⟨_, _, row, rows⟩ := refused
  have given : (!plan.taskParams.isEmpty) = true := by simpa using row
  unfold addInput
  cases read : plan.snapshot.rows with
  | none => exact .inl (if_pos given)
  | some _ =>
    have seen : plan.snapshot.totalSeen ≠ 0 := rows.resolve_left (by simp [read])
    exact .inr (if_pos (by rw [given, decide_eq_true seen, Bool.and_true]))

theorem ends_writeInput_refused {plan : RunPlan} (refused : plan.Refused) :
    (writeInput plan).Ends fun r => ∀ w, r = .ok w → False := by
  unfold writeInput writeReused
  rw [if_pos refused.1]
  refine Program.ends_bind_value fun squidId => ?_
  rw [if_neg refused.present, refused.2.1, if_neg Bool.false_ne_true]
  rcases addInput_refused refused squidId with same | same
  · rw [same]
    exact fun w absurd => by cases absurd
  · rw [same]
    exact fun w absurd => by cases absurd

section Gate
variable {reports : List Json → Json → Prop} {W : World Call Answer Upstream} {s : Session}
  {plan : RunPlan} {rows : List Json} {u : Upstream}

theorem Ready.covered_iff {w : Written} {v : Upstream} (ready : Ready plan rows w v) :
    Covered s plan.target.crawler v w.squidId ↔
      WithinThreshold s plan.target.crawler plan.effective (plan.rowsAtStart rows).length := by
  obtain ⟨q, held, params, scraped⟩ := ready
  rw [← params, ← scraped]
  constructor
  · rintro ⟨q', credits, held', known, covered⟩
    have same : q' = q := Option.some.inj (held'.symm.trans held)
    subst same
    exact ⟨credits, known, covered⟩
  · rintro ⟨credits, known, covered⟩
    exact ⟨q, credits, held, known, covered⟩

theorem no_start {α : Type} {p : Tool α} {allowed : Call → Prop} (uses : p.Uses allowed)
    (none' : ∀ squid, ¬ allowed (.startRun squid)) {P : Event Call Answer Upstream → Json → Prop} :
    Ensures W p u fun tr _ _ => ∀ e ∈ tr, ∀ squid, e.op = .startRun squid → P e squid := by
  intro tr r v run e member squid starts
  exact absurd starts (run.absent uses (none' squid) e member)

/-- An unconfirmed plan starts its run only past the refusal and the gate, on a squid that is as
the plan has it. -/
theorem ensures_commitRun_gate (rows : List Json) (within : W.Within (Upstream.world reports))
    (floats : plan.floats = s.floats) (unconfirmed : plan.args.confirm = false)
    (reused : plan.args.reuse = true → ∃ squid, Dict.get? plan.target.squid "id" = some squid ∧
      u.squids squid = some ⟨plan.target.squid, rows⟩)
    (new : plan.args.reuse = false → plan.target.squid = []) :
    Ensures W (commitRun s plan) u fun tr _ _ => ∀ e ∈ tr, ∀ squid, e.op = .startRun squid →
      ¬ plan.Refused ∧
      WithinThreshold s plan.target.crawler plan.effective (pricedRows plan.rows) ∧
      ∃ w : Written, squid = w.squidId ∧ Ready plan rows w e.before := by
  unfold commitRun
  rw [unconfirmed, Bool.not_false, Bool.true_and]
  split
  · exact ensures_raise.mpr fun e absurd => by cases absurd
  rename_i free
  have priced := needsWord_false (by simpa using free : needsWord s plan.estimate = false)
  rw [estimate_eq_priceOf, floats] at priced
  refine ensures_each_bind fun tr r v run => ?_
  obtain ⟨rfl, _⟩ := inert_of_reads within ((uses_readFunds plan).mono fun _ => Call.Fetches.reads) run
  refine ⟨no_start (uses_readFunds plan) (fun _ absurd => absurd.2) tr r v run, ?_⟩
  rintro funds rfl
  refine ensures_each_bind fun tr r t run => ?_
  refine ⟨no_start (uses_writeInput plan) (fun _ absurd => absurd) tr r t run, ?_⟩
  rintro w rfl
  have open' : ¬ plan.Refused := fun refused =>
    Ensures.of_ends (ends_writeInput_refused refused) tr _ t run w rfl
  have ready := ensures_writeInput_ready within reused new tr _ t run w rfl
  unfold startAndReport
  refine ensures_each_bind (ensures_ask.mpr fun started t' _ => ⟨?_, ?_⟩)
  · intro e member squid starts
    rw [List.mem_singleton.mp member] at starts ⊢
    cases starts
    exact ⟨open', priced, w, rfl, ready⟩
  · rintro _ ⟨⟩
    have uses : (afterStart plan funds w started).Uses fun c => ∀ squid, c ≠ .startRun squid :=
      uses_afterStart plan funds w started (fun _ _ absurd => by cases absurd)
        fun _ _ _ _ _ absurd => by cases absurd
    exact no_start uses fun squid absurd => absurd squid rfl

end Gate

/-! ### The occasions -/

/-- What decides whether an unconfirmed call is covered: the crawler and its `/params` payload, the
params and rows of the squid, what a listing of them answers, and the call's own part. -/
structure Occasion where
  crawler : Crawler
  schema : Json
  saved : Json
  rows : List Json
  listing : Except Exc Json
  reuse : Bool
  replace : Bool
  input : Fields

namespace Occasion
variable (o : Occasion)

def translated : Translated := translateInputSchema o.crawler o.schema

def taskParams : Fields := o.translated.taskParams o.input

/-- The params the run executes under. -/
def effective : Fields := effectiveSettings [("params", o.saved)] (o.translated.squidParams o.input)

/-- The rows the run scrapes. -/
def scraped : List Json :=
  if o.input = [] then o.rows
  else if o.replace = true then [.obj o.taskParams]
  else if o.taskParams = [] then o.rows
  else addRow o.rows (.obj o.taskParams)

/-- The rows the price is for. -/
def priced (snapshot : Snapshot) : Nat :=
  pricedRows (rowsThisRun true (!o.taskParams.isEmpty) o.replace snapshot)

/-- The input passes as a change of the squid. -/
def Accepted : Prop :=
  o.input = [] ∨ validateInput o.input o.translated ((Dict.keys o.input).any o.translated.isTaskKey) = []

/-- A row of the call's own, to be added to rows that are there or could not be read. -/
def Refused (snapshot : Snapshot) : Prop :=
  o.replace = false ∧ o.taskParams ≠ [] ∧ (snapshot.rows = none ∨ snapshot.totalSeen ≠ 0)

/-- The rows could not be read, and are not replaced. -/
def RowsUnknown (snapshot : Snapshot) : Prop :=
  snapshot.rows = none ∧ ¬ (o.replace = true ∧ o.input ≠ [])

/-- The rows counted are within the threshold, but how many there are is unknown or too many. -/
def Uncovered (s : Session) : Prop :=
  o.reuse = true ∧ o.Accepted ∧ ∃ snapshot, snapshotOf o.listing = some snapshot ∧
    ¬ o.Refused snapshot ∧ WithinThreshold s o.crawler o.effective (o.priced snapshot) ∧
    (o.RowsUnknown snapshot ∨ ¬ WithinThreshold s o.crawler o.effective o.scraped.length)

/-- The reads that answer as the occasion has it. -/
def reads (c : Call) (ans : Answer c) : Prop :=
  match c, ans with
  | .getCrawler _, .ok found => found = o.crawler
  | .getCrawlerParams _, ans => paramsOf ans = o.schema
  | .listTasks _, ans => ans = o.listing
  | _, _ => True

/-- An unconfirmed call on this occasion. -/
structure Arises (args : RunArgs) (u : Upstream) : Prop where
  unconfirmed : args.confirm = false
  input : args.input = o.input
  replace : args.replaceTasks = o.replace
  reuse : args.reuse = o.reuse
  squid : ∀ name, args.reused = some name →
    ∃ record, u.squids (.str name) = some ⟨record, o.rows⟩ ∧ Fields.get record "params" = o.saved

/-- A plan made on this occasion, for a squid of the caller's. -/
structure Planned (snapshot : Snapshot) (plan : RunPlan) : Prop where
  crawler : plan.target.crawler = o.crawler
  translated : plan.target.translated = o.translated
  params : Fields.get plan.target.squid "params" = o.saved
  input : plan.input = o.input
  replace : plan.args.replaceTasks = o.replace
  reuse : plan.args.reuse = true
  snapshot : plan.snapshot = snapshot

namespace Planned
variable {o : Occasion} {snapshot : Snapshot} {plan : RunPlan}

theorem taskParams (h : o.Planned snapshot plan) : plan.taskParams = o.taskParams := by
  rw [RunPlan.taskParams, h.translated, h.input, Occasion.taskParams]

theorem effective (h : o.Planned snapshot plan) : plan.effective = o.effective := by
  unfold RunPlan.effective RunPlan.squidParams Occasion.effective effectiveSettings
  rw [h.params, h.translated, h.input]
  rfl

theorem priced (h : o.Planned snapshot plan) : pricedRows plan.rows = o.priced snapshot := by
  rw [RunPlan.rows, h.reuse, h.taskParams, h.replace, h.snapshot, Occasion.priced]

theorem scraped (h : o.Planned snapshot plan) : plan.rowsAtStart o.rows = o.scraped := by
  rw [RunPlan.rowsAtStart, if_neg (by simp [h.reuse]), h.input, h.replace, h.taskParams, Occasion.scraped]

theorem refused (h : o.Planned snapshot plan) : plan.Refused ↔ o.Refused snapshot := by
  unfold RunPlan.Refused Occasion.Refused
  rw [h.reuse, h.replace, h.taskParams, h.snapshot]
  exact and_iff_right rfl

end Planned

theorem accepted_iff {args : RunArgs} (input : args.input = o.input) (reuse : args.reuse = true) :
    inputErrors args o.translated = [] ↔ o.Accepted := by
  unfold inputErrors Accepted
  rw [input, reuse]
  by_cases empty : o.input = [] <;> simp [empty]

end Occasion

/-- What confirmation guards: a run that starts without it has rows whose number is known, or that
this call put there, and its bill at that moment is known and within the threshold. -/
structure Guarded (s : Session) (crawler : Crawler) (args : RunArgs)
    (tr : List (Event Call Answer Upstream)) : Prop where
  covered : ∀ e ∈ tr, ∀ squid, e.op = .startRun squid → Covered s crawler e.before squid
  known : args.reuse = true → ¬ (args.replaceTasks = true ∧ args.input ≠ []) →
    (∃ e ∈ tr, ∃ squid, e.op = .startRun squid) →
    ∀ b squid ans, ⟨b, .listTasks squid, ans⟩ ∈ tr → ∃ tasks, ans = .ok (.arr tasks)

theorem exists_tasks_of_snapshot {ans : Except Exc Json} {snapshot : Snapshot}
    (read : snapshotOf ans = some snapshot) (rows : snapshot.rows ≠ none) : ∃ tasks, ans = .ok (.arr tasks) := by
  rcases ans with e | payload
  · cases e <;> cases read <;> exact absurd rfl rows
  · cases payload with
    | arr tasks => exact ⟨tasks, rfl⟩
    | _ =>
      cases read
      exact absurd rfl rows

section Occasions
variable {o : Occasion} {s : Session} {args : RunArgs} {u : Upstream}

/-- The world of an occasion: the API, any listing allowed, with its reads given. -/
def Occasion.world (o : Occasion) : World Call Answer Upstream :=
  (Upstream.world Upstream.listsAny).given o.reads

theorem Occasion.world_within : o.world.Within (Upstream.world Upstream.listsAny) :=
  World.given_within _ _

theorem Occasion.crawler_eq {plan : RunPlan} {tr : List (Event Call Answer Upstream)} {v : Upstream}
    (run : Exec o.world (prepareRun s args) u tr (.ok plan) v) : plan.target.crawler = o.crawler := by
  obtain ⟨b, atCrawler⟩ := (Prepared.of_exec run).crawler
  obtain ⟨_, found, _⟩ := run.step_of_mem _ atCrawler
  exact found

theorem Occasion.planned {name : String} {plan : RunPlan} {tr : List (Event Call Answer Upstream)}
    {v : Upstream} (arises : o.Arises args u) (reused : args.reused = some name)
    (run : Exec o.world (prepareRun s args) u tr (.ok plan) v) :
    ∃ snapshot, snapshotOf o.listing = some snapshot ∧ o.Planned snapshot plan ∧ o.Accepted ∧
      Dict.get? plan.target.squid "id" = some (.str name) ∧
      u.squids (.str name) = some ⟨plan.target.squid, o.rows⟩ := by
  have prepared := Prepared.of_exec run
  have reuse : args.reuse = true := by
    rw [RunArgs.reuse, reused]
    rfl
  obtain ⟨_, inert⟩ := inert_of_reads Occasion.world_within (uses_prepareRun s args) run
  obtain ⟨b, atSquid⟩ := prepared.squid name reused
  obtain ⟨b', ans, atParams, eq⟩ := prepared.translated
  obtain ⟨b'', listing, atRows, read⟩ := prepared.rows name reused
  obtain ⟨_, _, squidStep⟩ := run.step_of_mem _ atSquid
  obtain ⟨_, schema, _⟩ := run.step_of_mem _ atParams
  obtain ⟨_, given, _⟩ := run.step_of_mem _ atRows
  have crawler := Occasion.crawler_eq run
  have schema : paramsOf ans = o.schema := schema
  have given : listing = o.listing := given
  have translated : plan.target.translated = o.translated := by
    rw [eq, crawler, schema, Occasion.translated]
  obtain ⟨_, q, held, record, id⟩ := squidStep
  obtain ⟨record', held', params⟩ := arises.squid name reused
  rw [show u = b from (inert _ atSquid).1.symm] at held' ⊢
  have same : q = ⟨record', o.rows⟩ := Option.some.inj (held.symm.trans held')
  subst same
  have input : plan.input = o.input := by
    rw [prepared.input_eq, finalInput, if_pos reuse, arises.input]
  refine ⟨plan.snapshot, given ▸ read, ⟨crawler, translated, ?_, input, ?_, ?_, rfl⟩, ?_, id, ?_⟩
  · rw [record]
    exact params
  · rw [prepared.args_eq, arises.replace]
  · rw [prepared.args_eq, reuse]
  · rw [← o.accepted_iff arises.input reuse, ← translated]
    exact prepared.valid
  · rw [record]
    exact held'

/-- On every other occasion a run that starts unconfirmed is covered. -/
theorem runScraperImpl_guarded (arises : o.Arises args u) (uncovered : ¬ o.Uncovered s) :
    Ensures o.world (runScraperImpl s args) u fun tr _ _ => Guarded s o.crawler args tr := by
  unfold runScraperImpl
  rw [ensures_structured]
  intro tr outcome v run
  rcases exec_bind.mp run with ⟨e, rfl, head⟩ | ⟨plan, mid, first, rest, rfl, head, tail⟩
  · have quiet := no_start (P := fun _ _ => False) (uses_prepareRun s args)
      (fun _ absurd => by cases absurd.1) _ _ _ head
    exact ⟨fun e member squid starts => (quiet e member squid starts).elim,
      fun _ _ ⟨e, member, squid, starts⟩ => (quiet e member squid starts).elim⟩
  obtain ⟨rfl, _⟩ := inert_of_reads Occasion.world_within (uses_prepareRun s args) head
  have quiet := no_start (P := fun _ _ => False) (uses_prepareRun s args)
    (fun _ absurd => by cases absurd.1) _ _ _ head
  have prepared := Prepared.of_exec head
  have unconfirmed : plan.args.confirm = false := by rw [prepared.args_eq, arises.unconfirmed]
  cases reused : args.reused with
  | none =>
    have reuse : args.reuse = false := by
      rw [RunArgs.reuse, reused]
      rfl
    have new : plan.args.reuse = false := by rw [prepared.args_eq, reuse]
    have gate := ensures_commitRun_gate [] Occasion.world_within prepared.floats_eq unconfirmed
      (fun reuse => absurd reuse (by simp [new])) (fun _ => prepared.noSquid reused) _ _ _ tail
    refine ⟨fun e member squid starts => ?_, fun again => absurd again (by simp [reuse])⟩
    rcases List.mem_append.mp member with member | member
    · exact (quiet e member squid starts).elim
    · obtain ⟨_, priced, w, rfl, ready⟩ := gate e member squid starts
      have one : pricedRows plan.rows = (plan.rowsAtStart []).length := by
        rw [RunPlan.rows, RunPlan.rowsAtStart, new]
        rfl
      rw [← Occasion.crawler_eq head, ready.covered_iff, ← one]
      exact priced
  | some name =>
    obtain ⟨snapshot, read, planned, accepted, id, held⟩ := Occasion.planned arises reused head
    have reuse : o.reuse = true := by
      rw [← arises.reuse, RunArgs.reuse, reused]
      rfl
    have gate := ensures_commitRun_gate o.rows Occasion.world_within prepared.floats_eq unconfirmed
      (fun _ => ⟨_, id, held⟩) (fun new => absurd new (by simp [planned.reuse])) _ _ _ tail
    rw [planned.refused, planned.crawler, planned.effective, planned.priced] at gate
    -- a start that is not covered makes the occasion one of those excluded
    have sound {squid : Json} {e : Event Call Answer Upstream} (member : e ∈ rest)
        (starts : e.op = .startRun squid) :
        ¬ o.RowsUnknown snapshot ∧ Covered s o.crawler e.before squid := by
      obtain ⟨open', priced, w, rfl, ready⟩ := gate e member _ starts
      have covered := ready.covered_iff (s := s)
      rw [planned.crawler, planned.effective, planned.scraped] at covered
      rw [covered]
      by_contra broken
      rw [not_and_or, not_not] at broken
      exact uncovered ⟨reuse, accepted, snapshot, read, open', priced, broken⟩
    refine ⟨fun e member squid starts => ?_, ?_⟩
    · rcases List.mem_append.mp member with member | member
      · exact (quiet e member squid starts).elim
      · exact (sound member starts).2
    · rintro _ keeps ⟨e, member, squid, starts⟩ b target ans listed
      have member : e ∈ rest := (List.mem_append.mp member).resolve_left fun early =>
        (quiet e early squid starts).elim
      have unknown := (sound member starts).1
      rw [arises.replace, arises.input] at keeps
      have given : ans = o.listing := by
        obtain ⟨_, given, _⟩ := run.step_of_mem _ listed
        exact given
      rw [given]
      exact exists_tasks_of_snapshot read fun none' => unknown ⟨none', keeps⟩

theorem may_writeInput {plan : RunPlan} {squid : Json} (reuse : plan.args.reuse = true)
    (id : Dict.get? plan.target.squid "id" = some squid) (noAccounts : plan.account.toSave = [])
    (open' : ¬ plan.Refused) :
    May o.world (writeInput plan) u fun _ r _ => ∃ w, r = .ok w := by
  have save (existing : Option Nat) :
      May o.world (saveInput plan squid existing) u fun _ r _ => ∃ w, r = .ok w := by
    unfold saveInput saveSquidInput
    refine may_bind (may_request (.ok Json.null) ⟨trivial, trivial, rfl⟩ ?_)
    dsimp only
    split
    · rename_i none'
      refine may_pure.mpr (may_pure.mpr ?_)
      exact ⟨_, rfl⟩
    · rename_i given
      refine may_request (.ok Json.null) ⟨trivial, trivial, rfl⟩ (may_pure.mpr ?_)
      refine may_pure.mpr ?_
      exact ⟨_, rfl⟩
  rw [writeReused_eq reuse id]
  split
  · rw [noAccounts]
    exact may_bind (may_pure.mpr (may_pure.mpr ⟨_, rfl⟩))
  split
  · unfold replaceInput replaceSquidInput swapRows
    refine may_bind (may_request (.ok Json.null) ⟨trivial, trivial, rfl⟩ ?_)
    refine may_request (.ok Json.null) ⟨trivial, trivial, rfl⟩ ?_
    refine may_request (.ok Json.null) ⟨trivial, trivial, rfl⟩ ?_
    exact may_pure.mpr (may_pure.mpr ⟨_, rfl⟩)
  · rename_i keep
    have keep : plan.args.replaceTasks = false := by simpa using keep
    unfold addInput
    split
    · rename_i unread
      split
      · rename_i row
        exact absurd ⟨reuse, keep, by simpa using row, .inl unread⟩ open'
      · exact save _
    · split
      · rename_i row
        rw [Bool.and_eq_true, decide_eq_true_eq] at row
        exact absurd ⟨reuse, keep, by simpa using row.1, .inr row.2⟩ open'
      · exact save _

/-- The plainest unconfirmed call of an occasion. -/
def Occasion.call (o : Occasion) (name : String) : RunArgs where
  input := o.input
  squidId := some name
  replaceTasks := o.replace

theorem Occasion.leaves_call (o : Occasion) {name : String} (named : name ≠ "") :
    LeavesToSquid (o.call name) name :=
  ⟨rfl, named, rfl, rfl⟩

theorem Occasion.arises_call (o : Occasion) {name : String} (named : name ≠ "") (reuse : o.reuse = true) :
    o.Arises (o.call name) (oneSquid name ⟨plainRecord name o.saved, o.rows⟩) where
  unconfirmed := rfl
  input := rfl
  replace := rfl
  reuse := by rw [(o.leaves_call named).reuse, reuse]
  squid := by
    intro other reused
    rw [(o.leaves_call named).reused] at reused
    cases reused
    exact ⟨_, oneSquid_held _ _, rfl⟩

/-- Past the refusal and the gate a run starts, and its bill is that of the rows scraped. -/
theorem may_start {name : String} {snapshot : Snapshot} (named : name ≠ "") (reuse : o.reuse = true)
    (accepted : o.Accepted) (read : snapshotOf o.listing = some snapshot) (open' : ¬ o.Refused snapshot)
    (priced : WithinThreshold s o.crawler o.effective (o.priced snapshot)) :
    May o.world (runScraperImpl s (o.call name)) (oneSquid name ⟨plainRecord name o.saved, o.rows⟩)
      fun tr _ _ => (∃ b, ⟨b, .listTasks (.str name), o.listing⟩ ∈ tr) ∧
        ∃ e ∈ tr, ∃ squid, e.op = .startRun squid ∧
          (Covered s o.crawler e.before squid ↔ WithinThreshold s o.crawler o.effective o.scraped.length) := by
  have leaves := o.leaves_call named
  have held := oneSquid_held name ⟨plainRecord name o.saved, o.rows⟩
  have prepared : Exec o.world (prepareRun s (o.call name)) _ _
      (.ok (plainPlan s (o.call name) name o.saved o.crawler o.schema snapshot)) _ :=
    exec_prepareRun_attached leaves (settled_plainRecord name o.saved) (.ok o.schema) o.listing
      ((o.accepted_iff rfl leaves.reuse).mpr accepted) read ⟨trivial, rfl, _, held, rfl, rfl⟩
      ⟨rfl, rfl, trivial⟩ ⟨rfl, rfl, trivial⟩ ⟨trivial, rfl, trivial⟩
      ⟨rfl, rfl, by cases o.listing <;> first | trivial | exact ⟨_, held, trivial⟩⟩
  obtain ⟨snapshot', read', planned, _, id, here⟩ :=
    Occasion.planned (o.arises_call named reuse) leaves.reused prepared
  have same : snapshot' = snapshot := Option.some.inj (read'.symm.trans read)
  subst same
  have free : needsWord s (plainPlan s (o.call name) name o.saved o.crawler o.schema snapshot').estimate
      = false := by
    obtain ⟨credits, known, covered⟩ := priced
    refine needsWord_of_le ?_ covered
    rw [estimate_eq_priceOf, planned.crawler, planned.effective, planned.priced]
    exact known
  obtain ⟨tr, _, t, run, w, rfl⟩ : May o.world (writeInput _) (oneSquid name ⟨plainRecord name o.saved, o.rows⟩)
      fun _ r _ => ∃ w, r = .ok w := may_writeInput planned.reuse id rfl (mt planned.refused.mp open')
  have ready := ensures_writeInput_ready Occasion.world_within (fun _ => ⟨_, id, here⟩)
    (fun new => absurd new (by simp [planned.reuse])) tr _ t run w rfl
  have covered := ready.covered_iff (s := s)
  rw [planned.crawler, planned.effective, planned.scraped] at covered
  refine may_commit prepared (by rw [free, Bool.and_false]) ⟨trivial, rfl, trivial⟩ fun funds => ?_
  refine may_bind_of_exec run ?_
  unfold startAndReport
  refine may_request (.ok [("id", .str "run")]) ⟨trivial, trivial, rfl⟩ ?_
  refine may_bind_of_exec (exec_pure.mpr ⟨rfl, rfl, rfl⟩) ?_
  refine may_send () ⟨trivial, rfl, trivial⟩ ?_
  refine may_pure.mpr ?_
  exact ⟨⟨_, List.mem_append_left _ listTasks_mem_attachedTrace⟩,
    ⟨t, .startRun w.squidId, .ok [("id", .str "run")]⟩, by simp, _, rfl, covered⟩

/-- On an occasion that is not covered, the run that starts is not guarded. -/
theorem Occasion.Uncovered.may_start {name : String} (named : name ≠ "") (uncovered : o.Uncovered s) :
    May o.world (runScraperImpl s (o.call name)) (oneSquid name ⟨plainRecord name o.saved, o.rows⟩)
      fun tr _ _ => ¬ Guarded s o.crawler (o.call name) tr := by
  obtain ⟨reuse, accepted, snapshot, read, open', priced, broken⟩ := uncovered
  refine (LobstrMcp.may_start named reuse accepted read open' priced).mono ?_
  rintro tr _ _ ⟨⟨b, listed⟩, e, member, squid, starts, covered⟩ guarded
  rcases broken with unknown | above
  · obtain ⟨tasks, answered⟩ := guarded.known (o.leaves_call named).reuse unknown.2
      ⟨e, member, squid, starts⟩ _ _ _ listed
    rw [answered] at read
    cases read
    cases unknown.1
  · exact above (covered.mp (guarded.covered e member squid starts))

/-- What confirmation guards, exactly: it fails on the occasions that are not covered, and on no
others. -/
theorem confirmation_gate_iff (s : Session) (o : Occasion) :
    (∀ (args : RunArgs) (u : Upstream), o.Arises args u →
      Ensures o.world (runScraperImpl s args) u fun tr _ _ => Guarded s o.crawler args tr) ↔
    ¬ o.Uncovered s := by
  constructor
  · intro guarded uncovered
    have named : "squid" ≠ "" := by decide
    exact (uncovered.may_start named).not_ensures
      (guarded _ _ (o.arises_call named uncovered.1))
  · intro covered args u arises
    exact runScraperImpl_guarded arises covered

/-- A crawler at one credit a result, ten results a row at most, on a squid of twenty rows whose listing fails. -/
def unreadRows : Occasion where
  crawler := { input := [], fields := [("credits_per_row", .int 1)] }
  schema := .null
  saved := .obj [("max_results", .int 10)]
  rows := (List.range 20).map fun n => .obj [("page", .int n)]
  listing := .error (.api (ApiError.make 500 none none))
  reuse := true
  replace := false
  input := []

/-- The run starts at the price of one row, and scrapes twenty. -/
theorem twenty_rows_run_at_the_price_of_one :
    May unreadRows.world (runScraperImpl plainSession (unreadRows.call "squid"))
      (oneSquid "squid" ⟨plainRecord "squid" unreadRows.saved, unreadRows.rows⟩) fun tr _ _ =>
        ∃ e ∈ tr, ∃ squid, e.op = .startRun squid ∧
          ¬ Covered plainSession unreadRows.crawler e.before squid := by
  have priced : priceOf plainSession.floats unreadRows.crawler unreadRows.effective (unreadRows.priced {}) = some 10 := by
    decide +kernel
  have bill : priceOf plainSession.floats unreadRows.crawler unreadRows.effective unreadRows.scraped.length = some 200 := by
    decide +kernel
  refine (may_start (by decide) rfl (.inl rfl) rfl ?_ ⟨10, priced, by decide⟩).mono ?_
  · exact fun refused => refused.2.1 rfl
  rintro tr _ _ ⟨_, e, member, squid, starts, covered⟩
  refine ⟨e, member, squid, starts, ?_⟩
  rw [covered, WithinThreshold, bill]
  rintro ⟨credits, known, within⟩
  cases known
  exact absurd within (by decide)

end Occasions
end LobstrMcp
