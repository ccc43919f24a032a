import LobstrMcp.Run.Launch
import LobstrMcp.Run.Undone

/-!
What a reply says of a squid's saved inputs: how many the run scrapes, and what became of those that
were there. The numbers come from the listing, so rows that could not be listed and were replaced all
the same are reported as none.
-/

namespace LobstrMcp
open Interaction Tool

/-- A reply is right about the saved inputs: `rows` before the call, and those that the squid holds in
`b`, where the run starts. -/
structure TellsRows (rows : List Json) (row squid : Json) (b : Upstream) (reply : Fields) : Prop where
  count : Fields.get reply "task_count" = .null ∨
    ∃ held, b.rowsOf squid = some held ∧ Fields.get reply "task_count" = .int held.length
  unchanged : Fields.get reply "tasks_action" = .str "unchanged" → b.rowsOf squid = some rows
  added : Fields.get reply "tasks_action" = .str "added" → rows = [] ∧ b.rowsOf squid = some [row]
  replaced : Fields.get reply "tasks_action" = .str "replaced" → b.rowsOf squid = some [row] ∧
    Fields.get reply "replaced_task_count" = .int rows.length ∧
    Fields.get reply "tasks_note" = .str (tasksNote .replaced (some 1) rows.length)

def ReplacesUnseen (args : RunArgs) (rows : List Json) (listing : Except Exc Json) : Prop :=
  args.replaceTasks = true ∧ args.input ≠ [] ∧ rows ≠ [] ∧ ∃ e, listing = .error e

theorem runReport_rows (plan : RunPlan) (funds : Funds) (w : Written) (run : Fields) (runId : Json) :
    Fields.get (runReport plan funds w run runId) "tasks_action" = .str w.action.text ∧
      Fields.get (runReport plan funds w run runId) "task_count" =
        (w.taskCount.map fun n => Json.int n).getD .null ∧
      Fields.get (runReport plan funds w run runId) "tasks_note" =
        .str (tasksNote w.action w.taskCount w.replacedCount) ∧
      (w.action = .replaced →
        Fields.get (runReport plan funds w run runId) "replaced_task_count" = .int w.replacedCount) := by
  rw [runReport_get _ _ _ _ _ (by decide), runReport_get _ _ _ _ _ (by decide),
    runReport_get _ _ _ _ _ (by decide)]
  exact ⟨rfl, rfl, rfl, runReport_replaced plan funds w run runId⟩

/-! ### What a listing tells -/

theorem snapshot_of_failed {e : Exc} {snapshot : Snapshot} (read : snapshotOf (.error e) = some snapshot) :
    snapshot = {} := by
  cases e <;> cases read <;> rfl

theorem snapshot_of_listed {rows : List Json} {payload : Json} {snapshot : Snapshot}
    (listed : Upstream.listsAll rows payload) (read : snapshotOf (.ok payload) = some snapshot) :
    snapshot.rows ≠ none ∧ snapshot.totalSeen = rows.length := by
  obtain ⟨tasks, rfl, each⟩ := listed
  cases read
  exact ⟨fun absurd => (by cases absurd), each.length_eq⟩

/-- The rows are counted, or their listing failed and nothing is known. -/
theorem snapshot_cases {rows : List Json} {listing : Except Exc Json} {snapshot : Snapshot}
    (listed : ∀ payload, listing = .ok payload → Upstream.listsAll rows payload)
    (read : snapshotOf listing = some snapshot) :
    ((∃ e, listing = .error e) ∧ snapshot = {}) ∨
      ((¬ ∃ e, listing = .error e) ∧ snapshot.rows ≠ none ∧ snapshot.totalSeen = rows.length) := by
  cases listing with
  | error e => exact .inl ⟨⟨e, rfl⟩, snapshot_of_failed read⟩
  | ok payload =>
    refine .inr ⟨?_, snapshot_of_listed (listed payload rfl) read⟩
    rintro ⟨e, absurd⟩
    cases absurd

section Tells
variable {plan : RunPlan} {rows : List Json} {squid : Json} {b : Upstream} {funds : Funds} {run : Fields}
  {runId : Json} {listing : Except Exc Json}

theorem rowsOf_ready (ready : Ready plan rows (plan.written squid) b) :
    b.rowsOf squid = some (plan.rowsAtStart rows) := by
  obtain ⟨q, held, _, scraped⟩ := ready
  rw [RunPlan.written_squidId] at held
  rw [Upstream.rowsOf, held, Option.map_some, scraped]

theorem tellsRows_unchanged {row : Json} {reply : Fields} {counted : Option Nat}
    (action : Fields.get reply "tasks_action" = .str "unchanged")
    (count : Fields.get reply "task_count" = (counted.map fun n => Json.int n).getD .null)
    (known : ∀ n, counted = some n → n = rows.length) (here : b.rowsOf squid = some rows) :
    TellsRows rows row squid b reply := by
  refine ⟨?_, fun _ => here, fun other => absurd (action.symm.trans other) (by decide),
    fun other => absurd (action.symm.trans other) (by decide)⟩
  · cases counted with
    | none => exact .inl count
    | some n =>
      refine .inr ⟨rows, here, ?_⟩
      rw [count, ← known n rfl]
      rfl

theorem tellsRows_added {row squid : Json} {reply : Fields} (action : Fields.get reply "tasks_action" = .str "added")
    (count : Fields.get reply "task_count" = .int 1) (here : b.rowsOf squid = some [row]) :
    TellsRows [] row squid b reply where
  count := .inr ⟨_, here, count⟩
  unchanged other := absurd (action.symm.trans other) (by decide)
  added _ := ⟨rfl, here⟩
  replaced other := absurd (action.symm.trans other) (by decide)

theorem tellsRows_replaced_iff {row squid : Json} {reply : Fields} {n : Nat}
    (action : Fields.get reply "tasks_action" = .str "replaced") (count : Fields.get reply "task_count" = .int 1)
    (note : Fields.get reply "tasks_note" = .str (tasksNote .replaced (some 1) n))
    (replacedCount : Fields.get reply "replaced_task_count" = .int n) (here : b.rowsOf squid = some [row]) :
    TellsRows rows row squid b reply ↔ n = rows.length := by
  constructor
  · intro tells
    obtain ⟨_, number, _⟩ := tells.replaced action
    rw [replacedCount] at number
    simpa using number
  · rintro rfl
    exact {
      count := .inr ⟨_, here, count⟩
      unchanged := fun other => absurd (action.symm.trans other) (by decide)
      added := fun other => absurd (action.symm.trans other) (by decide)
      replaced := fun _ => ⟨here, replacedCount, note⟩ }

/-- The report of a run that started is right, unless it replaced rows it had not seen. -/
theorem runReport_tells_iff (funds : Funds) (run : Fields) (runId : Json) (reuse : plan.args.reuse = true)
    (open' : ¬ plan.Refused) (ready : Ready plan rows (plan.written squid) b)
    (listed : ∀ payload, listing = .ok payload → Upstream.listsAll rows payload)
    (read : snapshotOf listing = some plan.snapshot) :
    TellsRows rows (.obj plan.taskParams) squid b (runReport plan funds (plan.written squid) run runId) ↔
      ¬ (plan.args.replaceTasks = true ∧ plan.input ≠ [] ∧ rows ≠ [] ∧ ∃ e, listing = .error e) := by
  obtain ⟨action, count, note, replacedCount⟩ := runReport_rows plan funds (plan.written squid) run runId
  have here := rowsOf_ready ready
  have known : ∀ n, (plan.snapshot.rows.map fun _ => plan.snapshot.totalSeen) = some n → n = rows.length := by
    intro n counted
    rcases snapshot_cases listed read with ⟨_, none'⟩ | ⟨_, _, total⟩
    · rw [none'] at counted
      cases counted
    · obtain ⟨_, _, rfl⟩ := Option.map_eq_some_iff.mp counted
      exact total
  generalize runReport plan funds (plan.written squid) run runId = reply at action count note replacedCount ⊢
  rw [RunPlan.rowsAtStart, if_neg (by simp [reuse])] at here
  unfold RunPlan.written at action count note replacedCount
  by_cases empty : plan.input = []
  · simp only [if_pos empty] at action count here
    refine iff_of_true (tellsRows_unchanged action count known here) ?_
    exact fun unseen => unseen.2.1 empty
  by_cases replace : plan.args.replaceTasks = true
  · simp only [if_neg empty, if_pos replace] at action count note replacedCount here
    rw [tellsRows_replaced_iff action count note (replacedCount trivial) here]
    -- the count is that of the listing, and 0 where there was none
    rcases snapshot_cases listed read with ⟨failed, none'⟩ | ⟨seen, _, total⟩
    · rw [none']
      constructor
      · rintro empty' ⟨_, _, some', _⟩
        exact some' (List.length_eq_zero_iff.mp empty'.symm)
      · intro unseen
        by_contra some'
        exact unseen ⟨replace, empty, fun none'' => some' (by rw [none'']; rfl), failed⟩
    · exact iff_of_true total fun unseen => seen unseen.2.2.2
  by_cases settings : plan.taskParams = []
  · simp only [if_neg empty, if_neg replace, if_pos settings] at action count here
    refine iff_of_true (tellsRows_unchanged action count known here) ?_
    exact fun unseen => replace unseen.1
  · simp only [if_neg empty, if_neg replace, if_neg settings] at action count here
    have none' : rows = [] := by
      have free : ¬ (plan.snapshot.rows = none ∨ plan.snapshot.totalSeen ≠ 0) := fun some' =>
        open' ⟨reuse, by simpa using replace, settings, some'⟩
      rw [not_or, not_not] at free
      rcases snapshot_cases listed read with ⟨_, unread⟩ | ⟨_, _, total⟩
      · rw [unread] at free
        exact absurd rfl free.1
      · exact List.length_eq_zero_iff.mp (total.symm.trans free.2)
    subst none'
    exact iff_of_true (tellsRows_added action count here) fun unseen => replace unseen.1

end Tells

/-! ### Replies with a run -/

def NamesNoRun (reply : Fields) : Prop := Dict.get? reply "run_id" = none

theorem namesNoRun_fromUpstream : FromUpstream NamesNoRun :=
  fromUpstream_absent (by decide) (by decide) fun _ _ => rfl

/-- What a start is followed by: the report of its run, or a reply that names none. -/
theorem answers_afterStart_report (plan : RunPlan) (funds : Funds) (w : Written) (started : Except Exc Fields) :
    (afterStart plan funds w started).Ends (Answers NamesNoRun fun reply =>
      NamesNoRun reply ∨ ∃ run runId, reply = runReport plan funds w run runId) := by
  cases started with
  | error e =>
    refine (answers_startFailed namesNoRun_fromUpstream plan funds w e).mono fun r answers => ?_
    rcases r with (_ | _) | _
    · trivial
    · exact answers
    · exact .inl answers
  | ok run =>
    refine answers_bind (answers_item _ _) fun runId _ => ?_
    exact answers_bind (answers_send _) fun _ _ => .inr ⟨run, runId, rfl⟩

/-- Before the writes a reply names a run only if the key had one. -/
theorem prepareRun_names (s : Session) (args : RunArgs) : (prepareRun s args).Ends
    (Answers (fun reply => NamesNoRun reply ∨ ∃ runId, reply = alreadySubmitted runId) fun _ => True) := by
  refine answers_prepareRun s args (fun _ refuses => ?_) (fun _ => .inl rfl) fun runId => .inr ⟨runId, rfl⟩
  exact .inl (refuses.absent (by decide))

theorem writeInput_names (plan : RunPlan) : (writeInput plan).Ends (Answers NamesNoRun fun _ => True) := by
  refine answers_writeInput namesNoRun_fromUpstream plan fun _ _ _ squidId => ?_
  exact answers_addInput namesNoRun_fromUpstream plan squidId fun _ _ => ⟨rfl, rfl⟩

section Success
variable {s : Session} {args : RunArgs} {name : String} {crawler : Crawler} {params : Json}
  {listing : Except Exc Json} {q : Squid} {u v : Upstream} {tr : List (Event Call Answer Upstream)}
  {reply : Fields} {runId : Json}

theorem reply_of_unstarted {σ : Type} {W : World Call Answer σ} {st mid : σ} {tr : List (Event Call Answer σ)}
    (exec : Exec W (runScraperImpl s args) st tr (.ok reply) mid) (unstarted : ∀ e ∈ tr, ¬ e.op.Starts) :
    NamesNoRun reply ∨ ∃ runId, reply = alreadySubmitted runId := by
  obtain ⟨outcome, body, settled⟩ := exec_structured.mp exec
  have failed {α : Type} {P : α → Prop} {e : Exit}
      (answers : Answers NamesNoRun P (.error e : Except Exit α)) (same : outcome = .error e) : NamesNoRun reply := by
    refine answers_settle namesNoRun_fromUpstream ?_ settled.symm
    rw [same]
    cases e <;> exact answers
  rcases exec_bind.mp body with ⟨e, rfl, head⟩ | ⟨plan, m, first, rest, rfl, head, tail⟩
  · have ends := Ensures.of_ends (prepareRun_names s args) _ _ _ head
    cases e with
    | raised e =>
      have raises : Answers NamesNoRun (fun _ => True) (.error (.raised e) : Except Exit RunPlan) := trivial
      exact .inl (failed raises rfl)
    | returned early =>
      cases settled
      exact ends
  cases Commits.of_exec tail with
  | asks =>
    cases settled
    exact .inl rfl
  | @unread _ e _ read =>
    have ends := Ensures.of_ends (answers_bind (answers_send _) fun _ _ => trivial :
      (readFunds plan).Ends (Answers NamesNoRun fun _ => True)) _ _ _ read
    exact .inl (failed ends rfl)
  | @unwritten _ _ _ e _ _ read wrote =>
    exact .inl (failed (Ensures.of_ends (writeInput_names plan) _ _ _ wrote) rfl)
  | @starts _ _ _ w ans _ _ _ b _ _ read wrote step after =>
    exact absurd ⟨_, rfl⟩ (unstarted ⟨b, .startRun w.squidId, ans⟩ (by simp))

/-- A reply with a run is right about the saved inputs, exactly unless rows were replaced that could
not be listed; one of a run started before says nothing of them. -/
theorem success_tells_rows_iff (reused : args.reused = some name) (held : u.squids (.str name) = some q)
    (exec : Exec (listedWorld crawler params listing) (runScraperImpl s args) u tr (.ok reply) v)
    (replied : Dict.get? reply "run_id" = some runId) :
    (∀ e ∈ tr, e.op.Starts → (TellsRows q.rows (args.row crawler params) (.str name) e.before reply ↔
      ¬ ReplacesUnseen args q.rows listing)) ∧
    ((∀ e ∈ tr, ¬ e.op.Starts) → ∃ runId, reply = alreadySubmitted runId) := by
  have within := ((Upstream.world Upstream.listsAll).given (describes crawler params)).given_within (lists listing)
  have inner := (Upstream.world Upstream.listsAll).given_within (describes crawler params)
  have named : ¬ NamesNoRun reply := by
    intro absent
    rw [NamesNoRun, replied] at absent
    cases absent
  constructor
  · intro e member starts
    obtain ⟨plan, first, b', listing', funds, next, rest, outcome, ans, same, settled, planned, atRows, on, open',
      ready, _, after⟩ := (Launch.of_mem exec member starts).reused
        (fun _ _ _ _ step => inner _ _ _ _ (within _ _ _ _ step)) reused held
    obtain ⟨_, given, _⟩ := planned.step_of_mem _ atRows
    obtain rfl : listing' = listing := given
    have reported : ∃ run runId, reply = runReport plan funds (plan.written (.str name)) run runId := by
      have answers := Ensures.of_ends (answers_afterStart_report plan funds (plan.written (.str name)) ans) _ _ _ after
      rcases outcome with e | value
      · refine absurd (answers_settle namesNoRun_fromUpstream ?_ settled.symm) named
        cases e <;> exact answers
      · cases settled
        exact answers.resolve_left named
    obtain ⟨run, runId, rfl⟩ := reported
    have tells := runReport_tells_iff funds run runId on.reuse open' ready on.listed on.read
    rw [on.input_eq, on.args_eq] at tells
    have row : Json.obj plan.taskParams = args.row crawler params := by
      rw [RunPlan.taskParams, on.input_eq, translated_of_describes (planned.within within), RunArgs.row]
    rw [row] at tells
    exact tells
  · exact fun unstarted => (reply_of_unstarted exec unstarted).resolve_left named

end Success

/-! ### Rows replaced, seen and unseen -/

section Sample

theorem may_replace_and_start (rows : List Json) (listing : Except Exc Json) {snapshot : Snapshot}
    (reported : ∀ payload, listing = .ok payload → Upstream.listsAll rows payload)
    (read : snapshotOf listing = some snapshot) :
    May (listedWorld bareCrawler .null listing) (runScraperImpl plainSession (rowCall "squid"))
      (oneSquid "squid" ⟨plainRecord "squid" .null, rows⟩) fun tr r _ =>
        ∃ reply, r = .ok reply ∧ Dict.get? reply "run_id" = some (.str "run") ∧
          Fields.get reply "tasks_action" = .str "replaced" ∧
          Fields.get reply "replaced_task_count" = .int snapshot.totalSeen ∧ ∃ e ∈ tr, e.op.Starts := by
  refine may_launch rows listing reported read (.ok [("id", .str "run")])
    (fun b => ⟨_, trivial, trivial, trivial, rfl⟩) ?_
  intro funds b t _
  refine may_bind_of_exec (exec_pure.mpr ⟨rfl, rfl, rfl⟩) ?_
  refine may_send () ⟨trivial, trivial, rfl, trivial⟩ (may_pure.mpr fun tr last => ⟨_, rfl, ?_⟩)
  obtain ⟨action, _, _, replaced⟩ := runReport_rows (plainPlan plainSession (rowCall "squid") "squid" .null
    bareCrawler .null snapshot) funds (replacedBy snapshot) [("id", .str "run")] (.str "run")
  refine ⟨?_, action, replaced rfl, ⟨b, _, _⟩, last.mem List.mem_cons_self, _, rfl⟩
  exact runReport_get? _ _ _ _ _ (by decide)

/-- Rows that were listed are counted. -/
theorem listed_rows_are_counted :
    May (listedWorld bareCrawler .null (.ok (.arr (tasksOf twoRows)))) (runScraperImpl plainSession (rowCall "squid"))
      (oneSquid "squid" ⟨plainRecord "squid" .null, twoRows⟩) fun tr r _ =>
        ∃ reply, r = .ok reply ∧ ∃ e ∈ tr, e.op.Starts ∧
          TellsRows twoRows (RunArgs.row (rowCall "squid") bareCrawler .null) (.str "squid") e.before reply := by
  obtain ⟨tr, r, v, exec, reply, rfl, id, _, _, e, member, starts⟩ := may_replace_and_start twoRows
    (.ok (.arr (tasksOf twoRows))) (by rintro _ ⟨⟩; exact listsAll_tasksOf twoRows) rfl
  have tells := (success_tells_rows_iff (leaves_rowCall "squid" (by decide)).reused (oneSquid_held _ _) exec id).1
    e member starts
  refine ⟨tr, _, v, exec, reply, rfl, e, member, starts, tells.mpr ?_⟩
  rintro ⟨_, _, _, _, absurd⟩
  cases absurd

/-- Two rows that could not be listed are deleted, and the reply counts none. -/
theorem unlisted_rows_are_denied :
    May (listedWorld bareCrawler .null (.error (.api (ApiError.make 500 none none))))
      (runScraperImpl plainSession (rowCall "squid")) (oneSquid "squid" ⟨plainRecord "squid" .null, twoRows⟩)
      fun tr r _ => ∃ reply, r = .ok reply ∧ Dict.get? reply "run_id" = some (.str "run") ∧
        ∃ e ∈ tr, e.op.Starts ∧
          ¬ TellsRows twoRows (RunArgs.row (rowCall "squid") bareCrawler .null) (.str "squid") e.before reply := by
  obtain ⟨tr, r, v, exec, reply, rfl, id, action, replaced, e, member, starts⟩ := may_replace_and_start twoRows
    (.error (.api (ApiError.make 500 none none))) (fun _ absurd => by cases absurd) rfl
  refine ⟨tr, _, v, exec, reply, rfl, id, e, member, starts, fun tells => ?_⟩
  obtain ⟨_, number, _⟩ := tells.replaced action
  rw [replaced] at number
  exact absurd number (by decide)

end Sample
end LobstrMcp
