import LobstrMcp.Run.Launch
import LobstrMcp.Run.Restore

/-!
A run that the API refuses after the rows were replaced. The undo adds the old rows again, to the new
one: that row stays, so the squid is back where it was only if it had held the row before.
-/

namespace LobstrMcp
open Interaction Tool

def SameRows (rows : List Json) (squid : Json) (v : Upstream) : Prop :=
  ∃ held, v.rowsOf squid = some held ∧ ∀ row, row ∈ held ↔ row ∈ rows

def RunArgs.row (args : RunArgs) (crawler : Crawler) (params : Json) : Json :=
  .obj ((translateInputSchema crawler params).taskParams args.input)

section Undo
variable {reports : List Json → Json → Prop} {u v : Upstream} {squid : Json} {q : Squid} {rows : List Json}
  {snapshot : Snapshot} {tr : List (Event Call Answer Upstream)}

/-- An undo that says nothing was lost has added every row, to whatever was there. -/
theorem rows_of_restoreTasks {failure reply : Fields} (complete : Complete rows snapshot)
    (held : u.squids squid = some q)
    (exec : Exec (Upstream.world reports) (restoreTasks squid snapshot failure) u tr (.ok reply) v)
    (restored : Fields.get reply "tasks_lost" = .bool false) :
    v.squids squid = some { q with rows := addRows q.rows rows } := by
  unfold restoreTasks at exec
  dsimp only at exec
  split at exec
  · obtain ⟨_, same, rfl⟩ := exec_pure.mp exec
    cases same
    simp at restored
  · rename_i none'
    obtain ⟨_, _, rfl⟩ := exec_pure.mp exec
    have empty : rows = [] := (complete _ none').symm
    rw [empty, held]
    rfl
  · rename_i saved _ present
    obtain ⟨ans, next, rest, step, rfl, tail⟩ := exec_request_bind.mp exec
    cases ans with
    | ok payload =>
      obtain ⟨_, _, rfl⟩ := exec_pure.mp tail
      have added := step_addTasks step held
      rwa [complete saved present] at added
    | error e =>
      cases e with
      | api _ | transport _ =>
        obtain ⟨_, same, _⟩ := exec_pure.mp tail
        cases same
        simp at restored
      | _ => exact absurd tail not_exec_raised

/-- A refused start says what became of the rows only after it has put replaced ones back. -/
theorem exec_startFailed_restored {plan : RunPlan} {funds : Funds} {w : Written} {rejection : ApiError}
    {reply : Fields}
    (exec : Exec (Upstream.world reports) (startFailed plan funds w (.api rejection)) u tr (.ok reply) v)
    (restored : Fields.get reply "tasks_lost" = .bool false) : w.action = .replaced ∧
      ∃ failure, Exec (Upstream.world reports) (restoreTasks w.squidId plan.snapshot failure) u tr (.ok reply) v := by
  unfold startFailed at exec
  by_cases replaced : w.action = .replaced
  · simp only [replaced, if_true] at exec
    exact ⟨replaced, _, exec⟩
  simp only [replaced, if_false] at exec
  obtain ⟨_, same, _⟩ := exec_pure.mp exec
  have silent : Dict.get? (Dict.update (toErrorDict rejection) (runFacts plan w)) "tasks_lost" = none := by
    rw [Dict.get?_update_absent (by simp [runFacts, Dict.keys])]
    exact toErrorDict_get_absent rejection (by decide)
  cases same
  cases left : funds.remaining with
  | none =>
    rw [left] at restored
    rw [Fields.get, silent] at restored
    cases restored
  | some left' =>
    rw [left] at restored
    dsimp only at restored
    rw [Fields.get, Dict.get?_set_other _ _ (by decide), silent] at restored
    cases restored

theorem ends_restoreTasks_open (failure : Fields) : (restoreTasks squid snapshot failure).Ends
    fun r => ∀ reply, r ≠ .error (.returned reply) := by
  unfold restoreTasks
  dsimp only
  split
  · exact fun _ absurd => by cases absurd
  · exact fun _ absurd => by cases absurd
  · intro ans
    rcases ans with e | payload
    · cases e <;> exact fun _ absurd => by cases absurd
    · exact fun _ absurd => by cases absurd

theorem ends_startFailed_open (plan : RunPlan) (funds : Funds) (w : Written) (rejection : ApiError) :
    (startFailed plan funds w (.api rejection)).Ends fun r => ∀ reply, r ≠ .error (.returned reply) := by
  unfold startFailed
  show Program.Ends _ (if w.action = .replaced then _ else _)
  split
  · exact ends_restoreTasks_open _
  · exact fun _ absurd => by cases absurd

theorem settled_restored {plan : RunPlan} {funds : Funds} {w : Written} {rejection : ApiError}
    {outcome : Except Exit Fields} {reply : Fields} {verify : Option String}
    (exec : Exec (Upstream.world reports) (startFailed plan funds w (.api rejection)) u tr outcome v)
    (settled : .ok reply = settle verify outcome) (restored : Fields.get reply "tasks_lost" = .bool false) :
    outcome = .ok reply := by
  have open' := Ensures.of_ends (ends_startFailed_open plan funds w rejection) _ _ _ exec
  rcases outcome with (e | returned) | value
  · cases e with
    | api other =>
      cases settled
      rw [Fields.get, toErrorDict_get_absent other (by decide)] at restored
      cases restored
    | transport lost =>
      cases settled
      simp [transportErrorDict] at restored
    | _ => cases settled
  · exact absurd rfl (open' returned)
  · cases settled
    rfl

end Undo

section Refused
variable {s : Session} {args : RunArgs} {name : String} {crawler : Crawler} {params : Json} {q : Squid}
  {u v b : Upstream} {tr : List (Event Call Answer Upstream)} {reply : Fields} {squid : Json}
  {rejection : ApiError}

/-- What a refused run leaves on the squid: the row of its input, and the rows it had replaced. -/
theorem rows_after_refused (reused : args.reused = some name) (held : u.squids (.str name) = some q)
    (all : ∀ row ∈ q.rows, (reAddable row).isSome)
    (exec : Exec ((Upstream.world Upstream.listsAll).given (describes crawler params)) (runScraperImpl s args) u tr
      (.ok reply) v)
    (refused : (⟨b, .startRun squid, .error (.api rejection)⟩ : Event Call Answer Upstream) ∈ tr)
    (restored : Fields.get reply "tasks_lost" = .bool false) :
    v.rowsOf (.str name) = some (addRows [args.row crawler params] q.rows) := by
  have within := (Upstream.world Upstream.listsAll).given_within (describes crawler params)
  obtain ⟨plan, first, b', listing, funds, next, rest, outcome, ans, same, settled, planned, _, on, _, ready, step,
    after⟩ := (Launch.of_mem exec refused ⟨squid, rfl⟩).reused within reused held
  cases same
  have step := within _ _ _ _ step
  obtain rfl : next = b := step
  have after := after.within within
  obtain rfl := settled_restored after settled restored
  obtain ⟨replaced, failure, undo⟩ := exec_startFailed_restored after restored
  obtain ⟨q', present, _, rows⟩ := ready
  have complete := complete_of_listing all on.listed on.read
  have undone := rows_of_restoreTasks complete present undo restored
  rw [RunPlan.written_squidId] at undone
  -- what the restore finds is the one row of the input
  have swapped : plan.rowsAtStart q.rows = [args.row crawler params] := by
    have given : plan.input ≠ [] ∧ plan.args.replaceTasks = true := by
      unfold RunPlan.written at replaced
      by_cases empty : plan.input = []
      · simp [empty] at replaced
      · by_cases replace : plan.args.replaceTasks = true
        · exact ⟨empty, replace⟩
        · by_cases row : plan.taskParams = [] <;> simp [empty, replace, row] at replaced
    rw [RunPlan.rowsAtStart, if_neg (by simp [on.reuse]), if_neg given.1, if_pos given.2, RunPlan.taskParams,
      on.input_eq, translated_of_describes planned, RunArgs.row]
  rw [Upstream.rowsOf, undone, Option.map_some, rows, swapped]

/-- A refused run undoes the replacement, exactly if the squid had held the new row already. -/
theorem refused_run_undone_iff (reused : args.reused = some name) (held : u.squids (.str name) = some q)
    (all : ∀ row ∈ q.rows, (reAddable row).isSome)
    (exec : Exec ((Upstream.world Upstream.listsAll).given (describes crawler params)) (runScraperImpl s args) u tr
      (.ok reply) v)
    (refused : (⟨b, .startRun squid, .error (.api rejection)⟩ : Event Call Answer Upstream) ∈ tr)
    (restored : Fields.get reply "tasks_lost" = .bool false) :
    SameRows q.rows (.str name) v ↔ args.row crawler params ∈ q.rows := by
  have left := rows_after_refused reused held all exec refused restored
  constructor
  · rintro ⟨rows, present, same⟩
    obtain rfl := Option.some.inj (left.symm.trans present)
    exact (same _).mp ((mem_addRows _ _ _).mpr (.inl List.mem_cons_self))
  · intro before
    refine ⟨_, left, fun row => ?_⟩
    rw [mem_addRows, List.mem_singleton]
    constructor
    · rintro (rfl | member)
      · exact before
      · exact member
    · exact .inr

end Refused
/-! ### A refused run -/

section Sample

def replacedBy (snapshot : Snapshot) : Written where
  squidId := .str "squid"
  action := .replaced
  taskCount := some 1
  replacedCount := snapshot.totalSeen

/-- A replacement may come through to the start of its run, whatever that is answered. -/
theorem may_launch (rows : List Json) (listing : Except Exc Json) {snapshot : Snapshot}
    (reported : ∀ payload, listing = .ok payload → Upstream.listsAll rows payload)
    (read : snapshotOf listing = some snapshot) (started : Except Exc Fields)
    (answers : ∀ b, ∃ t, listedWorld bareCrawler .null listing b (.startRun (.str "squid")) started t)
    {Q : List (Event Call Answer Upstream) → Except Exc Fields → Upstream → Prop}
    (rest : ∀ funds b t, listedWorld bareCrawler .null listing b (.startRun (.str "squid")) started t →
      May (listedWorld bareCrawler .null listing) (afterStart (plainPlan plainSession (rowCall "squid") "squid" .null
        bareCrawler .null snapshot) funds (replacedBy snapshot) started) t fun tail r v => ∀ tr,
          ⟨b, .startRun (.str "squid"), started⟩ :: tail <:+ tr → Q tr (settle (some runScraperVerify) r) v) :
    May (listedWorld bareCrawler .null listing) (runScraperImpl plainSession (rowCall "squid"))
      (oneSquid "squid" ⟨plainRecord "squid" .null, rows⟩) Q := by
  have leaves := leaves_rowCall "squid" (by decide)
  have listed : listedWorld bareCrawler .null listing (oneSquid "squid" ⟨plainRecord "squid" .null, rows⟩)
      (.listTasks (.str "squid")) listing (oneSquid "squid" ⟨plainRecord "squid" .null, rows⟩) := by
    refine ⟨rfl, trivial, rfl, ?_⟩
    cases listing with
    | ok payload => exact ⟨_, oneSquid_held _ _, reported payload rfl⟩
    | error e => trivial
  have prepared := exec_prepareRun_attached (s := plainSession) leaves (settled_plainRecord "squid" .null)
    (.ok .null) listing (inputErrors_rowCall "squid" (by decide)) read
    ⟨trivial, trivial, rfl, _, oneSquid_held _ _, rfl, rfl⟩ ⟨trivial, rfl, rfl, trivial⟩
    ⟨trivial, rfl, rfl, trivial⟩ ⟨trivial, trivial, rfl, trivial⟩ listed
  refine may_commit prepared rfl ⟨trivial, trivial, rfl, trivial⟩ fun funds => ?_
  refine may_replace leaves.reuse rfl (List.cons_ne_nil _ _) rfl ⟨trivial, trivial, trivial, rfl⟩
    ⟨trivial, trivial, trivial, rfl⟩ ⟨trivial, trivial, trivial, rfl⟩ ?_
  unfold startAndReport
  obtain ⟨t, step⟩ := answers _
  refine may_request started step ((rest _ _ t step).mono fun tail r v met => ?_)
  apply met
  repeat first
    | exact List.suffix_rfl
    | refine List.IsSuffix.trans ?_ (List.suffix_append _ _)
    | refine List.IsSuffix.trans ?_ (List.suffix_cons _ _)

theorem may_restoreTasks {W : World Call Answer Upstream} {saved : List Fields} {total : Nat} {failure : Fields}
    {u v : Upstream} {squid : Json} (step : W u (.addTasks squid (saved.map .obj)) (.ok Json.null) v) :
    May W (restoreTasks squid ⟨some saved, total⟩ failure) u fun _ r _ =>
      ∃ reply, r = .ok reply ∧ Fields.get reply "tasks_lost" = .bool false := by
  unfold restoreTasks
  dsimp only
  cases saved with
  | nil =>
    refine may_pure.mpr ⟨_, rfl, ?_⟩
    simp
  | cons first rest =>
    refine may_request (.ok Json.null) step (may_pure.mpr ⟨_, rfl, ?_⟩)
    simp

/-- The world in which the crawler has no inputs of its own. -/
abbrev bareWorld : World Call Answer Upstream :=
  (Upstream.world Upstream.listsAll).given (describes bareCrawler .null)

def noCredits : Exc := .api (ApiError.make 402 (some "NotEnoughCredits") none)

theorem may_refuse_start (rows : List Json) :
    May bareWorld (runScraperImpl plainSession (rowCall "squid")) (oneSquid "squid" ⟨plainRecord "squid" .null, rows⟩)
      fun tr r _ => ∃ reply b, r = .ok reply ∧ Fields.get reply "tasks_lost" = .bool false ∧
        ⟨b, .startRun (.str "squid"), .error noCredits⟩ ∈ tr := by
  have launched : May (listedWorld bareCrawler .null (.ok (.arr (tasksOf rows))))
      (runScraperImpl plainSession (rowCall "squid")) (oneSquid "squid" ⟨plainRecord "squid" .null, rows⟩)
      fun tr r _ => ∃ reply b, r = .ok reply ∧ Fields.get reply "tasks_lost" = .bool false ∧
        ⟨b, .startRun (.str "squid"), .error noCredits⟩ ∈ tr := by
    refine may_launch rows (.ok (.arr (tasksOf rows))) (by rintro _ ⟨⟩; exact listsAll_tasksOf rows) rfl
      (.error noCredits) (fun b => ⟨b, trivial, trivial, rfl⟩) ?_
    intro funds b t _
    unfold afterStart startFailed noCredits
    refine may_bind_of_exec (exec_pure.mpr ⟨rfl, rfl, rfl⟩) ?_
    dsimp only
    rw [if_pos (show (replacedBy _).action = .replaced from rfl)]
    refine (may_restoreTasks ⟨trivial, trivial, trivial, rfl⟩).mono ?_
    rintro tail r v ⟨reply, rfl, restored⟩ tr last
    exact ⟨reply, b, rfl, restored, last.mem List.mem_cons_self⟩
  obtain ⟨tr, r, v, exec, refused⟩ := launched
  exact ⟨tr, r, v, exec.within (World.given_within _ _), refused⟩

def twoRows : List Json := [.obj [("query", .str "new")], .obj [("query", .str "old")]]

/-- A row that the squid had held does not join the others. -/
theorem a_held_row_is_undone :
    May bareWorld (runScraperImpl plainSession (rowCall "squid")) (oneSquid "squid" ⟨plainRecord "squid" .null, twoRows⟩)
      fun _ _ v => SameRows twoRows (.str "squid") v := by
  obtain ⟨tr, r, v, exec, reply, b, rfl, restored, refused⟩ := may_refuse_start twoRows
  have undone := refused_run_undone_iff (leaves_rowCall "squid" (by decide)).reused (oneSquid_held _ _) (by decide)
    exec refused restored
  exact ⟨tr, _, v, exec, undone.mpr (by decide)⟩

/-- Another row stays, for the next run to scrape. -/
theorem a_new_row_is_left :
    May bareWorld (runScraperImpl plainSession (rowCall "squid"))
      (oneSquid "squid" ⟨plainRecord "squid" .null, [.obj [("query", .str "old")]]⟩) fun tr r v =>
        ∃ reply b, r = .ok reply ∧ Fields.get reply "tasks_lost" = .bool false ∧
          ⟨b, .startRun (.str "squid"), .error noCredits⟩ ∈ tr ∧
          ¬ SameRows [.obj [("query", .str "old")]] (.str "squid") v := by
  obtain ⟨tr, r, v, exec, reply, b, rfl, restored, refused⟩ := may_refuse_start [.obj [("query", .str "old")]]
  refine ⟨tr, _, v, exec, reply, b, rfl, restored, refused, ?_⟩
  have left := rows_after_refused (leaves_rowCall "squid" (by decide)).reused (oneSquid_held _ _) (by decide) exec
    refused restored
  rintro ⟨rows, present, same⟩
  obtain rfl := Option.some.inj (left.symm.trans present)
  have kept := (same (RunArgs.row (rowCall "squid") bareCrawler .null)).mp
    ((mem_addRows _ _ _).mpr (.inl List.mem_cons_self))
  exact absurd kept (by decide)

end Sample
end LobstrMcp
