import LobstrMcp.Run.Attached

/-!
When `run_scraper` deletes saved rows. An input that only carries settings is to leave every row
in place; with `replace_tasks` it does not: the rows are emptied for a row that carries nothing.
-/

namespace LobstrMcp
open Interaction Tool

/-- The rows of a squid, none when there is no such squid. -/
def Upstream.rowsOf (u : Upstream) (squid : Json) : Option (List Json) := (u.squids squid).map Squid.rows

/-- What the tool promises about saved rows: they are deleted only when that is asked for and the
input has a row of its own, and an input without one neither deletes nor adds any. -/
structure RowsPromise (t : Translated) (args : RunArgs) (u : Upstream)
    (tr : List (Event Call Answer Upstream)) (v : Upstream) : Prop where
  deletes : ∀ e ∈ tr, ∀ squid, e.op = .emptySquid squid →
    args.replaceTasks = true ∧ ∃ k ∈ Dict.keys args.input, t.isTaskKey k = true
  adds : (∀ k ∈ Dict.keys args.input, t.isTaskKey k = false) →
    ∀ e ∈ tr, ∀ squid rows, e.op ≠ .addTasks squid rows
  keeps : (∀ k ∈ Dict.keys args.input, t.isTaskKey k = false) →
    ∀ squid, v.rowsOf squid = u.rowsOf squid

/-- An input to replace the rows with that has no row: settings only, and valid as such. -/
def ReplacesWithSettings (t : Translated) (input : Fields) (replace : Bool) : Prop :=
  replace = true ∧ input ≠ [] ∧ (∀ k ∈ Dict.keys input, t.isTaskKey k = false) ∧
    validateInput input t false = []

/-! ### The promise, where it holds -/

theorem taskParams_of_settings {t : Translated} {input : Fields}
    (settings : ∀ k ∈ Dict.keys input, t.isTaskKey k = false) : t.taskParams input = [] := by
  have none' : (input.filter fun e => t.isTaskKey e.1) = [] := by
    rw [List.filter_eq_nil_iff]
    intro e member
    rw [settings e.1 (List.mem_map_of_mem member)]
    exact Bool.false_ne_true
  simp [Translated.taskParams, Translated.routed, none', Dict.collect, Dict.update]

theorem inputErrors_of_settings {t : Translated} {args : RunArgs} (reuse : args.reuse = true)
    (present : args.input ≠ []) (settings : ∀ k ∈ Dict.keys args.input, t.isTaskKey k = false) :
    inputErrors args t = validateInput args.input t false := by
  have none' : (Dict.keys args.input).any t.isTaskKey = false := by
    rw [List.any_eq_false]
    intro k member
    rw [settings k member]
    exact Bool.false_ne_true
  simp [inputErrors, reuse, present, none']

/-- A write that neither empties, adds nor deletes keeps the rows of every squid. -/
theorem effect_rowsOf {u : Upstream} {c : Call} {made : Fields}
    (create : ∀ crawler name, c ≠ .createSquid crawler name) (delete : ∀ squid, c ≠ .deleteSquid squid)
    (empty : ∀ squid, c ≠ .emptySquid squid) (add : ∀ squid rows, c ≠ .addTasks squid rows)
    (squid : Json) : (u.effect c made).rowsOf squid = u.rowsOf squid := by
  have edited (target : Json) (change : Squid → Squid) (kept : ∀ q, (change q).rows = q.rows) :
      (u.edit target change squid).map Squid.rows = (u.squids squid).map Squid.rows := by
    by_cases here : squid = target
    · subst here
      rw [Upstream.edit_same, Option.map_map]
      exact congrFun (congrArg Option.map (funext kept)) _
    · rw [Upstream.edit_other _ _ here]
  unfold Upstream.rowsOf Upstream.effect
  cases c with
  | createSquid crawler name => exact absurd rfl (create crawler name)
  | deleteSquid target => exact absurd rfl (delete target)
  | emptySquid target => exact absurd rfl (empty target)
  | addTasks target rows => exact absurd rfl (add target rows)
  | updateSquid target settings => exact edited target _ fun _ => rfl
  | setSquidActive target active => exact edited target _ fun _ => rfl
  | _ => rfl

theorem world_rowsOf {reports : List Json → Json → Prop} {u v : Upstream} {c : Call} {ans : Answer c}
    (step : Upstream.world reports u c ans v)
    (create : ∀ crawler name, c ≠ .createSquid crawler name) (delete : ∀ squid, c ≠ .deleteSquid squid)
    (empty : ∀ squid, c ≠ .emptySquid squid) (add : ∀ squid rows, c ≠ .addTasks squid rows)
    (squid : Json) : v.rowsOf squid = u.rowsOf squid := by
  by_cases writes : c.writes = true
  · rw [Upstream.world_write writes] at step
    cases ans with
    | ok payload =>
      obtain ⟨_, rfl⟩ := (step : u.Takes c _ v)
      exact effect_rowsOf create delete empty add squid
    | error e =>
      cases e with
      | api rejection => rw [show v = u from step]
      | transport lost =>
        rcases (step : v = u ∨ _) with rfl | ⟨_, made, _, rfl⟩
        · rfl
        · exact effect_rowsOf create delete empty add squid
      | _ => exact step.elim
  · rw [Upstream.world_keeps (by simpa using writes) step]

section Promise
variable {reports : List Json → Json → Prop} {W : World Call Answer Upstream} {s : Session}
  {args : RunArgs} {u v : Upstream} {tr : List (Event Call Answer Upstream)}

/-- A plan whose input has no row, and which replaces nothing, keeps every row. -/
theorem commitRun_keeps_rows (within : W.Within (Upstream.world reports)) {plan : RunPlan}
    {r : Except Exit Fields} (reuse : plan.args.reuse = true) (noRow : plan.taskParams = [])
    (noReplace : plan.input = [] ∨ plan.args.replaceTasks = false)
    (run : Exec W (commitRun s plan) u tr r v) :
    (∀ e ∈ tr, ∀ squid rows, e.op ≠ .addTasks squid rows) ∧
      (∀ e ∈ tr, ∀ squid, e.op ≠ .emptySquid squid) ∧ ∀ squid, v.rowsOf squid = u.rowsOf squid := by
  have create (crawler : Json) (name : Option String) : ¬ plan.MayIssue (.createSquid crawler name) := by
    simp [RunPlan.MayIssue, RunPlan.MayWrite, reuse]
  have delete (squid : Json) : ¬ plan.MayIssue (.deleteSquid squid) := by
    simp [RunPlan.MayIssue, RunPlan.MayWrite, reuse]
  have empty (squid : Json) : ¬ plan.MayIssue (.emptySquid squid) := by
    rcases noReplace with none' | none' <;> simp [RunPlan.MayIssue, RunPlan.MayWrite, none']
  have add (squid : Json) (rows : List Json) : ¬ plan.MayIssue (.addTasks squid rows) := by
    rcases noReplace with none' | none' <;> simp [RunPlan.MayIssue, RunPlan.MayWrite, none', noRow, reuse]
  have uses := uses_commitRun s plan
  refine ⟨fun e member squid rows => run.absent uses (add squid rows) e member,
    fun e member squid => run.absent uses (empty squid) e member, ?_⟩
  refine run.relates (R := fun a b => ∀ squid, b.rowsOf squid = a.rowsOf squid) uses
    (fun _ _ => rfl) ?_ ?_
  · intro a b c first second squid
    exact (second squid).trans (first squid)
  intro a c ans b permitted step squid
  apply world_rowsOf (within _ _ _ _ step)
  · rintro crawler name rfl
    exact create crawler name permitted
  · rintro target rfl
    exact delete target permitted
  · rintro target rfl
    exact empty target permitted
  · rintro target rows rfl
    exact add target rows permitted

theorem RowsPromise.of_reads {t : Translated} (reads : ∀ e ∈ tr, e.before = u ∧ e.op.Reads) :
    RowsPromise t args u tr u where
  deletes := by
    intro e member squid empties
    have read := (reads e member).2.1
    rw [empties] at read
    cases read
  adds := by
    intro _ e member squid rows adds
    have read := (reads e member).2.1
    rw [adds] at read
    cases read
  keeps := fun _ _ => rfl

theorem RowsPromise.after_reads {t : Translated} {first rest : List (Event Call Answer Upstream)}
    (reads : ∀ e ∈ first, e.before = u ∧ e.op.Reads) (promise : RowsPromise t args u rest v) :
    RowsPromise t args u (first ++ rest) v where
  deletes := by
    intro e member squid empties
    rcases List.mem_append.mp member with member | member
    · exact (RowsPromise.of_reads reads).deletes e member squid empties
    · exact promise.deletes e member squid empties
  adds := by
    intro settings e member squid rows
    rcases List.mem_append.mp member with member | member
    · exact (RowsPromise.of_reads reads).adds settings e member squid rows
    · exact promise.adds settings e member squid rows
  keeps := promise.keeps

/-- The promise of a plan, from the schema its input was routed by. -/
theorem commitRun_promise (within : W.Within (Upstream.world reports)) {plan : RunPlan}
    {r : Except Exit Fields} (reuse : args.reuse = true)
    (args_eq : plan.args = args) (input_eq : plan.input = args.input)
    (valid : inputErrors args plan.target.translated = [])
    (fine : ¬ ReplacesWithSettings plan.target.translated args.input args.replaceTasks)
    (run : Exec W (commitRun s plan) u tr r v) :
    RowsPromise plan.target.translated args u tr v := by
  by_cases settings : ∀ k ∈ Dict.keys args.input, plan.target.translated.isTaskKey k = false
  · have noRow : plan.taskParams = [] := by
      rw [RunPlan.taskParams, input_eq]
      exact taskParams_of_settings settings
    have noReplace : plan.input = [] ∨ plan.args.replaceTasks = false := by
      rw [input_eq, args_eq]
      by_contra both
      rw [not_or, Bool.not_eq_false] at both
      refine fine ⟨both.2, both.1, settings, ?_⟩
      rw [← inputErrors_of_settings reuse both.1 settings]
      exact valid
    obtain ⟨adds, empties, keeps⟩ := commitRun_keeps_rows within (args_eq ▸ reuse) noRow noReplace run
    exact ⟨fun e member squid same => absurd same (empties e member squid), fun _ => adds,
      fun _ => keeps⟩
  · have task : ∃ k ∈ Dict.keys args.input, plan.target.translated.isTaskKey k = true := by
      simpa using settings
    refine ⟨?_, fun none' => absurd none' settings, fun none' => absurd none' settings⟩
    intro e member squid empties
    have permitted := run.uses (uses_commitRun s plan) e member
    rw [empties] at permitted
    obtain ⟨_, replace, _⟩ := permitted
    exact ⟨args_eq ▸ replace, task⟩

theorem Prepared.translated_eq {crawler : Crawler} {params : Json} {plan : RunPlan} {r : Except Exit RunPlan}
    (prepared : Prepared s args tr plan)
    (run : Exec ((Upstream.world reports).given (describes crawler params)) (prepareRun s args) u tr r v) :
    plan.target.translated = translateInputSchema crawler params := by
  obtain ⟨b, atCrawler⟩ := prepared.crawler
  obtain ⟨b', ans, atParams, eq⟩ := prepared.translated
  obtain ⟨_, found, _⟩ := run.step_of_mem _ atCrawler
  obtain ⟨_, read, _⟩ := run.step_of_mem _ atParams
  rw [eq, show plan.target.crawler = crawler from found, show paramsOf ans = params from read]

/-- Every call keeps the promise but the one that replaces rows with settings. -/
theorem runScraperImpl_promise {crawler : Crawler} {params : Json} (reuse : args.reuse = true)
    (fine : ¬ ReplacesWithSettings (translateInputSchema crawler params) args.input args.replaceTasks) :
    Ensures ((Upstream.world reports).given (describes crawler params)) (runScraperImpl s args) u
      fun tr _ v => RowsPromise (translateInputSchema crawler params) args u tr v := by
  have within := (Upstream.world reports).given_within (describes crawler params)
  unfold runScraperImpl
  rw [ensures_structured]
  intro tr outcome v run
  rcases exec_bind.mp run with ⟨e, rfl, head⟩ | ⟨plan, mid, first, rest, rfl, head, tail⟩
  · obtain ⟨rfl, reads⟩ := inert_of_reads within (uses_prepareRun s args) head
    exact .of_reads reads
  · obtain ⟨rfl, reads⟩ := inert_of_reads within (uses_prepareRun s args) head
    have prepared := Prepared.of_exec head
    have routed := prepared.translated_eq head
    have input_eq : plan.input = args.input := by
      rw [prepared.input_eq, finalInput, if_pos reuse]
    rw [← routed] at fine ⊢
    exact (commitRun_promise within reuse prepared.args_eq input_eq prepared.valid fine tail).after_reads reads

end Promise

/-! ### The promise, where it breaks -/

/-- A call that replaces the rows of the squid `name` with settings. -/
def settingsCall (name : String) (input : Fields) : RunArgs where
  input := input
  confirm := true
  squidId := some name
  replaceTasks := true

theorem leaves_settingsCall (name : String) (named : name ≠ "") (input : Fields) :
    LeavesToSquid (settingsCall name input) name :=
  ⟨rfl, named, rfl, rfl⟩

/-- The rows are emptied, and a row that carries nothing takes their place. -/
theorem may_replace_with_settings (s : Session) {crawler : Crawler} {params : Json} {input : Fields}
    (name : String) (saved : Json) (rows : List Json) (named : name ≠ "")
    (settings : ReplacesWithSettings (translateInputSchema crawler params) input true) :
    May ((Upstream.world Upstream.listsAny).given (describes crawler params))
      (runScraperImpl s (settingsCall name input)) (oneSquid name ⟨plainRecord name saved, rows⟩)
      fun tr _ v => (∃ e ∈ tr, e.op = .emptySquid (.str name)) ∧
        (∃ e ∈ tr, e.op = .addTasks (.str name) [.obj []]) ∧ v.rowsOf (.str name) = some [.obj []] := by
  obtain ⟨_, present, settings, valid⟩ := settings
  have leaves := leaves_settingsCall name named input
  have errors : inputErrors (settingsCall name input) (translateInputSchema crawler params) = [] :=
    (inputErrors_of_settings leaves.reuse present settings).trans valid
  have prepared := exec_prepareRun_plain Upstream.listsAny s leaves saved rows (.ok (.arr []))
    errors (fun _ _ => trivial) rfl
  have noRow : (plainPlan s (settingsCall name input) name saved crawler params
      { rows := some [] }).taskParams = [] := taskParams_of_settings settings
  refine may_commit prepared rfl ⟨trivial, rfl, trivial⟩ fun funds => ?_
  refine may_replace leaves.reuse rfl present rfl ⟨trivial, trivial, rfl⟩ ⟨trivial, trivial, rfl⟩
    ⟨trivial, trivial, rfl⟩ ?_
  unfold startAndReport
  refine may_request (.ok [("id", .str "run")]) ⟨trivial, trivial, rfl⟩ ?_
  refine may_bind_of_exec (exec_pure.mpr ⟨rfl, rfl, rfl⟩) ?_
  refine may_send () ⟨trivial, rfl, trivial⟩ ?_
  refine may_pure.mpr ?_
  refine ⟨?_, ?_, ?_⟩
  · simp [or_and_right, exists_or]
  · simp [or_and_right, exists_or, noRow]
  · simp [Upstream.rowsOf, Upstream.effect, addRows, addRow, noRow]

/-- The rows promise, exactly: it fails of one kind of call, the replacement of rows by settings. -/
theorem run_scraper_rows_iff (s : Session) (crawler : Crawler) (params : Json) (input : Fields)
    (replace : Bool) :
    (∀ (args : RunArgs) (u : Upstream), args.input = input → args.replaceTasks = replace →
      args.reuse = true →
      Ensures ((Upstream.world Upstream.listsAny).given (describes crawler params))
        (runScraperImpl s args) u fun tr _ v =>
          RowsPromise (translateInputSchema crawler params) args u tr v) ↔
    ¬ ReplacesWithSettings (translateInputSchema crawler params) input replace := by
  constructor
  · intro promise replaces
    obtain ⟨rfl, present, settings, valid⟩ := replaces
    have leaves := leaves_settingsCall "squid" (by decide) input
    have wiped := may_replace_with_settings s "squid" .null [] (by decide) ⟨rfl, present, settings, valid⟩
    refine (wiped.mono ?_).not_ensures (promise _ _ rfl rfl leaves.reuse)
    rintro tr r v ⟨⟨e, member, empties⟩, _⟩ kept
    obtain ⟨_, k, given, task⟩ := kept.deletes e member _ empties
    rw [settings k given] at task
    cases task
  · rintro fine args u rfl rfl reuse
    exact runScraperImpl_promise reuse fine

def regionCrawler : Crawler where
  input := [{ name := "region", level := some (some "squid") }]

/-- With `replace_tasks`, changing the region of a squid deletes its saved row. -/
theorem changing_the_region_deletes_the_row :
    May ((Upstream.world Upstream.listsAny).given (describes regionCrawler .null))
      (runScraperImpl plainSession (settingsCall "squid" [("region", .str "fr")]))
      (oneSquid "squid" ⟨plainRecord "squid" .null, [.obj [("url", .str "https://example.org")]]⟩)
      fun tr _ v => v.rowsOf (.str "squid") = some [.obj []] ∧
        ¬ RowsPromise (translateInputSchema regionCrawler .null)
          (settingsCall "squid" [("region", .str "fr")])
          (oneSquid "squid" ⟨plainRecord "squid" .null, [.obj [("url", .str "https://example.org")]]⟩) tr v := by
  have settings : ∀ k ∈ Dict.keys [("region", Json.str "fr")],
      (translateInputSchema regionCrawler .null).isTaskKey k = false := by decide
  have wiped := may_replace_with_settings plainSession "squid" .null
    [.obj [("url", .str "https://example.org")]] (by decide)
    (⟨rfl, by decide, settings, by decide⟩ :
      ReplacesWithSettings (translateInputSchema regionCrawler .null) [("region", .str "fr")] true)
  refine wiped.mono ?_
  rintro tr r v ⟨⟨e, member, empties⟩, _, rows⟩
  refine ⟨rows, fun kept => ?_⟩
  obtain ⟨_, k, given, task⟩ := kept.deletes e member _ empties
  rw [settings k given] at task
  cases task

end LobstrMcp
