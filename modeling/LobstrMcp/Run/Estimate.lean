import LobstrMcp.Data.Rounding
import LobstrMcp.Model.Safeguards
import Mathlib.Algebra.Order.BigOperators.Group.List

/-!
How the estimate of a run moves with what is asked of it, in exact arithmetic. More tasks, a larger cap
or one more paid step never make it cheaper, so a call that passes the confirmation gate is never dearer
than one that does not.
-/

namespace LobstrMcp

/-- Prices and success ratios are not negative. -/
structure NonNegative (crawler : Crawler) : Prop where
  task : ∀ key price, taskPrice crawler = some (key, price) → 0 ≤ price
  row : ∀ rate, resolveCreditRate (Fields.get crawler.fields "credits_per_row") = some rate → 0 ≤ rate
  step : ∀ item ∈ crawler.input, ∀ price rate, item.creditsPerFunction = some price →
    resolveCreditRate price = some rate → 0 ≤ rate
  ratio : ∀ item ∈ crawler.input, ∀ ratio,
    number? (Fields.get (item.workerStats.getD []) "success_ratio") = some ratio → 0 ≤ ratio

/-- Every paid step that is on under the first settings is on under the second. -/
def SwitchedOn (crawler : Crawler) (settings settings' : Fields) : Prop :=
  ∀ item ∈ crawler.input, (stepState settings item).truthy = true → (stepState settings' item).truthy = true

/-- Where the first figure is known, so is the second, and it is no lower. -/
def NotLower (est est' : CostEstimate) : Prop :=
  ∀ credits, est.credits = some credits → ∃ credits', est'.credits = some credits' ∧ credits ≤ credits'

/-- How many rows the caps allow. -/
def cappedRows (taskCount : Nat) (maxResultsPerTask runResultCap : Json) : Option Nat :=
  (positiveInt runResultCap).or ((positiveInt maxResultsPerTask).map (· * taskCount))

/-- The credits of so many rows. -/
def rowCredits (crawler : Crawler) (settings : Fields) (rate : Rat) (rows : Nat) : Rat :=
  round4 ((paidSteps crawler settings).foldl
    (fun total step => Floats.exact.add total (stepCredits .exact rows step)) (rate * rows))

section Estimate
variable {crawler : Crawler} {settings settings' : Fields} {rate : Rat} {taskCount taskCount' rows rows' : Nat}
  {perTask perTask' runCap runCap' : Json}

theorem foldl_stepCredits (steps : List PaidStep) (total : Rat) :
    steps.foldl (fun total step => Floats.exact.add total (stepCredits .exact rows step)) total =
      total + (steps.map (stepCredits .exact rows)).sum := by
  induction steps generalizing total with
  | nil => simp
  | cons step rest ih =>
    rw [List.foldl_cons, ih, List.map_cons, List.sum_cons, ← add_assoc]
    rfl

theorem rowCredits_eq (crawler : Crawler) (settings : Fields) (rate : Rat) (rows : Nat) :
    rowCredits crawler settings rate rows =
      round4 (rate * rows + ((paidSteps crawler settings).map (stepCredits .exact rows)).sum) :=
  congrArg round4 (foldl_stepCredits _ _)

/-- The figure: a price for each task, or one for each row that the caps allow. -/
theorem credits_estimateCost (crawler : Crawler) (taskCount : Nat) (perTask runCap : Json) (settings : Fields) :
    (estimateCost .exact crawler taskCount perTask runCap settings).credits =
      ((taskPrice crawler).map fun priced => (priced.2 * taskCount : Rat)).or
        ((resolveCreditRate (Fields.get crawler.fields "credits_per_row")).bind fun rate =>
          (cappedRows taskCount perTask runCap).map (rowCredits crawler settings rate)) := by
  unfold estimateCost cappedRows rowCredits
  cases taskPrice crawler with
  | some priced => rfl
  | none =>
    cases resolveCreditRate (Fields.get crawler.fields "credits_per_row") with
    | none => rfl
    | some rate =>
      cases positiveInt runCap with
      | some cap => cases positiveInt perTask <;> rfl
      | none => cases positiveInt perTask <;> rfl

theorem round4_mono {p q : Rat} (le : p ≤ q) : round4 p ≤ round4 q := by
  have scaled : p * 10000 ≤ q * 10000 := by linarith
  have rounded : (Rounding.halfEven (p * 10000) : Rat) ≤ Rounding.halfEven (q * 10000) :=
    Int.cast_le.mpr (Rounding.halfEven_mono scaled)
  show (Rounding.halfEven (p * 10000) : Rat) / 10000 ≤ Rounding.halfEven (q * 10000) / 10000
  linarith

theorem truncate_mono {p q : Rat} (nonneg : 0 ≤ p) (le : p ≤ q) : truncate p ≤ truncate q := by
  unfold truncate
  rw [if_pos nonneg, if_pos (nonneg.trans le)]
  exact Rounding.floor_mono le

theorem truncate_nonneg {q : Rat} (nonneg : 0 ≤ q) : 0 ≤ truncate q := by
  unfold truncate
  rw [if_pos nonneg]
  exact Rat.le_floor_iff.mpr (by simpa using nonneg)

/-- A paid step costs nothing less than nothing, and applies to no negative share of the rows. -/
theorem NonNegative.paid (fair : NonNegative crawler) {item : InputItem} (held : item ∈ crawler.input)
    {step : PaidStep} (paid : paidStep settings item = some step) : 0 ≤ step.rate ∧ 0 ≤ step.successRatio := by
  unfold paidStep at paid
  split at paid
  · cases paid
  rename_i price priced
  split at paid
  · cases paid
  split at paid
  · cases paid
  rename_i rate rated
  cases paid
  refine ⟨fair.step item held price rate priced rated, ?_⟩
  dsimp only
  cases found : number? (Fields.get (item.workerStats.getD []) "success_ratio") with
  | none => exact zero_le_one
  | some ratio => exact fair.ratio item held ratio found

theorem NonNegative.paidSteps (fair : NonNegative crawler) :
    ∀ step ∈ paidSteps crawler settings, 0 ≤ step.rate ∧ 0 ≤ step.successRatio := by
  intro step member
  obtain ⟨item, held, paid⟩ := List.mem_filterMap.mp member
  exact fair.paid held paid

theorem stepCredits_nonneg {step : PaidStep} (fair : 0 ≤ step.rate ∧ 0 ≤ step.successRatio) (rows : Nat) :
    0 ≤ stepCredits .exact rows step := by
  have billed : (0 : Rat) ≤ truncate (rows * step.successRatio) :=
    mod_cast truncate_nonneg (mul_nonneg (Nat.cast_nonneg rows) fair.2)
  exact mul_nonneg billed fair.1

/-- A step on more rows. -/
theorem stepCredits_mono {step : PaidStep} (fair : 0 ≤ step.rate ∧ 0 ≤ step.successRatio) (le : rows ≤ rows') :
    stepCredits .exact rows step ≤ stepCredits .exact rows' step := by
  have more : (rows : Rat) * step.successRatio ≤ rows' * step.successRatio :=
    mul_le_mul_of_nonneg_right (Nat.cast_le.mpr le) fair.2
  have billed : (truncate (rows * step.successRatio) : Rat) ≤ truncate (rows' * step.successRatio) :=
    Int.cast_le.mpr (truncate_mono (mul_nonneg (Nat.cast_nonneg rows) fair.2) more)
  exact mul_le_mul_of_nonneg_right billed fair.1

/-- More rows are no cheaper. -/
theorem rowCredits_mono (fair : NonNegative crawler) (nonneg : 0 ≤ rate) (le : rows ≤ rows') :
    rowCredits crawler settings rate rows ≤ rowCredits crawler settings rate rows' := by
  rw [rowCredits_eq, rowCredits_eq]
  refine round4_mono (add_le_add (mul_le_mul_of_nonneg_left (Nat.cast_le.mpr le) nonneg) ?_)
  exact List.sum_le_sum fun step member => stepCredits_mono (fair.paidSteps step member) le

theorem paidStep_switched {item : InputItem}
    (more : (stepState settings item).truthy = true → (stepState settings' item).truthy = true) {step : PaidStep}
    (on : paidStep settings item = some step) : paidStep settings' item = some step := by
  unfold paidStep at on ⊢
  split at on
  · cases on
  split at on
  · cases on
  rename_i switched
  rw [more (by simpa using switched)]
  exact on

/-- The steps that are on stay on, in their order. -/
theorem paidSteps_sublist (more : SwitchedOn crawler settings settings') :
    (paidSteps crawler settings).Sublist (paidSteps crawler settings') := by
  have each : ∀ items : List InputItem,
      (∀ item ∈ items, (stepState settings item).truthy = true → (stepState settings' item).truthy = true) →
      (items.filterMap (paidStep settings)).Sublist (items.filterMap (paidStep settings')) := by
    intro items
    induction items with
    | nil => exact fun _ => .slnil
    | cons item rest ih =>
      intro more
      have tail := ih fun other held => more other (List.mem_cons_of_mem _ held)
      cases on : paidStep settings item with
      | some step =>
        rw [List.filterMap_cons_some on,
          List.filterMap_cons_some (paidStep_switched (more item List.mem_cons_self) on)]
        exact tail.cons_cons step
      | none =>
        rw [List.filterMap_cons_none on]
        exact tail.trans (List.sublist_append_right [item] rest |>.filterMap _)
  exact each crawler.input more

/-- One more paid step is no cheaper. -/
theorem rowCredits_switched (fair : NonNegative crawler) (more : SwitchedOn crawler settings settings') (rows : Nat) :
    rowCredits crawler settings rate rows ≤ rowCredits crawler settings' rate rows := by
  rw [rowCredits_eq, rowCredits_eq]
  refine round4_mono (add_le_add_right ?_ _)
  refine ((paidSteps_sublist more).map _).sum_le_sum fun credits member => ?_
  obtain ⟨step, paid, rfl⟩ := List.mem_map.mp member
  exact stepCredits_nonneg (fair.paidSteps step paid) rows

/-- More rows, or more steps on them, are no cheaper. -/
theorem notLower_of_rows (fair : NonNegative crawler) (le : taskCount ≤ taskCount')
    (more : SwitchedOn crawler settings settings')
    (allowed : ∀ rows, cappedRows taskCount perTask runCap = some rows →
      ∃ rows', cappedRows taskCount' perTask' runCap' = some rows' ∧ rows ≤ rows') :
    NotLower (estimateCost .exact crawler taskCount perTask runCap settings)
      (estimateCost .exact crawler taskCount' perTask' runCap' settings') := by
  intro credits known
  rw [credits_estimateCost] at known ⊢
  cases priced : taskPrice crawler with
  | some entry =>
    rw [priced] at known
    cases known
    refine ⟨_, rfl, mul_le_mul_of_nonneg_left (Nat.cast_le.mpr le) ?_⟩
    exact fair.task entry.1 entry.2 priced
  | none =>
    rw [priced, Option.map_none, Option.none_or, Option.bind_eq_some_iff] at known
    obtain ⟨rate, rated, known⟩ := known
    obtain ⟨rows, capped, rfl⟩ := Option.map_eq_some_iff.mp known
    obtain ⟨rows', capped', rowsLe⟩ := allowed rows capped
    rw [Option.map_none, Option.none_or, rated, Option.bind_some, capped']
    refine ⟨_, rfl, (rowCredits_mono fair (fair.row rate rated) rowsLe).trans ?_⟩
    exact rowCredits_switched fair more rows'

theorem positiveInt_of_pos {cap : Int} (positive : 0 < cap) : positiveInt (.int cap) = some cap.toNat :=
  if_pos positive

/-- The caps allow as many rows or more for as many tasks or more. -/
theorem cappedRows_tasks (le : taskCount ≤ taskCount') (capped : cappedRows taskCount perTask runCap = some rows) :
    ∃ rows', cappedRows taskCount' perTask runCap = some rows' ∧ rows ≤ rows' := by
  unfold cappedRows at capped ⊢
  cases run : positiveInt runCap with
  | some cap =>
    rw [run, Option.some_or] at capped
    cases capped
    exact ⟨rows, by rw [Option.some_or], le_refl _⟩
  | none =>
    rw [run, Option.none_or] at capped
    obtain ⟨each, task, rfl⟩ := Option.map_eq_some_iff.mp capped
    exact ⟨each * taskCount', by rw [task, Option.none_or, Option.map_some], Nat.mul_le_mul_left each le⟩

theorem cappedRows_perTask {cap cap' : Int} (positive : 0 < cap) (le : cap ≤ cap')
    (capped : cappedRows taskCount (.int cap) runCap = some rows) :
    ∃ rows', cappedRows taskCount (.int cap') runCap = some rows' ∧ rows ≤ rows' := by
  unfold cappedRows at capped ⊢
  rw [positiveInt_of_pos positive] at capped
  rw [positiveInt_of_pos (positive.trans_le le)]
  cases run : positiveInt runCap with
  | some all =>
    rw [run, Option.some_or] at capped
    cases capped
    exact ⟨rows, by rw [Option.some_or], le_refl _⟩
  | none =>
    rw [run] at capped
    cases capped
    exact ⟨_, rfl, Nat.mul_le_mul_right _ (Int.toNat_le_toNat le)⟩

theorem cappedRows_runCap {cap cap' : Int} (positive : 0 < cap) (le : cap ≤ cap')
    (capped : cappedRows taskCount perTask (.int cap) = some rows) :
    ∃ rows', cappedRows taskCount perTask (.int cap') = some rows' ∧ rows ≤ rows' := by
  unfold cappedRows at capped ⊢
  rw [positiveInt_of_pos positive, Option.some_or] at capped
  cases capped
  exact ⟨cap'.toNat, by rw [positiveInt_of_pos (positive.trans_le le), Option.some_or], Int.toNat_le_toNat le⟩

theorem switchedOn_self (crawler : Crawler) (settings : Fields) : SwitchedOn crawler settings settings :=
  fun _ _ on => on

/-- A step switched on under `functions` leaves the others as they are. -/
theorem switchedOn_nested (crawler : Crawler) (settings : Fields) (name : String) :
    SwitchedOn crawler settings (Dict.set settings "functions"
      (.obj (Dict.set (((Fields.get settings "functions").asObj?).getD []) name (.bool true)))) := by
  intro item _ on
  unfold stepState at on ⊢
  simp only [Fields.get_set, if_true, Json.asObj?_obj, Option.getD_some, Dict.get?_set]
  by_cases same : name = item.name
  · simp [same]
  simp only [same, if_false]
  cases nested : Dict.get? (((Fields.get settings "functions").asObj?).getD []) item.name with
  | some state => simpa [nested] using on
  | none =>
    by_cases functions : "functions" = item.name
    · have some : Dict.set (((Fields.get settings "functions").asObj?).getD []) name (.bool true) ≠ [] := by
        intro empty
        have read := Dict.get?_set_self (((Fields.get settings "functions").asObj?).getD []) name (.bool true)
        rw [empty] at read
        cases read
      simpa [functions, Json.truthy] using some
    · simpa [nested, functions] using on

/-- So does one switched on flat, but for one of the name that the nested ones stand under. -/
theorem switchedOn_flat (crawler : Crawler) (settings : Fields) {name : String} (plain : name ≠ "functions") :
    SwitchedOn crawler settings (Dict.set settings name (.bool true)) := by
  intro item _ on
  unfold stepState at on ⊢
  simp only [Fields.get_set, plain, if_false, Dict.get?_set]
  cases nested : Dict.get? (((Fields.get settings "functions").asObj?).getD []) item.name with
  | some state => simpa [nested] using on
  | none =>
    by_cases same : name = item.name
    · simp [same]
    · simpa [nested, same] using on

end Estimate

/-- Whether it is known depends on the caps that are set, not on the number of tasks. -/
theorem cappedRows_isSome (taskCount taskCount' : Nat) (perTask runCap : Json) :
    (cappedRows taskCount perTask runCap).isSome = (cappedRows taskCount' perTask runCap).isSome := by
  unfold cappedRows
  rw [Option.isSome_or, Option.isSome_or, Option.isSome_map, Option.isSome_map]

/-- The estimate is monotone in all that a run is asked for, and under a cap for the whole run it
depends on nothing but that cap and the steps. -/
theorem estimate_is_monotone {crawler : Crawler} (fair : NonNegative crawler) :
    (∀ settings perTask runCap taskCount taskCount',
      (estimateCost .exact crawler taskCount perTask runCap settings).credits.isSome =
        (estimateCost .exact crawler taskCount' perTask runCap settings).credits.isSome) ∧
    (∀ settings perTask runCap taskCount taskCount', taskCount ≤ taskCount' →
      NotLower (estimateCost .exact crawler taskCount perTask runCap settings)
        (estimateCost .exact crawler taskCount' perTask runCap settings)) ∧
    (∀ settings runCap taskCount (cap cap' : Int), 0 < cap → cap ≤ cap' →
      NotLower (estimateCost .exact crawler taskCount (.int cap) runCap settings)
        (estimateCost .exact crawler taskCount (.int cap') runCap settings)) ∧
    (∀ settings perTask taskCount (cap cap' : Int), 0 < cap → cap ≤ cap' →
      NotLower (estimateCost .exact crawler taskCount perTask (.int cap) settings)
        (estimateCost .exact crawler taskCount perTask (.int cap') settings)) ∧
    (∀ settings settings' perTask runCap taskCount, SwitchedOn crawler settings settings' →
      NotLower (estimateCost .exact crawler taskCount perTask runCap settings)
        (estimateCost .exact crawler taskCount perTask runCap settings')) ∧
    (∀ settings perTask perTask' runCap taskCount taskCount', taskPrice crawler = none →
      (resolveCreditRate (Fields.get crawler.fields "credits_per_row")).isSome → (positiveInt runCap).isSome →
        (estimateCost .exact crawler taskCount perTask runCap settings).credits =
          (estimateCost .exact crawler taskCount' perTask' runCap settings).credits) := by
  refine ⟨?_, ?_, ?_, ?_, ?_, ?_⟩
  · intro settings perTask runCap taskCount taskCount'
    rw [credits_estimateCost, credits_estimateCost]
    cases taskPrice crawler with
    | some priced => rfl
    | none =>
      cases resolveCreditRate (Fields.get crawler.fields "credits_per_row") with
      | none => rfl
      | some rate => simpa using cappedRows_isSome taskCount taskCount' perTask runCap
  · intro settings perTask runCap taskCount taskCount' le
    exact notLower_of_rows fair le (switchedOn_self _ _) fun rows => cappedRows_tasks le
  · intro settings runCap taskCount cap cap' positive le
    exact notLower_of_rows fair (le_refl _) (switchedOn_self _ _) fun rows => cappedRows_perTask positive le
  · intro settings perTask taskCount cap cap' positive le
    exact notLower_of_rows fair (le_refl _) (switchedOn_self _ _) fun rows => cappedRows_runCap positive le
  · intro settings settings' perTask runCap taskCount more
    exact notLower_of_rows fair (le_refl _) more fun rows capped => ⟨rows, capped, le_refl _⟩
  · intro settings perTask perTask' runCap taskCount taskCount' unpriced _ capped
    obtain ⟨cap, run⟩ := Option.isSome_iff_exists.mp capped
    rw [credits_estimateCost, credits_estimateCost, unpriced, Option.map_none, Option.map_none]
    unfold cappedRows
    rw [run, Option.some_or, Option.some_or]

/-- A crawler at a credit a row, with a step that applies to three rows in ten. -/
def mapsCrawler : Crawler where
  input := [{ name := "extract_emails", default := some (.bool true), creditsPerFunction := some (.int 1)
              workerStats := some [("success_ratio", .float (3 / 10))] },
    { name := "collect_details", creditsPerFunction := some (.obj [("current", .int 1)]) }]
  fields := [("credits_per_row", .obj [("current", .int 1)])]

theorem nonNegative_mapsCrawler : NonNegative mapsCrawler where
  task key price priced := by cases priced
  row rate rated := by
    cases rated
    decide
  step item held price rate priced rated := by
    simp only [mapsCrawler, List.mem_cons, List.not_mem_nil, or_false] at held
    rcases held with rfl | rfl <;> cases priced <;> cases rated <;> decide
  ratio item held ratio found := by
    simp only [mapsCrawler, List.mem_cons, List.not_mem_nil, or_false] at held
    rcases held with rfl | rfl <;> cases found
    norm_num

theorem details_on_maps_are_no_cheaper :
    NotLower (estimateCost .exact mapsCrawler 1 .null (.int 20) [])
      (estimateCost .exact mapsCrawler 1 .null (.int 20) [("functions", .obj [("collect_details", .bool true)])]) :=
  (estimate_is_monotone nonNegative_mapsCrawler).2.2.2.2.1 [] _ .null (.int 20) 1
    (switchedOn_nested mapsCrawler [] "collect_details")

example : (estimateCost .exact mapsCrawler 1 .null (.int 20) []).credits = some 26 := by decide +kernel

end LobstrMcp
