import LobstrMcp.Run.Attached
import Mathlib.Data.Rat.Floor

/-!
What the confirmation gate covers. The price shown is for the rows that could be counted, one
when the listing failed or was empty; the run scrapes the rows the squid holds. Both are compared
with the threshold as `estimate_cost` figures them, in the arithmetic of the session.
-/

namespace LobstrMcp
open Interaction Tool

/-- The params of a squid's record, none when they are no object. -/
def savedParams (record : Fields) : Fields := ((Fields.get record "params").asObj?).getD []

/-- What `estimate_cost` says of `n` rows run under `params`. -/
def priceOf (floats : Floats) (crawler : Crawler) (params : Fields) (n : Nat) : Option Rat :=
  (estimateCost floats crawler n (Fields.get params "max_results")
    (Fields.get params "max_unique_results_per_run") params).credits

/-- The bill of a squid, as it stands, is known and within the threshold. -/
def Covered (s : Session) (crawler : Crawler) (u : Upstream) (squid : Json) : Prop :=
  ∃ q credits, u.squids squid = some q ∧
    priceOf s.floats crawler (savedParams q.record) q.rows.length = some credits ∧
    credits ≤ s.settings.runConfirmThreshold

/-- The number of rows that is priced when `counted` could be read. -/
def pricedRows (counted : Option Nat) : Nat := if counted.getD 0 = 0 then 1 else counted.getD 0

theorem estimate_eq_priceOf (plan : RunPlan) :
    plan.estimate.credits = priceOf plan.floats plan.target.crawler plan.effective (pricedRows plan.rows) := rfl

theorem needsWord_false {s : Session} {est : CostEstimate} (free : needsWord s est = false) :
    ∃ credits, est.credits = some credits ∧ credits ≤ s.settings.runConfirmThreshold := by
  unfold needsWord at free
  cases known : est.credits with
  | none =>
    rw [known] at free
    cases free
  | some credits =>
    rw [known] at free
    exact ⟨credits, rfl, by simpa using free⟩

theorem needsWord_of_le {s : Session} {est : CostEstimate} {credits : Rat}
    (known : est.credits = some credits) (covered : credits ≤ s.settings.runConfirmThreshold) :
    needsWord s est = false := by
  unfold needsWord
  rw [known]
  simpa using covered

/-! ### What the writes leave behind -/

section Steps
variable {reports : List Json → Json → Prop} {u v : Upstream} {squid : Json} {q : Squid}

theorem step_updateSquid {settings : Fields} {payload : Json}
    (step : Upstream.world reports u (.updateSquid squid settings) (.ok payload) v)
    (held : u.squids squid = some q) :
    v.squids squid = some { q with record := Dict.update q.record settings } := by
  obtain ⟨_, rfl⟩ := (step : u.Takes _ _ v)
  simp [Upstream.effect, held]

theorem step_emptySquid {payload : Json}
    (step : Upstream.world reports u (.emptySquid squid) (.ok payload) v)
    (held : u.squids squid = some q) : v.squids squid = some { q with rows := [] } := by
  obtain ⟨_, rfl⟩ := (step : u.Takes _ _ v)
  simp [Upstream.effect, held]

theorem step_addTasks {tasks : List Json} {payload : Json}
    (step : Upstream.world reports u (.addTasks squid tasks) (.ok payload) v)
    (held : u.squids squid = some q) :
    v.squids squid = some { q with rows := addRows q.rows tasks } := by
  obtain ⟨_, rfl⟩ := (step : u.Takes _ _ v)
  simp [Upstream.effect, held]

theorem step_createSquid {crawler : Json} {name : Option String} {made : Fields}
    (step : Upstream.world reports u (.createSquid crawler name) (.ok made) v)
    (id : Dict.get? made "id" = some squid) : v.squids squid = some ⟨made, []⟩ := by
  obtain ⟨_, rfl⟩ := (step : u.Takes _ _ v)
  simp [Upstream.effect, Upstream.madeBy, Fields.get_of_get? id]

end Steps

theorem savedParams_update (record : Fields) (accounts : List Json) (name : Json) (params : Fields) :
    savedParams (Dict.update record
      (withAccounts accounts [("name", name), ("params", .obj params)])) = params := by
  unfold withAccounts
  split <;> simp [savedParams, Dict.update, Dict.set]

theorem savedParams_updateBody (record : Fields) (plan : RunPlan) :
    savedParams (Dict.update record plan.updateBody) = plan.effective :=
  savedParams_update record plan.account.toSave _ plan.effective

theorem savedParams_update_accounts (record : Fields) (accounts : Json) :
    savedParams (Dict.update record [("accounts", accounts)]) = savedParams record := by
  simp [savedParams, Dict.update]

theorem effectiveSettings_nil (squid : Fields) : effectiveSettings squid [] = savedParams squid := by
  unfold effectiveSettings savedParams
  simp [Dict.update_nil]

theorem nodup_squidParams (t : Translated) (input : Fields) :
    (Dict.keys (t.squidParams input)).Nodup := by
  have routed (goes : String → Bool) : (Dict.keys (t.routed goes input)).Nodup :=
    Dict.nodup_keys_update (d := []) List.nodup_nil _
  unfold Translated.squidParams
  dsimp only
  split
  · exact routed _
  · exact Dict.nodup_keys_update (routed _) [("functions", _)]

theorem effectiveSettings_new (t : Translated) (input : Fields) :
    effectiveSettings [] (t.squidParams input) = t.squidParams input :=
  Dict.collect_eq_self (nodup_squidParams t input)

/-- The rows a run scrapes, from those its squid held when the call came. -/
def RunPlan.rowsAtStart (plan : RunPlan) (rows : List Json) : List Json :=
  if plan.args.reuse = false then [.obj plan.taskParams]
  else if plan.input = [] then rows
  else if plan.args.replaceTasks = true then [.obj plan.taskParams]
  else if plan.taskParams = [] then rows
  else addRow rows (.obj plan.taskParams)

/-- A squid that is written: it runs under the plan's settings, on the plan's rows. -/
def Ready (plan : RunPlan) (rows : List Json) (w : Written) (v : Upstream) : Prop :=
  ∃ q, v.squids w.squidId = some q ∧ savedParams q.record = plan.effective ∧
    q.rows = plan.rowsAtStart rows

section Ready
variable {reports : List Json → Json → Prop} {W : World Call Answer Upstream} {plan : RunPlan}
  {rows : List Json} {u : Upstream} {squid : Json}

theorem ensures_saveAccounts (within : W.Within (Upstream.world reports)) {q : Squid}
    (accounts : List Json) (held : u.squids squid = some q) :
    Ensures W (saveAccounts accounts squid) u fun _ r v => r = .ok () →
      ∃ q', v.squids squid = some q' ∧ savedParams q'.record = savedParams q.record ∧ q'.rows = q.rows := by
  unfold saveAccounts
  split
  · exact ensures_pure.mpr fun _ => ⟨q, held, rfl, rfl⟩
  · refine ensures_bind.mpr (ensures_bind.mpr (ensures_ask.mpr fun ans v step => ?_))
    cases ans with
    | error e => exact ensures_raise.mpr fun absurd => by cases absurd
    | ok payload =>
      refine ensures_pure.mpr (ensures_pure.mpr fun _ => ?_)
      exact ⟨_, step_updateSquid (within _ _ _ _ step) held, savedParams_update_accounts _ _, rfl⟩

theorem ensures_saveSquidInput (within : W.Within (Upstream.world reports)) {q : Squid}
    (body taskParams : Fields) (held : u.squids squid = some q) :
    Ensures W (saveSquidInput squid body taskParams) u fun _ r v => r = .ok none →
      v.squids squid = some { record := Dict.update q.record body
                              rows := if taskParams = [] then q.rows else addRow q.rows (.obj taskParams) } := by
  have failed {p : Tool Fields} {reply : Fields → Fields} {t : Upstream} {goal : Upstream → Prop} :
      Ensures W (p >>= fun failed => pure (some (reply failed))) t fun _ r v => r = .ok none → goal v := by
    have ends : (p >>= fun failed => pure (some (reply failed))).Ends fun r => ∀ b, r = .ok b → b ≠ none := by
      refine Program.ends_bind_value fun _ => ?_
      rintro b ⟨⟩
      exact Option.some_ne_none _
    exact (Ensures.of_ends ends).mono fun _ _ _ some' same => absurd rfl (some' none same)
  unfold saveSquidInput
  refine ensures_bind.mpr (ensures_ask.mpr fun updated v step => ?_)
  cases updated with
  | error e => exact failed
  | ok payload =>
    have saved := step_updateSquid (within _ _ _ _ step) held
    dsimp only
    split
    · rename_i none'
      refine ensures_pure.mpr fun _ => ?_
      rw [if_pos (by simpa using none')]
      exact saved
    · rename_i present
      refine ensures_bind.mpr (ensures_ask.mpr fun added t step => ?_)
      cases added with
      | error e => exact failed
      | ok payload =>
        refine ensures_pure.mpr fun _ => ?_
        rw [if_neg (by simpa using present)]
        exact step_addTasks (within _ _ _ _ step) saved

theorem ensures_saveInput (within : W.Within (Upstream.world reports)) {q : Squid}
    (existing : Option Nat) (held : u.squids squid = some q) :
    Ensures W (saveInput plan squid existing) u fun _ r v => ∀ w, r = .ok w →
      ∃ q', v.squids w.squidId = some q' ∧ savedParams q'.record = plan.effective ∧
        q'.rows = if plan.taskParams = [] then q.rows else addRow q.rows (.obj plan.taskParams) := by
  unfold saveInput
  refine ensures_bind.mpr ((ensures_saveSquidInput within _ _ held).mono fun _ r v saved => ?_)
  rcases r with e | (_ | failure)
  · exact fun w absurd => by cases absurd
  · have written := saved rfl
    dsimp only
    split
    · refine ensures_pure.mpr ?_
      rintro w ⟨⟩
      exact ⟨_, written, savedParams_updateBody _ _, rfl⟩
    · refine ensures_pure.mpr ?_
      rintro w ⟨⟩
      exact ⟨_, written, savedParams_updateBody _ _, rfl⟩
  · exact ensures_raise.mpr fun w absurd => by cases absurd

theorem ensures_replaceInput (within : W.Within (Upstream.world reports)) {q : Squid}
    (held : u.squids squid = some q) :
    Ensures W (replaceInput plan squid) u fun _ r v => ∀ w, r = .ok w →
      ∃ q', v.squids w.squidId = some q' ∧ savedParams q'.record = plan.effective ∧
        q'.rows = [.obj plan.taskParams] := by
  have failed {p : Tool (Option Fields × Nat)} {t : Upstream} {goal : Upstream → Prop}
      (ends : p.Ends fun r => ∀ b, r = .ok b → b.1 ≠ none) :
      Ensures W p t fun _ r v => ∀ n, r = .ok (none, n) → goal v :=
    (Ensures.of_ends ends).mono fun _ _ _ some' n same => absurd rfl (some' (none, n) same)
  have undone (e : Exc) (message : String → String) :
      (do let failed ← stepFailed e message
          let reply ← restoreTasks squid plan.snapshot failed
          pure (some reply, 0) : Tool (Option Fields × Nat)).Ends fun r => ∀ b, r = .ok b → b.1 ≠ none := by
    refine Program.ends_bind_value fun _ => Program.ends_bind_value fun reply => ?_
    rintro b ⟨⟩
    exact Option.some_ne_none _
  have swapped : Ensures W (replaceSquidInput squid plan.updateBody plan.taskParams plan.snapshot) u
      fun _ r v => ∀ n, r = .ok (none, n) → v.squids squid =
        some { record := Dict.update q.record plan.updateBody, rows := [.obj plan.taskParams] } := by
    unfold replaceSquidInput
    refine ensures_bind.mpr (ensures_ask.mpr fun updated v step => ?_)
    cases updated with
    | error e =>
      refine failed (Program.ends_bind_value fun reply => ?_)
      rintro b ⟨⟩
      exact Option.some_ne_none _
    | ok payload =>
      have saved := step_updateSquid (within _ _ _ _ step) held
      unfold swapRows
      refine ensures_bind.mpr (ensures_ask.mpr fun emptied v' step => ?_)
      cases emptied with
      | error e => exact failed (undone e _)
      | ok payload =>
        have empty := step_emptySquid (within _ _ _ _ step) saved
        refine ensures_bind.mpr (ensures_ask.mpr fun added t step => ?_)
        cases added with
        | error e => exact failed (undone e _)
        | ok payload =>
          refine ensures_pure.mpr fun _ _ => ?_
          exact step_addTasks (within _ _ _ _ step) empty
  unfold replaceInput
  refine ensures_bind.mpr (swapped.mono fun _ r v swapped => ?_)
  rcases r with e | ⟨_ | failure, n⟩
  · exact fun w absurd => by cases absurd
  · refine ensures_pure.mpr ?_
    rintro w ⟨⟩
    exact ⟨_, swapped n rfl, savedParams_updateBody _ _, rfl⟩
  · exact ensures_raise.mpr fun w absurd => by cases absurd

theorem ensures_writeNew (within : W.Within (Upstream.world reports)) :
    Ensures W (writeNew plan) u fun _ r v => ∀ w, r = .ok w →
      ∃ q, v.squids w.squidId = some q ∧ savedParams q.record = plan.squidParams ∧
        q.rows = [.obj plan.taskParams] := by
  have failed (e : Exc) (squid : Json) {t : Upstream} {goal : Written → Upstream → Prop} :
      Ensures W (newSquidFailed squid plan.target.scraper e) t fun _ r v => ∀ w, r = .ok w → goal w v := by
    have ends : (newSquidFailed squid plan.target.scraper e).Ends fun r => ∀ w, r = .ok w → False := by
      cases e with
      | api rejection => exact Program.ends_bind_value fun _ w absurd => by cases absurd
      | _ => exact fun w absurd => by cases absurd
    exact (Ensures.of_ends ends).mono fun _ _ _ none' w same => (none' w same).elim
  unfold writeNew createSquid send
  refine ensures_bind.mpr (ensures_bind.mpr (ensures_ask.mpr fun created v step => ?_))
  cases created with
  | error e => exact ensures_raise.mpr fun w absurd => by cases absurd
  | ok made =>
    refine ensures_pure.mpr ?_
    unfold item
    refine ensures_bind.mpr ?_
    cases id : Dict.get? made "id" with
    | none => exact ensures_raise.mpr fun w absurd => by cases absurd
    | some squid =>
      have created := step_createSquid (within _ _ _ _ step) id
      refine ensures_pure.mpr ?_
      refine ensures_bind.mpr (ensures_ask.mpr fun updated v' step => ?_)
      cases updated with
      | error e => exact failed e squid
      | ok payload =>
        have saved := step_updateSquid (within _ _ _ _ step) created
        refine ensures_bind.mpr (ensures_ask.mpr fun added t step => ?_)
        cases added with
        | error e => exact failed e squid
        | ok payload =>
          have written := step_addTasks (within _ _ _ _ step) saved
          refine ensures_pure.mpr ?_
          rintro w ⟨⟩
          exact ⟨_, written, savedParams_update _ _ _ _, rfl⟩

/-- The writes, when they come through, leave the squid as the plan has it. -/
theorem ensures_writeInput_ready (within : W.Within (Upstream.world reports))
    (reused : plan.args.reuse = true → ∃ squid, Dict.get? plan.target.squid "id" = some squid ∧
      u.squids squid = some ⟨plan.target.squid, rows⟩)
    (new : plan.args.reuse = false → plan.target.squid = []) :
    Ensures W (writeInput plan) u fun _ r v => ∀ w, r = .ok w → Ready plan rows w v := by
  cases reuse : plan.args.reuse with
  | false =>
    have effective : plan.effective = plan.squidParams := by
      rw [RunPlan.effective, new reuse]
      exact effectiveSettings_new _ _
    unfold writeInput
    rw [reuse, if_neg Bool.false_ne_true]
    refine (ensures_writeNew within).mono fun _ r v written w same => ?_
    obtain ⟨q, held, params, scraped⟩ := written w same
    refine ⟨q, held, ?_, ?_⟩
    · rw [params, effective]
    · rw [scraped, RunPlan.rowsAtStart, if_pos reuse]
  | true =>
    obtain ⟨squid, id, held⟩ := reused reuse
    rw [writeReused_eq reuse id]
    have other : ¬ plan.args.reuse = false := by simp [reuse]
    split
    · rename_i none'
      have empty : plan.input = [] := by simpa using none'
      refine ensures_bind.mpr ((ensures_saveAccounts within _ held).mono fun _ r v saved => ?_)
      cases r with
      | error e => exact fun w absurd => by cases absurd
      | ok _ =>
        obtain ⟨q, held, params, same⟩ := saved rfl
        refine ensures_pure.mpr ?_
        rintro w ⟨⟩
        refine ⟨q, held, ?_, ?_⟩
        · rw [params, RunPlan.effective, RunPlan.squidParams, empty]
          exact (effectiveSettings_nil _).symm
        · rw [same, RunPlan.rowsAtStart, if_neg other, if_pos empty]
    · rename_i given
      have present : ¬ plan.input = [] := by simpa using given
      split
      · rename_i replace
        refine (ensures_replaceInput within held).mono fun _ r v written w same => ?_
        obtain ⟨q, held, params, scraped⟩ := written w same
        refine ⟨q, held, params, ?_⟩
        rw [scraped, RunPlan.rowsAtStart, if_neg other, if_neg present, if_pos replace]
      · rename_i keep
        have save (existing : Option Nat) : Ensures W (saveInput plan squid existing) u
            fun _ r v => ∀ w, r = .ok w → Ready plan rows w v := by
          refine (ensures_saveInput within existing held).mono fun _ r v written w same => ?_
          obtain ⟨q, held, params, scraped⟩ := written w same
          refine ⟨q, held, params, ?_⟩
          rw [scraped, RunPlan.rowsAtStart, if_neg other, if_neg present, if_neg keep]
        unfold addInput
        split
        · split
          · exact ensures_raise.mpr fun w absurd => by cases absurd
          · exact save _
        · split
          · exact ensures_raise.mpr fun w absurd => by cases absurd
          · exact save _

end Ready
end LobstrMcp
