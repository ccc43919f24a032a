import LobstrMcp.Interaction.Handler

/-!
Programs that take turns on one state, each by a protocol of its own: what every turn keeps holds
whenever, and every operation was one that its program may issue.
-/

namespace Interaction

variable {Op : Type} {Ans : Op → Type} {σ ρ ε α ι : Type} [DecidableEq ι] {W : World Op Ans σ}
  {may : Turn ι Op Ans σ ε α} {start p : Pool ι Op Ans σ ε α} {log : Schedule ι Op Ans σ}

/-- Every turn of a schedule is as it should be after the turns before it. -/
def Schedule.Each (holds : Schedule ι Op Ans σ → ι × Event Op Ans σ → Prop) (log : Schedule ι Op Ans σ) : Prop :=
  ∀ first turn rest, log = first ++ turn :: rest → holds first turn

section Each
variable {holds : Schedule ι Op Ans σ → ι × Event Op Ans σ → Prop} {turn : ι × Event Op Ans σ}

omit [DecidableEq ι] in
theorem Schedule.each_nil : Schedule.Each holds [] := fun first turn rest split => by
  cases first <;> cases split

omit [DecidableEq ι] in
theorem Schedule.each_snoc (each : Schedule.Each holds log) (last : holds log turn) :
    Schedule.Each holds (log ++ [turn]) := fun first other rest split => by
  rcases List.eq_nil_or_concat rest with rfl | ⟨rest, final, rfl⟩
  · obtain ⟨rfl, same⟩ := List.append_inj' split rfl
    obtain rfl := List.singleton_inj.mp same
    exact last
  · rw [List.concat_eq_append, ← List.cons_append, ← List.append_assoc] at split
    obtain ⟨same, _⟩ := List.append_inj' split rfl
    exact each first other rest same

end Each

/-- An invariant of the history, the phases and the state that every turn keeps. -/
theorem Pool.Runs.keeps {P : ι → Protocol Op Ans ρ} {good : ι → ρ → Except ε α → Prop}
    {I : Schedule ι Op Ans σ → (ι → ρ) → σ → Prop} {phases : ι → ρ} (runs : Pool.Runs W may start log p)
    (follows : ∀ i, (start.programs i).Follows (P i) (good i) (phases i)) (first : I [] phases start.state)
    (step : ∀ {log phases i q s op ans t}, I log phases s → P i (phases i) op ans q → W s op ans t →
      I (log ++ [(i, ⟨s, op, ans⟩)]) (Function.update phases i q) t) :
    ∃ phases, I log phases p.state ∧ ∀ i, (p.programs i).Follows (P i) (good i) (phases i) := by
  induction runs with
  | start => exact ⟨phases, first, follows⟩
  | @turn tr p i op next ans t _ here answered _ ih =>
    obtain ⟨phases, kept, all⟩ := ih
    have own := all i
    rw [here] at own
    obtain ⟨q, led, rest⟩ := own ans
    refine ⟨Function.update phases i q, step kept led answered, fun j => ?_⟩
    by_cases same : j = i
    · subst same
      simpa using rest
    · rw [Pool.after_other _ _ _ same, Function.update_of_ne same]
      exact all j

/-- Every operation of a schedule is one that its program may issue. -/
theorem Pool.Runs.allowed {allowed : ι → Op → Prop} (runs : Pool.Runs W may start log p)
    (uses : ∀ i, (start.programs i).Uses (allowed i)) :
    (∀ e ∈ log, allowed e.1 e.2.op) ∧ ∀ i, (p.programs i).Uses (allowed i) := by
  induction runs with
  | start => exact ⟨by simp, uses⟩
  | @turn tr p i op next ans t _ here _ _ ih =>
    obtain ⟨events, all⟩ := ih
    have own := all i
    rw [here] at own
    refine ⟨fun e member => ?_, fun j => ?_⟩
    · rcases List.mem_append.mp member with member | member
      · exact events e member
      · rw [List.mem_singleton.mp member]
        exact own.1
    · by_cases same : j = i
      · subst same
        simpa using own.2 ans
      · rw [Pool.after_other _ _ _ same]
        exact all j

/-- What no allowed operation changes is as it was, whoever took turns. -/
theorem Pool.Runs.unchanged {allowed : ι → Op → Prop} {τ : Type} (view : σ → τ) (runs : Pool.Runs W may start log p)
    (uses : ∀ i, (start.programs i).Uses (allowed i))
    (keep : ∀ {i s op ans t}, allowed i op → W s op ans t → view t = view s) :
    view p.state = view start.state := by
  have follows (i : ι) : (start.programs i).Follows (fun (_ : Unit) op _ _ => allowed i op) (fun _ _ => True) () :=
    Program.follows_of_uses (uses i) (fun _ permitted _ => permitted) (Program.ends_of_forall (fun _ => trivial) _)
  obtain ⟨_, same, _⟩ := runs.keeps (I := fun _ _ s => view s = view start.state) follows rfl
    fun same permitted answered => (keep permitted answered).trans same
  exact same

end Interaction
