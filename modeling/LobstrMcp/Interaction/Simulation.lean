import LobstrMcp.Interaction.Protocol

/-!
Simulation along a protocol. Where every step that a program which keeps to the protocol may take in one world
can be taken in the other with the same answer, so can whatever several such programs do that take turns.
-/

namespace Interaction

variable {Op : Type} {Ans : Op → Type} {σ τ ρ ε α ι : Type}

/-- An operation, and what it was answered. -/
abbrev Said (Op : Type) (Ans : Op → Type) := (op : Op) × Ans op

def Event.said (e : Event Op Ans σ) : Said Op Ans := ⟨e.op, e.ans⟩

/-- The states of two worlds that go on alike; `fits` is what is known of the phases meanwhile. -/
structure Simulation (P : Protocol Op Ans ρ) (W : World Op Ans σ) (V : World Op Ans τ) where
  fits : ρ → Prop
  rel : σ → τ → Prop
  step : ∀ {q op ans q' s s' t}, fits q → rel s t → P q op ans q' → W s op ans s' →
    fits q' ∧ ∃ t', V t op ans t' ∧ rel s' t'

section Pool
variable [DecidableEq ι]

/-- What programs that take turns, in any order, can be seen to do: who was told what, and what is left of
each program. -/
def Pool.Shows (W : World Op Ans σ) (start : Pool ι Op Ans σ ε α) (seen : List (ι × Said Op Ans))
    (left : ι → Program Op Ans ε α) : Prop :=
  ∃ log p, Pool.Runs W (fun _ _ _ _ _ => True) start log p ∧ log.map (Prod.map id Event.said) = seen ∧
    p.programs = left

/-- Turns that were given such answers only. -/
theorem Pool.Runs.given {W : World Op Ans σ} {gives : (op : Op) → Ans op → Prop} {start p : Pool ι Op Ans σ ε α}
    {log : Schedule ι Op Ans σ} (runs : Pool.Runs W (fun _ _ _ op ans => gives op ans) start log p) :
    Pool.Runs (W.given gives) (fun _ _ _ _ _ => True) start log p := by
  induction runs with
  | start => exact .start
  | turn _ here step allowed ih => exact ih.turn here ⟨allowed, step⟩ trivial

section Simulation
variable {P : Protocol Op Ans ρ} {W : World Op Ans σ} {V : World Op Ans τ} {programs left : ι → Program Op Ans ε α}
  {log : Schedule ι Op Ans σ} {phases : ι → ρ} {p : Pool ι Op Ans σ ε α} {s : σ} {t : τ}

/-- The other world has come as far as a pool, by the same turns. -/
structure Simulation.Shadows (simulation : Simulation P W V) (programs : ι → Program Op Ans ε α) (t : τ)
    (log : Schedule ι Op Ans σ) (phases : ι → ρ) (p : Pool ι Op Ans σ ε α) : Prop where
  fits : ∀ i, simulation.fits (phases i)
  runs : ∃ log' t', Pool.Runs V (fun _ _ _ _ _ => True) ⟨t, programs⟩ log' ⟨t', p.programs⟩ ∧
    log'.map (Prod.map id Event.said) = log.map (Prod.map id Event.said) ∧ simulation.rel p.state t'

theorem Simulation.Shadows.turn {simulation : Simulation P W V} (shadows : simulation.Shadows programs t log phases p)
    {i : ι} {q : ρ} {op : Op} {next : Ans op → Program Op Ans ε α} {ans : Ans op}
    (here : p.programs i = .call op next) (led : P (phases i) op ans q) (step : W p.state op ans s) :
    simulation.Shadows programs t (log ++ [(i, ⟨p.state, op, ans⟩)]) (Function.update phases i q)
      (p.after i (next ans) s) := by
  obtain ⟨log', now, runs, same, rel⟩ := shadows.runs
  obtain ⟨fit, t', step', rel'⟩ := simulation.step (shadows.fits i) rel led step
  refine ⟨fun j => ?_, _, t', runs.turn here step' trivial, ?_, rel'⟩
  · by_cases own : j = i
    · subst own
      rwa [Function.update_self]
    · rw [Function.update_of_ne own]
      exact shadows.fits j
  · rw [List.map_append, List.map_append, same]
    rfl

/-- What programs that keep to the protocol can be seen to do in one world, they can in the other. -/
theorem Simulation.shows (simulation : Simulation P W V) {good : ρ → Except ε α → Prop}
    {seen : List (ι × Said Op Ans)} (follows : ∀ i, (programs i).Follows P good (phases i))
    (fits : ∀ i, simulation.fits (phases i)) (rel : simulation.rel s t)
    (shown : Pool.Shows W ⟨s, programs⟩ seen left) : Pool.Shows V ⟨t, programs⟩ seen left := by
  obtain ⟨log, p, runs, rfl, rfl⟩ := shown
  obtain ⟨_, shadows, -⟩ := runs.follows (I := simulation.Shadows programs t) follows
    ⟨fits, [], t, .start, rfl, rel⟩ fun shadows _ here _ led _ step => shadows.turn here led step
  obtain ⟨log', t', runs', same, -⟩ := shadows.runs
  exact ⟨log', _, runs', same, rfl⟩

end Simulation
end Pool
end Interaction
