import LobstrMcp.Interaction.Protocol

/-!
Programs that are run again. What is seen of the state is settled or not; a program that leaves it as it is
unless it settles it can be run again as often as one likes, once it has changed something.
-/

namespace Interaction

variable {Op : Type} {Ans : Op → Type} {σ ρ τ ε α : Type} {W : World Op Ans σ} {view : σ → τ} {settled : τ → Prop}
  {s t u : σ}

/-- From the first state to the second, what is seen stays as it is, or is settled where it was not. -/
def Settling (view : σ → τ) (settled : τ → Prop) (s t : σ) : Prop :=
  view t = view s ∨ (¬ settled (view s) ∧ settled (view t))

namespace Settling

theorem refl (s : σ) : Settling view settled s s := .inl rfl

theorem trans (first : Settling view settled s t) (second : Settling view settled t u) : Settling view settled s u := by
  rcases first with same | ⟨before, done⟩
  · rcases second with same' | ⟨before, done⟩
    · exact .inl (same'.trans same)
    · exact .inr ⟨same ▸ before, done⟩
  · rcases second with same | ⟨absurd', _⟩
    · exact .inr ⟨before, same.symm ▸ done⟩
    · exact absurd done absurd'

theorem kept (settling : Settling view settled s t) (done : settled (view s)) : view t = view s :=
  settling.resolve_right fun both => both.1 done

theorem done (settling : Settling view settled s t) (changed : view t ≠ view s) : settled (view t) :=
  (settling.resolve_left changed).2

end Settling

/-- A run settles, if each step of its program does, as far as the phase it is taken in knows the state. -/
theorem Exec.settling {P : Protocol Op Ans ρ} {good : ρ → Except ε α → Prop} {knows : ρ → σ → Prop}
    {p : Program Op Ans ε α} {tr : List (Event Op Ans σ)} {r : Except ε α} {q : ρ} (run : Exec W p s tr r t)
    (follows : p.Follows P good q) (start : knows q s)
    (step : ∀ {q q' s op ans t}, knows q s → P q op ans q' → W s op ans t → knows q' t ∧ Settling view settled s t) :
    Settling view settled s t := by
  induction run generalizing q with
  | pure => exact .refl _
  | raise => exact .refl _
  | call answered _ ih =>
    obtain ⟨q', led, rest⟩ := follows _
    obtain ⟨known, settling⟩ := step start led answered
    exact settling.trans (ih rest known)

/-- Attempts one after another; what happens in between leaves what is seen as it is. -/
inductive Retries (W : World Op Ans σ) (view : σ → τ) (attempts : Program Op Ans ε α → Prop) : σ → σ → Prop
  | meanwhile {s t : σ} (same : view t = view s) : Retries W view attempts s t
  | again {p : Program Op Ans ε α} {s t u v : σ} {tr : List (Event Op Ans σ)} {r : Except ε α}
    (same : view t = view s) (attempt : attempts p) (run : Exec W p t tr r u) (later : Retries W view attempts u v) :
    Retries W view attempts s v

/-- Attempts that settle leave what is settled as it is. -/
theorem Retries.unchanged {attempts : Program Op Ans ε α → Prop} (retries : Retries W view attempts s t)
    (settles : ∀ p, attempts p → ∀ {s tr r t}, Exec W p s tr r t → Settling view settled s t)
    (done : settled (view s)) : view t = view s := by
  induction retries with
  | meanwhile same => exact same
  | again same attempt run _ ih =>
    have kept := (settles _ attempt run).kept (same.symm ▸ done)
    exact (ih (by rw [kept, same]; exact done)).trans (kept.trans same)

end Interaction
