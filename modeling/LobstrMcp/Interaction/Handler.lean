import LobstrMcp.Interaction.Machine
import LobstrMcp.Interaction.Protocol

/-!
Programs over the operations of a wider system. A handler carries out each operation by a program
of that system; what a program issues, and which protocol it follows, carries over from what the
handler does for one operation.
-/

namespace Interaction

variable {Op Op' : Type} {Ans : Op → Type} {Ans' : Op' → Type} {σ ρ ρ' ε ε' α β ι : Type}

namespace Program

/-- Carry out every operation by a program; what that raises is raised. -/
def handle (h : (op : Op) → Program Op' Ans' ε (Ans op)) : Program Op Ans ε α → Program Op' Ans' ε α
  | .pure a => .pure a
  | .raise e => .raise e
  | .call op next => h op >>= fun ans => (next ans).handle h

/-- Put what is raised in other words. -/
def mapError (f : ε → ε') : Program Op Ans ε α → Program Op Ans ε' α
  | .pure a => .pure a
  | .raise e => .raise (f e)
  | .call op next => .call op fun ans => (next ans).mapError f

section Handle
variable {h : (op : Op) → Program Op' Ans' ε (Ans op)} {allowed : Op → Prop} {allowed' : Op' → Prop}

@[simp] theorem handle_pure (a : α) : (Pure.pure a : Program Op Ans ε α).handle h = Pure.pure a := rfl

theorem uses_handle {p : Program Op Ans ε α} (uses : p.Uses allowed)
    (each : ∀ op, allowed op → (h op).Uses allowed') : (p.handle h).Uses allowed' := by
  induction p with
  | pure a => trivial
  | raise e => trivial
  | call op next ih => exact uses_bind (each op uses.1) fun ans => ih ans (uses.2 ans)

/-- A program goes on to follow where each operation leads its handler to a phase that stands for
the one it leads to itself. -/
theorem follows_handle {P : Protocol Op Ans ρ} {P' : Protocol Op' Ans' ρ'} {R : ρ → ρ' → Prop}
    {good : ρ → Except ε α → Prop} {good' : ρ' → Except ε α → Prop} {p : Program Op Ans ε α} {q : ρ} {q' : ρ'}
    (follows : p.Follows P good q) (related : R q q')
    (each : ∀ {q q'} op (keeps : Ans op → ρ → Prop), R q q' → (∀ ans, ∃ r, P q op ans r ∧ keeps ans r) →
      (h op).Follows P' (fun r' outcome => ∃ ans r, outcome = .ok ans ∧ keeps ans r ∧ R r r') q')
    (ends : ∀ {q q' outcome}, R q q' → good q outcome → good' q' outcome) :
    (p.handle h).Follows P' good' q' := by
  induction p generalizing q q' with
  | pure a => exact ends related follows
  | raise e => exact ends related follows
  | call op next ih =>
    refine follows_bind.mpr ((each op _ related follows).mono fun r' outcome led => ?_)
    obtain ⟨ans, r, rfl, rest, related⟩ := led
    exact ih ans rest related

end Handle

section MapError
variable {f : ε → ε'} {allowed : Op → Prop} {P : Protocol Op Ans ρ} {q : ρ}

theorem follows_mapError {good : ρ → Except ε' α → Prop} {p : Program Op Ans ε α}
    (follows : p.Follows P (fun q r => good q (r.mapError f)) q) : (p.mapError f).Follows P good q := by
  induction p generalizing q with
  | pure a => exact follows
  | raise e => exact follows
  | call op next ih =>
    intro ans
    obtain ⟨q', step, rest⟩ := follows ans
    exact ⟨q', step, ih ans rest⟩

theorem run_mapError (m : Machine Op Ans σ) (p : Program Op Ans ε α) (s : σ) :
    (p.mapError f).run m s = ((p.run m s).1.mapError f, (p.run m s).2) := by
  induction p generalizing s with
  | pure a => rfl
  | raise e => rfl
  | call op next ih => exact ih _ _

end MapError

theorem uses_any (p : Program Op Ans ε α) : p.Uses fun _ => True := by
  induction p with
  | pure a => trivial
  | raise e => trivial
  | call op next ih => exact ⟨trivial, ih⟩

theorem uses_attempt {allowed : Op → Prop} {p : Program Op Ans ε α} (uses : p.Uses allowed) :
    (p.attempt : Program Op Ans ε' (Except ε α)).Uses allowed := by
  induction p with
  | pure a => trivial
  | raise e => trivial
  | call op next ih => exact ⟨uses.1, fun ans => ih ans (uses.2 ans)⟩

/-- What a protocol allows is all that a program issues which follows it. -/
theorem Follows.uses {P : Protocol Op Ans ρ} {good : ρ → Except ε α → Prop} {allowed : Op → Prop}
    {p : Program Op Ans ε α} {q : ρ} (follows : p.Follows P good q) (answers : ∀ op, Nonempty (Ans op))
    (permits : ∀ q op ans q', P q op ans q' → allowed op) : p.Uses allowed := by
  induction p generalizing q with
  | pure a => trivial
  | raise e => trivial
  | call op next ih =>
    refine ⟨?_, fun ans => ?_⟩
    · obtain ⟨ans⟩ := answers op
      obtain ⟨q', step, _⟩ := follows ans
      exact permits _ _ _ _ step
    · obtain ⟨q', _, rest⟩ := follows ans
      exact ih ans rest

end Program
end Interaction
