import LobstrMcp.Interaction.Machine

/-!
Two programs side by side. They agree when they issue operation after operation together, each time two
that may meet, and come to outcomes that stand in a given relation, as long as the answers they get are
alike. On two machines that answer such operations alike the programs so end alike.
-/

namespace Interaction

variable {Op : Type} {Ans : Op → Type} {σ σ' ε ε' α α' β β' : Type}

/-- When the answers to two operations are alike. -/
abbrev Likeness (Op : Type) (Ans : Op → Type) := (op op' : Op) → Ans op → Ans op' → Prop

namespace Program

/-- The two programs keep step and end alike. -/
def Agrees (meets : Op → Op → Prop) (like : Likeness Op Ans) (good : Except ε α → Except ε' α' → Prop) :
    Program Op Ans ε α → Program Op Ans ε' α' → Prop
  | .pure a, .pure b => good (.ok a) (.ok b)
  | .pure a, .raise e => good (.ok a) (.error e)
  | .raise e, .pure b => good (.error e) (.ok b)
  | .raise e, .raise e' => good (.error e) (.error e')
  | .call op next, .call op' next' => meets op op' ∧
      ∀ ans ans', like op op' ans ans' → (next ans).Agrees meets like good (next' ans')
  | _, _ => False

variable {meets : Op → Op → Prop} {like : Likeness Op Ans} {good good' : Except ε α → Except ε' α' → Prop}

theorem Agrees.mono {p : Program Op Ans ε α} {p' : Program Op Ans ε' α'} (agrees : p.Agrees meets like good p')
    (weaken : ∀ r r', good r r' → good' r r') : p.Agrees meets like good' p' := by
  induction p generalizing p' with
  | pure a =>
    cases p' with
    | call op' next' => exact agrees
    | _ => exact weaken _ _ agrees
  | raise e =>
    cases p' with
    | call op' next' => exact agrees
    | _ => exact weaken _ _ agrees
  | call op next ih =>
    cases p' with
    | call op' next' => exact ⟨agrees.1, fun ans ans' alike => ih ans (agrees.2 ans ans' alike)⟩
    | _ => exact agrees

/-- What two first halves leave to the second ones. -/
def Leaves (meets : Op → Op → Prop) (like : Likeness Op Ans) (good : Except ε β → Except ε' β' → Prop)
    (f : α → Program Op Ans ε β) (f' : α' → Program Op Ans ε' β') : Except ε α → Except ε' α' → Prop
  | .ok a, .ok b => (f a).Agrees meets like good (f' b)
  | .error e, .error e' => good (.error e) (.error e')
  | _, _ => False

theorem agrees_bind {good : Except ε β → Except ε' β' → Prop} {p : Program Op Ans ε α} {p' : Program Op Ans ε' α'}
    {f : α → Program Op Ans ε β} {f' : α' → Program Op Ans ε' β'}
    (first : p.Agrees meets like (Leaves meets like good f f') p') : (p >>= f).Agrees meets like good (p' >>= f') := by
  induction p generalizing p' with
  | pure a =>
    cases p' with
    | pure b => exact first
    | _ => exact first.elim
  | raise e =>
    cases p' with
    | raise e' => exact first
    | _ => exact first.elim
  | call op next ih =>
    cases p' with
    | call op' next' => exact ⟨first.1, fun ans ans' alike => ih ans (first.2 ans ans' alike)⟩
    | _ => exact first.elim

/-- A program agrees with itself when it is told apart by none of its operations. -/
theorem agrees_self {allowed : Op → Prop} {good : Except ε α → Except ε α → Prop} {p : Program Op Ans ε α}
    (uses : p.Uses allowed) (meet : ∀ op, allowed op → meets op op)
    (same : ∀ op, allowed op → ∀ ans ans', like op op ans ans' → ans = ans') (ends : p.Ends fun r => good r r) :
    p.Agrees meets like good p := by
  induction p with
  | pure a => exact ends
  | raise e => exact ends
  | call op next ih =>
    refine ⟨meet op uses.1, fun ans ans' alike => ?_⟩
    obtain rfl := same op uses.1 ans ans' alike
    exact ih ans (uses.2 ans) (ends ans)

end Program

/-- Two machines, in related states, answer operations that meet alike, and go on in related states. -/
def Machine.Alike (meets : Op → Op → Prop) (like : Likeness Op Ans) (related : σ → σ' → Prop)
    (m : Machine Op Ans σ) (m' : Machine Op Ans σ') : Prop :=
  ∀ s s' op op', related s s' → meets op op' →
    like op op' (m s op).1 (m' s' op').1 ∧ related (m s op).2 (m' s' op').2

/-- Programs that agree end alike on machines that are alike. -/
theorem Program.Agrees.run {meets : Op → Op → Prop} {like : Likeness Op Ans} {related : σ → σ' → Prop}
    {good : Except ε α → Except ε' α' → Prop} {m : Machine Op Ans σ} {m' : Machine Op Ans σ'}
    {p : Program Op Ans ε α} {p' : Program Op Ans ε' α'} {s : σ} {s' : σ'} (agrees : p.Agrees meets like good p')
    (alike : Machine.Alike meets like related m m') (same : related s s') :
    good (p.run m s).1 (p'.run m' s').1 := by
  induction p generalizing p' s s' with
  | pure a =>
    cases p' with
    | call op' next' => exact agrees.elim
    | _ => exact agrees
  | raise e =>
    cases p' with
    | call op' next' => exact agrees.elim
    | _ => exact agrees
  | call op next ih =>
    cases p' with
    | call op' next' =>
      obtain ⟨answers, states⟩ := alike s s' op op' same agrees.1
      show good ((next (m s op).1).run m (m s op).2).1 ((next' (m' s' op').1).run m' (m' s' op').2).1
      exact ih _ (agrees.2 _ _ answers) states
    | _ => exact agrees.elim

/-- Machines that answer what a program asks in the same way are one to it. -/
theorem Program.run_congr {allowed : Op → Prop} {m m' : Machine Op Ans σ} {p : Program Op Ans ε α}
    (uses : p.Uses allowed) (same : ∀ s op, allowed op → m s op = m' s op) (s : σ) : p.run m s = p.run m' s := by
  induction p generalizing s with
  | pure a => rfl
  | raise e => rfl
  | call op next ih =>
    show (next (m s op).1).run m (m s op).2 = (next (m' s op).1).run m' (m' s op).2
    rw [same s op uses.1]
    exact ih _ (uses.2 _) _

end Interaction
