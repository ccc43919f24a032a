import LobstrMcp.Interaction.Handler

/-!
Programs that see every answer through a filter. A program that is the same behind a filter does
without what the filter keeps from it: its outcome, what it issues and what it leaves behind are those
of a run where that never was in the answers.
-/

namespace Interaction

variable {Op Op' : Type} {Ans : Op → Type} {Ans' : Op' → Type} {σ ε ε' α β : Type}

/-- What is left of each answer. -/
abbrev Filter (Op : Type) (Ans : Op → Type) := (op : Op) → Ans op → Ans op

/-- A machine whose answers pass a filter. -/
def Machine.through (m : Machine Op Ans σ) (f : Filter Op Ans) : Machine Op Ans σ := fun s op =>
  (f op (m s op).1, (m s op).2)

namespace Program

/-- The program behind a filter. -/
def through (f : Filter Op Ans) : Program Op Ans ε α → Program Op Ans ε α
  | .pure a => .pure a
  | .raise e => .raise e
  | .call op next => .call op fun ans => (next (f op ans)).through f

/-- A program that does without what the filter keeps from it. -/
def Blind (f : Filter Op Ans) (p : Program Op Ans ε α) : Prop := p.through f = p

section Through
variable {f : Filter Op Ans} {m : Machine Op Ans σ}

@[simp] theorem through_pure (a : α) : (Pure.pure a : Program Op Ans ε α).through f = Pure.pure a := rfl

@[simp] theorem through_raise (e : ε) : (.raise e : Program Op Ans ε α).through f = .raise e := rfl

@[simp] theorem through_ofExcept (x : Except ε α) : (.ofExcept x : Program Op Ans ε α).through f = .ofExcept x := by
  cases x <;> rfl

theorem through_bind (p : Program Op Ans ε α) (g : α → Program Op Ans ε β) :
    (p >>= g).through f = p.through f >>= fun a => (g a).through f := by
  induction p with
  | pure a => rfl
  | raise e => rfl
  | call op next ih => exact congrArg (Program.call op) (funext fun ans => ih _)

theorem through_ask_bind (op : Op) (g : Ans op → Program Op Ans ε β) :
    (ask op >>= g).through f = ask op >>= fun ans => (g (f op ans)).through f := rfl

theorem through_attempt (p : Program Op Ans ε α) :
    (p.attempt : Program Op Ans ε' (Except ε α)).through f = (p.through f).attempt := by
  induction p with
  | pure a => rfl
  | raise e => rfl
  | call op next ih => exact congrArg (Program.call op) (funext fun ans => ih _)

theorem through_mapError (g : ε → ε') (p : Program Op Ans ε α) :
    (p.mapError g).through f = (p.through f).mapError g := by
  induction p with
  | pure a => rfl
  | raise e => rfl
  | call op next ih => exact congrArg (Program.call op) (funext fun ans => ih _)

/-- Each operation behind the filter is carried out as it is, and its answer filtered then. -/
theorem through_handle {f' : Filter Op' Ans'} {h : (op : Op) → Program Op' Ans' ε (Ans op)}
    (each : ∀ op, (h op).through f' = h op >>= fun ans => Pure.pure (f op ans)) (p : Program Op Ans ε α) :
    (p.handle h).through f' = (p.through f).handle h := by
  induction p with
  | pure a => rfl
  | raise e => rfl
  | call op next ih =>
    show (h op >>= fun ans => (next ans).handle h).through f' = h op >>= fun ans =>
      ((next (f op ans)).through f).handle h
    rw [through_bind, each, bind_assoc]
    exact congrArg (h op >>= ·) (funext fun ans => ih _)

/-- What a machine answers behind the filter is all that counts. -/
theorem run_through (p : Program Op Ans ε α) (s : σ) : (p.through f).run m s = p.run (m.through f) s := by
  induction p generalizing s with
  | pure a => rfl
  | raise e => rfl
  | call op next ih => exact ih _ _

theorem ops_through (p : Program Op Ans ε α) (s : σ) :
    ((p.through f).trace m s).map Event.op = (p.trace (m.through f) s).map Event.op := by
  induction p generalizing s with
  | pure a => rfl
  | raise e => rfl
  | call op next ih => exact congrArg (op :: ·) (ih _ _)

end Through

section Blind
variable {f : Filter Op Ans} {m : Machine Op Ans σ}

theorem blind_pure (a : α) : (Pure.pure a : Program Op Ans ε α).Blind f := rfl

theorem blind_of_uses {allowed : Op → Prop} {p : Program Op Ans ε α} (uses : p.Uses allowed)
    (whole : ∀ op, allowed op → ∀ ans, f op ans = ans) : p.Blind f := by
  induction p with
  | pure a => rfl
  | raise e => rfl
  | call op next ih =>
    refine congrArg (Program.call op) (funext fun ans => ?_)
    rw [whole op uses.1 ans]
    exact ih ans (uses.2 ans)

theorem blind_bind {p : Program Op Ans ε α} {g : α → Program Op Ans ε β} (first : p.Blind f)
    (rest : ∀ a, (g a).Blind f) : (p >>= g).Blind f := by
  unfold Blind
  rw [through_bind, first]
  exact congrArg (p >>= ·) (funext rest)

/-- A first half that hands on something filtered, to a second one that makes the same of it. -/
theorem blind_bind_of {p : Program Op Ans ε α} {g : α → Program Op Ans ε β} {f' : α → α}
    (first : p.through f = p >>= fun a => Pure.pure (f' a)) (rest : ∀ a, (g (f' a)).through f = g a) :
      (p >>= g).Blind f := by
  unfold Blind
  rw [through_bind, first, bind_assoc]
  exact congrArg (p >>= ·) (funext rest)

theorem blind_ask_bind {op : Op} {g : Ans op → Program Op Ans ε β} (rest : ∀ ans, (g (f op ans)).through f = g ans) :
    (ask op >>= g).Blind f :=
  congrArg (Program.call op) (funext rest)

theorem blind_attempt {p : Program Op Ans ε α} (blind : p.Blind f) :
    (p.attempt : Program Op Ans ε' (Except ε α)).Blind f :=
  (through_attempt p).trans (congrArg attempt blind)

theorem blind_mapError {p : Program Op Ans ε α} (blind : p.Blind f) (g : ε → ε') : (p.mapError g).Blind f :=
  (through_mapError g p).trans (congrArg (mapError g) blind)

/-- Where every operation is carried out blindly, so is the program. -/
theorem blind_handle {f' : Filter Op' Ans'} {h : (op : Op) → Program Op' Ans' ε (Ans op)}
    (each : ∀ op, (h op).Blind f') (p : Program Op Ans ε α) : (p.handle h).Blind f' := by
  induction p with
  | pure a => rfl
  | raise e => rfl
  | call op next ih => exact blind_bind (each op) ih

/-- A program is blind on a machine: nothing is different without what is filtered. -/
theorem Blind.run {p : Program Op Ans ε α} (blind : p.Blind f) (s : σ) :
    p.run m s = p.run (m.through f) s ∧ (p.trace m s).map Event.op = (p.trace (m.through f) s).map Event.op := by
  have outcome := run_through (f := f) (m := m) p s
  have issued := ops_through (f := f) (m := m) p s
  rw [blind] at outcome issued
  exact ⟨outcome, issued⟩

end Blind
end Program
end Interaction
