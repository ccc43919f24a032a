import LobstrMcp.Interaction.Execution

/-!
Machines: environments with one answer to every operation. A program alone on a machine is a
function of the state it starts in, and what it computes is a run of every world that allows what
the machine does.
-/

namespace Interaction

variable {Op : Type} {Ans : Op → Type} {σ ε α β : Type}

/-- The answer to an operation in a state, and the state after it. -/
abbrev Machine (Op : Type) (Ans : Op → Type) (σ : Type) := σ → (op : Op) → Ans op × σ

namespace Program

/-- The outcome of a program that has the machine to itself, and the state it leaves. -/
def run (m : Machine Op Ans σ) : Program Op Ans ε α → σ → Except ε α × σ
  | .pure a, s => (.ok a, s)
  | .raise e, s => (.error e, s)
  | .call op next, s => (next (m s op).1).run m (m s op).2

/-- The operations it issues there. -/
def trace (m : Machine Op Ans σ) : Program Op Ans ε α → σ → List (Event Op Ans σ)
  | .pure _, _ => []
  | .raise _, _ => []
  | .call op next, s => ⟨s, op, (m s op).1⟩ :: (next (m s op).1).trace m (m s op).2

variable {m : Machine Op Ans σ} {s : σ}

@[simp] theorem run_leaf (a : α) : (.pure a : Program Op Ans ε α).run m s = (.ok a, s) := rfl

@[simp] theorem run_pure (a : α) : (Pure.pure a : Program Op Ans ε α).run m s = (.ok a, s) := rfl

@[simp] theorem run_raise (e : ε) : (.raise e : Program Op Ans ε α).run m s = (.error e, s) := rfl

@[simp] theorem run_call (op : Op) (next : Ans op → Program Op Ans ε α) :
    (.call op next : Program Op Ans ε α).run m s = (next (m s op).1).run m (m s op).2 := rfl

@[simp] theorem run_ofExcept (x : Except ε α) :
    (.ofExcept x : Program Op Ans ε α).run m s = (x, s) := by
  cases x <;> rfl

/-- A sequence runs its second half where the first one ended, if it ended with a value. -/
theorem run_bind (p : Program Op Ans ε α) (f : α → Program Op Ans ε β) (s : σ) :
    (p >>= f).run m s = match p.run m s with
      | (.ok a, t) => (f a).run m t
      | (.error e, t) => (.error e, t) := by
  induction p generalizing s with
  | pure a => rfl
  | raise e => rfl
  | call op next ih => exact ih _ _

@[simp] theorem run_ask_bind (op : Op) (f : Ans op → Program Op Ans ε β) (s : σ) :
    (ask op >>= f).run m s = (f (m s op).1).run m (m s op).2 := rfl

theorem trace_ask_bind (op : Op) (f : Ans op → Program Op Ans ε β) (s : σ) :
    (ask op >>= f).trace m s = ⟨s, op, (m s op).1⟩ :: (f (m s op).1).trace m (m s op).2 := rfl

theorem run_bind_ok {p : Program Op Ans ε α} {f : α → Program Op Ans ε β} {a : α} {t : σ}
    (first : p.run m s = (.ok a, t)) : (p >>= f).run m s = (f a).run m t := by
  rw [run_bind, first]

/-- What is made of a value leaves the state as it is. -/
theorem run_bind_pure (p : Program Op Ans ε α) (f : α → β) (s : σ) :
    ((p >>= fun a => Pure.pure (f a)).run m s).2 = (p.run m s).2 := by
  rw [run_bind]
  split
  · rename_i ran
    rw [ran]
    rfl
  · rename_i ran
    rw [ran]

theorem run_bind_congr {p q : Program Op Ans ε α} {f : α → Program Op Ans ε β}
    (same : p.run m s = q.run m s) : (p >>= f).run m s = (q >>= f).run m s := by
  rw [run_bind, run_bind, same]

theorem run_attempt {ε' : Type} (p : Program Op Ans ε α) (s : σ) :
    (p.attempt : Program Op Ans ε' _).run m s = (.ok (p.run m s).1, (p.run m s).2) := by
  induction p generalizing s with
  | pure a => rfl
  | raise e => rfl
  | call op next ih => exact ih _ _

theorem run_map (p : Program Op Ans ε α) (f : α → β) (s : σ) :
    ((p >>= fun a => Program.pure (f a)).run m s).1 = (p.run m s).1.map f := by
  induction p generalizing s with
  | pure a => rfl
  | raise e => rfl
  | call op next ih => exact ih _ _

theorem trace_map (p : Program Op Ans ε α) (f : α → β) (s : σ) :
    (p >>= fun a => Program.pure (f a)).trace m s = p.trace m s := by
  induction p generalizing s with
  | pure a => rfl
  | raise e => rfl
  | call op next ih => exact congrArg (⟨s, op, (m s op).1⟩ :: ·) (ih _ _)

theorem trace_bind_ok {p : Program Op Ans ε α} {f : α → Program Op Ans ε β} {a : α} {t : σ}
    (first : p.run m s = (.ok a, t)) : (p >>= f).trace m s = p.trace m s ++ (f a).trace m t := by
  induction p generalizing s with
  | pure b =>
    cases first
    rfl
  | raise e => cases first
  | call op next ih => exact congrArg (⟨s, op, (m s op).1⟩ :: ·) (ih _ first)

theorem trace_bind_error {p : Program Op Ans ε α} {f : α → Program Op Ans ε β} {e : ε} {t : σ}
    (first : p.run m s = (.error e, t)) : (p >>= f).trace m s = p.trace m s := by
  induction p generalizing s with
  | pure b => cases first
  | raise e => rfl
  | call op next ih => exact congrArg (⟨s, op, (m s op).1⟩ :: ·) (ih _ first)

@[simp] theorem trace_ofExcept (x : Except ε α) : (.ofExcept x : Program Op Ans ε α).trace m s = [] := by
  cases x <;> rfl

theorem trace_attempt {ε' : Type} (p : Program Op Ans ε α) (s : σ) :
    (p.attempt : Program Op Ans ε' _).trace m s = p.trace m s := by
  induction p generalizing s with
  | pure a => rfl
  | raise e => rfl
  | call op next ih => exact congrArg (⟨s, op, (m s op).1⟩ :: ·) (ih _ _)

/-- What was answered is what the machine answers there. -/
theorem trace_answers (p : Program Op Ans ε α) (s : σ) : ∀ e ∈ p.trace m s, e.ans = (m e.before e.op).1 := by
  induction p generalizing s with
  | pure a => simp [trace]
  | raise e => simp [trace]
  | call op next ih =>
    intro e member
    rcases List.mem_cons.mp member with rfl | member
    · rfl
    · exact ih _ _ e member

theorem trace_uses {allowed : Op → Prop} {p : Program Op Ans ε α} (uses : p.Uses allowed) (s : σ) :
    ∀ e ∈ p.trace m s, allowed e.op := by
  induction p generalizing s with
  | pure a => simp [trace]
  | raise e => simp [trace]
  | call op next ih =>
    intro e member
    rcases List.mem_cons.mp member with rfl | member
    · exact uses.1
    · exact ih _ (uses.2 _) _ e member

/-- However it may end, it ends so on a machine. -/
theorem Ends.run {good : Except ε α → Prop} {p : Program Op Ans ε α} (ends : p.Ends good) (s : σ) :
    good (p.run m s).1 := by
  induction p generalizing s with
  | pure a => exact ends
  | raise e => exact ends
  | call op next ih => exact ih _ (ends _) _

end Program

/-- What a program does alone on a machine, it may do in a world that allows the machine's steps. -/
theorem exec_of_run {W : World Op Ans σ} {m : Machine Op Ans σ}
    (steps : ∀ s op, W s op (m s op).1 (m s op).2) (p : Program Op Ans ε α) (s : σ) :
    Exec W p s (p.trace m s) (p.run m s).1 (p.run m s).2 := by
  induction p generalizing s with
  | pure a => exact .pure
  | raise e => exact .raise
  | call op next ih => exact .call (steps s op) (ih _ _)

end Interaction
