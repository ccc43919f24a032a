import LobstrMcp.Interaction.Program

/-!
Executions of a program in a world. A world says, for a state and an operation, which answers
are possible and which state each leads to. An execution records the operations issued, each
with the state it was issued in, so a property of a single operation ("when this is issued, the
state satisfies …") is a property of the trace.
-/

namespace Interaction

variable {Op : Type} {Ans : Op → Type} {σ τ ε ε' α β : Type}

/-- Which answers an operation may get in a state, and the state after each. -/
abbrev World (Op : Type) (Ans : Op → Type) (σ : Type) := σ → (op : Op) → Ans op → σ → Prop

/-- The world in which operations also answer as given. -/
def World.given (W : World Op Ans σ) (gives : (op : Op) → Ans op → Prop) : World Op Ans σ :=
  fun s op ans t => gives op ans ∧ W s op ans t

/-- Every step of the one world is a step of the other. -/
def World.Within (W V : World Op Ans σ) : Prop := ∀ s op ans t, W s op ans t → V s op ans t

theorem World.within_self (W : World Op Ans σ) : W.Within W := fun _ _ _ _ step => step

theorem World.given_within (W : World Op Ans σ) (gives : (op : Op) → Ans op → Prop) :
    (W.given gives).Within W := fun _ _ _ _ step => step.2

/-- One operation of a run: the state it was issued in and the answer it got. -/
structure Event (Op : Type) (Ans : Op → Type) (σ : Type) where
  before : σ
  op : Op
  ans : Ans op

/-- `Exec W p s tr r t`: in world `W`, `p` started in `s` issues `tr`, ends with `r` in `t`. -/
inductive Exec (W : World Op Ans σ) :
    Program Op Ans ε α → σ → List (Event Op Ans σ) → Except ε α → σ → Prop
  | pure {a s} : Exec W (.pure a) s [] (.ok a) s
  | raise {e s} : Exec W (.raise e) s [] (.error e) s
  | call {op next s ans mid tr r t} (step : W s op ans mid) (rest : Exec W (next ans) mid tr r t) :
      Exec W (.call op next) s (⟨s, op, ans⟩ :: tr) r t

variable {W : World Op Ans σ}

@[simp] theorem exec_leaf {a : α} {s t : σ} {tr : List (Event Op Ans σ)} {r : Except ε α} :
    Exec W (.pure a) s tr r t ↔ tr = [] ∧ r = .ok a ∧ t = s := by
  constructor
  · rintro ⟨⟩
    exact ⟨rfl, rfl, rfl⟩
  · rintro ⟨rfl, rfl, rfl⟩
    exact .pure

@[simp] theorem exec_pure {a : α} {s t : σ} {tr : List (Event Op Ans σ)} {r : Except ε α} :
    Exec W (Pure.pure a) s tr r t ↔ tr = [] ∧ r = .ok a ∧ t = s := exec_leaf

@[simp] theorem exec_raise {e : ε} {s t : σ} {tr : List (Event Op Ans σ)} {r : Except ε α} :
    Exec W (.raise e) s tr r t ↔ tr = [] ∧ r = .error e ∧ t = s := by
  constructor
  · rintro ⟨⟩
    exact ⟨rfl, rfl, rfl⟩
  · rintro ⟨rfl, rfl, rfl⟩
    exact .raise

theorem exec_call {op : Op} {next : Ans op → Program Op Ans ε α} {s t : σ}
    {tr : List (Event Op Ans σ)} {r : Except ε α} :
    Exec W (.call op next) s tr r t ↔
      ∃ ans mid rest, W s op ans mid ∧ tr = ⟨s, op, ans⟩ :: rest ∧ Exec W (next ans) mid rest r t := by
  constructor
  · intro run
    cases run with
    | call step tail => exact ⟨_, _, _, step, rfl, tail⟩
  · rintro ⟨ans, mid, rest, step, rfl, tail⟩
    exact .call step tail

@[simp] theorem exec_ask {op : Op} {s t : σ} {tr : List (Event Op Ans σ)} {r : Except ε (Ans op)} :
    Exec W (.ask op) s tr r t ↔ ∃ ans, r = .ok ans ∧ tr = [⟨s, op, ans⟩] ∧ W s op ans t := by
  simp only [Program.ask, exec_call, exec_leaf]
  constructor
  · rintro ⟨ans, mid, rest, step, rfl, rfl, rfl, rfl⟩
    exact ⟨ans, rfl, rfl, step⟩
  · rintro ⟨ans, rfl, rfl, step⟩
    exact ⟨ans, t, [], step, rfl, rfl, rfl, rfl⟩

@[simp] theorem exec_ofExcept {x : Except ε α} {s t : σ} {tr : List (Event Op Ans σ)}
    {r : Except ε α} : Exec W (.ofExcept x) s tr r t ↔ tr = [] ∧ r = x ∧ t = s := by
  cases x <;> simp [Program.ofExcept]

/-- A sequence either stops in its first half, or runs the second half from where it ended. -/
theorem exec_bind {p : Program Op Ans ε α} {f : α → Program Op Ans ε β} {s t : σ}
    {tr : List (Event Op Ans σ)} {r : Except ε β} :
    Exec W (p >>= f) s tr r t ↔
      (∃ e, r = .error e ∧ Exec W p s tr (.error e) t) ∨
      ∃ a mid first rest, tr = first ++ rest ∧ Exec W p s first (.ok a) mid ∧
        Exec W (f a) mid rest r t := by
  induction p generalizing s tr with
  | pure a => simp
  | raise e => simp; tauto
  | call op next ih =>
    simp only [Program.call_bind, exec_call, ih]
    constructor
    · rintro ⟨ans, mid, rest, step, rfl, ⟨e, rfl, tail⟩ | ⟨a, mid', first, rest', rfl, head, tail⟩⟩
      · exact .inl ⟨e, rfl, ans, mid, rest, step, rfl, tail⟩
      · exact .inr ⟨a, mid', _ :: first, rest', rfl, ⟨ans, mid, first, step, rfl, head⟩, tail⟩
    · rintro (⟨e, rfl, ans, mid, rest, step, rfl, tail⟩ |
        ⟨a, mid', _, rest', rfl, ⟨ans, mid, first, step, rfl, head⟩, tail⟩)
      · exact ⟨ans, mid, rest, step, rfl, .inl ⟨e, rfl, tail⟩⟩
      · exact ⟨ans, mid, first ++ rest', step, rfl, .inr ⟨a, mid', first, rest', rfl, head, tail⟩⟩

theorem exec_bind_ok {p : Program Op Ans ε α} {f : α → Program Op Ans ε β} {s t : σ}
    {tr : List (Event Op Ans σ)} {b : β} :
    Exec W (p >>= f) s tr (.ok b) t ↔ ∃ a mid first rest, tr = first ++ rest ∧
      Exec W p s first (.ok a) mid ∧ Exec W (f a) mid rest (.ok b) t := by
  rw [exec_bind]
  constructor
  · rintro (⟨e, absurd, _⟩ | parts)
    · cases absurd
    · exact parts
  · exact .inr

@[simp] theorem exec_attempt {p : Program Op Ans ε α} {s t : σ} {tr : List (Event Op Ans σ)}
    {r : Except ε' (Except ε α)} :
    Exec W p.attempt s tr r t ↔ ∃ x, r = .ok x ∧ Exec W p s tr x t := by
  induction p generalizing s tr with
  | pure a => simp [Program.attempt]; tauto
  | raise e => simp [Program.attempt]; tauto
  | call op next ih =>
    simp only [Program.attempt, exec_call, ih]
    constructor
    · rintro ⟨ans, mid, rest, step, rfl, x, rfl, tail⟩
      exact ⟨x, rfl, ans, mid, rest, step, rfl, tail⟩
    · rintro ⟨x, rfl, ans, mid, rest, step, rfl, tail⟩
      exact ⟨ans, mid, rest, step, rfl, x, rfl, tail⟩

theorem Exec.within {V : World Op Ans σ} (within : W.Within V) {p : Program Op Ans ε α} {s t : σ}
    {tr : List (Event Op Ans σ)} {r : Except ε α} (run : Exec W p s tr r t) : Exec V p s tr r t := by
  induction run with
  | pure => exact .pure
  | raise => exact .raise
  | call step _ ih => exact .call (within _ _ _ _ step) ih

/-! ### Rules -/

theorem Exec.uses {allowed : Op → Prop} {p : Program Op Ans ε α} {s t : σ}
    {tr : List (Event Op Ans σ)} {r : Except ε α} (h : Exec W p s tr r t)
    (uses : p.Uses allowed) : ∀ e ∈ tr, allowed e.op := by
  induction h with
  | pure => simp
  | raise => simp
  | call _ _ ih =>
    intro e member
    rcases List.mem_cons.mp member with rfl | member
    · exact uses.1
    · exact ih (uses.2 _) e member

theorem Exec.relates {allowed : Op → Prop} {R : σ → σ → Prop} {p : Program Op Ans ε α} {s t : σ}
    {tr : List (Event Op Ans σ)} {r : Except ε α} (h : Exec W p s tr r t) (uses : p.Uses allowed)
    (refl : ∀ s, R s s) (trans : ∀ {a b c}, R a b → R b c → R a c)
    (keep : ∀ {s op ans t}, allowed op → W s op ans t → R s t) : R s t := by
  induction h with
  | pure => exact refl _
  | raise => exact refl _
  | call step _ ih => exact trans (keep uses.1 step) (ih (uses.2 _))

/-- An invariant of the allowed operations holds at every event and at the end. -/
theorem Exec.invariant {allowed : Op → Prop} {I : σ → Prop} {p : Program Op Ans ε α} {s t : σ}
    {tr : List (Event Op Ans σ)} {r : Except ε α} (h : Exec W p s tr r t) (uses : p.Uses allowed)
    (start : I s) (keep : ∀ {s op ans t}, allowed op → W s op ans t → I s → I t) :
    (∀ e ∈ tr, I e.before) ∧ I t := by
  induction h with
  | pure => exact ⟨by simp, start⟩
  | raise => exact ⟨by simp, start⟩
  | call step _ ih =>
    obtain ⟨events, last⟩ := ih (uses.2 _) (keep uses.1 step start)
    refine ⟨?_, last⟩
    intro e member
    rcases List.mem_cons.mp member with rfl | member
    · exact start
    · exact events e member

theorem Exec.absent {allowed : Op → Prop} {p : Program Op Ans ε α} {s t : σ}
    {tr : List (Event Op Ans σ)} {r : Except ε α} (h : Exec W p s tr r t) (uses : p.Uses allowed)
    {op : Op} (other : ¬ allowed op) : ∀ e ∈ tr, e.op ≠ op :=
  fun e member same => other (same ▸ h.uses uses e member)

end Interaction
