import LobstrMcp.Interaction.Triple
import Mathlib.Logic.Function.Basic

/-!
Protocols: which operations a program may issue in which phase, and where each answer leads. A
program that follows one keeps to it whatever it is answered, so an invariant of the phases and
the state, proved operation by operation, holds along every run: of one program, and of several
that take turns on one state.
-/

namespace Interaction

variable {Op : Type} {Ans : Op → Type} {σ ρ ε ε' α β ι : Type}

/-- The phases an answered operation may lead to; none when it may not be issued. -/
abbrev Protocol (Op : Type) (Ans : Op → Type) (ρ : Type) := ρ → (op : Op) → Ans op → ρ → Prop

namespace Program
variable {P : Protocol Op Ans ρ} {good good' : ρ → Except ε α → Prop} {q : ρ}

/-- The program keeps to the protocol from a phase on, and ends well in the phase it reaches. -/
def Follows (P : Protocol Op Ans ρ) (good : ρ → Except ε α → Prop) : ρ → Program Op Ans ε α → Prop
  | q, .pure a => good q (.ok a)
  | q, .raise e => good q (.error e)
  | q, .call op next => ∀ ans, ∃ q', P q op ans q' ∧ (next ans).Follows P good q'

@[simp] theorem follows_leaf {a : α} :
    (.pure a : Program Op Ans ε α).Follows P good q ↔ good q (.ok a) := Iff.rfl

@[simp] theorem follows_pure {a : α} :
    (Pure.pure a : Program Op Ans ε α).Follows P good q ↔ good q (.ok a) := Iff.rfl

@[simp] theorem follows_raise {e : ε} :
    (.raise e : Program Op Ans ε α).Follows P good q ↔ good q (.error e) := Iff.rfl

theorem Follows.mono {p : Program Op Ans ε α} (follows : p.Follows P good q)
    (weaken : ∀ q r, good q r → good' q r) : p.Follows P good' q := by
  induction p generalizing q with
  | pure a => exact weaken _ _ follows
  | raise e => exact weaken _ _ follows
  | call op next ih =>
    intro ans
    obtain ⟨q', step, rest⟩ := follows ans
    exact ⟨q', step, ih ans rest⟩

theorem Follows.widen {P' : Protocol Op Ans ρ} {p : Program Op Ans ε α} (follows : p.Follows P good q)
    (widen : ∀ q op ans q', P q op ans q' → P' q op ans q') : p.Follows P' good q := by
  induction p generalizing q with
  | pure a => exact follows
  | raise e => exact follows
  | call op next ih =>
    intro ans
    obtain ⟨q', step, rest⟩ := follows ans
    exact ⟨q', widen _ _ _ _ step, ih ans rest⟩

/-- A sequence follows when its first half does, into phases from which the second half does. -/
theorem follows_bind {good : ρ → Except ε β → Prop} {p : Program Op Ans ε α}
    {f : α → Program Op Ans ε β} :
    (p >>= f).Follows P good q ↔ p.Follows P (fun q r =>
      match r with
      | .error e => good q (.error e)
      | .ok a => (f a).Follows P good q) q := by
  induction p generalizing q with
  | pure a => exact Iff.rfl
  | raise e => exact Iff.rfl
  | call op next ih =>
    have rest : ∀ ans q', ((next ans >>= f).Follows P good q' ↔ (next ans).Follows P _ q') :=
      fun ans _ => ih ans
    simp only [call_bind, Follows, rest]

theorem follows_attempt {good : ρ → Except ε' (Except ε α) → Prop} {p : Program Op Ans ε α} :
    p.attempt.Follows P good q ↔ p.Follows P (fun q r => good q (.ok r)) q := by
  induction p generalizing q with
  | pure a => exact Iff.rfl
  | raise e => exact Iff.rfl
  | call op next ih => simp only [attempt, Follows, ih]

@[simp] theorem follows_ofExcept {x : Except ε α} :
    (ofExcept x : Program Op Ans ε α).Follows P good q ↔ good q x := by
  cases x <;> exact Iff.rfl

theorem follows_of_uses {allowed : Op → Prop} {p : Program Op Ans ε α} (uses : p.Uses allowed)
    (stay : ∀ op, allowed op → ∀ ans, P q op ans q) (ends : p.Ends (good q)) : p.Follows P good q := by
  induction p with
  | pure a => exact ends
  | raise e => exact ends
  | call op next ih => exact fun ans => ⟨q, stay op uses.1 ans, ih ans (uses.2 ans) (ends ans)⟩

end Program

/-! ### One program -/

/-- An invariant of phase, history and state, kept by every operation, holds to the end. -/
theorem Exec.follows {W : World Op Ans σ} {P : Protocol Op Ans ρ} {good : ρ → Except ε α → Prop}
    {I : List (Event Op Ans σ) → ρ → σ → Prop} {p : Program Op Ans ε α} {s t : σ}
    {tr past : List (Event Op Ans σ)} {r : Except ε α} {q : ρ} (run : Exec W p s tr r t)
    (follows : p.Follows P good q) (start : I past q s)
    (step : ∀ {past q q' s op ans t}, I past q s → P q op ans q' → W s op ans t →
      I (past ++ [⟨s, op, ans⟩]) q' t) :
    ∃ q', I (past ++ tr) q' t ∧ good q' r := by
  induction run generalizing past q with
  | pure => exact ⟨q, by simpa using start, follows⟩
  | raise => exact ⟨q, by simpa using start, follows⟩
  | call answered _ ih =>
    obtain ⟨q', led, rest⟩ := follows _
    obtain ⟨last, kept, ended⟩ := ih rest (step start led answered)
    exact ⟨last, by simpa using kept, ended⟩

/-! ### Several programs -/

/-- Programs that share a state. -/
structure Pool (ι : Type) (Op : Type) (Ans : Op → Type) (σ ε α : Type) where
  state : σ
  programs : ι → Program Op Ans ε α

/-- What the programs of a pool did: who issued what. -/
abbrev Schedule (ι : Type) (Op : Type) (Ans : Op → Type) (σ : Type) := List (ι × Event Op Ans σ)

/-- A condition on a turn: what was done before, the pool, and who is to issue what. -/
abbrev Turn (ι : Type) (Op : Type) (Ans : Op → Type) (σ ε α : Type) :=
  Schedule ι Op Ans σ → Pool ι Op Ans σ ε α → ι → (op : Op) → Ans op → Prop

section Pool
variable [DecidableEq ι]

/-- The pool after an operation of program `i`. -/
def Pool.after (p : Pool ι Op Ans σ ε α) (i : ι) (rest : Program Op Ans ε α) (t : σ) :
    Pool ι Op Ans σ ε α where
  state := t
  programs := Function.update p.programs i rest

@[simp] theorem Pool.after_self (p : Pool ι Op Ans σ ε α) (i : ι) (rest : Program Op Ans ε α) (t : σ) :
    (p.after i rest t).programs i = rest := by
  simp [Pool.after]

theorem Pool.after_other (p : Pool ι Op Ans σ ε α) {i j : ι} (rest : Program Op Ans ε α) (t : σ)
    (other : j ≠ i) : (p.after i rest t).programs j = p.programs j := by
  simp [Pool.after, other]

/-- The pools that are reached when the programs take turns, in any order that the condition
allows. -/
inductive Pool.Runs (W : World Op Ans σ) (may : Turn ι Op Ans σ ε α) (start : Pool ι Op Ans σ ε α) :
    Schedule ι Op Ans σ → Pool ι Op Ans σ ε α → Prop
  | start : Runs W may start [] start
  | turn {tr p i op next ans t} (before : Runs W may start tr p)
      (here : p.programs i = .call op next) (step : W p.state op ans t) (allowed : may tr p i op ans) :
      Runs W may start (tr ++ [(i, ⟨p.state, op, ans⟩)]) (p.after i (next ans) t)

theorem Pool.after_after (p : Pool ι Op Ans σ ε α) (i : ι) (rest rest' : Program Op Ans ε α) (t t' : σ) :
    (p.after i rest t).after i rest' t' = p.after i rest' t' := by
  simp [Pool.after]

theorem Pool.after_same {p : Pool ι Op Ans σ ε α} {i : ι} {rest : Program Op Ans ε α}
    (here : p.programs i = rest) : p.after i rest p.state = p := by
  simp [Pool.after, ← here]

/-- A program may take turn after turn, along a run of its first half. -/
theorem Pool.Runs.segment {W : World Op Ans σ} {may : Turn ι Op Ans σ ε β}
    {start p : Pool ι Op Ans σ ε β} {log : Schedule ι Op Ans σ} {i : ι} {head : Program Op Ans ε α}
    {f : α → Program Op Ans ε β} {tr : List (Event Op Ans σ)} {a : α} {s t : σ}
    (runs : Pool.Runs W may start log p) (here : p.programs i = head >>= f) (now : p.state = s)
    (run : Exec W head s tr (.ok a) t)
    (allowed : ∀ first e rest p', tr = first ++ e :: rest → may (log ++ first.map (i, ·)) p' i e.op e.ans) :
    Pool.Runs W may start (log ++ tr.map (i, ·)) (p.after i (f a) t) := by
  subst now
  obtain ⟨r, outcome⟩ : ∃ r : Except ε α, r = .ok a := ⟨_, rfl⟩
  rw [← outcome] at run
  generalize state : p.state = s at run
  induction run generalizing p log with
  | pure =>
    cases outcome
    subst state
    have same : p.after i (f a) p.state = p := Pool.after_same here
    rw [same]
    simpa using runs
  | raise => cases outcome
  | @call op next s ans mid tr r t step _ ih =>
    subst state
    have first := runs.turn here step (by simpa using allowed [] _ _ p rfl)
    have later := ih first (Pool.after_self _ _ _ _) (by
      intro before e rest p' split
      have turn := allowed (⟨p.state, op, ans⟩ :: before) e rest p' (by rw [split]; rfl)
      simpa using turn) outcome rfl
    rw [Pool.after_after] at later
    simpa using later

/-- An invariant of the phases, the history and the pool, kept by every turn, holds whenever. -/
theorem Pool.Runs.follows {W : World Op Ans σ} {may : Turn ι Op Ans σ ε α} {P : Protocol Op Ans ρ}
    {good : ρ → Except ε α → Prop}
    {I : Schedule ι Op Ans σ → (ι → ρ) → Pool ι Op Ans σ ε α → Prop} {start p : Pool ι Op Ans σ ε α}
    {tr : Schedule ι Op Ans σ} {phases : ι → ρ} (runs : Pool.Runs W may start tr p)
    (follows : ∀ i, (start.programs i).Follows P good (phases i)) (first : I [] phases start)
    (step : ∀ {tr phases p i q op next ans t}, I tr phases p →
      (∀ j, (p.programs j).Follows P good (phases j)) → p.programs i = .call op next →
      may tr p i op ans → P (phases i) op ans q → (next ans).Follows P good q → W p.state op ans t →
      I (tr ++ [(i, ⟨p.state, op, ans⟩)]) (Function.update phases i q) (p.after i (next ans) t)) :
    ∃ phases, I tr phases p ∧ ∀ i, (p.programs i).Follows P good (phases i) := by
  induction runs with
  | start => exact ⟨phases, first, follows⟩
  | @turn tr p i op next ans t _ here answered allowed ih =>
    obtain ⟨phases, kept, all⟩ := ih
    have own := all i
    rw [here] at own
    obtain ⟨q, led, rest⟩ := own ans
    refine ⟨Function.update phases i q, step kept all here allowed led rest answered, fun j => ?_⟩
    by_cases same : j = i
    · subst same
      simpa using rest
    · rw [Pool.after_other _ _ _ same, Function.update_of_ne same]
      exact all j

end Pool
end Interaction
