import Mathlib.Data.List.Basic

/-!
Programs that talk to an environment: a tree whose nodes are the operations issued and whose
branches are the answers. A leaf is a value or an exception. The tree is finite along every
branch, so a program always ends; what it may answer is decided by the world it runs in
(`Execution.lean`).
-/

namespace Interaction

/-- A program that issues operations, and ends with a value or an exception. -/
inductive Program (Op : Type) (Ans : Op → Type) (ε α : Type) : Type
  | pure (a : α)
  | raise (e : ε)
  | call (op : Op) (next : Ans op → Program Op Ans ε α)

namespace Program
variable {Op : Type} {Ans : Op → Type} {ε ε' α β γ : Type}

def bind : Program Op Ans ε α → (α → Program Op Ans ε β) → Program Op Ans ε β
  | .pure a, f => f a
  | .raise e, _ => .raise e
  | .call op next, f => .call op fun ans => (next ans).bind f

instance : Monad (Program Op Ans ε) where
  pure := .pure
  bind := bind

/-- Issue one operation and return its answer. -/
def ask (op : Op) : Program Op Ans ε (Ans op) := .call op .pure

/-- Run `p` and hand its outcome over as a value: nothing escapes. -/
def attempt : Program Op Ans ε α → Program Op Ans ε' (Except ε α)
  | .pure a => .pure (.ok a)
  | .raise e => .pure (.error e)
  | .call op next => .call op fun ans => (next ans).attempt

/-- End with the value, or raise the exception. -/
def ofExcept : Except ε α → Program Op Ans ε α
  | .ok a => .pure a
  | .error e => .raise e

@[simp] theorem pure_bind (a : α) (f : α → Program Op Ans ε β) : (Pure.pure a >>= f) = f a := rfl

@[simp] theorem leaf_bind (a : α) (f : α → Program Op Ans ε β) : (Program.pure a >>= f) = f a := rfl

@[simp] theorem raise_bind (e : ε) (f : α → Program Op Ans ε β) :
    (Program.raise e >>= f) = .raise e := rfl

@[simp] theorem call_bind (op : Op) (next : Ans op → Program Op Ans ε α)
    (f : α → Program Op Ans ε β) :
    (Program.call op next >>= f) = .call op fun ans => next ans >>= f := rfl

theorem bind_assoc (p : Program Op Ans ε α) (f : α → Program Op Ans ε β)
    (g : β → Program Op Ans ε γ) : (p >>= f) >>= g = p >>= fun a => f a >>= g := by
  induction p with
  | pure a => rfl
  | raise e => rfl
  | call op next ih =>
    simp only [call_bind]
    congr 1
    funext ans
    exact ih ans

theorem bind_pure (p : Program Op Ans ε α) : (p >>= Program.pure) = p := by
  induction p with
  | pure a => rfl
  | raise e => rfl
  | call op next ih =>
    simp only [call_bind]
    congr 1
    funext ans
    exact ih ans

/-- The outcome under an environment that answers every operation by a fixed rule. -/
def respond (answer : (op : Op) → Ans op) : Program Op Ans ε α → Except ε α
  | .pure a => .ok a
  | .raise e => .error e
  | .call op next => (next (answer op)).respond answer

def Ended : Program Op Ans ε α → Prop
  | .call _ _ => False
  | _ => True

/-- Every operation the program may issue satisfies `allowed`. -/
def Uses (allowed : Op → Prop) : Program Op Ans ε α → Prop
  | .pure _ => True
  | .raise _ => True
  | .call op next => allowed op ∧ ∀ ans, (next ans).Uses allowed

variable {allowed : Op → Prop}

@[simp] theorem uses_pure (a : α) : (Pure.pure a : Program Op Ans ε α).Uses allowed := trivial

@[simp] theorem uses_raise (e : ε) : (Program.raise e : Program Op Ans ε α).Uses allowed := trivial

@[simp] theorem uses_ask (op : Op) :
    (ask op : Program Op Ans ε (Ans op)).Uses allowed ↔ allowed op := by
  simp [ask, Uses]

@[simp] theorem uses_ofExcept (x : Except ε α) :
    (ofExcept x : Program Op Ans ε α).Uses allowed := by
  cases x <;> trivial

theorem uses_bind {p : Program Op Ans ε α} {f : α → Program Op Ans ε β}
    (first : p.Uses allowed) (rest : ∀ a, (f a).Uses allowed) : (p >>= f).Uses allowed := by
  induction p with
  | pure a => exact rest a
  | raise e => trivial
  | call op next ih => exact ⟨first.1, fun ans => ih ans (first.2 ans)⟩

/-- Every way the program may end satisfies `good`. -/
def Ends (good : Except ε α → Prop) : Program Op Ans ε α → Prop
  | .pure a => good (.ok a)
  | .raise e => good (.error e)
  | .call _ next => ∀ ans, (next ans).Ends good

theorem ends_of_forall {good : Except ε α → Prop} (ok : ∀ r, good r) (p : Program Op Ans ε α) :
    p.Ends good := by
  induction p with
  | pure a => exact ok _
  | raise e => exact ok _
  | call op next ih => exact fun ans => ih ans

theorem Ends.mono {good better : Except ε α → Prop} {p : Program Op Ans ε α} (ends : p.Ends good)
    (weaken : ∀ r, good r → better r) : p.Ends better := by
  induction p with
  | pure a => exact weaken _ ends
  | raise e => exact weaken _ ends
  | call op next ih => exact fun ans => ih ans (ends ans)

/-- A property of values only is owed by the second half alone. -/
theorem ends_bind_value {good : β → Prop} {p : Program Op Ans ε α} {f : α → Program Op Ans ε β}
    (rest : ∀ a, (f a).Ends fun r => ∀ b, r = .ok b → good b) :
    (p >>= f).Ends fun r => ∀ b, r = .ok b → good b := by
  induction p with
  | pure a => exact rest a
  | raise e => exact fun _ absurd => by cases absurd
  | call op next ih => exact fun ans => ih ans

/-- What a sequence owes is what its first half leaves to the second. -/
theorem ends_bind {good : Except ε β → Prop} {p : Program Op Ans ε α}
    {f : α → Program Op Ans ε β} :
    (p >>= f).Ends good ↔ p.Ends fun r =>
      match r with
      | .error e => good (.error e)
      | .ok a => (f a).Ends good := by
  induction p with
  | pure a => exact Iff.rfl
  | raise e => exact Iff.rfl
  | call op next ih =>
    have rest : ∀ ans, ((next ans >>= f).Ends good ↔ (next ans).Ends _) := fun ans => ih ans
    simp only [call_bind, Ends, rest]

/-- The second half is only owed for what the first half can end with. -/
theorem uses_bind_of_ends {good : α → Prop} {p : Program Op Ans ε α} {f : α → Program Op Ans ε β}
    (first : p.Uses allowed) (ends : p.Ends fun r => ∀ a, r = .ok a → good a)
    (rest : ∀ a, good a → (f a).Uses allowed) : (p >>= f).Uses allowed := by
  induction p with
  | pure a => exact rest a (ends a rfl)
  | raise e => trivial
  | call op next ih => exact ⟨first.1, fun ans => ih ans (first.2 ans) (ends ans)⟩

theorem Uses.mono {wider : Op → Prop} {p : Program Op Ans ε α} (uses : p.Uses allowed)
    (widen : ∀ op, allowed op → wider op) : p.Uses wider := by
  induction p with
  | pure a => trivial
  | raise e => trivial
  | call op next ih => exact ⟨widen op uses.1, fun ans => ih ans (uses.2 ans)⟩

end Program
end Interaction
