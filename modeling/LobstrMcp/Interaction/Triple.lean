import LobstrMcp.Interaction.Execution

/-!
Postconditions of programs in a world, of both kinds: `Ensures` is about every run, whatever the
world answers; `May` is about some run. A postcondition speaks of the operations issued, the
outcome and the last state, and each rule follows one constructor of the program.
-/

namespace Interaction

variable {Op : Type} {Ans : Op → Type} {σ ε ε' α β : Type} {W : World Op Ans σ}

/-- Every run of `p` from `s` meets `Q`. -/
def Ensures (W : World Op Ans σ) (p : Program Op Ans ε α) (s : σ)
    (Q : List (Event Op Ans σ) → Except ε α → σ → Prop) : Prop :=
  ∀ tr r t, Exec W p s tr r t → Q tr r t

/-- Some run of `p` from `s` meets `Q`. -/
def May (W : World Op Ans σ) (p : Program Op Ans ε α) (s : σ)
    (Q : List (Event Op Ans σ) → Except ε α → σ → Prop) : Prop :=
  ∃ tr r t, Exec W p s tr r t ∧ Q tr r t

variable {Q Q' : List (Event Op Ans σ) → Except ε α → σ → Prop} {s : σ}

theorem Ensures.mono {p : Program Op Ans ε α} (h : Ensures W p s Q)
    (weaken : ∀ tr r t, Q tr r t → Q' tr r t) : Ensures W p s Q' :=
  fun tr r t run => weaken tr r t (h tr r t run)

theorem Ensures.and {p : Program Op Ans ε α} (h : Ensures W p s Q) (h' : Ensures W p s Q') :
    Ensures W p s fun tr r t => Q tr r t ∧ Q' tr r t :=
  fun tr r t run => ⟨h tr r t run, h' tr r t run⟩

/-- A run that may break `Q` refutes `Ensures`. -/
theorem May.not_ensures {p : Program Op Ans ε α} (h : May W p s fun tr r t => ¬ Q tr r t) :
    ¬ Ensures W p s Q := by
  obtain ⟨tr, r, t, run, broken⟩ := h
  exact fun ensures => broken (ensures tr r t run)

@[simp] theorem ensures_leaf {a : α} : Ensures W (.pure a) s Q ↔ Q [] (.ok a) s := by
  constructor
  · intro h
    exact h [] (.ok a) s .pure
  · intro h tr r t run
    obtain ⟨rfl, rfl, rfl⟩ := exec_leaf.mp run
    exact h

@[simp] theorem ensures_pure {a : α} : Ensures W (Pure.pure a) s Q ↔ Q [] (.ok a) s := ensures_leaf

@[simp] theorem ensures_raise {e : ε} : Ensures W (.raise e) s Q ↔ Q [] (.error e) s := by
  constructor
  · intro h
    exact h [] (.error e) s .raise
  · intro h tr r t run
    obtain ⟨rfl, rfl, rfl⟩ := exec_raise.mp run
    exact h

theorem ensures_call {op : Op} {next : Ans op → Program Op Ans ε α} :
    Ensures W (.call op next) s Q ↔
      ∀ ans mid, W s op ans mid → Ensures W (next ans) mid fun tr => Q (⟨s, op, ans⟩ :: tr) := by
  constructor
  · intro h ans mid step tr r t run
    exact h _ r t (.call step run)
  · intro h tr r t run
    obtain ⟨ans, mid, rest, step, rfl, tail⟩ := exec_call.mp run
    exact h ans mid step rest r t tail

@[simp] theorem ensures_ask {op : Op} {Q : List (Event Op Ans σ) → Except ε (Ans op) → σ → Prop} :
    Ensures W (.ask op) s Q ↔ ∀ ans mid, W s op ans mid → Q [⟨s, op, ans⟩] (.ok ans) mid := by
  simp [Program.ask, ensures_call]

/-- A sequence: its second half is owed what the first half leaves open. -/
theorem ensures_bind {p : Program Op Ans ε α} {f : α → Program Op Ans ε β}
    {Q : List (Event Op Ans σ) → Except ε β → σ → Prop} :
    Ensures W (p >>= f) s Q ↔ Ensures W p s fun tr r t =>
      match r with
      | .error e => Q tr (.error e) t
      | .ok a => Ensures W (f a) t fun rest => Q (tr ++ rest) := by
  constructor
  · intro h tr r t run
    cases r with
    | error e => exact h tr (.error e) t (exec_bind.mpr (.inl ⟨e, rfl, run⟩))
    | ok a =>
      intro rest r' t' tail
      exact h (tr ++ rest) r' t' (exec_bind.mpr (.inr ⟨a, t, tr, rest, rfl, run, tail⟩))
  · intro h tr r t run
    rcases exec_bind.mp run with ⟨e, rfl, head⟩ | ⟨a, mid, first, rest, rfl, head, tail⟩
    · exact h tr (.error e) t head
    · exact h first (.ok a) mid head rest r t tail

theorem ensures_each_bind {P : Event Op Ans σ → Prop} {p : Program Op Ans ε α}
    {f : α → Program Op Ans ε β}
    (first : Ensures W p s fun tr r t => (∀ e ∈ tr, P e) ∧
      ∀ a, r = .ok a → Ensures W (f a) t fun rest _ _ => ∀ e ∈ rest, P e) :
    Ensures W (p >>= f) s fun tr _ _ => ∀ e ∈ tr, P e := by
  refine ensures_bind.mpr (first.mono fun tr r t half => ?_)
  cases r with
  | error e => exact half.1
  | ok a =>
    refine (half.2 a rfl).mono fun rest _ _ tail e member => ?_
    rcases List.mem_append.mp member with member | member
    · exact half.1 e member
    · exact tail e member

@[simp] theorem ensures_attempt {p : Program Op Ans ε α}
    {Q : List (Event Op Ans σ) → Except ε' (Except ε α) → σ → Prop} :
    Ensures W p.attempt s Q ↔ Ensures W p s fun tr r => Q tr (.ok r) := by
  constructor
  · intro h tr r t run
    exact h tr (.ok r) t (exec_attempt.mpr ⟨r, rfl, run⟩)
  · intro h tr r t run
    obtain ⟨x, rfl, inner⟩ := exec_attempt.mp run
    exact h tr x t inner

@[simp] theorem may_leaf {a : α} : May W (.pure a) s Q ↔ Q [] (.ok a) s := by
  simp [May]

@[simp] theorem may_pure {a : α} : May W (Pure.pure a) s Q ↔ Q [] (.ok a) s := may_leaf

@[simp] theorem may_raise {e : ε} : May W (.raise e) s Q ↔ Q [] (.error e) s := by
  simp [May]

theorem may_bind {p : Program Op Ans ε α} {f : α → Program Op Ans ε β}
    {Q : List (Event Op Ans σ) → Except ε β → σ → Prop}
    (h : May W p s fun tr r t =>
      match r with
      | .error e => Q tr (.error e) t
      | .ok a => May W (f a) t fun rest => Q (tr ++ rest)) : May W (p >>= f) s Q := by
  obtain ⟨tr, r, t, run, met⟩ := h
  cases r with
  | error e => exact ⟨tr, .error e, t, exec_bind.mpr (.inl ⟨e, rfl, run⟩), met⟩
  | ok a =>
    obtain ⟨rest, r', t', tail, met⟩ := met
    exact ⟨tr ++ rest, r', t', exec_bind.mpr (.inr ⟨a, t, tr, rest, rfl, run, tail⟩), met⟩

/-- Follow the first half along a run of it. -/
theorem may_bind_of_exec {p : Program Op Ans ε α} {f : α → Program Op Ans ε β}
    {Q : List (Event Op Ans σ) → Except ε β → σ → Prop} {tr : List (Event Op Ans σ)} {a : α} {mid : σ}
    (head : Exec W p s tr (.ok a) mid) (rest : May W (f a) mid fun tail => Q (tr ++ tail)) :
    May W (p >>= f) s Q :=
  may_bind ⟨tr, .ok a, mid, head, rest⟩

theorem May.mono {p : Program Op Ans ε α} (h : May W p s Q) (weaken : ∀ tr r t, Q tr r t → Q' tr r t) :
    May W p s Q' := by
  obtain ⟨tr, r, t, run, met⟩ := h
  exact ⟨tr, r, t, run, weaken tr r t met⟩

/-! ### Rules of static knowledge -/

theorem Ensures.of_ends {good : Except ε α → Prop} {p : Program Op Ans ε α} (ends : p.Ends good) :
    Ensures W p s fun _ r _ => good r := by
  intro tr r t run
  induction run with
  | pure => exact ends
  | raise => exact ends
  | call _ _ ih => exact ih (ends _)

theorem Ensures.unchanged {allowed : Op → Prop} {p : Program Op Ans ε α} (uses : p.Uses allowed)
    (keep : ∀ {s op ans t}, allowed op → W s op ans t → t = s) :
    Ensures W p s fun tr _ t => t = s ∧ ∀ e ∈ tr, e.before = s ∧ allowed e.op := by
  intro tr r t run
  have inert := run.invariant (I := fun u => u = s) uses rfl fun {u op ans v} permitted step same => by
    rw [keep permitted step, same]
  exact ⟨inert.2, fun e member => ⟨inert.1 e member, run.uses uses e member⟩⟩

theorem Exec.step_of_mem {p : Program Op Ans ε α} {tr : List (Event Op Ans σ)} {r : Except ε α}
    {t : σ} (run : Exec W p s tr r t) : ∀ e ∈ tr, ∃ after, W e.before e.op e.ans after := by
  induction run with
  | pure => simp
  | raise => simp
  | call step _ ih =>
    intro e member
    rcases List.mem_cons.mp member with rfl | member
    · exact ⟨_, step⟩
    · exact ih e member

end Interaction
