import LobstrMcp.Interaction.Machine
import LobstrMcp.Interaction.Protocol

/-!
Claims in two operations: a program looks something up, takes it away if it was there, and acts on
having taken it. Two programs may both find it before either takes it away; where nobody finds it
between another's look-up and removal, at most one program acts.
-/

namespace Interaction

variable {Op : Type} {Ans : Op → Type} {σ ε α ι : Type}

/-- How far a program has come with its claim. -/
inductive Claim where
  | seeking
  /-- It found the thing, which is still there for others to find. -/
  | holding
  | taken
  /-- It was answered what cannot be. -/
  | astray
  deriving DecidableEq

/-- The operations that a claim consists of, and those that would spoil it. -/
structure Claiming (Op : Type) (Ans : Op → Type) where
  finds : (op : Op) → Ans op → Prop
  takes : Op → Prop
  /-- The claim is given up. -/
  yields : (op : Op) → Ans op → Prop
  acts : Op → Prop
  /-- The thing may be there again. -/
  restores : Op → Prop
  /-- Answers that are not given. -/
  cannot : (op : Op) → Ans op → Prop

theorem Program.follows_ask_bind {ρ β : Type} {P : Protocol Op Ans ρ} {good : ρ → Except ε β → Prop} {q : ρ}
    {op : Op} {f : Ans op → Program Op Ans ε β} :
    (ask op >>= f).Follows P good q ↔ ∀ ans, ∃ q', P q op ans q' ∧ (f ans).Follows P good q' := Iff.rfl

theorem Pool.Runs.half {β : Type} [DecidableEq ι] {W : World Op Ans σ} {may : Turn ι Op Ans σ ε β}
    {m : Machine Op Ans σ} {start p : Pool ι Op Ans σ ε β} {log : Schedule ι Op Ans σ} {i : ι}
    {head : Program Op Ans ε α} {f : α → Program Op Ans ε β} {a : α} {t : σ}
    (runs : Pool.Runs W may start log p) (steps : ∀ s op, W s op (m s op).1 (m s op).2)
    (here : p.programs i = head >>= f) (ends : head.run m p.state = (.ok a, t))
    (allowed : ∀ (first : List (Event Op Ans σ)) (e : Event Op Ans σ) p',
      may (log ++ first.map (i, ·)) p' i e.op e.ans) :
    Pool.Runs W may start (log ++ (head.trace m p.state).map (i, ·)) (p.after i (f a) t) := by
  have run := exec_of_run steps head p.state
  rw [ends] at run
  exact runs.segment here rfl run fun first e _ p' _ => allowed first e p'

theorem Pool.Runs.alone [DecidableEq ι] {W : World Op Ans σ} {may : Turn ι Op Ans σ ε α} {m : Machine Op Ans σ}
    {start p : Pool ι Op Ans σ ε α} {log : Schedule ι Op Ans σ} {i : ι} {a : α} {t : σ}
    (runs : Pool.Runs W may start log p) (steps : ∀ s op, W s op (m s op).1 (m s op).2)
    (ends : (p.programs i).run m p.state = (.ok a, t))
    (allowed : ∀ (first : List (Event Op Ans σ)) (e : Event Op Ans σ) p',
      may (log ++ first.map (i, ·)) p' i e.op e.ans) :
    Pool.Runs W may start (log ++ ((p.programs i).trace m p.state).map (i, ·)) (p.after i (.pure a) t) :=
  runs.half (f := .pure) steps (Program.bind_pure _).symm ends allowed

namespace Claiming
variable (C : Claiming Op Ans)

/-- A program finds the thing, takes it away, and acts only then. -/
inductive Obeys : Protocol Op Ans Claim
  | quiet {q op ans} (lasts : ¬ C.restores op) (acting : C.acts op → q = .taken)
    (keeps : q = .holding → ¬ C.takes op ∧ ¬ C.yields op ans) : Obeys q op ans q
  | finds {op ans} (lasts : ¬ C.restores op) (idle : ¬ C.acts op) (found : C.finds op ans) :
    Obeys .seeking op ans .holding
  | takes {op ans} (lasts : ¬ C.restores op) (idle : ¬ C.acts op) (taken : C.takes op) :
    Obeys .holding op ans .taken
  | yields {op ans} (lasts : ¬ C.restores op) (idle : ¬ C.acts op) (given : C.yields op ans) :
    Obeys .holding op ans .seeking
  | astray {q op ans} (lasts : ¬ C.restores op) (wrong : C.cannot op ans) : Obeys q op ans .astray
  | lost {op ans} : Obeys .astray op ans .astray

/-- The program has found the thing, and neither taken it away nor given it up since. -/
def Open (log : Schedule ι Op Ans σ) (i : ι) : Prop :=
  ∃ before e after, log = before ++ (i, e) :: after ∧ C.finds e.op e.ans ∧
    ∀ f, (i, f) ∈ after → ¬ C.takes f.op ∧ ¬ C.yields f.op f.ans

/-- Nobody finds the thing while another program is between its look-up and its removal. -/
def Alone : Turn ι Op Ans σ ε α := fun log _ i op ans => C.finds op ans → ∀ j ≠ i, ¬ C.Open log j

/-- The world bears the claim out: what is found is there, what was taken is not, and an invariant
rules out the answers that cannot be. -/
structure Sound (W : World Op Ans σ) (present inv : σ → Prop) : Prop where
  keeps : ∀ {s op ans t}, ¬ C.restores op → inv s → W s op ans t → inv t ∧ ¬ C.cannot op ans
  found : ∀ {s op ans t}, inv s → W s op ans t → C.finds op ans → present s
  removed : ∀ {s op ans t}, W s op ans t → C.takes op → ¬ present t
  absent : ∀ {s op ans t}, ¬ C.restores op → inv s → W s op ans t → ¬ present s → ¬ present t

variable {C}

theorem follows_astray {good : Claim → Except ε α → Prop} (ends : ∀ r, good .astray r)
    (p : Program Op Ans ε α) : p.Follows C.Obeys good .astray := by
  induction p with
  | pure a => exact ends _
  | raise e => exact ends _
  | call op next ih => exact fun ans => ⟨.astray, .lost, ih ans⟩

theorem Open.quiet {log : Schedule ι Op Ans σ} {i j : ι} {e : Event Op Ans σ} (opened : C.Open log i)
    (other : i ≠ j ∨ ¬ C.takes e.op ∧ ¬ C.yields e.op e.ans) : C.Open (log ++ [(j, e)]) i := by
  obtain ⟨before, first, after, rfl, finds, since⟩ := opened
  refine ⟨before, first, after ++ [(j, e)], by simp, finds, fun f member => ?_⟩
  rcases List.mem_append.mp member with member | member
  · exact since f member
  · obtain ⟨rfl, rfl⟩ := Prod.mk.inj (List.mem_singleton.mp member)
    exact other.resolve_left (not_not.mpr rfl)

theorem Open.finds {log : Schedule ι Op Ans σ} {i : ι} {e : Event Op Ans σ} (found : C.finds e.op e.ans) :
    C.Open (log ++ [(i, e)]) i :=
  ⟨log, e, [], rfl, found, by simp⟩

theorem mem_snoc {log : Schedule ι Op Ans σ} {i j : ι} {e f : Event Op Ans σ}
    (member : (j, f) ∈ log ++ [(i, e)]) : (j, f) ∈ log ∨ j = i ∧ f = e := by
  rcases List.mem_append.mp member with member | member
  · exact .inl member
  · exact .inr (Prod.mk.inj (List.mem_singleton.mp member))

/-- It has found the thing and may take it away, or has. -/
def Claimed (q : Claim) : Prop := q = .holding ∨ q = .taken

/-- Where everyone stands: at most one program claims the thing, the window of one that holds it is
open, nothing is there once it was taken, and nobody acts who did not take it. -/
structure Exclusive (C : Claiming Op Ans) (present inv : σ → Prop) (log : Schedule ι Op Ans σ)
    (phases : ι → Claim) (s : σ) : Prop where
  invariant : inv s
  regular : ∀ i, phases i ≠ .astray
  single : ∀ i j, Claimed (phases i) → Claimed (phases j) → i = j
  opened : ∀ i, phases i = .holding → C.Open log i
  removed : ∀ i, phases i = .taken → ¬ present s
  acted : ∀ i e, (i, e) ∈ log → C.acts e.op → phases i = .taken

variable {W : World Op Ans σ} {present inv : σ → Prop} [DecidableEq ι]

section Step
variable {log : Schedule ι Op Ans σ} {phases : ι → Claim} {s t : σ} {i : ι} {op : Op} {ans : Ans op}

theorem Exclusive.quiet (exclusive : Exclusive C present inv log phases s) (kept : inv t)
    (absent : ¬ present s → ¬ present t) (acting : C.acts op → phases i = .taken)
    (keeps : phases i = .holding → ¬ C.takes op ∧ ¬ C.yields op ans) :
    Exclusive C present inv (log ++ [(i, ⟨s, op, ans⟩)]) phases t where
  invariant := kept
  regular := exclusive.regular
  single := exclusive.single
  opened := by
    intro j holding
    refine (exclusive.opened j holding).quiet ?_
    by_cases same : j = i
    · subst same
      exact .inr (keeps holding)
    · exact .inl same
  removed := fun j taken => absent (exclusive.removed j taken)
  acted := by
    intro j e member acts
    rcases mem_snoc member with member | ⟨rfl, rfl⟩
    · exact exclusive.acted j e member acts
    · exact acting acts

/-- The program finds the thing, which nobody else claims. -/
theorem Exclusive.finds (exclusive : Exclusive C present inv log phases s) (kept : inv t)
    (seeking : phases i = .seeking) (there : present s) (found : C.finds op ans) (idle : ¬ C.acts op)
    (alone : ∀ j ≠ i, ¬ C.Open log j) :
    Exclusive C present inv (log ++ [(i, ⟨s, op, ans⟩)]) (Function.update phases i .holding) t := by
  -- a holder would have its look-up open, and who has taken it has removed it
  have free : ∀ j, ¬ Claimed (phases j) := by
    rintro j (holding | taken)
    · refine alone j ?_ (exclusive.opened j holding)
      rintro rfl
      rw [seeking] at holding
      cases holding
    · exact exclusive.removed j taken there
  have own : ∀ j, Claimed (Function.update phases i .holding j) → j = i := by
    intro j claimed
    by_contra other
    rw [Function.update_of_ne other] at claimed
    exact free j claimed
  constructor
  · exact kept
  · intro j
    by_cases same : j = i
    · subst same
      simp
    · rw [Function.update_of_ne same]
      exact exclusive.regular j
  · intro j k claimed claimed'
    rw [own j claimed, own k claimed']
  · intro j holding
    rw [own j (.inl holding)]
    exact .finds found
  · intro j taken
    obtain rfl := own j (.inr taken)
    rw [Function.update_self] at taken
    cases taken
  · intro j e member acts
    rcases mem_snoc member with member | ⟨rfl, rfl⟩
    · exact (free j (.inr (exclusive.acted j e member acts))).elim
    · exact (idle acts).elim

/-- The program that holds the thing moves on: it has taken it away, or given it up. -/
theorem Exclusive.leaves {q : Claim} (exclusive : Exclusive C present inv log phases s) (kept : inv t)
    (holding : phases i = .holding) (idle : ¬ C.acts op) (gone : q = .taken ∧ ¬ present t ∨ q = .seeking) :
    Exclusive C present inv (log ++ [(i, ⟨s, op, ans⟩)]) (Function.update phases i q) t := by
  have before : ∀ j, Claimed (Function.update phases i q j) → Claimed (phases j) := by
    intro j claimed
    by_cases same : j = i
    · subst same
      exact .inl holding
    · rwa [Function.update_of_ne same] at claimed
  have own : ∀ j, Claimed (phases j) → j = i := fun j claimed => exclusive.single j i claimed (.inl holding)
  constructor
  · exact kept
  · intro j
    by_cases same : j = i
    · subst same
      rw [Function.update_self]
      rcases gone with ⟨rfl, _⟩ | rfl <;> simp
    · rw [Function.update_of_ne same]
      exact exclusive.regular j
  · exact fun j k claimed claimed' => exclusive.single j k (before j claimed) (before k claimed')
  · intro j still
    obtain rfl := own j (before j (.inl still))
    rw [Function.update_self] at still
    rcases gone with ⟨rfl, _⟩ | rfl <;> cases still
  · intro j taken
    obtain rfl := own j (before j (.inr taken))
    rw [Function.update_self] at taken
    rcases gone with ⟨_, absent⟩ | rfl
    · exact absent
    · cases taken
  · intro j e member acts
    rcases mem_snoc member with member | ⟨rfl, rfl⟩
    · have taken := exclusive.acted j e member acts
      rw [own j (.inr taken), holding] at taken
      cases taken
    · exact (idle acts).elim

theorem Exclusive.step {q : Claim} (sound : C.Sound W present inv)
    (exclusive : Exclusive C present inv log phases s)
    (alone : C.finds op ans → ∀ j ≠ i, ¬ C.Open log j) (obeys : C.Obeys (phases i) op ans q)
    (step : W s op ans t) :
    Exclusive C present inv (log ++ [(i, ⟨s, op, ans⟩)]) (Function.update phases i q) t := by
  have invariant := exclusive.invariant
  generalize phase : phases i = here at obeys
  cases obeys with
  | quiet lasts acting keeps =>
    subst phase
    rw [Function.update_eq_self]
    exact exclusive.quiet (sound.keeps lasts invariant step).1 (sound.absent lasts invariant step) acting keeps
  | finds lasts idle found =>
    exact exclusive.finds (sound.keeps lasts invariant step).1 phase (sound.found invariant step found) found idle
      (alone found)
  | takes lasts idle taken =>
    exact exclusive.leaves (sound.keeps lasts invariant step).1 phase idle (.inl ⟨rfl, sound.removed step taken⟩)
  | yields lasts idle given =>
    exact exclusive.leaves (sound.keeps lasts invariant step).1 phase idle (.inr rfl)
  | astray lasts wrong => exact ((sound.keeps lasts invariant step).2 wrong).elim
  | lost => exact (exclusive.regular i phase).elim

end Step

/-- In every run in which nobody finds the thing between another's look-up and removal, at most one
program claims it. -/
theorem exclusive_runs (sound : C.Sound W present inv) {start p : Pool ι Op Ans σ ε α}
    {log : Schedule ι Op Ans σ} {good : Claim → Except ε α → Prop}
    (runs : Pool.Runs W C.Alone start log p) (first : inv start.state)
    (follows : ∀ i, (start.programs i).Follows C.Obeys good .seeking) :
    ∃ phases, Exclusive C present inv log phases p.state ∧
      ∀ i, (p.programs i).Follows C.Obeys good (phases i) := by
  refine runs.follows (I := fun log phases p => Exclusive C present inv log phases p.state) follows ?_ ?_
  · constructor
    · exact first
    · exact fun _ => by simp
    · exact fun _ _ claimed => by simp [Claimed] at claimed
    · exact fun _ absurd => by cases absurd
    · exact fun _ absurd => by cases absurd
    · exact fun _ _ absurd => by cases absurd
  · intro log phases p i q op next ans t exclusive _ _ alone obeys _ step
    exact exclusive.step sound alone obeys step

/-! ### Acting once -/

/-- An act that a program performs once. -/
def OnceOnly (acts : Op → Bool) : Protocol Op Ans Bool := fun acted op _ acted' =>
  if acts op then acted = false ∧ acted' = true else acted' = acted

def actsOf (acts : Op → Bool) (log : Schedule ι Op Ans σ) (i : ι) : Schedule ι Op Ans σ :=
  log.filter fun x => decide (x.1 = i) && acts x.2.op

theorem acts_once_each {W : World Op Ans σ} {may : Turn ι Op Ans σ ε α} {start p : Pool ι Op Ans σ ε α}
    {log : Schedule ι Op Ans σ} {acts : Op → Bool} {good : Bool → Except ε α → Prop}
    (runs : Pool.Runs W may start log p)
    (follows : ∀ i, (start.programs i).Follows (OnceOnly acts) good false) (i : ι) :
    (actsOf acts log i).length ≤ 1 := by
  have counts : ∃ phases : ι → Bool, (∀ i, (actsOf acts log i).length ≤ (phases i).toNat) ∧
      ∀ i, (p.programs i).Follows (OnceOnly acts) good (phases i) := by
    refine runs.follows (I := fun log phases _ => ∀ i, (actsOf acts log i).length ≤ (phases i).toNat) follows
      (fun _ => Nat.le_refl _) ?_
    intro log phases p i acted op next ans t counted _ _ _ led _ _ j
    have before := counted j
    unfold actsOf at before ⊢
    rw [List.filter_append, List.length_append]
    by_cases same : j = i
    · subst same
      rw [Function.update_self]
      unfold OnceOnly at led
      split at led
      · rename_i acting
        obtain ⟨idle, rfl⟩ := led
        rw [idle] at before
        simpa [acting] using before
      · rename_i idle
        rw [led]
        simpa [idle] using before
    · rw [Function.update_of_ne same]
      simpa [Ne.symm same] using before
  obtain ⟨phases, counted, _⟩ := counts
  exact Nat.le_trans (counted i) (Bool.toNat_le _)

theorem Exclusive.acts_once {log : Schedule ι Op Ans σ} {phases : ι → Claim} {s : σ} {acts : Op → Bool}
    (exclusive : Exclusive C present inv log phases s) (same : ∀ op, acts op = true → C.acts op)
    (each : ∀ i, (actsOf acts log i).length ≤ 1) : (log.filter fun x => acts x.2.op).length ≤ 1 := by
  rcases List.eq_nil_or_concat (log.filter fun x => acts x.2.op) with none | ⟨_, x, some⟩
  · simp [none]
  · have member : x ∈ log.filter fun x => acts x.2.op := by simp [some]
    obtain ⟨held, acting⟩ := List.mem_filter.mp member
    have own : (log.filter fun x => acts x.2.op) = actsOf acts log x.1 := by
      refine List.filter_congr fun y listed => ?_
      cases acted : acts y.2.op with
      | false => simp
      | true =>
        have first := exclusive.acted x.1 x.2 held (same _ acting)
        have second := exclusive.acted y.1 y.2 listed (same _ acted)
        simp [exclusive.single y.1 x.1 (.inr second) (.inr first)]
    rw [own]
    exact each x.1

end Claiming
end Interaction
