import LobstrMcp.Run.KeyProtocol
import LobstrMcp.World.Store

/-!
What one call does to the store, from its look-up to the storing of its run, and what follows for
calls that are handled one after another on one store.
-/

namespace LobstrMcp
open Interaction Tool

def Starts (e : Event Call Answer Shared) (runId : Json) : Prop :=
  match e.op, e.ans with
  | .startRun _, .ok run => Dict.get? run "id" = some runId
  | _, _ => False

def Stores (e : Event Call Answer Shared) (key : String) (runId : Json) (ttl : Option Int) : Prop :=
  e.op = .idemPut key runId ttl

/-! ### One call -/

section Account
variable (keys : String → Option Int → Prop) (s₀ : Shared)

/-- The call's look-up, of a store that is as the call met it. -/
structure LookedUp (past : List (Event Call Answer Shared)) (key : String) (ttl : Option Int)
    (e : Event Call Answer Shared) : Prop where
  member : e ∈ past
  op : e.op = .idemGet key
  entry : keys key ttl
  since : s₀.now ≤ e.before.now

/-- Nothing was started and nothing stored. -/
def NoRun (past : List (Event Call Answer Shared)) : Prop :=
  ∀ e ∈ past, (∀ runId, ¬ Starts e runId) ∧ ∀ key runId ttl, ¬ Stores e key runId ttl

/-- The call's one start, after a look-up that found nothing. -/
structure StartedOne (past : List (Event Call Answer Shared)) (key : String) (ttl : Option Int)
    (runId : Json) (looked started : Event Call Answer Shared) : Prop where
  lookedUp : LookedUp keys s₀ past key ttl looked
  missed : foundRun (s₀.store.get looked.before.now key).1 = none
  member : started ∈ past
  starts : Starts started runId
  after : looked.before.now ≤ started.before.now
  truthy : runId.truthy = true
  only : ∀ e ∈ past, ∀ r, Starts e r → e = started

/-- What a call has done, phase by phase, to the store it met. -/
inductive Account : List (Event Call Answer Shared) → RunPhase → Shared → Prop
  | waiting {past s} (noRun : NoRun past) (store : s.store = s₀.store) (time : s₀.now ≤ s.now) :
      Account past .waiting s
  | missed {past s q key ttl e} (lookedUp : LookedUp keys s₀ past key ttl e) (noRun : NoRun past)
      (miss : foundRun (s₀.store.get e.before.now key).1 = none)
      (store : s.store = (s₀.store.get e.before.now key).2) (time : e.before.now ≤ s.now)
      (phase : q = .working key ttl ∨ q = .closed) : Account past q s
  | started {past s key ttl runId e b} (one : StartedOne keys s₀ past key ttl runId e b)
      (unstored : ∀ e' ∈ past, ∀ k r l, ¬ Stores e' k r l)
      (store : s.store = (s₀.store.get e.before.now key).2) (time : b.before.now ≤ s.now) :
      Account past (.storing key ttl runId) s
  | stored {past s key ttl runId e b p} (one : StartedOne keys s₀ past key ttl runId e b)
      (member : p ∈ past) (stores : Stores p key runId ttl) (after : b.before.now ≤ p.before.now)
      (only : ∀ e' ∈ past, ∀ k r l, Stores e' k r l → e' = p)
      (store : s.store = ((s₀.store.get e.before.now key).2).put p.before.now key runId ttl)
      (time : p.before.now ≤ s.now) : Account past .closed s
  | served {past s key ttl runId e} (lookedUp : LookedUp keys s₀ past key ttl e) (noRun : NoRun past)
      (hit : (s₀.store.get e.before.now key).1 = some runId)
      (store : s.store = (s₀.store.get e.before.now key).2) (time : e.before.now ≤ s.now) :
      Account past (.served runId) s

end Account

section Steps
variable {keys : String → Option Int → Prop} {s₀ s t : Shared} {past : List (Event Call Answer Shared)}
  {key : String} {ttl : Option Int} {runId : Json} {looked started e : Event Call Answer Shared}
  {q q' : RunPhase} {c : Call} {ans : Answer c} {during : Rat → Prop}

theorem LookedUp.later (lookedUp : LookedUp keys s₀ past key ttl looked) :
    LookedUp keys s₀ (past ++ [e]) key ttl looked :=
  { lookedUp with member := List.mem_append_left _ lookedUp.member }

theorem NoRun.later (noRun : NoRun past) (starts : ∀ r, ¬ Starts e r) (stores : ∀ k r l, ¬ Stores e k r l) :
    NoRun (past ++ [e]) := by
  intro e' member
  rcases List.mem_append.mp member with member | member
  · exact noRun e' member
  · rw [List.mem_singleton.mp member]
    exact ⟨starts, stores⟩

theorem StartedOne.later (one : StartedOne keys s₀ past key ttl runId looked started)
    (starts : ∀ r, ¬ Starts e r) : StartedOne keys s₀ (past ++ [e]) key ttl runId looked started where
  lookedUp := one.lookedUp.later
  missed := one.missed
  member := List.mem_append_left _ one.member
  starts := one.starts
  after := one.after
  truthy := one.truthy
  only := by
    intro e' member r begins
    rcases List.mem_append.mp member with member | member
    · exact one.only e' member r begins
    · rw [List.mem_singleton.mp member] at begins
      exact absurd begins (starts r)

theorem not_starts_of_quiet (quiet : c.Quiet) (r : Json) : ¬ Starts ⟨s, c, ans⟩ r := by
  cases c <;> first | exact quiet.elim | exact id

theorem not_stores_of_quiet (quiet : c.Quiet) (k : String) (r : Json) (l : Option Int) :
    ¬ Stores ⟨s, c, ans⟩ k r l := by
  rintro rfl
  exact quiet

theorem Account.quiet (account : Account keys s₀ past q s) (quiet : c.Quiet)
    (led : runNext keys q c ans q') (step : Shared.world during s c ans t) :
    Account keys s₀ (past ++ [⟨s, c, ans⟩]) q' t := by
  obtain ⟨idle, rfl⟩ := (runNext_quiet_iff quiet).mp led
  obtain ⟨kept, later, _⟩ := Shared.world_keeps step (by rintro k rfl; exact quiet)
    (by rintro k r l rfl; exact quiet)
  have starts (r : Json) : ¬ Starts ⟨s, c, ans⟩ r := not_starts_of_quiet quiet r
  have stores (k : String) (r : Json) (l : Option Int) : ¬ Stores ⟨s, c, ans⟩ k r l :=
    not_stores_of_quiet quiet k r l
  cases account with
  | waiting noRun store time =>
    exact .waiting (noRun.later starts stores) (kept.trans store) (time.trans later)
  | missed lookedUp noRun miss store time phase =>
    exact .missed lookedUp.later (noRun.later starts stores) miss (kept.trans store) (time.trans later) phase
  | started one unstored store time => exact idle.elim
  | served lookedUp noRun hit store time => exact idle.elim
  | stored one member stores' after only store time =>
    refine .stored (one.later starts) (List.mem_append_left _ member) stores' after ?_ (kept.trans store)
      (time.trans later)
    intro e member k r l stored
    rcases List.mem_append.mp member with member | member
    · exact only e member k r l stored
    · rw [List.mem_singleton.mp member] at stored
      exact absurd stored (stores k r l)

theorem Account.lookUp {key : String} {ans : Answer (.idemGet key)} (account : Account keys s₀ past q s)
    (led : runNext keys q (.idemGet key) ans q') (step : Shared.world during s (.idemGet key) ans t) :
    Account keys s₀ (past ++ [⟨s, .idemGet key, ans⟩]) q' t := by
  obtain ⟨rfl, rfl⟩ := step
  obtain ⟨rfl, ttl, entry, rfl⟩ := led
  cases account with
  | missed _ _ _ _ _ phase => rcases phase with phase | phase <;> cases phase
  | waiting noRun store time =>
    have lookedUp (found : Option Json) : LookedUp keys s₀ (past ++ [⟨s, .idemGet key, .ok found⟩]) key ttl
        ⟨s, .idemGet key, .ok found⟩ :=
      ⟨List.mem_append_right _ List.mem_cons_self, rfl, entry, time⟩
    have noRun (found : Option Json) : NoRun (past ++ [⟨s, .idemGet key, .ok found⟩]) :=
      noRun.later (fun _ absurd => absurd) fun _ _ _ absurd => by cases absurd
    rw [store]
    cases found : foundRun (s₀.store.get s.now key).1 with
    | none => exact .missed (lookedUp _) (noRun _) found rfl le_rfl (.inl rfl)
    | some runId =>
      refine .served (lookedUp _) (noRun _) ?_ rfl le_rfl
      exact (Option.filter_eq_some_iff.mp found).1

theorem Account.start {squid : Json} {ans : Answer (.startRun squid)} (account : Account keys s₀ past q s)
    (led : runNext keys q (.startRun squid) ans q') (step : Shared.world during s (.startRun squid) ans t) :
    Account keys s₀ (past ++ [⟨s, .startRun squid, ans⟩]) q' t := by
  obtain ⟨key, ttl, rfl, rfl⟩ := led
  obtain ⟨kept, later, _⟩ := Shared.world_keeps step (fun _ absurd => by cases absurd)
    (fun _ _ _ absurd => by cases absurd)
  cases account with
  | missed lookedUp noRun miss store time phase =>
    rcases phase with phase | phase <;> cases phase
    have unstored (ans : Answer (.startRun squid)) (k : String) (r : Json) (l : Option Int) :
        ¬ Stores ⟨s, .startRun squid, ans⟩ k r l := fun absurd => by cases absurd
    cases ans with
    | error e =>
      exact .missed lookedUp.later (noRun.later (fun _ absurd => absurd) (unstored _)) miss (kept.trans store)
        (time.trans later) (.inr rfl)
    | ok run =>
      unfold afterStartPhase
      dsimp only
      cases id : Dict.get? run "id" with
      | none =>
        have nameless (r : Json) : ¬ Starts ⟨s, .startRun squid, .ok run⟩ r := by
          intro starts
          cases id.symm.trans (starts : Dict.get? run "id" = some r)
        exact .missed lookedUp.later (noRun.later nameless (unstored _)) miss (kept.trans store)
          (time.trans later) (.inr rfl)
      | some runId =>
        refine .started (b := ⟨s, .startRun squid, .ok run⟩) ⟨lookedUp.later, miss,
          List.mem_append_right _ List.mem_cons_self, id, time, step.1 runId id, ?_⟩ ?_ (kept.trans store) later
        · intro e member r starts
          rcases List.mem_append.mp member with member | member
          · exact absurd starts ((noRun e member).1 r)
          · exact List.mem_singleton.mp member
        · intro e member k r l
          rcases List.mem_append.mp member with member | member
          · exact (noRun e member).2 k r l
          · rw [List.mem_singleton.mp member]
            exact unstored _ k r l

theorem Account.put {key : String} {runId : Json} {ttl : Option Int} {ans : Answer (.idemPut key runId ttl)}
    (account : Account keys s₀ past q s) (led : runNext keys q (.idemPut key runId ttl) ans q')
    (step : Shared.world during s (.idemPut key runId ttl) ans t) :
    Account keys s₀ (past ++ [⟨s, .idemPut key runId ttl, ans⟩]) q' t := by
  obtain ⟨rfl, rfl⟩ := step
  obtain ⟨rfl, rfl⟩ := led
  cases account with
  | missed _ _ _ _ _ phase => rcases phase with phase | phase <;> cases phase
  | started one unstored store time =>
    refine .stored (one.later fun _ absurd => absurd) (List.mem_append_right _ List.mem_cons_self) rfl time ?_
      ?_ le_rfl
    · intro e member k r l stores
      rcases List.mem_append.mp member with member | member
      · exact absurd stores (unstored e member k r l)
      · exact List.mem_singleton.mp member
    · rw [← store]

theorem Account.step (account : Account keys s₀ past q s) (led : runNext keys q c ans q')
    (step : Shared.world during s c ans t) : Account keys s₀ (past ++ [⟨s, c, ans⟩]) q' t := by
  cases c with
  | idemGet key => exact account.lookUp led step
  | idemPut key runId ttl => exact account.put led step
  | startRun squid => exact account.start led step
  | _ => exact account.quiet trivial led step

/-- What a whole call has done to the store it met. -/
theorem Account.of_exec {session : Session} {args : RunArgs} {tr : List (Event Call Answer Shared)}
    {r : Except Exc Fields} (run : Exec (Shared.world during) (runScraperImpl session args) s₀ tr r t) :
    ∃ q, Account (entriesOf session args) s₀ tr q t ∧ runEnds q r := by
  have first : Account (entriesOf session args) s₀ [] .waiting s₀ :=
    .waiting (fun _ absurd => by cases absurd) rfl le_rfl
  exact run.follows (I := Account (entriesOf session args) s₀) (runScraperImpl_follows session args) first
    fun account led step => account.step led step

end Steps
end LobstrMcp
