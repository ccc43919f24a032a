import LobstrMcp.Run.Attached
import LobstrMcp.Run.KeyProtocol
import LobstrMcp.World.Store

/-!
Calls with one idempotency key that take turns on one store. Nothing holds the key between its
look-up and the storing of a run, so two calls that look it up before either has stored a run
both start one. Where no call looks the key up while another holds it, there is one run, and
every later call is told its id.
-/

namespace LobstrMcp
open Interaction Tool

variable {ι : Type} [DecidableEq ι]

abbrev Calls (ι : Type) := Pool ι Call Answer Shared Exc Fields

abbrev Log (ι : Type) := Schedule ι Call Answer Shared

/-- A start that was answered, with the run. -/
def successOf (x : ι × Event Call Answer Shared) : Option (ι × Fields) :=
  match x.2.op, x.2.ans with
  | .startRun _, .ok run => some (x.1, run)
  | _, _ => none

def successes (log : Log ι) : List (ι × Fields) := log.filterMap successOf

/-- A start that failed, or the storing of a run: after it the key is not waited for. -/
def Settles (e : Event Call Answer Shared) : Prop :=
  match e.op, e.ans with
  | .startRun _, .error _ => True
  | .idemPut _ _ _, _ => True
  | _, _ => False

/-- A call that has looked the key up, and may still start a run or has yet to store it. -/
structure Holds (key : String) (log : Log ι) (p : Calls ι) (j : ι) : Prop where
  looked : ∃ e, (j, e) ∈ log ∧ e.op = .idemGet key
  unsettled : ∀ e, (j, e) ∈ log → ¬ Settles e
  running : ¬ (p.programs j).Ended

/-- A start that is answered is answered with the id of a run. -/
def Named (c : Call) (ans : Answer c) : Prop :=
  match c, ans with
  | .startRun _, .ok run => ∃ runId, Dict.get? run "id" = some runId
  | _, _ => True

/-- Nobody looks the key up while another call holds it. -/
def oneAtATime (key : String) : Turn ι Call Answer Shared Exc Fields := fun log p i c ans =>
  Named c ans ∧ (c = .idemGet key → ∀ j, j ≠ i → ¬ Holds key log p j)

/-- A phase in which the key is waited for. -/
def RunPhase.Engaged : RunPhase → Prop
  | .working _ _ | .storing _ _ _ => True
  | _ => False

/-- The store serves this run at every instant considered. -/
def Stored (during : Rat → Prop) (key : String) (s : Shared) (runId : Json) : Prop :=
  ∃ expiresAt, Dict.get? s.store.entries key = some (runId, expiresAt) ∧
    ∀ now, during now → IdempotencyStore.expired now expiresAt = false

def Unstored (key : String) (s : Shared) : Prop := Dict.get? s.store.entries key = none

/-- Where the runs of the key are: there is none, or there is one, about to be stored by the call
that started it or stored, with nobody waiting. -/
inductive Progress (during : Rat → Prop) (key : String) (log : Log ι) (phases : ι → RunPhase)
    (p : Calls ι) : Prop
  | none (unstarted : successes log = []) (unstored : Unstored key p.state)
      (idle : ∀ j k ttl r, phases j ≠ .storing k ttl r)
  | started (i : ι) (run : Fields) (runId : Json) (one : successes log = [(i, run)])
      (id : Dict.get? run "id" = some runId) (truthy : runId.truthy = true)
      (unstored : Unstored key p.state) (storing : phases i = .storing key none runId)
      (only : ∀ j k ttl r, phases j = .storing k ttl r → j = i)
  | stored (i : ι) (run : Fields) (runId : Json) (one : successes log = [(i, run)])
      (id : Dict.get? run "id" = some runId) (truthy : runId.truthy = true)
      (stored : Stored during key p.state runId)
      (free : ∀ j, (phases j).Engaged → (p.programs j).Ended)

/-- What a phase knows of the key is the one key of the calls, with the store's own TTL. -/
def RunPhase.Of (key : String) : RunPhase → Prop
  | .working k ttl | .storing k ttl _ => k = key ∧ ttl = none
  | _ => True

structure KeyInv (during : Rat → Prop) (ttl : Int) (key : String) (log : Log ι) (phases : ι → RunPhase)
    (p : Calls ι) : Prop where
  time : during p.state.now
  ttl_eq : p.state.store.ttl = ttl
  own : ∀ j, (phases j).Of key
  fresh : ∀ j, phases j = .waiting → ∀ e, (j, e) ∈ log → ¬ Settles e
  holds : ∀ j, (phases j).Engaged → ¬ (p.programs j).Ended → Holds key log p j
  alone : ∀ i j, (phases i).Engaged → ¬ (p.programs i).Ended → (phases j).Engaged →
    ¬ (p.programs j).Ended → i = j
  progress : Progress during key log phases p
  told : log.Pairwise fun x y => ∀ run, successOf x = some (x.1, run) → y.2.op = .idemGet key →
    phases y.1 = .served (Fields.get run "id")

/-- The keys of calls that all carry the one. -/
def onlyKey (key : String) (k : String) (ttl : Option Int) : Prop := k = key ∧ ttl = none

/-! ### What a turn keeps -/

section Turn
variable {during : Rat → Prop} {ttl : Int} {key : String} {keys : String → Option Int → Prop}
  {log : Log ι} {phases : ι → RunPhase} {p : Calls ι} {i : ι} {q q' : RunPhase} {c : Call}
  {next : Answer c → Program Call Answer Exc Fields} {ans : Answer c} {t : Shared}

theorem runNext_served {runId : Json} : ¬ runNext keys (.served runId) c ans q := by
  intro led
  cases c with
  | idemGet key => cases ans <;> cases led.1
  | idemPut key runId ttl => cases led.1
  | startRun squid =>
    obtain ⟨key, ttl, absurd, _⟩ := led
    cases absurd
  | _ => exact led.1

theorem not_ended_of_storing {program : Program Call Answer Exc Fields} {k : String} {l : Option Int}
    {r : Json} (follows : program.Follows (runNext keys) runEnds (.storing k l r)) : ¬ program.Ended := by
  cases program with
  | call op next => exact id
  | _ => exact follows.elim

/-- Who held the key holds it after a turn, unless the turn is its own and gives the key up. -/
theorem Holds.turn {j : ι} {e : Event Call Answer Shared} {rest : Program Call Answer Exc Fields}
    (holds : Holds key log p j) (keeps : j = i → ¬ Settles e)
    (running : ¬ ((p.after i rest t).programs j).Ended) : Holds key (log ++ [(i, e)]) (p.after i rest t) j where
  looked := by
    obtain ⟨e', member, looks⟩ := holds.looked
    exact ⟨e', List.mem_append_left _ member, looks⟩
  unsettled := by
    intro e' member
    rcases List.mem_append.mp member with member | member
    · exact holds.unsettled e' member
    · cases List.mem_singleton.mp member
      exact keeps rfl
  running := running

theorem Holds.later {j : ι} {e : Event Call Answer Shared} {rest : Program Call Answer Exc Fields}
    (holds : Holds key log p j) (other : j ≠ i) : Holds key (log ++ [(i, e)]) (p.after i rest t) j := by
  refine holds.turn (fun same => absurd same other) ?_
  rw [Pool.after_other _ _ _ other]
  exact holds.running

theorem Holds.goes_on {e : Event Call Answer Shared} {rest : Program Call Answer Exc Fields}
    (holds : Holds key log p i) (unsettled : ¬ Settles e) (running : ¬ rest.Ended) :
    Holds key (log ++ [(i, e)]) (p.after i rest t) i := by
  refine holds.turn (fun _ => unsettled) ?_
  rw [Pool.after_self]
  exact running

omit [DecidableEq ι] in
theorem successes_append (log log' : Log ι) :
    successes (log ++ log') = successes log ++ successes log' :=
  List.filterMap_append

omit [DecidableEq ι] in
theorem successes_turn (e : Event Call Answer Shared) :
    successes (log ++ [(i, e)]) = successes log ++ (successOf (i, e)).toList := by
  rw [successes_append, successes]
  cases found : successOf (i, e) <;> simp [successes, found]

omit [DecidableEq ι] in
theorem successOf_quiet (quiet : c.Quiet) : successOf (i, ⟨p.state, c, ans⟩) = none := by
  cases c <;> first | exact quiet.elim | rfl

omit [DecidableEq ι] in
theorem settles_quiet (quiet : c.Quiet) : ¬ Settles ⟨p.state, c, ans⟩ := by
  cases c <;> first | exact quiet.elim | exact id

namespace KeyInv

theorem own_after (inv : KeyInv during ttl key log phases p) (of : q.Of key) (j : ι) :
    (Function.update phases i q j).Of key := by
  by_cases same : j = i
  · subst same
    rw [Function.update_self]
    exact of
  · rw [Function.update_of_ne same]
    exact inv.own j

theorem fresh_after (inv : KeyInv during ttl key log phases p) {e : Event Call Answer Shared}
    (still : q = .waiting → phases i = .waiting ∧ ¬ Settles e) (j : ι)
    (waiting : Function.update phases i q j = .waiting) (e' : Event Call Answer Shared)
    (member : (j, e') ∈ log ++ [(i, e)]) : ¬ Settles e' := by
  by_cases same : j = i
  · subst same
    rw [Function.update_self] at waiting
    rcases List.mem_append.mp member with member | member
    · exact inv.fresh j (still waiting).1 e' member
    · cases List.mem_singleton.mp member
      exact (still waiting).2
  · rw [Function.update_of_ne same] at waiting
    rcases List.mem_append.mp member with member | member
    · exact inv.fresh j waiting e' member
    · cases List.mem_singleton.mp member
      exact absurd rfl same

/-- Everybody but the call whose turn it is holds the key as before. -/
theorem holds_after (inv : KeyInv during ttl key log phases p) {e : Event Call Answer Shared}
    {rest : Program Call Answer Exc Fields}
    (own : q.Engaged → ¬ rest.Ended → Holds key (log ++ [(i, e)]) (p.after i rest t) i) (j : ι)
    (engaged : (Function.update phases i q j).Engaged) (running : ¬ ((p.after i rest t).programs j).Ended) :
    Holds key (log ++ [(i, e)]) (p.after i rest t) j := by
  by_cases same : j = i
  · subst same
    rw [Function.update_self] at engaged
    rw [Pool.after_self] at running
    exact own engaged running
  · rw [Function.update_of_ne same] at engaged
    rw [Pool.after_other _ _ _ same] at running
    exact (inv.holds j engaged running).later same

theorem alone_after (inv : KeyInv during ttl key log phases p) {rest : Program Call Answer Exc Fields}
    (apart : q.Engaged → ∀ j, j ≠ i → (phases j).Engaged → (p.programs j).Ended) (j k : ι)
    (je : (Function.update phases i q j).Engaged) (jr : ¬ ((p.after i rest t).programs j).Ended)
    (ke : (Function.update phases i q k).Engaged) (kr : ¬ ((p.after i rest t).programs k).Ended) :
    j = k := by
  by_cases hj : j = i <;> by_cases hk : k = i
  · rw [hj, hk]
  · subst hj
    rw [Function.update_self] at je
    rw [Function.update_of_ne hk] at ke
    rw [Pool.after_other _ _ _ hk] at kr
    exact absurd (apart je k hk ke) kr
  · subst hk
    rw [Function.update_self] at ke
    rw [Function.update_of_ne hj] at je
    rw [Pool.after_other _ _ _ hj] at jr
    exact absurd (apart ke j hj je) jr
  · rw [Function.update_of_ne hj] at je
    rw [Function.update_of_ne hk] at ke
    rw [Pool.after_other _ _ _ hj] at jr
    rw [Pool.after_other _ _ _ hk] at kr
    exact inv.alone j k je jr ke kr

theorem told_after (inv : KeyInv during ttl key log phases p) (led : runNext keys (phases i) c ans q)
    (looks : c = .idemGet key → ∀ x ∈ log, ∀ run, successOf x = some (x.1, run) →
      q = .served (Fields.get run "id")) :
    (log ++ [(i, (⟨p.state, c, ans⟩ : Event Call Answer Shared))]).Pairwise fun x y =>
      ∀ run, successOf x = some (x.1, run) →
      y.2.op = .idemGet key → Function.update phases i q y.1 = .served (Fields.get run "id") := by
  rw [List.pairwise_append]
  refine ⟨inv.told.imp ?_, List.pairwise_singleton _ _, ?_⟩
  · intro x y told run success same
    have served := told run success same
    by_cases own : y.1 = i
    · rw [← own, served] at led
      exact absurd led runNext_served
    · rw [Function.update_of_ne own]
      exact served
  · intro x member y last run success same
    obtain rfl := List.mem_singleton.mp last
    rw [Function.update_self]
    exact looks same x member run success

theorem idle_after (idle : ∀ j k l r, phases j ≠ .storing k l r) (leaves : ∀ k l r, q ≠ .storing k l r)
    (j : ι) (k : String) (l : Option Int) (r : Json) : Function.update phases i q j ≠ .storing k l r := by
  by_cases same : j = i
  · subst same
    rw [Function.update_self]
    exact leaves k l r
  · rw [Function.update_of_ne same]
    exact idle j k l r

theorem free_after {rest : Program Call Answer Exc Fields}
    (apart : ∀ j, j ≠ i → (phases j).Engaged → (p.programs j).Ended) (leaves : ¬ q.Engaged) (j : ι)
    (engaged : (Function.update phases i q j).Engaged) : ((p.after i rest t).programs j).Ended := by
  by_cases same : j = i
  · subst same
    rw [Function.update_self] at engaged
    exact absurd engaged leaves
  · rw [Function.update_of_ne same] at engaged
    rw [Pool.after_other _ _ _ same]
    exact apart j same engaged

omit [DecidableEq ι] in
/-- Next to a call that holds the key, everybody else who was to hold it has ended. -/
theorem apart (inv : KeyInv during ttl key log phases p) (engaged : (phases i).Engaged)
    (running : ¬ (p.programs i).Ended) (j : ι) (other : j ≠ i) (engaged' : (phases j).Engaged) :
    (p.programs j).Ended := by
  by_contra running'
  exact other (inv.alone j i engaged' running' engaged running)

/-- A turn that has nothing to do with the key. -/
theorem quiet_turn (inv : KeyInv during ttl key log phases p) (here : p.programs i = .call c next)
    (quiet : c.Quiet) (led : runNext (onlyKey key) (phases i) c ans q)
    (step : Shared.world during p.state c ans t) :
    KeyInv during ttl key (log ++ [(i, ⟨p.state, c, ans⟩)]) (Function.update phases i q)
      (p.after i (next ans) t) := by
  obtain ⟨_, rfl⟩ := (runNext_quiet_iff quiet).mp led
  have running : ¬ (p.programs i).Ended := by
    rw [here]
    exact id
  obtain ⟨kept, _, later⟩ := Shared.world_keeps step (by rintro k rfl; exact quiet)
    (by rintro k r l rfl; exact quiet)
  refine {
    time := later, ttl_eq := ?_, own := inv.own_after (inv.own i)
    fresh := inv.fresh_after fun waiting => ⟨waiting, settles_quiet quiet⟩
    holds := inv.holds_after fun engaged goes => (inv.holds i engaged running).goes_on (settles_quiet quiet) goes
    alone := inv.alone_after fun engaged => inv.apart engaged running
    progress := ?_
    told := inv.told_after led fun looks => ?_ }
  · rw [Pool.after, kept]
    exact inv.ttl_eq
  · rw [Function.update_eq_self]
    have same : successes (log ++ [(i, ⟨p.state, c, ans⟩)]) = successes log := by
      rw [successes_turn, successOf_quiet quiet, Option.toList_none, List.append_nil]
    cases inv.progress with
    | none unstarted unstored idle =>
      refine .none (same.trans unstarted) ?_ idle
      rw [Unstored, Pool.after, kept]
      exact unstored
    | started j run runId one id truthy unstored storing only =>
      refine .started j run runId (same.trans one) id truthy ?_ storing only
      rw [Unstored, Pool.after, kept]
      exact unstored
    | stored j run runId one id truthy stored free =>
      refine .stored j run runId (same.trans one) id truthy ?_ ?_
      · rw [Stored, Pool.after, kept]
        exact stored
      · intro k engaged
        by_cases own : k = i
        · subst own
          exact absurd (free k engaged) running
        · rw [Pool.after_other _ _ _ own]
          exact free k engaged
  · subst looks
    exact quiet.elim

/-- A look-up that nobody stands in the way of: it finds the run, or there is none. -/
theorem lookup_turn (inv : KeyInv during ttl key log phases p) {k : String}
    {next : Answer (.idemGet k) → Program Call Answer Exc Fields} {ans : Answer (.idemGet k)}
    (all : ∀ j, (p.programs j).Follows (runNext (onlyKey key)) runEnds (phases j))
    (here : p.programs i = .call (.idemGet k) next) (may : oneAtATime key log p i (.idemGet k) ans)
    (led : runNext (onlyKey key) (phases i) (.idemGet k) ans q)
    (step : Shared.world during p.state (.idemGet k) ans t) :
    KeyInv during ttl key (log ++ [(i, ⟨p.state, .idemGet k, ans⟩)]) (Function.update phases i q)
      (p.after i (next ans) t) := by
  obtain ⟨rfl, rfl⟩ := step
  have looks := led
  obtain ⟨waiting, l, ⟨rfl, rfl⟩, rfl⟩ := looks
  have nobody : ∀ j, j ≠ i → (phases j).Engaged → (p.programs j).Ended := by
    intro j other engaged
    by_contra running
    exact may.2 rfl j other (inv.holds j engaged running)
  have unsettled : ¬ Settles ⟨p.state, .idemGet k, .ok (p.state.store.get p.state.now k).1⟩ := id
  have quiet : successes (log ++ [(i, ⟨p.state, .idemGet k, .ok (p.state.store.get p.state.now k).1⟩)]) =
      successes log := by
    rw [successes_turn]
    exact List.append_nil _
  cases inv.progress with
  | none unstarted unstored idle =>
    rw [IdempotencyStore.get_absent unstored] at led quiet unsettled ⊢
    refine {
      time := inv.time, ttl_eq := inv.ttl_eq, own := inv.own_after ⟨rfl, rfl⟩
      fresh := inv.fresh_after fun absurd => by cases absurd
      holds := inv.holds_after ?_
      alone := inv.alone_after fun _ => nobody
      progress := .none (quiet.trans unstarted) unstored (idle_after idle fun _ _ _ absurd => by cases absurd)
      told := inv.told_after led ?_ }
    · intro _ running
      refine ⟨⟨_, List.mem_append_right _ List.mem_cons_self, rfl⟩, ?_, ?_⟩
      · intro e member
        rcases List.mem_append.mp member with member | member
        · exact inv.fresh i waiting e member
        · cases List.mem_singleton.mp member
          exact unsettled
      · rw [Pool.after_self]
        exact running
    · intro _ x member run success
      have started : (x.1, run) ∈ successes log := List.mem_filterMap.mpr ⟨x, member, success⟩
      rw [unstarted] at started
      cases started
  | started j run runId one id truthy unstored storing only =>
    -- the call that is about to store its run holds the key, so this look-up was not allowed
    have other : j ≠ i := by
      rintro rfl
      rw [waiting] at storing
      cases storing
    have engaged : (phases j).Engaged := by
      rw [storing]
      trivial
    exact absurd (nobody j other engaged) (not_ended_of_storing (storing ▸ all j))
  | stored j run runId one id truthy stored free =>
    obtain ⟨expiresAt, held, lasts⟩ := stored
    have found : p.state.store.get p.state.now k = (some runId, p.state.store) := by
      rw [IdempotencyStore.get_held held, lasts _ inv.time]
      rfl
    have served : foundRun (some runId) = some runId := by
      rw [foundRun, Option.filter_some, if_pos truthy]
    rw [found] at led quiet unsettled ⊢
    dsimp only at led quiet ⊢
    rw [served] at led ⊢
    refine {
      time := inv.time, ttl_eq := inv.ttl_eq, own := inv.own_after trivial
      fresh := inv.fresh_after fun absurd => by cases absurd
      holds := inv.holds_after fun absurd => absurd.elim
      alone := inv.alone_after fun _ => nobody
      progress := .stored j run runId (quiet.trans one) id truthy ⟨expiresAt, held, lasts⟩
        (free_after (fun m _ => free m) fun absurd => absurd)
      told := inv.told_after led ?_ }
    intro _ x member run' success
    have started : (x.1, run') ∈ successes log := List.mem_filterMap.mpr ⟨x, member, success⟩
    rw [one] at started
    cases List.mem_singleton.mp started
    rw [Fields.get_of_get? id]

/-- A start: nobody else is engaged, so a run that starts is the first. -/
theorem start_turn (inv : KeyInv during ttl key log phases p) {squid : Json}
    {next : Answer (.startRun squid) → Program Call Answer Exc Fields} {ans : Answer (.startRun squid)}
    (all : ∀ j, (p.programs j).Follows (runNext (onlyKey key)) runEnds (phases j))
    (here : p.programs i = .call (.startRun squid) next)
    (may : oneAtATime key log p i (.startRun squid) ans)
    (led : runNext (onlyKey key) (phases i) (.startRun squid) ans q)
    (step : Shared.world during p.state (.startRun squid) ans t) :
    KeyInv during ttl key (log ++ [(i, ⟨p.state, .startRun squid, ans⟩)]) (Function.update phases i q)
      (p.after i (next ans) t) := by
  have led' := led
  obtain ⟨k, l, working, rfl⟩ := led'
  have engaged : (phases i).Engaged := by
    rw [working]
    trivial
  have running : ¬ (p.programs i).Ended := by
    rw [here]
    exact id
  have mine := inv.own i
  rw [working] at mine
  obtain ⟨rfl, rfl⟩ := mine
  obtain ⟨kept, _, later⟩ := Shared.world_keeps step (fun _ absurd => by cases absurd)
    (fun _ _ _ absurd => by cases absurd)
  have apart := inv.apart engaged running
  have unstarted : successes log = [] ∧ Unstored k p.state ∧ ∀ j k' l r, phases j ≠ .storing k' l r := by
    cases inv.progress with
    | none unstarted unstored idle => exact ⟨unstarted, unstored, idle⟩
    | started j run runId one id truthy unstored storing only =>
      have other : j ≠ i := by
        rintro rfl
        rw [working] at storing
        cases storing
      have engaged' : (phases j).Engaged := by
        rw [storing]
        trivial
      exact absurd (apart j other engaged') (not_ended_of_storing (storing ▸ all j))
    | stored j run runId one id truthy stored free => exact absurd (free i engaged) running
  obtain ⟨unstarted, unstored, idle⟩ := unstarted
  have unstored' : Unstored k (p.after i (next ans) t).state := by
    rw [Unstored, Pool.after, kept]
    exact unstored
  have ttl_eq : (p.after i (next ans) t).state.store.ttl = ttl := by
    rw [Pool.after, kept]
    exact inv.ttl_eq
  cases ans with
  | error e =>
    have still : successes (log ++ [(i, ⟨p.state, .startRun squid, .error e⟩)]) = [] := by
      rw [successes_turn, unstarted]
      rfl
    exact {
      time := later, ttl_eq, own := inv.own_after trivial
      fresh := inv.fresh_after fun absurd => by cases absurd
      holds := inv.holds_after fun absurd => absurd.elim
      alone := inv.alone_after fun _ => apart
      progress := .none still unstored' (idle_after idle fun _ _ _ absurd => by cases absurd)
      told := inv.told_after led fun absurd => by cases absurd }
  | ok run =>
    obtain ⟨runId, id⟩ := may.1
    have truthy := step.1 runId id
    have stores : afterStartPhase k none (.ok run) = .storing k none runId := by
      simp [afterStartPhase, id]
    rw [stores] at led ⊢
    refine {
      time := later, ttl_eq, own := inv.own_after ⟨rfl, rfl⟩
      fresh := inv.fresh_after fun absurd => by cases absurd
      holds := inv.holds_after ?_
      alone := inv.alone_after fun _ => apart
      progress := ?_
      told := inv.told_after led fun absurd => by cases absurd }
    · intro _ goes
      exact (inv.holds i engaged running).goes_on (fun settles => settles) goes
    · refine .started i run runId ?_ id truthy unstored' (Function.update_self _ _ _) ?_
      · rw [successes_turn, unstarted]
        rfl
      · intro j k' l r storing
        by_contra other
        rw [Function.update_of_ne other] at storing
        exact idle j k' l r storing

/-- The storing of the run: from here on the key is answered with it. -/
theorem put_turn (inv : KeyInv during ttl key log phases p)
    (short : ttl = 0 ∨ ∀ a b, during a → during b → b < a + ttl) {k : String} {r : Json} {l : Option Int}
    {next : Answer (.idemPut k r l) → Program Call Answer Exc Fields} {ans : Answer (.idemPut k r l)}
    (here : p.programs i = .call (.idemPut k r l) next)
    (led : runNext (onlyKey key) (phases i) (.idemPut k r l) ans q)
    (step : Shared.world during p.state (.idemPut k r l) ans t) :
    KeyInv during ttl key (log ++ [(i, ⟨p.state, .idemPut k r l, ans⟩)]) (Function.update phases i q)
      (p.after i (next ans) t) := by
  obtain ⟨rfl, rfl⟩ := step
  have led' := led
  obtain ⟨storing, rfl⟩ := led'
  have engaged : (phases i).Engaged := by
    rw [storing]
    trivial
  have running : ¬ (p.programs i).Ended := by
    rw [here]
    exact id
  have mine := inv.own i
  rw [storing] at mine
  obtain ⟨rfl, rfl⟩ := mine
  have apart := inv.apart engaged running
  refine {
    time := inv.time, ttl_eq := inv.ttl_eq, own := inv.own_after trivial
    fresh := inv.fresh_after fun absurd => by cases absurd
    holds := inv.holds_after fun absurd => absurd.elim
    alone := inv.alone_after fun _ => apart
    progress := ?_
    told := inv.told_after led fun absurd => by cases absurd }
  cases inv.progress with
  | none unstarted unstored idle => exact absurd storing (idle i k none r)
  | stored j run runId one id truthy stored free => exact absurd (free i engaged) running
  | started j run runId one id truthy unstored storing' only =>
    obtain rfl := only i k none r storing
    rw [storing] at storing'
    cases storing'
    refine .stored i run r ?_ id truthy ⟨_, Dict.get?_set_self _ _ _, ?_⟩
      (free_after apart fun absurd => absurd)
    · rw [successes_turn, one]
      rfl
    · intro now here'
      rw [Option.getD_none, inv.ttl_eq]
      rcases short with none' | short
      · rw [if_pos none']
        rfl
      · split
        · rfl
        · have still := short _ _ inv.time here'
          simpa [IdempotencyStore.expired] using still

theorem turn (inv : KeyInv during ttl key log phases p)
    (short : ttl = 0 ∨ ∀ a b, during a → during b → b < a + ttl)
    (all : ∀ j, (p.programs j).Follows (runNext (onlyKey key)) runEnds (phases j))
    (here : p.programs i = .call c next) (may : oneAtATime key log p i c ans)
    (led : runNext (onlyKey key) (phases i) c ans q) (step : Shared.world during p.state c ans t) :
    KeyInv during ttl key (log ++ [(i, ⟨p.state, c, ans⟩)]) (Function.update phases i q)
      (p.after i (next ans) t) := by
  cases c with
  | idemGet k => exact inv.lookup_turn all here may led step
  | idemPut k r l => exact inv.put_turn short here led step
  | startRun squid => exact inv.start_turn all here may led step
  | _ => exact inv.quiet_turn here trivial led step

end KeyInv
end Turn

/-- One user's calls with one explicit key. -/
structure SameKey (calls : ι → Session × RunArgs) (scope key : String) : Prop where
  scope : ∀ i, (calls i).1.userScope = scope
  carries : ∀ i, (calls i).2.idempotencyKey = some key
  given : key ≠ ""

def callsOn (shared : Shared) (calls : ι → Session × RunArgs) : Calls ι where
  state := shared
  programs := fun i => runScraperImpl (calls i).1 (calls i).2

omit [DecidableEq ι] in
theorem SameKey.entries {calls : ι → Session × RunArgs} {scope key : String}
    (same : SameKey calls scope key) {i : ι} {k : String} {ttl : Option Int}
    (entry : entriesOf (calls i).1 (calls i).2 k ttl) : onlyKey (scope ++ ":" ++ key) k ttl := by
  obtain ⟨scraper, input, entry⟩ := entry
  have given : (some key).filter (fun k => decide (k ≠ "")) = some key := by simp [same.given]
  unfold idempotencyEntry at entry
  rw [same.carries i, given, same.scope i] at entry
  cases entry
  exact ⟨rfl, rfl⟩

omit [DecidableEq ι] in
theorem runNext_widen {keys keys' : String → Option Int → Prop} (sub : ∀ k ttl, keys k ttl → keys' k ttl)
    (q : RunPhase) (c : Call) (ans : Answer c) (q' : RunPhase) (led : runNext keys q c ans q') :
    runNext keys' q c ans q' := by
  cases c with
  | idemGet key =>
    cases ans with
    | error e => exact led
    | ok found =>
      obtain ⟨waiting, ttl, entry, same⟩ := led
      exact ⟨waiting, ttl, sub _ _ entry, same⟩
  | _ => exact led

/-- A retry: the squid is run as it is, under the caller's own key. -/
def retryCall : RunArgs where
  confirm := true
  idempotencyKey := some "retry"
  squidId := some "squid"

def retryKey : String := plainSession.userScope ++ ":" ++ "retry"

theorem leaves_retryCall : LeavesToSquid retryCall "squid" := ⟨rfl, by decide, rfl, rfl⟩

def twoCalls : Bool → Session × RunArgs := fun _ => (plainSession, retryCall)

def emptyStore : Shared := { store := {}, now := 0 }

/-- What is left of a call after its first half. -/
def resume {α : Type} (verify : Option String) (f : α → Tool Fields) (r : Except Exit α) :
    Program Call Answer Exc Fields :=
  match r with
  | .ok a => structured verify (f a)
  | .error e => .ofExcept (settle verify (.error e))

theorem structured_bind {verify : Option String} {α : Type} (p : Tool α) (f : α → Tool Fields) :
    structured verify (p >>= f) = p.attempt >>= resume verify f := by
  induction p with
  | pure a => rfl
  | raise e => rfl
  | call op next ih =>
    have rest : (fun ans => structured verify (next ans >>= f)) = _ := funext fun ans => ih ans
    exact congrArg (Program.call op) rest

section Retry
variable {during : Rat → Prop} {st : Shared}

def retryPlan : RunPlan :=
  plainPlan plainSession retryCall "squid" .null { input := [] } .null { rows := some [] }

theorem exec_prepare_retry (here : during st.now) (unstored : Unstored retryKey st) :
    Exec (Shared.world during) (prepareRun plainSession retryCall) st
      (attachedTrace st plainSession retryCall "squid" plainCrawlerId (plainRecord "squid" .null)
        { input := [] } (.ok .null) (.ok (.arr []))) (.ok retryPlan) st := by
  have answered : st.store = st.store ∧ st.now ≤ st.now ∧ during st.now := ⟨rfl, le_rfl, here⟩
  refine exec_prepareRun_attached leaves_retryCall (settled_plainRecord "squid" .null) (.ok .null)
    (.ok (.arr [])) rfl rfl answered answered answered ?_ answered
  show _ = Except.ok _ ∧ _
  have missed : st.store.get st.now (idempotencyEntry plainSession retryCall (.str plainCrawlerId) []).1 =
      (none, st.store) := IdempotencyStore.get_absent unstored
  rw [show retryCall.input = [] from rfl, missed]
  exact ⟨rfl, rfl⟩

def retryTrace (st : Shared) (run : String) : List (Event Call Answer Shared) := [
  ⟨st, .getBalance, .ok []⟩,
  ⟨st, .startRun (.str "squid"), .ok [("id", .str run)]⟩,
  ⟨st, .idemPut retryKey (.str run) none, .ok ()⟩]

theorem exec_commit_retry (here : during st.now) {run : String} (named : run ≠ "") :
    ∃ reply, Exec (Shared.world during) (structured (some runScraperVerify) (commitRun plainSession retryPlan))
      st (retryTrace st run) (.ok reply) { st with store := st.store.put st.now retryKey (.str run) none } := by
  have answered : st.store = st.store ∧ st.now ≤ st.now ∧ during st.now := ⟨rfl, le_rfl, here⟩
  have truthy : ∀ runId, Dict.get? [("id", Json.str run)] "id" = some runId → runId.truthy = true := by
    rintro runId ⟨⟩
    simp [Json.truthy, named]
  suffices followed : May (Shared.world during)
      (structured (some runScraperVerify) (commitRun plainSession retryPlan)) st fun tr r t =>
        tr = retryTrace st run ∧ (∃ reply, r = .ok reply) ∧
          t = { st with store := st.store.put st.now retryKey (.str run) none } by
    obtain ⟨_, _, _, ran, rfl, ⟨reply, rfl⟩, rfl⟩ := followed
    exact ⟨reply, ran⟩
  refine may_structured ?_
  rw [commitRun_confirmed rfl]
  refine may_bind_of_exec (exec_bind_ok.mpr ⟨[], st, [_], [], rfl, exec_send.mpr ⟨rfl, answered⟩,
    exec_pure.mpr ⟨rfl, rfl, rfl⟩⟩) ?_
  rw [writeReused_eq leaves_retryCall.reuse rfl]
  refine may_bind (may_pure.mpr ?_)
  unfold startAndReport
  refine may_request (.ok [("id", .str run)]) ⟨truthy, answered⟩ ?_
  refine may_bind_of_exec (exec_pure.mpr ⟨rfl, rfl, rfl⟩) ?_
  refine may_send () ⟨rfl, rfl⟩ ?_
  exact may_pure.mpr ⟨rfl, ⟨_, rfl⟩, rfl⟩

/-- What the first half of a retry does when its key has no run. -/
def lookUpTrace (st : Shared) : List (Event Call Answer Shared) :=
  attachedTrace st plainSession retryCall "squid" plainCrawlerId (plainRecord "squid" .null)
    { input := [] } (.ok .null) (.ok (.arr []))

variable {may : Turn Bool Call Answer Shared Exc Fields} {start p : Calls Bool} {log : Log Bool} {i : Bool}

theorem runs_lookUp (runs : Pool.Runs (Shared.world during) may start log p)
    (here : p.programs i = runScraperImpl plainSession retryCall) (now : p.state = st)
    (within : during st.now) (unstored : Unstored retryKey st)
    (allowed : ∀ first e rest p', lookUpTrace st = first ++ e :: rest →
      may (log ++ first.map (i, ·)) p' i e.op e.ans) :
    Pool.Runs (Shared.world during) may start (log ++ (lookUpTrace st).map (i, ·))
      (p.after i (structured (some runScraperVerify) (commitRun plainSession retryPlan)) st) :=
  runs.segment (f := resume (some runScraperVerify) (commitRun plainSession))
    (here.trans (structured_bind _ _)) now
    (exec_attempt.mpr ⟨_, rfl, exec_prepare_retry within unstored⟩) allowed

theorem runs_commit (runs : Pool.Runs (Shared.world during) may start log p) (run : String)
    (here : p.programs i = structured (some runScraperVerify) (commitRun plainSession retryPlan))
    (now : p.state = st) (within : during st.now) (named : run ≠ "")
    (allowed : ∀ first e rest p', retryTrace st run = first ++ e :: rest →
      may (log ++ first.map (i, ·)) p' i e.op e.ans) :
    ∃ reply, Pool.Runs (Shared.world during) may start (log ++ (retryTrace st run).map (i, ·))
      (p.after i (.pure reply) { st with store := st.store.put st.now retryKey (.str run) none }) := by
  obtain ⟨reply, ran⟩ := exec_commit_retry within named
  exact ⟨reply, runs.segment (here.trans (Program.bind_pure _).symm) now ran allowed⟩

/-- What a retry does when its key has a run. -/
def servedTrace (st : Shared) (run : String) : List (Event Call Answer Shared) := [
  ⟨st, .getSquid (.str "squid"), .ok (plainRecord "squid" .null)⟩,
  ⟨st, .getCrawler (.str plainCrawlerId), .ok { input := [] }⟩,
  ⟨st, .getCrawlerParams (.str plainCrawlerId), .ok .null⟩,
  ⟨st, .idemGet retryKey, .ok (some (.str run))⟩]

/-- A retry that comes to a stored run answers with it. -/
theorem exec_served_retry (within : during st.now) {run : String} (named : run ≠ "")
    (held : st.store.get st.now retryKey = (some (.str run), st.store)) :
    Exec (Shared.world during) (runScraperImpl plainSession retryCall) st (servedTrace st run)
      (.ok (alreadySubmitted (.str run))) st := by
  have answered : st.store = st.store ∧ st.now ≤ st.now ∧ during st.now := ⟨rfl, le_rfl, within⟩
  have found : Shared.world during st (.idemGet retryKey) (.ok (some (.str run))) st := by
    refine ⟨?_, ?_⟩ <;> rw [held]
  have truthy : (Json.str run).truthy = true := by simp [Json.truthy, named]
  have served : Exec (Shared.world during) (prepareRun plainSession retryCall) st (servedTrace st run)
      (.error (.returned (alreadySubmitted (.str run)))) st :=
    exec_prepareRun_served leaves_retryCall (settled_plainRecord "squid" .null) (.ok .null) truthy rfl
      answered answered answered found
  exact exec_structured.mpr ⟨_, exec_bind.mpr (.inl ⟨_, rfl, served⟩), rfl⟩

theorem runs_served (runs : Pool.Runs (Shared.world during) may start log p) (run : String)
    (here : p.programs i = runScraperImpl plainSession retryCall) (now : p.state = st)
    (within : during st.now) (named : run ≠ "")
    (held : st.store.get st.now retryKey = (some (.str run), st.store))
    (allowed : ∀ first e rest p', servedTrace st run = first ++ e :: rest →
      may (log ++ first.map (i, ·)) p' i e.op e.ans) :
    Pool.Runs (Shared.world during) may start (log ++ (servedTrace st run).map (i, ·))
      (p.after i (.pure (alreadySubmitted (.str run))) st) :=
  runs.segment (here.trans (Program.bind_pure _).symm) now (exec_served_retry within named held) allowed

end Retry

end LobstrMcp
