import LobstrMcp.Interaction.Simulation
import LobstrMcp.Run.Concurrent
import LobstrMcp.Stores.Records

/-!
The idempotency keys on Redis. Any number of calls, in whatever order they take turns, are told the same on
`RedisIdempotencyStore` as on the store in memory, start the same runs, and come to the same replies.
-/

namespace LobstrMcp
open Interaction

/-- An id that a run is started with is a string. -/
def StringIds (c : Call) (ans : Answer c) : Prop :=
  match c, ans with
  | .startRun _, .ok run => ∀ runId, Dict.get? run "id" = some runId → ∃ text, runId = .str text
  | _, _ => True

/-- What a method of the store on Redis comes to in a tool: its value, or the failure of the command. -/
def ToldByRedis {α β : Type} (f : α → β) (result : Except SessionError α) (ans : Except Exc β) : Prop :=
  match result with
  | .ok a => ans = .ok (f a)
  | .error (.redis message) => ans = .error (.store message)
  | .error _ => False

namespace Redis

/-- The keys on Redis, and the clock, at the instants that are considered. The other stores keep theirs there
as well, and other tools use those meanwhile. -/
def keys (during : Rat → Prop) : World Call Answer Redis := fun r c ans t =>
  match c, ans with
  | .idemGet key, ans => ∃ result, (RedisIdempotencyStore.get key).run machine r = (result, t) ∧
    ToldByRedis (Option.map Json.str) result ans
  | .idemPut key runId ttl, ans => ∃ text result, runId = .str text ∧
    (RedisIdempotencyStore.put defaultIdemTtl key text ttl).run machine r = (result, t) ∧ ToldByRedis id result ans
  | .startRun _, .ok run => (∀ runId, Dict.get? run "id" = some runId → runId.truthy = true) ∧
    (∀ key, Dict.get? t.entries (Key.idem key).name = Dict.get? r.entries (Key.idem key).name) ∧
    r.now ≤ t.now ∧ during t.now
  | _, _ => (∀ key, Dict.get? t.entries (Key.idem key).name = Dict.get? r.entries (Key.idem key).name) ∧
    r.now ≤ t.now ∧ during t.now

/-- What is read of a name at a later instant, if nothing is written meanwhile. -/
def liveAt (r : Redis) (later : Rat) (name : String) : Option Json :=
  (Dict.get? r.entries name).bind fun e => if lapsed e.2 later then none else some e.1

section Redis
variable {during : Rat → Prop} {r t : Redis}

theorem keys_keeps {c : Call} {ans : Answer c} (step : keys during r c ans t) (get : ∀ key, c ≠ .idemGet key)
    (put : ∀ key runId ttl, c ≠ .idemPut key runId ttl) :
    (∀ key, Dict.get? t.entries (Key.idem key).name = Dict.get? r.entries (Key.idem key).name) ∧
      r.now ≤ t.now ∧ during t.now := by
  cases c with
  | idemGet key => exact absurd rfl (get key)
  | idemPut key runId ttl => exact absurd rfl (put key runId ttl)
  | startRun squid =>
    cases ans with
    | ok run => exact step.2
    | error e => exact step
  | _ => exact step

end Redis
end Redis

/-! ### An entry, read later -/

section Later
variable {store : IdempotencyStore} {r : Redis} {now later : Rat} {key k : String}

theorem expired_later {expiresAt : Option Rat} (waits : now ≤ later)
    (late : IdempotencyStore.expired now expiresAt = true) : IdempotencyStore.expired later expiresAt = true := by
  cases expiresAt with
  | none => cases late
  | some t => exact decide_eq_true ((of_decide_eq_true late).trans waits)

/-- A look-up changes nothing of what is read later. -/
theorem get_get_later (waits : now ≤ later) :
    ((store.get now key).2.get later k).1 = (store.get later k).1 := by
  refine Option.ext fun runId => ?_
  simp only [IdempotencyStore.get_eq_some, IdempotencyStore.get?_get]
  refine exists_congr fun expiresAt => ⟨fun found => ⟨found.1.1, found.2⟩,
    fun found => ⟨⟨found.1, fun _ => ?_⟩, found.2⟩⟩
  cases late : IdempotencyStore.expired now expiresAt with
  | false => rfl
  | true => exact (expired_later waits late).symm.trans found.2

theorem get_put_later (runId : Json) (ttl : Option Int) : ((store.put now key runId ttl).get later k).1 =
    if key = k then (if IdempotencyStore.expired later (store.expiry now ttl) then none else some runId)
    else (store.get later k).1 := by
  unfold IdempotencyStore.get
  rw [IdempotencyStore.get?_put]
  by_cases same : key = k
  · rw [if_pos same, if_pos same]
    dsimp only
    split <;> rfl
  · rw [if_neg same, if_neg same]
    cases Dict.get? store.entries k with
    | none => rfl
    | some entry =>
      dsimp only
      split <;> rfl

theorem liveAt_store (value : Json) (n : Int) :
    (r.store (Key.idem key).name value (some n)).liveAt later (Key.idem k).name =
      if key = k then (if IdempotencyStore.expired later (some (r.now + n)) then none else some value)
      else r.liveAt later (Key.idem k).name := by
  have named : (Key.idem key).name = (Key.idem k).name ↔ key = k :=
    ⟨fun same => Key.idem.inj (Key.name_injective same), fun same => same ▸ rfl⟩
  unfold Redis.liveAt
  rw [Redis.get?_store]
  simp only [named]
  by_cases same : key = k
  · rw [if_pos same, if_pos same]
    rfl
  · rw [if_neg same, if_neg same]

end Later

/-! ### The two stores -/

/-- From now on the keys are read alike on Redis and in memory. -/
structure SameKeys (r : Redis) (s : Shared) : Prop where
  now : s.now = r.now
  ttl : s.store.ttl = defaultIdemTtl
  texts : ∀ key runId limit, Dict.get? r.entries (Key.idem key).name = some (runId, limit) → ∃ text, runId = .str text
  reads : ∀ later, r.now ≤ later → ∀ key, (s.store.get later key).1 = r.liveAt later (Key.idem key).name

namespace SameKeys
variable {r r' : Redis} {s : Shared} {key : String}

/-- Redis gives the text of an id, which is the id. -/
theorem lookUp (same : SameKeys r s) (key : String) :
    ((r.live (Key.idem key).name).map Json.text).map Json.str = (s.store.get s.now key).1 := by
  have read : (s.store.get s.now key).1 = r.live (Key.idem key).name := by
    rw [same.now]
    exact same.reads r.now le_rfl key
  rw [read]
  cases live : r.live (Key.idem key).name with
  | none => rfl
  | some runId =>
    obtain ⟨limit, held, -⟩ := Redis.live_eq_some.mp live
    obtain ⟨text, rfl⟩ := same.texts key runId limit held
    rfl

theorem get (same : SameKeys r s) (key : String) : SameKeys r { s with store := (s.store.get s.now key).2 } where
  now := same.now
  ttl := (IdempotencyStore.ttl_get _ _ _).trans same.ttl
  texts := same.texts
  reads := fun later waits k => (get_get_later (same.now ▸ waits)).trans (same.reads later waits k)

theorem put (same : SameKeys r s) {ttl : Option Int} (lasts : 0 < ttl.getD defaultIdemTtl) (key text : String) :
    SameKeys (r.store (Key.idem key).name (.str text) (some (ttl.getD defaultIdemTtl)))
      { s with store := s.store.put s.now key (.str text) ttl } where
  now := same.now
  ttl := same.ttl
  texts := by
    intro k runId limit held
    rw [Redis.get?_store] at held
    split at held
    · cases held
      exact ⟨text, rfl⟩
    · exact same.texts k runId limit held
  reads := by
    intro later waits k
    have expiry : s.store.expiry s.now ttl = some (r.now + (ttl.getD defaultIdemTtl : Int)) := by
      rw [IdempotencyStore.expiry, same.ttl, if_neg lasts.ne', same.now]
    rw [liveAt_store, ← same.reads later waits k, ← expiry]
    exact get_put_later _ _

theorem waits (same : SameKeys r s) (later : r.now ≤ r'.now)
    (kept : ∀ key, Dict.get? r'.entries (Key.idem key).name = Dict.get? r.entries (Key.idem key).name) :
    SameKeys r' { s with now := r'.now } where
  now := rfl
  ttl := same.ttl
  texts := fun key runId limit held => same.texts key runId limit ((kept key).symm.trans held)
  reads := by
    intro last waits key
    have read : (s.store.get last key).1 = r.liveAt last (Key.idem key).name := same.reads last (later.trans waits) key
    rw [read, Redis.liveAt, Redis.liveAt, kept key]

end SameKeys
/-! ### One request -/

/-- What holds of the phases of a call: its entry lasts for a while, and its run has a string for an id. -/
def Storable : RunPhase → Prop
  | .working _ ttl => 0 < ttl.getD defaultIdemTtl
  | .storing _ ttl runId => 0 < ttl.getD defaultIdemTtl ∧ ∃ text, runId = .str text
  | _ => True

def Lasting (_ : String) (ttl : Option Int) : Prop := 0 < ttl.getD defaultIdemTtl

theorem lasting_entriesOf {session : Session} {args : RunArgs} {key : String} {ttl : Option Int}
    (entry : entriesOf session args key ttl) : Lasting key ttl := by
  obtain ⟨scraper, input, same⟩ := entry
  unfold idempotencyEntry at same
  split at same
  · cases same
    exact (by decide : 0 < defaultIdemTtl)
  · cases same
    exact (by decide : 0 < derivedIdempotencyTtl)

section Request
variable {during : Rat → Prop} {q q' : RunPhase} {c : Call} {ans : Answer c} {r r' : Redis} {s s' : Shared}

theorem Storable.next (storable : Storable q) (led : runNext Lasting q c ans q') (named : StringIds c ans) :
    Storable q' := by
  by_cases quiet : c.Quiet
  · obtain ⟨-, rfl⟩ := (runNext_quiet_iff quiet).mp led
    exact storable
  cases c with
  | idemGet key =>
    cases ans with
    | error e =>
      obtain ⟨-, rfl⟩ := led
      trivial
    | ok found =>
      obtain ⟨-, ttl, lasts, rfl⟩ := led
      cases foundRun found with
      | none => exact lasts
      | some runId => trivial
  | idemPut key runId ttl =>
    obtain ⟨-, rfl⟩ := led
    trivial
  | startRun squid =>
    obtain ⟨key, ttl, rfl, rfl⟩ := led
    cases ans with
    | error e => trivial
    | ok run =>
      unfold afterStartPhase
      dsimp only
      cases read : Dict.get? run "id" with
      | none => trivial
      | some runId => exact ⟨storable, named runId read⟩
  | _ => exact absurd trivial quiet

theorem SameKeys.memory_waits (same : SameKeys r s)
    (step : (∀ key, Dict.get? r'.entries (Key.idem key).name = Dict.get? r.entries (Key.idem key).name) ∧
      r.now ≤ r'.now ∧ during r'.now) :
    ∃ s', (s'.store = s.store ∧ s.now ≤ s'.now ∧ during s'.now) ∧ SameKeys r' s' :=
  ⟨{ s with now := r'.now }, ⟨rfl, same.now.le.trans step.2.1, step.2.2⟩, same.waits step.2.1 step.1⟩

theorem SameKeys.redis_waits (same : SameKeys r s) (step : s'.store = s.store ∧ s.now ≤ s'.now ∧ during s'.now) :
    ∃ r', ((∀ key, Dict.get? r'.entries (Key.idem key).name = Dict.get? r.entries (Key.idem key).name) ∧
      r.now ≤ r'.now ∧ during r'.now) ∧ SameKeys r' s' := by
  obtain ⟨kept, waits, here⟩ := step
  have goesOn : r.now ≤ s'.now := same.now.ge.trans waits
  have later : SameKeys { r with now := s'.now } { s with now := s'.now } := same.waits goesOn fun _ => rfl
  rw [← kept] at later
  exact ⟨{ r with now := s'.now }, ⟨fun _ => rfl, goesOn, here⟩, later⟩

/-- What Redis answers a call, the store in memory answers as well. -/
theorem SameKeys.inMemory (same : SameKeys r s) (storable : Storable q) (led : runNext Lasting q c ans q')
    (step : Redis.keys during r c ans r') : ∃ s', Shared.world during s c ans s' ∧ SameKeys r' s' := by
  cases c with
  | idemGet key =>
    obtain ⟨result, ran, told⟩ := step
    cases (RedisIdempotencyStore.get_alone key).symm.trans ran
    exact ⟨_, ⟨(told : ans = _).trans (congrArg Except.ok (same.lookUp key)), rfl⟩, same.get key⟩
  | idemPut key runId ttl =>
    obtain ⟨rfl, -⟩ := led
    obtain ⟨text, result, rfl, ran, told⟩ := step
    cases (RedisIdempotencyStore.put_alone key text storable.1).symm.trans ran
    exact ⟨_, ⟨told, rfl⟩, same.put storable.1 key text⟩
  | startRun squid =>
    obtain ⟨s', waited, later⟩ := same.memory_waits (Redis.keys_keeps step nofun nofun)
    cases ans with
    | error e => exact ⟨s', waited, later⟩
    | ok run => exact ⟨s', ⟨step.1, waited⟩, later⟩
  | _ => exact same.memory_waits step

/-- And the other way round. -/
theorem SameKeys.onRedis (same : SameKeys r s) (storable : Storable q) (led : runNext Lasting q c ans q')
    (step : Shared.world during s c ans s') : ∃ r', Redis.keys during r c ans r' ∧ SameKeys r' s' := by
  cases c with
  | idemGet key =>
    obtain ⟨rfl, rfl⟩ := step
    exact ⟨r, ⟨_, RedisIdempotencyStore.get_alone key, (congrArg Except.ok (same.lookUp key)).symm⟩, same.get key⟩
  | idemPut key runId ttl =>
    obtain ⟨rfl, -⟩ := led
    obtain ⟨lasts, text, rfl⟩ := storable
    obtain ⟨rfl, rfl⟩ := step
    exact ⟨_, ⟨text, _, rfl, RedisIdempotencyStore.put_alone key text lasts, rfl⟩, same.put lasts key text⟩
  | startRun squid =>
    obtain ⟨r', waited, later⟩ := same.redis_waits (Shared.world_keeps step nofun nofun)
    cases ans with
    | error e => exact ⟨r', waited, later⟩
    | ok run => exact ⟨r', ⟨step.1, waited⟩, later⟩
  | _ => exact same.redis_waits step

end Request

/-! ### Any number of calls -/

section Calls
variable {ι : Type} [DecidableEq ι] (during : Rat → Prop)

/-- Redis goes on like the memory of the process. -/
def memoryLikeRedis : Simulation (runNext Lasting) ((Redis.keys during).given StringIds)
    ((Shared.world during).given StringIds) where
  fits := Storable
  rel := SameKeys
  step := fun storable same led step =>
    have ⟨s', stepped, later⟩ := same.inMemory storable led step.2
    ⟨storable.next led step.1, s', ⟨step.1, stepped⟩, later⟩

def redisLikeMemory : Simulation (runNext Lasting) ((Shared.world during).given StringIds)
    ((Redis.keys during).given StringIds) where
  fits := Storable
  rel := fun s r => SameKeys r s
  step := fun storable same led step =>
    have ⟨r', stepped, later⟩ := same.onRedis storable led step.2
    ⟨storable.next led step.1, r', ⟨step.1, stepped⟩, later⟩

omit [DecidableEq ι] in
theorem callsOn_lasting (shared : Shared) (calls : ι → Session × RunArgs) (i : ι) :
    ((callsOn shared calls).programs i).Follows (runNext Lasting) runEnds .waiting :=
  (runScraperImpl_follows (calls i).1 (calls i).2).widen (runNext_widen fun _ _ => lasting_entriesOf)

/-- A store that has just been made, on a Redis without keys. -/
theorem sameKeys_fresh {r : Redis} (fresh : ∀ key, Dict.get? r.entries (Key.idem key).name = none) :
    SameKeys r { store := {}, now := r.now } where
  now := rfl
  ttl := rfl
  texts := fun key runId limit held => by rw [fresh key] at held; cases held
  reads := fun later _ key => by rw [Redis.liveAt, fresh key]; rfl

/-- Calls that take turns in any order can be seen to do on Redis just what they can on the store in memory:
make the same requests, be told the same, and answer the same. -/
theorem redis_serves_as_memory_does (calls : ι → Session × RunArgs) {r : Redis}
    (fresh : ∀ key, Dict.get? r.entries (Key.idem key).name = none) (seen : List (ι × Said Call Answer))
    (left : ι → Program Call Answer Exc Fields) :
    let programs := (callsOn { store := {}, now := r.now } calls).programs
    Pool.Shows ((Redis.keys during).given StringIds) ⟨r, programs⟩ seen left ↔
      Pool.Shows ((Shared.world during).given StringIds) ⟨{ store := {}, now := r.now }, programs⟩ seen left :=
  ⟨(memoryLikeRedis during).shows (callsOn_lasting _ calls) (fun _ => trivial) (sameKeys_fresh fresh),
    (redisLikeMemory during).shows (callsOn_lasting _ calls) (fun _ => trivial) (sameKeys_fresh fresh)⟩

end Calls

/-! ### Two calls -/

theorem stringIds_turns {tr : List (Event Call Answer Shared)} (all : ∀ e ∈ tr, StringIds e.op e.ans) :
    ∀ (first : List (Event Call Answer Shared)) e rest (_ : Calls Bool), tr = first ++ e :: rest →
      StringIds e.op e.ans := by
  rintro first e rest - rfl
  exact all e (List.mem_append_right _ List.mem_cons_self)

theorem stringIds_lookUpTrace (st : Shared) : ∀ e ∈ lookUpTrace st, StringIds e.op e.ans := by
  intro e member
  simp only [lookUpTrace, attachedTrace, List.mem_cons, List.not_mem_nil, or_false] at member
  rcases member with rfl | rfl | rfl | rfl | rfl <;> trivial

theorem stringIds_retryTrace (st : Shared) (run : String) : ∀ e ∈ retryTrace st run, StringIds e.op e.ans := by
  intro e member
  simp only [retryTrace, List.mem_cons, List.not_mem_nil, or_false] at member
  rcases member with rfl | rfl | rfl
  · trivial
  · exact fun runId same => ⟨run, (Option.some.inj same).symm⟩
  · trivial

theorem stringIds_servedTrace (st : Shared) (run : String) : ∀ e ∈ servedTrace st run, StringIds e.op e.ans := by
  intro e member
  simp only [servedTrace, List.mem_cons, List.not_mem_nil, or_false] at member
  rcases member with rfl | rfl | rfl | rfl <;> trivial

/-- On Redis too, a retry that comes after a call is told the call's run. -/
theorem a_retry_is_told_the_run_on_redis :
    ∃ seen left, left false = .pure (alreadySubmitted (.str "one")) ∧
      Pool.Shows ((Redis.keys (· = 0)).given StringIds)
        ⟨{ now := 0 }, (callsOn emptyStore twoCalls).programs⟩ seen left := by
  have initial : Pool.Runs (Shared.world (· = 0)) (fun _ _ _ op ans => StringIds op ans)
    (callsOn emptyStore twoCalls) [] (callsOn emptyStore twoCalls) := .start
  have first := runs_lookUp (i := true) initial rfl rfl rfl rfl (stringIds_turns (stringIds_lookUpTrace _))
  obtain ⟨reply, second⟩ := runs_commit (i := true) first "one" rfl rfl rfl (by decide)
    (stringIds_turns (stringIds_retryTrace _ _))
  have held : (emptyStore.store.put 0 retryKey (.str "one") none).get 0 retryKey =
      (some (.str "one"), emptyStore.store.put 0 retryKey (.str "one") none) := by
    rw [IdempotencyStore.get_held (IdempotencyStore.get?_put _ _ _ |>.trans (if_pos rfl))]
    exact if_neg (by decide +kernel)
  have third := runs_served (i := false) second "one" rfl rfl rfl (by decide) held
    (stringIds_turns (stringIds_servedTrace _ _))
  exact ⟨_, _, Pool.after_self _ _ _ _, (redis_serves_as_memory_does (· = 0) twoCalls (fun _ => rfl) _ _).mpr
    ⟨_, _, third.given, rfl, rfl⟩⟩

end LobstrMcp
