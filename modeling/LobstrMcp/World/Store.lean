import LobstrMcp.Interaction.Triple
import LobstrMcp.Model.LobstrClient

/-!
What the server relies on of the idempotency store, and of the clock it is read by. The store
answers what it holds at that instant; requests to the API take time, and a run that was started
has an id that is not empty, if it has one.
-/

namespace LobstrMcp
open Interaction

/-- The store, and the time. -/
structure Shared where
  store : IdempotencyStore
  now : Rat

namespace Shared

/-- The store and the clock, at the instants that are considered. -/
def world (during : Rat → Prop) : World Call Answer Shared := fun s c ans t =>
  match c, ans with
  | .idemGet key, ans =>
    ans = .ok (s.store.get s.now key).1 ∧ t = { s with store := (s.store.get s.now key).2 }
  | .idemPut key runId ttl, ans =>
    ans = .ok () ∧ t = { s with store := s.store.put s.now key runId ttl }
  | .startRun _, .ok run => (∀ runId, Dict.get? run "id" = some runId → runId.truthy = true) ∧
    t.store = s.store ∧ s.now ≤ t.now ∧ during t.now
  | _, _ => t.store = s.store ∧ s.now ≤ t.now ∧ during t.now

section World
variable {during : Rat → Prop} {s t : Shared}

theorem world_keeps {c : Call} {ans : Answer c} (step : world during s c ans t)
    (get : ∀ key, c ≠ .idemGet key) (put : ∀ key runId ttl, c ≠ .idemPut key runId ttl) :
    t.store = s.store ∧ s.now ≤ t.now ∧ during t.now := by
  cases c with
  | idemGet key => exact absurd rfl (get key)
  | idemPut key runId ttl => exact absurd rfl (put key runId ttl)
  | startRun squid =>
    cases ans with
    | ok run => exact step.2
    | error e => exact step
  | _ => exact step

end World
end Shared

namespace IdempotencyStore
variable {store : IdempotencyStore} {now : Rat} {key : String}

/-- When an entry that is stored now stops being served. -/
def expiry (store : IdempotencyStore) (now : Rat) (ttl : Option Int) : Option Rat :=
  if ttl.getD store.ttl = 0 then none else some (now + ttl.getD store.ttl)

@[simp] theorem ttl_put (runId : Json) (ttl : Option Int) : (store.put now key runId ttl).ttl = store.ttl :=
  rfl

@[simp] theorem get?_put (runId : Json) (ttl : Option Int) (k : String) :
    Dict.get? (store.put now key runId ttl).entries k =
      if key = k then some (runId, store.expiry now ttl) else Dict.get? store.entries k :=
  Dict.get?_set _ _ _ _

theorem get_absent (absent : Dict.get? store.entries key = none) : store.get now key = (none, store) := by
  simp [get, absent]

theorem get_held {runId : Json} {expiresAt : Option Rat}
    (held : Dict.get? store.entries key = some (runId, expiresAt)) :
    store.get now key = if expired now expiresAt
      then (none, { store with entries := Dict.erase store.entries key }) else (some runId, store) := by
  simp [get, held]

@[simp] theorem ttl_get (store : IdempotencyStore) (now : Rat) (key : String) :
    (store.get now key).2.ttl = store.ttl := by
  unfold get
  split
  · rfl
  · split <;> rfl

theorem get_eq_some {runId : Json} : (store.get now key).1 = some runId ↔
    ∃ expiresAt, Dict.get? store.entries key = some (runId, expiresAt) ∧ expired now expiresAt = false := by
  cases held : Dict.get? store.entries key with
  | none => simp [get_absent held]
  | some entry =>
    obtain ⟨id, expiresAt⟩ := entry
    rw [get_held held]
    cases late : expired now expiresAt <;> simp [late]

/-- A look-up drops an entry only when it has expired. -/
theorem get?_get {k : String} {entry : Json × Option Rat} :
    Dict.get? (store.get now key).2.entries k = some entry ↔
      Dict.get? store.entries k = some entry ∧ (key = k → expired now entry.2 = false) := by
  cases held : Dict.get? store.entries key with
  | none =>
    rw [get_absent held]
    refine ⟨fun read => ⟨read, ?_⟩, And.left⟩
    rintro rfl
    rw [held] at read
    cases read
  | some found =>
    obtain ⟨id, expiresAt⟩ := found
    rw [get_held held]
    cases late : expired now expiresAt with
    | false =>
      rw [if_neg Bool.false_ne_true]
      refine ⟨fun read => ⟨read, ?_⟩, And.left⟩
      rintro rfl
      rw [held] at read
      cases read
      exact late
    | true =>
      rw [if_pos rfl, Dict.get?_erase]
      by_cases same : key = k
      · subst same
        rw [if_pos rfl, held]
        constructor
        · rintro ⟨⟩
        · rintro ⟨same, live⟩
          cases same
          rw [late] at live
          cases live rfl
      · simp [same]

end IdempotencyStore
end LobstrMcp
