import LobstrMcp.Model.Persistence

/-!
What the server relies on of Redis: each command is one step, a key set with `EX n` is gone `n`
seconds later, and an expiry that is not positive is refused. The clock and the random values are
those of the machine.
-/

namespace LobstrMcp
open Interaction

/-- What Redis holds, each key until its instant if it has one; the time, and the random values
given out so far. -/
structure Redis where
  entries : Dict String (Json × Option Rat) := []
  now : Rat
  drawn : ℕ := 0

def lapsed (until? : Option Rat) (now : Rat) : Bool :=
  match until? with
  | none => false
  | some t => t ≤ now

namespace Redis

def live (r : Redis) (name : String) : Option Json :=
  (Dict.get? r.entries name).bind fun e => if lapsed e.2 r.now then none else some e.1

/-- A key is set, until `ex` seconds from now if that is given. -/
def store (r : Redis) (name : String) (value : Json) (ex : Option Int) : Redis :=
  { r with entries := Dict.set r.entries name (value, ex.map fun n : Int => r.now + n) }

def remove (r : Redis) (name : String) : Redis := { r with entries := Dict.erase r.entries name }

/-- An expiry that `SET` takes. -/
def Expires (ex : Option Int) : Prop := ∀ n ∈ ex, 0 < n

instance Expires.decidable (ex : Option Int) : Decidable (Expires ex) :=
  inferInstanceAs (Decidable (∀ n ∈ ex, 0 < n))

def machine : Machine RedisCall RedisCall.Answer Redis
  | r, .get name => (r.live name, r)
  | r, .set name value ex => if Expires ex then (.ok (), r.store name value ex)
    else (.error "invalid expire time in 'set' command", r)
  | r, .delete name => ((), r.remove name)
  | r, .time => (r.now, r)
  | r, .random => (r.drawn, { r with drawn := r.drawn + 1 })

@[simp] theorem machine_get (r : Redis) (name : String) : machine r (.get name) = (r.live name, r) := rfl

theorem machine_set {ex : Option Int} (expires : Expires ex) (r : Redis) (name : String) (value : Json) :
    machine r (.set name value ex) = (.ok (), r.store name value ex) :=
  if_pos expires

theorem machine_refuses {ex : Option Int} (refused : ¬ Expires ex) (r : Redis) (name : String) (value : Json) :
    machine r (.set name value ex) = (.error "invalid expire time in 'set' command", r) :=
  if_neg refused

@[simp] theorem machine_delete (r : Redis) (name : String) : machine r (.delete name) = ((), r.remove name) :=
  rfl

@[simp] theorem machine_time (r : Redis) : machine r .time = (r.now, r) := rfl

@[simp] theorem machine_random (r : Redis) :
    machine r .random = (r.drawn, { r with drawn := r.drawn + 1 }) := rfl

@[simp] theorem store_now (r : Redis) (name : String) (value : Json) (ex : Option Int) :
    (r.store name value ex).now = r.now := rfl

@[simp] theorem store_drawn (r : Redis) (name : String) (value : Json) (ex : Option Int) :
    (r.store name value ex).drawn = r.drawn := rfl

@[simp] theorem remove_now (r : Redis) (name : String) : (r.remove name).now = r.now := rfl

@[simp] theorem remove_drawn (r : Redis) (name : String) : (r.remove name).drawn = r.drawn := rfl

@[simp] theorem get?_store (r : Redis) (name other : String) (value : Json) (ex : Option Int) :
    Dict.get? (r.store name value ex).entries other =
      if name = other then some (value, ex.map fun n : Int => r.now + n) else Dict.get? r.entries other :=
  Dict.get?_set _ _ _ _

@[simp] theorem get?_remove (r : Redis) (name other : String) :
    Dict.get? (r.remove name).entries other = if name = other then none else Dict.get? r.entries other :=
  Dict.get?_erase _ _ _

theorem live_eq_some {r : Redis} {name : String} {value : Json} : r.live name = some value ↔
    ∃ limit, Dict.get? r.entries name = some (value, limit) ∧ lapsed limit r.now = false := by
  unfold live
  cases read : Dict.get? r.entries name with
  | none => simp
  | some entry =>
    obtain ⟨held, limit⟩ := entry
    cases gone : lapsed limit r.now <;> simp [gone]

theorem live_eq_none {r : Redis} {name : String} : r.live name = none ↔
    ∀ value limit, Dict.get? r.entries name = some (value, limit) → lapsed limit r.now = true := by
  unfold live
  cases read : Dict.get? r.entries name with
  | none => simp
  | some entry =>
    obtain ⟨held, limit⟩ := entry
    cases gone : lapsed limit r.now <;> simp [gone]

end Redis

/-! ### Names -/

/-- The keys of the four stores, by store and by what the store calls them. -/
inductive Key where
  | token (mcpToken : String)
  | idem (key : String)
  | client (clientId : String)
  | refresh (token : String)

def Key.name : Key → String
  | token t => tokenPrefix ++ t
  | idem k => idemPrefix ++ k
  | client c => clientPrefix ++ c
  | refresh t => refreshPrefix ++ t

theorem Key.name_injective : Function.Injective Key.name := by
  intro k l same
  cases k <;> cases l
  all_goals
    have chars := congrArg String.toList same
    simp [Key.name, tokenPrefix, idemPrefix, clientPrefix, refreshPrefix] at chars
  all_goals simp [String.ext_iff, chars]

end LobstrMcp
