import LobstrMcp.Stores.Records
import LobstrMcp.World.Store
import Mathlib.Data.List.Induction

/-!
The stores on Redis beside the stores in memory, given the same operations at the same instants.
They answer alike, but for an entry in the last second of its life, which Redis may have dropped.
-/

namespace LobstrMcp
open Interaction

/-! ### An entry and its copy -/

section Tracks
variable {α : Type} {decode : Json → Option α} {life : α → Option Rat} {now later : Rat}
  {entry : Option (Json × Option Rat)} {held : Option α}

/-- A key of Redis follows an entry in memory: it serves the entry, or the entry has less than a
second to live. -/
structure Tracks (decode : Json → Option α) (life : α → Option Rat) (now : Rat)
    (entry : Option (Json × Option Rat)) (held : Option α) : Prop where
  served : ∀ raw limit, entry = some (raw, limit) → lapsed limit now = false →
    ∃ a, decode raw = some a ∧ held = some a ∧ ∀ l ∈ limit, ∃ t ∈ life a, t < l + 1
  kept : ∀ a, held = some a → (∃ raw limit, entry = some (raw, limit) ∧ lapsed limit now = false) ∨
    ∃ t ∈ life a, t < now + 1

theorem Tracks.none : Tracks decode life now none none := by
  constructor
  · intro _ _ absurd
    cases absurd
  · intro _ absurd
    cases absurd

theorem lapsed_mono {limit : Option Rat} (waits : now ≤ later) (serves : lapsed limit later = false) :
    lapsed limit now = false := by
  cases limit with
  | none => rfl
  | some l =>
    rw [lapsed, decide_eq_false_iff_not, not_le] at serves ⊢
    exact waits.trans_lt serves

theorem Tracks.wait (tracks : Tracks decode life now entry held) (waits : now ≤ later) :
    Tracks decode life later entry held := by
  constructor
  · intro raw limit read serves
    exact tracks.served raw limit read (lapsed_mono waits serves)
  · intro a stored
    rcases tracks.kept a stored with ⟨raw, limit, read, served⟩ | ⟨t, lives, short⟩
    · cases gone : lapsed limit later with
      | false => exact .inl ⟨raw, limit, read, gone⟩
      | true =>
        obtain ⟨a', _, same, until'⟩ := tracks.served raw limit read served
        rw [stored, Option.some.injEq] at same
        subst same
        cases limit with
        | none => cases gone
        | some l =>
          obtain ⟨t, lives, short⟩ := until' l rfl
          have passed : l ≤ later := of_decide_eq_true gone
          exact .inr ⟨t, lives, by linarith⟩
    · exact .inr ⟨t, lives, by linarith⟩

/-- What a look-up may do to a key and its copy: nothing, drop both, or drop the copy where Redis
serves nothing. -/
inductive Looked (now : Rat) (entry : Option (Json × Option Rat)) (held : Option α) :
    Option (Json × Option Rat) → Option α → Prop
  | same : Looked now entry held entry held
  | both : Looked now entry held none none
  | copy (gone : ∀ raw limit, entry = some (raw, limit) → lapsed limit now = true) :
    Looked now entry held entry none

theorem Tracks.looked {entry' : Option (Json × Option Rat)} {held' : Option α}
    (tracks : Tracks decode life now entry held) (looked : Looked now entry held entry' held') :
    Tracks decode life now entry' held' := by
  cases looked with
  | same => exact tracks
  | both => exact .none
  | copy gone =>
    constructor
    · intro raw limit read serves
      rw [gone raw limit read] at serves
      cases serves
    · intro _ absurd
      cases absurd

/-- Both are written, Redis until the second before the end or for good. -/
theorem Tracks.put (life : α → Option Rat) {raw : Json} {a : α} (reads : decode raw = some a) :
    Tracks decode life now (some (raw, (ttlFrom (life a) now).map fun n : Int => now + n)) (some a) := by
  constructor
  · intro raw' limit read _
    cases read
    refine ⟨a, reads, rfl, fun l ends => ?_⟩
    obtain ⟨n, ttl, rfl⟩ := Option.map_eq_some_iff.mp ends
    obtain ⟨_, t, lives, _, short⟩ := ttlFrom_some ttl
    exact ⟨t, lives, short⟩
  · intro a' same
    cases same
    refine .inl ⟨raw, _, rfl, ?_⟩
    cases ttl : ttlFrom (life a) now with
    | none => rfl
    | some n =>
      have positive : (0 : Rat) < n := by exact_mod_cast (ttlFrom_some ttl).1
      exact decide_eq_false (not_le.mpr (lt_add_of_pos_right now positive))

end Tracks

theorem expired_eq_lapsed (now : Rat) (limit : Option Rat) :
    IdempotencyStore.expired now limit = lapsed limit now := by
  cases limit <;> rfl

/-- A run is held alike on both sides, or has lapsed and was dropped in memory. -/
structure SameRun (now : Rat) (entry held : Option (Json × Option Rat)) : Prop where
  text : ∀ raw limit, entry = some (raw, limit) → ∃ runId, raw = .str runId
  copied : held = entry ∨ held = none ∧ ∃ raw limit, entry = some (raw, limit) ∧ lapsed limit now = true

theorem SameRun.none {now : Rat} : SameRun now none none :=
  ⟨(fun _ _ absurd => by cases absurd), .inl rfl⟩

theorem SameRun.wait {now later : Rat} {entry held : Option (Json × Option Rat)}
    (same : SameRun now entry held) (waits : now ≤ later) : SameRun later entry held := by
  refine ⟨same.text, ?_⟩
  rcases same.copied with copied | ⟨dropped, raw, limit, read, gone⟩
  · exact .inl copied
  · refine .inr ⟨dropped, raw, limit, read, ?_⟩
    by_contra serves
    rw [Bool.not_eq_true] at serves
    rw [lapsed_mono waits serves] at gone
    cases gone

/-- What an expiring store answers in place of another: nothing else, and everything that has a
second left. -/
structure DropIn {α : Type} (life : α → Option Rat) (now : Rat) (redis memory : Option α) : Prop where
  sound : ∀ a ∈ redis, a ∈ memory
  complete : ∀ a ∈ memory, (∀ t ∈ life a, now + 1 ≤ t) → a ∈ redis

/-! ### Side by side -/

/-- An operation on the token stores, the refresh registries or the idempotency stores. -/
inductive StoreOp where
  | putToken (mcpToken : String) (link : TokenLink)
  | getToken (mcpToken : String)
  | revokeToken (mcpToken : String)
  | putRefresh (refreshToken : RefreshToken) (link : TokenLink)
  | popRefresh (token : String)
  | loadRefresh (token : String)
  | putRun (key runId : String) (ttl : Option { n : Int // 0 < n })
  | getRun (key : String)
  | advance (seconds : { q : Rat // 0 ≤ q })

/-- The stores in memory, and the stores on Redis, under one clock. -/
structure SideBySide where
  provider : Provider := {}
  idem : IdempotencyStore
  redis : Redis

namespace SideBySide

def now (s : SideBySide) : Rat := s.redis.now

/-- Both sides are given the operation; `default` is the TTL of both idempotency stores. -/
def step (codec : Codec) (default : Int) (s : SideBySide) : StoreOp → SideBySide
  | .putToken t link => { s with
      provider := { s.provider with tokens := TokenStore.put s.provider.tokens t link }
      redis := (alone (RedisTokenStore.put codec t link) s.redis).2 }
  | .getToken t => { s with
      provider := { s.provider with tokens := (TokenStore.get s.provider.tokens s.now t).2 }
      redis := (alone (RedisTokenStore.get codec t) s.redis).2 }
  | .revokeToken t => { s with
      provider := { s.provider with tokens := TokenStore.revoke s.provider.tokens t }
      redis := (alone (RedisTokenStore.revoke t) s.redis).2 }
  | .putRefresh rt link => { s with
      provider := { s.provider with refresh := MemoryRefreshRegistry.put s.provider.refresh rt link }
      redis := (alone (RedisRefreshRegistry.put codec rt link) s.redis).2 }
  | .popRefresh t => { s with
      provider := s.provider.popRefresh t
      redis := (alone (RedisRefreshRegistry.pop codec t) s.redis).2 }
  | .loadRefresh t => { s with
      provider := (s.provider.loadRefreshToken s.now t).2
      redis := (alone (OnRedis.loadRefreshToken codec t) s.redis).2 }
  | .putRun key runId ttl => { s with
      idem := s.idem.put s.now key (.str runId) (ttl.map Subtype.val)
      redis := (alone (RedisIdempotencyStore.put default key runId (ttl.map Subtype.val)) s.redis).2 }
  | .getRun key => { s with
      idem := (s.idem.get s.now key).2
      redis := (alone (RedisIdempotencyStore.get key) s.redis).2 }
  | .advance seconds => { s with redis := { s.redis with now := s.redis.now + seconds } }

/-- Both sides after these operations, from empty stores. -/
def after (codec : Codec) (default : { n : Int // 0 < n }) (start : Rat) (ops : List StoreOp) : SideBySide :=
  ops.foldl (step codec default) { idem := { ttl := default }, redis := { now := start } }

/-- What the two sides owe each other. -/
structure Inv (codec : Codec) (s : SideBySide) : Prop where
  tokens : ∀ t, Tracks (linkFromJson codec) TokenLink.expiresAt s.now
    (Dict.get? s.redis.entries (Key.token t).name) (Dict.get? s.provider.tokens t)
  refresh : ∀ t, Tracks (refreshFromJson codec) (fun pair => pair.1.expiresAt.map Int.cast) s.now
    (Dict.get? s.redis.entries (Key.refresh t).name) (Dict.get? s.provider.refresh t)
  runs : ∀ key, SameRun s.now (Dict.get? s.redis.entries (Key.idem key).name)
    (Dict.get? s.idem.entries key)

/-- A step that only moves what is held under one key, and the clock not at all. -/
theorem Inv.of_key {codec : Codec} {s s' : SideBySide} (inv : Inv codec s) (k : Key) (same : s'.now = s.now)
    (redis : ∀ name ≠ k.name, Dict.get? s'.redis.entries name = Dict.get? s.redis.entries name)
    (tokens : ∀ t, Key.token t ≠ k → Dict.get? s'.provider.tokens t = Dict.get? s.provider.tokens t)
    (refresh : ∀ t, Key.refresh t ≠ k → Dict.get? s'.provider.refresh t = Dict.get? s.provider.refresh t)
    (runs : ∀ key, Key.idem key ≠ k → Dict.get? s'.idem.entries key = Dict.get? s.idem.entries key)
    (here : match k with
      | .token t => Tracks (linkFromJson codec) TokenLink.expiresAt s.now
          (Dict.get? s'.redis.entries (Key.token t).name) (Dict.get? s'.provider.tokens t)
      | .refresh t => Tracks (refreshFromJson codec) (fun pair => pair.1.expiresAt.map Int.cast) s.now
          (Dict.get? s'.redis.entries (Key.refresh t).name) (Dict.get? s'.provider.refresh t)
      | .idem key => SameRun s.now (Dict.get? s'.redis.entries (Key.idem key).name)
          (Dict.get? s'.idem.entries key)
      | .client _ => True) : Inv codec s' := by
  -- different keys have different names on Redis, so every other entry is where it was
  constructor
  · intro t
    rw [same]
    by_cases own : Key.token t = k
    · subst own
      exact here
    · rw [redis _ (Key.name_injective.ne own), tokens t own]
      exact inv.tokens t
  · intro t
    rw [same]
    by_cases own : Key.refresh t = k
    · subst own
      exact here
    · rw [redis _ (Key.name_injective.ne own), refresh t own]
      exact inv.refresh t
  · intro key
    rw [same]
    by_cases own : Key.idem key = k
    · subst own
      exact here
    · rw [redis _ (Key.name_injective.ne own), runs key own]
      exact inv.runs key

section Step
variable {codec : Codec} {default : Int} {s : SideBySide}

theorem Inv.putToken (inv : Inv codec s) (t : String) (link : TokenLink) :
    Inv codec (s.step codec default (.putToken t link)) := by
  have written : (s.step codec default (.putToken t link)).redis = { s.redis with
      drawn := s.redis.drawn + 1 }.store (Key.token t).name (linkToJson codec s.redis.drawn link)
      (ttlFrom link.expiresAt s.redis.now) := congrArg Prod.snd (RedisTokenStore.put_alone t link)
  refine inv.of_key (.token t) ?_ ?_ ?_ ?_ ?_ ?_
  · rw [now, written]
    rfl
  · intro name other
    rw [written, Redis.get?_store, if_neg (Ne.symm other)]
  · intro t' other
    exact Dict.get?_set_other _ _ fun same => other (congrArg Key.token same.symm)
  · exact fun _ _ => rfl
  · exact fun _ _ => rfl
  · show Tracks _ _ _ _ (Dict.get? (Dict.set s.provider.tokens t link) t)
    rw [written, Redis.get?_store, if_pos rfl, Dict.get?_set_self]
    exact Tracks.put TokenLink.expiresAt (linkFromJson_linkToJson _ link)

theorem Inv.revokeToken (inv : Inv codec s) (t : String) :
    Inv codec (s.step codec default (.revokeToken t)) := by
  refine inv.of_key (.token t) rfl ?_ ?_ ?_ ?_ ?_
  · intro name other
    exact (Redis.get?_remove _ _ _).trans (if_neg (Ne.symm other))
  · intro t' other
    exact (Dict.get?_erase _ _ _).trans (if_neg fun same => other (congrArg Key.token same.symm))
  · exact fun _ _ => rfl
  · exact fun _ _ => rfl
  · show Tracks _ _ _ (Dict.get? (s.redis.remove (Key.token t).name).entries (Key.token t).name)
      (Dict.get? (Dict.erase s.provider.tokens t) t)
    rw [Redis.get?_remove, if_pos rfl, Dict.get?_erase_self]
    exact .none

theorem Inv.looksToken {s' : SideBySide} (inv : Inv codec s) (t : String)
    (redis : s'.redis = s.redis ∨ s'.redis = s.redis.remove (Key.token t).name)
    (tokens : ∀ t' ≠ t, Dict.get? s'.provider.tokens t' = Dict.get? s.provider.tokens t')
    (refresh : s'.provider.refresh = s.provider.refresh) (runs : s'.idem = s.idem)
    (looked : Looked s.now (Dict.get? s.redis.entries (Key.token t).name) (Dict.get? s.provider.tokens t)
      (Dict.get? s'.redis.entries (Key.token t).name) (Dict.get? s'.provider.tokens t)) : Inv codec s' := by
  refine inv.of_key (.token t) ?_ ?_ ?_ ?_ ?_ ((inv.tokens t).looked looked)
  · rcases redis with same | same <;> rw [now, same] <;> rfl
  · intro name other
    rcases redis with same | same
    · rw [same]
    · rw [same, Redis.get?_remove, if_neg (Ne.symm other)]
  · exact fun t' other => tokens t' fun same => other (congrArg Key.token same)
  · exact fun _ _ => by rw [refresh]
  · exact fun _ _ => by rw [runs]

theorem Inv.looksRefresh {s' : SideBySide} (inv : Inv codec s) (t : String)
    (redis : s'.redis = s.redis ∨ s'.redis = s.redis.remove (Key.refresh t).name)
    (refresh : ∀ t' ≠ t, Dict.get? s'.provider.refresh t' = Dict.get? s.provider.refresh t')
    (tokens : s'.provider.tokens = s.provider.tokens) (runs : s'.idem = s.idem)
    (looked : Looked s.now (Dict.get? s.redis.entries (Key.refresh t).name) (Dict.get? s.provider.refresh t)
      (Dict.get? s'.redis.entries (Key.refresh t).name) (Dict.get? s'.provider.refresh t)) :
    Inv codec s' := by
  refine inv.of_key (.refresh t) ?_ ?_ ?_ ?_ ?_ ((inv.refresh t).looked looked)
  · rcases redis with same | same <;> rw [now, same] <;> rfl
  · intro name other
    rcases redis with same | same
    · rw [same]
    · rw [same, Redis.get?_remove, if_neg (Ne.symm other)]
  · exact fun _ _ => by rw [tokens]
  · exact fun t' other => refresh t' fun same => other (congrArg Key.refresh same)
  · exact fun _ _ => by rw [runs]

theorem tokenStore_get_other {byToken : Dict String TokenLink} {now : Rat} {t t' : String} (other : t' ≠ t) :
    Dict.get? (TokenStore.get byToken now t).2 t' = Dict.get? byToken t' := by
  unfold TokenStore.get
  split
  · rfl
  · split
    · rw [Dict.get?_erase, if_neg (Ne.symm other)]
    · rfl

theorem tokenStore_get_own (byToken : Dict String TokenLink) (now : Rat) (t : String) :
    Dict.get? (TokenStore.get byToken now t).2 t = Dict.get? byToken t ∨
      Dict.get? (TokenStore.get byToken now t).2 t = none := by
  unfold TokenStore.get
  split
  · exact .inl rfl
  · split
    · exact .inr (Dict.get?_erase_self _ _)
    · exact .inl rfl

theorem Inv.getToken (inv : Inv codec s) (t : String) :
    Inv codec (s.step codec default (.getToken t)) := by
  have tokens : ∀ t' ≠ t, Dict.get? (s.step codec default (.getToken t)).provider.tokens t' =
      Dict.get? s.provider.tokens t' := fun _ other => tokenStore_get_other other
  cases live : s.redis.live (Key.token t).name with
  | none =>
    have same : (s.step codec default (.getToken t)).redis = s.redis :=
      congrArg Prod.snd (RedisTokenStore.get_absent live)
    refine inv.looksToken t (.inl same) tokens rfl rfl ?_
    rw [same]
    rcases tokenStore_get_own s.provider.tokens s.now t with kept | dropped
    · exact kept ▸ .same
    · exact dropped ▸ .copy (Redis.live_eq_none.mp live)
  | some raw =>
    obtain ⟨limit, read, serves⟩ := Redis.live_eq_some.mp live
    obtain ⟨link, wrote, held, _⟩ := (inv.tokens t).served raw limit read serves
    have ran := congrArg Prod.snd (RedisTokenStore.get_held live wrote)
    have memory : (s.step codec default (.getToken t)).provider.tokens =
        if link.isExpired s.now then Dict.erase s.provider.tokens t else s.provider.tokens := by
      show (TokenStore.get s.provider.tokens s.now t).2 = _
      rw [TokenStore.get, held]
      dsimp only
      split <;> rfl
    cases expired : link.isExpired s.redis.now with
    | true =>
      rw [if_pos expired] at ran
      rw [now, expired, if_pos rfl] at memory
      refine inv.looksToken t (.inr ran) tokens rfl rfl ?_
      rw [show (s.step codec default (.getToken t)).redis = s.redis.remove (Key.token t).name from ran, memory,
        Redis.get?_remove, if_pos rfl, Dict.get?_erase_self]
      exact .both
    | false =>
      rw [expired, if_neg Bool.false_ne_true] at ran
      rw [now, expired, if_neg Bool.false_ne_true] at memory
      refine inv.looksToken t (.inl ran) tokens rfl rfl ?_
      rw [show (s.step codec default (.getToken t)).redis = s.redis from ran, memory]
      exact .same

theorem Inv.putRefresh (inv : Inv codec s) (rt : RefreshToken) (link : TokenLink) :
    Inv codec (s.step codec default (.putRefresh rt link)) := by
  have written : (s.step codec default (.putRefresh rt link)).redis = { s.redis with
      drawn := s.redis.drawn + 1 }.store (Key.refresh rt.token).name (refreshToJson codec s.redis.drawn rt link)
      (ttlFrom (rt.expiresAt.map Int.cast) s.redis.now) := congrArg Prod.snd (RedisRefreshRegistry.put_alone rt link)
  refine inv.of_key (.refresh rt.token) ?_ ?_ ?_ ?_ ?_ ?_
  · rw [now, written]
    rfl
  · intro name other
    rw [written, Redis.get?_store, if_neg (Ne.symm other)]
  · exact fun _ _ => rfl
  · intro t' other
    exact Dict.get?_set_other _ _ fun same => other (congrArg Key.refresh same.symm)
  · exact fun _ _ => rfl
  · show Tracks _ _ _ _ (Dict.get? (Dict.set s.provider.refresh rt.token (rt, link)) rt.token)
    rw [written, Redis.get?_store, if_pos rfl, Dict.get?_set_self]
    exact Tracks.put (fun pair => pair.1.expiresAt.map Int.cast) (refreshFromJson_refreshToJson _ rt link)

theorem Inv.popRefresh (inv : Inv codec s) (t : String) :
    Inv codec (s.step codec default (.popRefresh t)) := by
  have refresh : ∀ t' ≠ t, Dict.get? (s.step codec default (.popRefresh t)).provider.refresh t' =
      Dict.get? s.provider.refresh t' := fun _ other => (Dict.get?_erase _ _ _).trans (if_neg (Ne.symm other))
  have erased : Dict.get? (s.step codec default (.popRefresh t)).provider.refresh t = none :=
    Dict.get?_erase_self _ _
  cases live : s.redis.live (Key.refresh t).name with
  | none =>
    have same : (s.step codec default (.popRefresh t)).redis = s.redis :=
      congrArg Prod.snd (RedisRefreshRegistry.pop_absent live)
    refine inv.looksRefresh t (.inl same) refresh rfl rfl ?_
    rw [same, erased]
    exact .copy (Redis.live_eq_none.mp live)
  | some raw =>
    obtain ⟨limit, read, serves⟩ := Redis.live_eq_some.mp live
    obtain ⟨pair, wrote, _, _⟩ := (inv.refresh t).served raw limit read serves
    have dropped : (s.step codec default (.popRefresh t)).redis = s.redis.remove (Key.refresh t).name :=
      congrArg Prod.snd (RedisRefreshRegistry.pop_held live wrote)
    refine inv.looksRefresh t (.inr dropped) refresh rfl rfl ?_
    rw [dropped, erased, Redis.get?_remove, if_pos rfl]
    exact .both

theorem loadRefreshToken_held {p : Provider} (now : Rat) {t : String} {rt : RefreshToken} {link : TokenLink}
    (held : Dict.get? p.refresh t = some (rt, link)) :
    p.loadRefreshToken now t = if rt.past now then (none, p.popRefresh t) else (some rt, p) := by
  rw [Provider.loadRefreshToken, held, RefreshToken.past]
  dsimp only
  cases rt.expiresAt with
  | none => rfl
  | some limit => by_cases past : limit < truncate now <;> simp [past]

theorem loadRefreshToken_absent {p : Provider} {now : Rat} {t : String}
    (absent : Dict.get? p.refresh t = none) : p.loadRefreshToken now t = (none, p) := by
  rw [Provider.loadRefreshToken, absent]

theorem loadRefreshToken_cases (p : Provider) (now : Rat) (t : String) :
    (p.loadRefreshToken now t).2 = p ∨ (p.loadRefreshToken now t).2 = p.popRefresh t := by
  cases held : Dict.get? p.refresh t with
  | none => exact .inl (congrArg Prod.snd (loadRefreshToken_absent held))
  | some pair =>
    rw [loadRefreshToken_held now held]
    split
    · exact .inr rfl
    · exact .inl rfl

theorem Inv.loadRefresh (inv : Inv codec s) (t : String) :
    Inv codec (s.step codec default (.loadRefresh t)) := by
  have after : (s.step codec default (.loadRefresh t)).provider = (s.provider.loadRefreshToken s.now t).2 := rfl
  have drops := loadRefreshToken_cases s.provider s.now t
  have refresh : ∀ t' ≠ t, Dict.get? (s.step codec default (.loadRefresh t)).provider.refresh t' =
      Dict.get? s.provider.refresh t' := by
    intro t' other
    rcases drops with kept | popped
    · rw [after, kept]
    · rw [after, popped]
      exact (Dict.get?_erase _ _ _).trans (if_neg (Ne.symm other))
  have tokens : (s.step codec default (.loadRefresh t)).provider.tokens = s.provider.tokens := by
    rcases drops with kept | popped
    · rw [after, kept]
    · rw [after, popped]
      rfl
  cases live : s.redis.live (Key.refresh t).name with
  | none =>
    have same : (s.step codec default (.loadRefresh t)).redis = s.redis :=
      congrArg Prod.snd (OnRedis.loadRefreshToken_absent live)
    refine inv.looksRefresh t (.inl same) refresh tokens rfl ?_
    rw [same, after]
    rcases drops with kept | popped
    · rw [kept]
      exact .same
    · rw [popped, show Dict.get? (s.provider.popRefresh t).refresh t = none from Dict.get?_erase_self _ _]
      exact .copy (Redis.live_eq_none.mp live)
  | some raw =>
    obtain ⟨limit, read, serves⟩ := Redis.live_eq_some.mp live
    obtain ⟨⟨rt, link⟩, wrote, held, _⟩ := (inv.refresh t).served raw limit read serves
    have ran := congrArg Prod.snd (OnRedis.loadRefreshToken_held live wrote)
    have memory := congrArg Prod.snd (loadRefreshToken_held s.now held)
    cases past : rt.past s.redis.now with
    | true =>
      rw [past, if_pos rfl] at ran
      rw [now, past, if_pos rfl] at memory
      refine inv.looksRefresh t (.inr ran) refresh tokens rfl ?_
      rw [show (s.step codec default (.loadRefresh t)).redis = s.redis.remove (Key.refresh t).name from ran, after,
        now, memory, Redis.get?_remove, if_pos rfl,
        show Dict.get? (s.provider.popRefresh t).refresh t = none from Dict.get?_erase_self _ _]
      exact .both
    | false =>
      rw [past, if_neg Bool.false_ne_true] at ran
      rw [now, past, if_neg Bool.false_ne_true] at memory
      refine inv.looksRefresh t (.inl ran) refresh tokens rfl ?_
      rw [show (s.step codec default (.loadRefresh t)).redis = s.redis from ran, after, now, memory]
      exact .same

theorem Inv.putRun (inv : Inv codec s) (own : s.idem.ttl = default) (positive : 0 < default)
    (key runId : String) (ttl : Option { n : Int // 0 < n }) :
    Inv codec (s.step codec default (.putRun key runId ttl)) := by
  have lasts : 0 < (ttl.map Subtype.val).getD default := by
    cases ttl with
    | none => exact positive
    | some n => exact n.2
  have written : (s.step codec default (.putRun key runId ttl)).redis =
      s.redis.store (Key.idem key).name (.str runId) (some ((ttl.map Subtype.val).getD default)) :=
    congrArg Prod.snd (RedisIdempotencyStore.put_alone key runId lasts)
  refine inv.of_key (.idem key) ?_ ?_ ?_ ?_ ?_ ?_
  · rw [now, written]
    rfl
  · intro name other
    rw [written, Redis.get?_store, if_neg (Ne.symm other)]
  · exact fun _ _ => rfl
  · exact fun _ _ => rfl
  · intro key' other
    exact Dict.get?_set_other _ _ fun same => other (congrArg Key.idem same.symm)
  · show SameRun _ _ (Dict.get? (s.idem.put s.now key (.str runId) (ttl.map Subtype.val)).entries key)
    have expires : s.idem.expiry s.now (ttl.map Subtype.val) =
        some (s.now + (ttl.map Subtype.val).getD default) := by
      rw [IdempotencyStore.expiry, own, if_neg lasts.ne']
    rw [written, Redis.get?_store, if_pos rfl, IdempotencyStore.get?_put, if_pos rfl, expires]
    refine ⟨fun raw limit read => ?_, .inl rfl⟩
    cases read
    exact ⟨runId, rfl⟩

theorem Inv.getRun (inv : Inv codec s) (key : String) : Inv codec (s.step codec default (.getRun key)) := by
  have same : (s.step codec default (.getRun key)).redis = s.redis :=
    congrArg Prod.snd (RedisIdempotencyStore.get_alone key)
  have memory : (s.step codec default (.getRun key)).idem = (s.idem.get s.now key).2 := rfl
  refine inv.of_key (.idem key) ?_ ?_ ?_ ?_ ?_ ?_
  · rw [now, same, now]
  · exact fun _ _ => by rw [same]
  · exact fun _ _ => rfl
  · exact fun _ _ => rfl
  · intro key' other
    have different : key ≠ key' := fun same => other (congrArg Key.idem same.symm)
    rw [memory, IdempotencyStore.get]
    split
    · rfl
    · split
      · rw [Dict.get?_erase, if_neg different]
      · rfl
  · show SameRun _ _ _
    rw [same, memory, IdempotencyStore.get]
    split
    · exact inv.runs key
    · rename_i runId expiresAt held
      split
      · rename_i expired
        rw [expired_eq_lapsed] at expired
        rw [Dict.get?_erase_self]
        refine ⟨(inv.runs key).text, ?_⟩
        rcases (inv.runs key).copied with copied | ⟨dropped, _⟩
        · exact .inr ⟨rfl, runId, expiresAt, copied.symm.trans held, expired⟩
        · rw [dropped] at held
          cases held
      · exact inv.runs key

theorem Inv.step (inv : Inv codec s) (own : s.idem.ttl = default) (positive : 0 < default) (op : StoreOp) :
    Inv codec (s.step codec default op) := by
  cases op with
  | putToken t link => exact inv.putToken t link
  | getToken t => exact inv.getToken t
  | revokeToken t => exact inv.revokeToken t
  | putRefresh rt link => exact inv.putRefresh rt link
  | popRefresh t => exact inv.popRefresh t
  | loadRefresh t => exact inv.loadRefresh t
  | putRun key runId ttl => exact inv.putRun own positive key runId ttl
  | getRun key => exact inv.getRun key
  | advance seconds =>
    have waits : s.now ≤ s.redis.now + seconds := le_add_of_nonneg_right seconds.2
    exact ⟨fun t => (inv.tokens t).wait waits, fun t => (inv.refresh t).wait waits,
      fun key => (inv.runs key).wait waits⟩

theorem step_ttl (op : StoreOp) : (s.step codec default op).idem.ttl = s.idem.ttl := by
  cases op with
  | getRun key => exact IdempotencyStore.ttl_get _ _ _
  | _ => rfl

end Step

theorem after_inv (codec : Codec) (default : { n : Int // 0 < n }) (start : Rat) (ops : List StoreOp) :
    Inv codec (after codec default start ops) ∧ (after codec default start ops).idem.ttl = default := by
  induction ops using List.reverseRecOn with
  | nil => exact ⟨⟨fun _ => .none, fun _ => .none, fun _ => .none⟩, rfl⟩
  | append_singleton ops op ih =>
    obtain ⟨inv, own⟩ := ih
    rw [after, List.foldl_append]
    exact ⟨inv.step own default.2 op, (step_ttl op).trans own⟩

/-! ### What is answered -/

section Answers
variable {codec : Codec} {s : SideBySide}

theorem Inv.answers_token (inv : Inv codec s) (t : String) :
    ∃ answer, (alone (RedisTokenStore.get codec t) s.redis).1 = .ok answer ∧
      DropIn TokenLink.expiresAt s.now answer (TokenStore.get s.provider.tokens s.now t).1 := by
  cases live : s.redis.live (Key.token t).name with
  | none =>
    refine ⟨none, congrArg Prod.fst (RedisTokenStore.get_absent live), (fun _ absurd => by cases absurd), ?_⟩
    intro link accepted lasts
    have held : Dict.get? s.provider.tokens t = some link := by
      unfold TokenStore.get at accepted
      split at accepted
      · cases accepted
      · rename_i found held
        split at accepted
        · cases accepted
        · cases accepted
          exact held
    rcases (inv.tokens t).kept link held with ⟨raw, limit, read, serves⟩ | ⟨end', lives, short⟩
    · rw [now, Redis.live_eq_none.mp live raw limit read] at serves
      cases serves
    · exact absurd (lasts end' lives) (not_le.mpr short)
  | some raw =>
    obtain ⟨limit, read, serves⟩ := Redis.live_eq_some.mp live
    obtain ⟨link, wrote, held, _⟩ := (inv.tokens t).served raw limit read serves
    have ran := congrArg Prod.fst (RedisTokenStore.get_held live wrote)
    have memory : (TokenStore.get s.provider.tokens s.now t).1 =
        if link.isExpired s.now then none else some link := by
      rw [TokenStore.get, held]
      dsimp only
      split <;> rfl
    refine ⟨if link.isExpired s.now then none else some link, ?_, ?_⟩
    · rw [ran, now]
      split <;> rfl
    · rw [memory]
      exact ⟨fun _ => id, fun _ accepted _ => accepted⟩

theorem Inv.answers_refresh (inv : Inv codec s) (t : String) :
    ∃ answer, (alone (OnRedis.loadRefreshToken codec t) s.redis).1 = .ok answer ∧
      DropIn (fun rt => rt.expiresAt.map Int.cast) s.now answer (s.provider.loadRefreshToken s.now t).1 ∧
      ∀ rt ∈ answer, ∃ link, (alone (RedisRefreshRegistry.get codec t) s.redis).1 = .ok (some (rt, link)) ∧
        Dict.get? s.provider.refresh t = some (rt, link) := by
  cases live : s.redis.live (Key.refresh t).name with
  | none =>
    refine ⟨none, congrArg Prod.fst (OnRedis.loadRefreshToken_absent live),
      ⟨(fun _ absurd => by cases absurd), ?_⟩, fun _ absurd => by cases absurd⟩
    intro rt accepted lasts
    cases held : Dict.get? s.provider.refresh t with
    | none =>
      rw [loadRefreshToken_absent held] at accepted
      cases accepted
    | some pair =>
      rw [loadRefreshToken_held s.now held] at accepted
      have found : pair.1 = rt := by
        split at accepted
        · cases accepted
        · exact Option.some.inj accepted
      rcases (inv.refresh t).kept pair held with ⟨raw, limit, read, serves⟩ | ⟨end', lives, short⟩
      · rw [now, Redis.live_eq_none.mp live raw limit read] at serves
        cases serves
      · rw [found] at lives
        exact absurd (lasts end' lives) (not_le.mpr short)
  | some raw =>
    obtain ⟨limit, read, serves⟩ := Redis.live_eq_some.mp live
    obtain ⟨⟨rt, link⟩, wrote, held, _⟩ := (inv.refresh t).served raw limit read serves
    have ran := congrArg Prod.fst (OnRedis.loadRefreshToken_held live wrote)
    have memory := congrArg Prod.fst (loadRefreshToken_held s.now held)
    refine ⟨if rt.past s.now then none else some rt, ?_, ?_, ?_⟩
    · rw [ran, now]
      split <;> rfl
    · rw [memory]
      cases rt.past s.now with
      | true => exact ⟨fun _ => id, fun _ accepted _ => accepted⟩
      | false => exact ⟨fun _ => id, fun _ accepted _ => accepted⟩
    · intro rt' accepted
      have same : rt = rt' := by
        cases past : rt.past s.now with
        | true =>
          rw [past] at accepted
          cases accepted
        | false =>
          rw [past] at accepted
          exact Option.some.inj accepted
      subst same
      exact ⟨link, congrArg Prod.fst (RedisRefreshRegistry.get_held live wrote), held⟩

theorem Inv.answers_run (inv : Inv codec s) (key : String) :
    ∃ answer, (alone (RedisIdempotencyStore.get key) s.redis).1 = .ok answer ∧
      (s.idem.get s.now key).1 = answer.map .str := by
  refine ⟨_, congrArg Prod.fst (RedisIdempotencyStore.get_alone key), ?_⟩
  have runs := inv.runs key
  cases live : s.redis.live (Key.idem key).name with
  | none =>
    by_contra served
    obtain ⟨runId, answered⟩ := Option.ne_none_iff_exists'.mp served
    obtain ⟨limit, held, fresh⟩ := IdempotencyStore.get_eq_some.mp answered
    rcases runs.copied with copied | ⟨dropped, _⟩
    · have gone := Redis.live_eq_none.mp live runId limit (copied.symm.trans held)
      rw [expired_eq_lapsed, now, gone] at fresh
      cases fresh
    · rw [dropped] at held
      cases held
  | some raw =>
    obtain ⟨limit, read, serves⟩ := Redis.live_eq_some.mp live
    obtain ⟨runId, rfl⟩ := runs.text raw limit read
    refine IdempotencyStore.get_eq_some.mpr ⟨limit, ?_, (expired_eq_lapsed _ _).trans serves⟩
    rcases runs.copied with copied | ⟨_, _, limit', read', gone⟩
    · exact copied.trans read
    · rw [read] at read'
      cases read'
      rw [now, serves] at gone
      cases gone

end Answers

/-- Redis in place of memory: the token store and the refresh registry accept the same entries but
in their last second, the idempotency stores answer the same. -/
theorem redis_drops_in (codec : Codec) (default : { n : Int // 0 < n }) (start : Rat)
    (ops : List StoreOp) :
    let s := after codec default start ops
    (∀ t, ∃ answer, (alone (RedisTokenStore.get codec t) s.redis).1 = .ok answer ∧
      DropIn TokenLink.expiresAt s.now answer (TokenStore.get s.provider.tokens s.now t).1) ∧
    (∀ t, ∃ answer, (alone (OnRedis.loadRefreshToken codec t) s.redis).1 = .ok answer ∧
      DropIn (fun rt => rt.expiresAt.map Int.cast) s.now answer (s.provider.loadRefreshToken s.now t).1 ∧
      ∀ rt ∈ answer, ∃ link, (alone (RedisRefreshRegistry.get codec t) s.redis).1 = .ok (some (rt, link)) ∧
        Dict.get? s.provider.refresh t = some (rt, link)) ∧
    ∀ key, ∃ answer, (alone (RedisIdempotencyStore.get key) s.redis).1 = .ok answer ∧
      (s.idem.get s.now key).1 = answer.map .str := by
  obtain ⟨inv, _⟩ := after_inv codec default start ops
  exact ⟨inv.answers_token, inv.answers_refresh, inv.answers_run⟩

end SideBySide
end LobstrMcp
