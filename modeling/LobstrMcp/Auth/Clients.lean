import LobstrMcp.Auth.Scopes
import LobstrMcp.Stores.Records
import Mathlib.Data.List.Induction
import Mathlib.Tactic.Ring

/-!
The provider on Redis, in time: clients register, consents are given, codes and refresh tokens are
exchanged. A client's record is kept for ninety days after its registration, a refresh token for
thirty after each rotation, and no rotation renews the record.
-/

namespace LobstrMcp
open Interaction

/-- The operations of the provider on Redis, and time. -/
inductive SessionOp where
  | registerClient (client : OAuthClient)
  | getClient (clientId : String)
  | authorize (client : OAuthClient) (params : AuthorizationParams)
  | completeConsent (requestId : String) (redeemed : Except String TokenLink)
  | loadAuthorizationCode (code : String)
  | exchangeAuthorizationCode (client : OAuthClient) (code : AuthorizationCode)
  | loadRefreshToken (token : String)
  | exchangeRefreshToken (client : OAuthClient) (token : RefreshToken) (scopes : List String)
  | loadAccessToken (token : String)
  | revokeToken (token : String)
  | advance (seconds : { q : Rat // 0 ≤ q })

/-- The server's process, with its pending requests and its codes, and Redis. -/
structure SessionSystem where
  process : Provider := {}
  redis : Redis

namespace SessionSystem

/-- A method that asks nothing of Redis but its random values. -/
def inProcess (s : SessionSystem) (method : Provider → Provider) : SessionSystem :=
  let process := method { s.process with drawn := s.redis.drawn }
  { process, redis := { s.redis with drawn := process.drawn } }

def step (codec : Codec) (secrets : Secrets) (s : SessionSystem) : SessionOp → SessionSystem
  | .registerClient client => { s with redis := (alone (OnRedis.registerClient codec client) s.redis).2 }
  | .getClient clientId => { s with redis := (alone (OnRedis.getClient codec clientId) s.redis).2 }
  | .authorize client params => s.inProcess fun p => (p.authorize secrets s.redis.now client params).2
  | .completeConsent requestId redeemed =>
    s.inProcess fun p => (p.completeConsent secrets s.redis.now requestId redeemed).2
  -- a code is looked up among those of the process, which stay as they are
  | .loadAuthorizationCode _ => s
  | .exchangeAuthorizationCode client code =>
    let (exchange, process) := OnRedis.exchangeAuthorizationCode codec secrets s.process client code
    { process, redis := (alone exchange s.redis).2 }
  | .loadRefreshToken token => { s with redis := (alone (OnRedis.loadRefreshToken codec token) s.redis).2 }
  | .exchangeRefreshToken client token scopes => { s with
      redis := (alone (OnRedis.exchangeRefreshToken codec secrets client token scopes) s.redis).2 }
  | .loadAccessToken token => { s with redis := (alone (OnRedis.loadAccessToken codec token) s.redis).2 }
  | .revokeToken token => { s with redis := (alone (OnRedis.revokeToken codec token) s.redis).2 }
  | .advance seconds => { s with redis := { s.redis with now := s.redis.now + seconds } }

def client (codec : Codec) (s : SessionSystem) (clientId : String) : Option OAuthClient :=
  match (alone (OnRedis.getClient codec clientId) s.redis).1 with
  | .ok found => found
  | .error _ => none

def refreshToken (codec : Codec) (s : SessionSystem) (token : String) : Option RefreshToken :=
  match (alone (OnRedis.loadRefreshToken codec token) s.redis).1 with
  | .ok found => found
  | .error _ => none

/-- The operation issues tokens to a client that `get_client` returns, if to any. -/
def Authenticated (codec : Codec) (s : SessionSystem) : SessionOp → Prop
  | .exchangeAuthorizationCode client _ => s.client codec client.clientId = some client
  | .exchangeRefreshToken client _ _ => s.client codec client.clientId = some client
  | _ => True

/-- Until when Redis keeps a refresh token that is issued now. -/
def refreshEnds (now : Rat) : Rat := now + truncate ((truncate now + refreshTtl : Int) - now)

/-- The client's record is kept as long as a refresh token that is issued now. -/
def Outlasts (s : SessionSystem) (client : OAuthClient) : Prop :=
  ∀ e ∈ Dict.get? s.redis.entries (Key.client client.clientId).name, ∀ limit ∈ e.2,
    refreshEnds s.redis.now ≤ limit

/-- Whom the operation issues tokens to, if it does not raise. -/
def issuesTo (codec : Codec) (secrets : Secrets) (s : SessionSystem) : SessionOp → Option OAuthClient
  | .exchangeAuthorizationCode client code =>
    if (alone (OnRedis.exchangeAuthorizationCode codec secrets s.process client code).1 s.redis).1.isOk
    then some client else none
  | .exchangeRefreshToken client token scopes =>
    if (alone (OnRedis.exchangeRefreshToken codec secrets client token scopes) s.redis).1.isOk
    then some client else none
  | _ => none

/-- An operation that issues tokens issues them to a client whose record outlasts them. -/
def Covered (codec : Codec) (secrets : Secrets) (s : SessionSystem) (op : SessionOp) : Prop :=
  ∀ client ∈ s.issuesTo codec secrets op, s.Outlasts client

/-- Each operation meets the condition in the state it is issued in. -/
def Throughout (P : SessionSystem → SessionOp → Prop) (codec : Codec) (secrets : Secrets) :
    SessionSystem → List SessionOp → Prop
  | _, [] => True
  | s, op :: ops => P s op ∧ Throughout P codec secrets (s.step codec secrets op) ops

/-- The system after these operations, from its start at this instant. -/
def after (codec : Codec) (secrets : Secrets) (start : { q : Rat // 0 ≤ q }) (ops : List SessionOp) :
    SessionSystem :=
  ops.foldl (step codec secrets) { redis := { now := start } }

/-! ### What is kept how long -/

/-- Every client is kept for at most its lifetime from now, and every refresh token at most as long as
its client. -/
structure Kept (codec : Codec) (r : Redis) : Prop where
  clients : ∀ id raw limit, Dict.get? r.entries (Key.client id).name = some (raw, limit) →
    (∃ client, codec.validateClient raw = some client) ∧ ∃ l, limit = some l ∧ l ≤ r.now + clientTtl
  refresh : ∀ t raw limit, Dict.get? r.entries (Key.refresh t).name = some (raw, limit) →
    ∃ rt link l, refreshFromJson codec raw = some (rt, link) ∧ limit = some l ∧
      ∃ raw' l', Dict.get? r.entries (Key.client rt.clientId).name = some (raw', some l') ∧ l ≤ l'

section Kept
variable {codec : Codec} {r : Redis}

theorem Kept.drawn (kept : Kept codec r) (n : ℕ) : Kept codec { r with drawn := n } :=
  ⟨kept.clients, kept.refresh⟩

theorem Kept.wait (kept : Kept codec r) {later : Rat} (waits : r.now ≤ later) :
    Kept codec { r with now := later } := by
  constructor
  · intro id raw limit read
    obtain ⟨wrote, l, ends, bound⟩ := kept.clients id raw limit read
    exact ⟨wrote, l, ends, bound.trans (add_le_add_left waits _)⟩
  · exact kept.refresh

theorem Kept.store_token (kept : Kept codec r) (t : String) (value : Json) (ex : Option Int) :
    Kept codec (r.store (Key.token t).name value ex) := by
  constructor
  · intro id raw limit read
    rw [Redis.get?_store, if_neg (Key.name_injective.ne (by simp))] at read
    exact kept.clients id raw limit read
  · intro t' raw limit read
    rw [Redis.get?_store, if_neg (Key.name_injective.ne (by simp))] at read
    obtain ⟨rt, link, l, wrote, ends, raw', l', client, le⟩ := kept.refresh t' raw limit read
    refine ⟨rt, link, l, wrote, ends, raw', l', ?_, le⟩
    rw [Redis.get?_store, if_neg (Key.name_injective.ne (by simp))]
    exact client

theorem Kept.remove (kept : Kept codec r) {k : Key} (other : ∀ id, k ≠ Key.client id) :
    Kept codec (r.remove k.name) := by
  constructor
  · intro id raw limit read
    rw [Redis.get?_remove, if_neg (Key.name_injective.ne (other id))] at read
    exact kept.clients id raw limit read
  · intro t raw limit read
    rw [Redis.get?_remove] at read
    split at read
    · cases read
    · obtain ⟨rt, link, l, wrote, ends, raw', l', client, le⟩ := kept.refresh t raw limit read
      refine ⟨rt, link, l, wrote, ends, raw', l', ?_, le⟩
      rw [Redis.get?_remove, if_neg (Key.name_injective.ne (other _))]
      exact client

/-- A registration: the record is kept from now on, no less long than it was. -/
theorem Kept.register (kept : Kept codec r) (client : OAuthClient) : Kept codec
    (r.store (Key.client client.clientId).name (codec.dumpClient client) (some clientTtl)) := by
  constructor
  · intro id raw limit read
    rw [Redis.get?_store] at read
    split at read
    · cases read
      exact ⟨⟨client, codec.validate_dumpClient client⟩, _, rfl, le_rfl⟩
    · exact kept.clients id raw limit read
  · intro t raw limit read
    rw [Redis.get?_store, if_neg (Key.name_injective.ne (by simp))] at read
    obtain ⟨rt, link, l, wrote, ends, raw', l', held, le⟩ := kept.refresh t raw limit read
    refine ⟨rt, link, l, wrote, ends, ?_⟩
    rw [Redis.get?_store]
    split
    · obtain ⟨_, l'', same, bound⟩ := kept.clients rt.clientId raw' _ held
      cases same
      exact ⟨_, _, rfl, le.trans bound⟩
    · exact ⟨raw', l', held, le⟩

theorem Kept.rotate (kept : Kept codec r) (rt : RefreshToken) (link : TokenLink) (iv : ℕ) {n : Int}
    {raw : Json} {limit : Rat} (client : Dict.get? r.entries (Key.client rt.clientId).name = some (raw, some limit))
    (le : r.now + n ≤ limit) : Kept codec
      (r.store (Key.refresh rt.token).name (refreshToJson codec iv rt link) (some n)) := by
  constructor
  · intro id raw limit read
    rw [Redis.get?_store, if_neg (Key.name_injective.ne (by simp))] at read
    exact kept.clients id raw limit read
  · intro t raw' limit' read
    have others (id : String) : Dict.get? (r.store (Key.refresh rt.token).name (refreshToJson codec iv rt link)
        (some n)).entries (Key.client id).name = Dict.get? r.entries (Key.client id).name := by
      rw [Redis.get?_store, if_neg (Key.name_injective.ne (by simp))]
    simp only [others]
    rw [Redis.get?_store] at read
    split at read
    · cases read
      exact ⟨rt, link, _, refreshFromJson_refreshToJson _ _ _, rfl, raw, limit, client, le⟩
    · exact kept.refresh t raw' limit' read

theorem ttlFrom_refresh (now : Rat) : ttlFrom (some ((truncate now + refreshTtl : Int) : Rat)) now =
    some (truncate ((truncate now + refreshTtl : Int) - now)) := by
  have whole := lt_truncate_add_one now
  have lasts := lt_truncate_add_one ((truncate now + refreshTtl : Int) - now)
  have month : ((truncate now + refreshTtl : Int) : Rat) = truncate now + 2592000 := by
    rw [refreshTtl]
    push_cast
    ring
  have positive : (0 : Rat) < truncate ((truncate now + refreshTtl : Int) - now) := by
    rw [month] at lasts ⊢
    linarith
  exact if_pos (by exact_mod_cast positive)

theorem Kept.issued (kept : Kept codec r) {secrets : Secrets} {client : OAuthClient} {link : TokenLink}
    {scopes : List String} {raw : Json} {limit : Rat}
    (held : Dict.get? r.entries (Key.client client.clientId).name = some (raw, some limit))
    (le : refreshEnds r.now ≤ limit) : Kept codec (r.issued codec secrets client link scopes) := by
  let access : TokenLink :=
    ⟨link.lobstrUserId, link.lobstrApiToken, scopes, some (truncate r.now + accessTtl : Int)⟩
  let refresh : RefreshToken :=
    ⟨secrets.urlsafe (r.drawn + 1), client.clientId, scopes, some (truncate r.now + refreshTtl)⟩
  have stored := ((kept.drawn (r.drawn + 3)).store_token (secrets.urlsafe r.drawn)
    (linkToJson codec (r.drawn + 2) access) (ttlFrom access.expiresAt r.now)).drawn (r.drawn + 4)
  have issued := stored.rotate refresh link (r.drawn + 3)
    ((Redis.get?_store _ _ _ _ _).trans ((if_neg (Key.name_injective.ne (by simp))).trans held)) le
  unfold Redis.issued
  dsimp only
  rw [Option.map_some, ttlFrom_refresh]
  exact issued

end Kept

section Run
variable {codec : Codec} {secrets : Secrets} {s : SessionSystem}

theorem client_eq_some {id : String} {c : OAuthClient} (found : s.client codec id = some c) :
    ∃ raw limit, Dict.get? s.redis.entries (Key.client id).name = some (raw, limit) := by
  cases live : s.redis.live (Key.client id).name with
  | none =>
    have absent : (alone (OnRedis.getClient codec id) s.redis).1 = .ok none :=
      congrArg Prod.fst (RedisClientRegistry.get_absent live)
    rw [client, absent] at found
    cases found
  | some raw =>
    obtain ⟨limit, read, _⟩ := Redis.live_eq_some.mp live
    exact ⟨raw, limit, read⟩

theorem Kept.issue {r : Redis} {c : OAuthClient} {link : TokenLink} {scopes : List String}
    (kept : Kept codec r) (same : r.now = s.redis.now)
    (record : Dict.get? r.entries (Key.client c.clientId).name =
      Dict.get? s.redis.entries (Key.client c.clientId).name)
    (authenticated : s.client codec c.clientId = some c) (outlasts : s.Outlasts c) :
    Kept codec (alone (OnRedis.issue codec secrets c link scopes) r).2 := by
  obtain ⟨raw, limit, read⟩ := client_eq_some authenticated
  have held := record.trans read
  obtain ⟨_, l, rfl, _⟩ := kept.clients _ _ _ held
  have le : refreshEnds r.now ≤ l := by
    rw [same]
    exact outlasts _ read l rfl
  obtain ⟨token, issued⟩ := OnRedis.issue_alone codec secrets c link scopes r
  rw [issued]
  exact kept.issued held le

theorem issuesTo_code {client : OAuthClient} {code : AuthorizationCode} {pair : OAuthToken} {t : Redis}
    (issued : alone (OnRedis.exchangeAuthorizationCode codec secrets s.process client code).1 s.redis = (.ok pair, t)) :
    client ∈ s.issuesTo codec secrets (.exchangeAuthorizationCode client code) := by
  unfold issuesTo
  dsimp only
  rw [issued]
  rfl

theorem issuesTo_refresh {client : OAuthClient} {token : RefreshToken} {scopes : List String} {pair : OAuthToken}
    {t : Redis}
    (issued : alone (OnRedis.exchangeRefreshToken codec secrets client token scopes) s.redis = (.ok pair, t)) :
    client ∈ s.issuesTo codec secrets (.exchangeRefreshToken client token scopes) := by
  unfold issuesTo
  dsimp only
  rw [issued]
  rfl

theorem Kept.step (kept : Kept codec s.redis) {op : SessionOp} (authenticated : Authenticated codec s op)
    (covered : Covered codec secrets s op) : Kept codec (s.step codec secrets op).redis := by
  cases op with
  | registerClient client =>
    have stored : (s.step codec secrets (.registerClient client)).redis = s.redis.store
        (Key.client client.clientId).name (codec.dumpClient client) (some clientTtl) :=
      congrArg Prod.snd (RedisClientRegistry.put_alone client)
    rw [stored]
    exact kept.register client
  | getClient clientId =>
    show Kept codec (alone (OnRedis.getClient codec clientId) s.redis).2
    rw [OnRedis.getClient_alone]
    exact kept
  | authorize client params => exact kept.drawn _
  | completeConsent requestId redeemed => exact kept.drawn _
  | loadAuthorizationCode code => exact kept
  | exchangeAuthorizationCode client code =>
    show Kept codec (alone (OnRedis.exchangeAuthorizationCode codec secrets s.process client code).1 s.redis).2
    cases found : Dict.get? s.process.codeIdentity code.code with
    | none =>
      unfold OnRedis.exchangeAuthorizationCode
      rw [found]
      exact kept
    | some link =>
      have ran : (OnRedis.exchangeAuthorizationCode codec secrets s.process client code).1 =
          OnRedis.issue codec secrets client link code.scopes := by
        unfold OnRedis.exchangeAuthorizationCode
        rw [found]
      obtain ⟨pair, issued⟩ := OnRedis.issue_alone codec secrets client link code.scopes s.redis
      have outlasts := covered client (issuesTo_code ((congrArg (alone · s.redis) ran).trans issued))
      rw [ran]
      exact kept.issue rfl rfl authenticated outlasts
  | loadRefreshToken token =>
    show Kept codec (alone (OnRedis.loadRefreshToken codec token) s.redis).2
    cases live : s.redis.live (Key.refresh token).name with
    | none =>
      rw [OnRedis.loadRefreshToken_absent live]
      exact kept
    | some raw =>
      obtain ⟨limit, read, _⟩ := Redis.live_eq_some.mp live
      obtain ⟨rt, link, _, wrote, _⟩ := kept.refresh token raw limit read
      rw [OnRedis.loadRefreshToken_held live wrote]
      split
      · exact kept.remove (by simp)
      · exact kept
  | exchangeRefreshToken client rt scopes =>
    show Kept codec (alone (OnRedis.exchangeRefreshToken codec secrets client rt scopes) s.redis).2
    cases live : s.redis.live (Key.refresh rt.token).name with
    | none =>
      rw [OnRedis.exchangeRefreshToken_absent live]
      exact kept
    | some raw =>
      obtain ⟨limit, read, _⟩ := Redis.live_eq_some.mp live
      obtain ⟨found, link, _, wrote, _⟩ := kept.refresh rt.token raw limit read
      have popped : Kept codec (s.redis.remove (Key.refresh rt.token).name) := kept.remove (by simp)
      have ran : alone (OnRedis.exchangeRefreshToken codec secrets client rt scopes) s.redis = _ :=
        OnRedis.exchangeRefreshToken_held live wrote
      cases granted : effectiveScopes (if scopes.isEmpty then rt.scopes else scopes) link.scopes with
      | error refused =>
        rw [granted] at ran
        rw [ran]
        exact popped
      | ok narrowed =>
        rw [granted] at ran
        obtain ⟨pair, issued⟩ := OnRedis.issue_alone codec secrets client link narrowed
          (s.redis.remove (Key.refresh rt.token).name)
        rw [ran]
        refine popped.issue rfl ?_ authenticated (covered client (issuesTo_refresh (ran.trans issued)))
        rw [Redis.get?_remove, if_neg (Key.name_injective.ne (by simp))]
  | loadAccessToken token =>
    show Kept codec (alone (OnRedis.loadAccessToken codec token) s.redis).2
    rcases OnRedis.loadAccessToken_alone token with same | dropped
    · rw [same]
      exact kept
    · rw [dropped]
      exact kept.remove (by simp)
  | revokeToken token =>
    show Kept codec (alone (OnRedis.revokeToken codec token) s.redis).2
    have access : Kept codec (s.redis.remove (Key.token token).name) := kept.remove (by simp)
    rcases OnRedis.revokeToken_alone token with same | dropped | both
    · rw [same]
      exact kept
    · rw [dropped]
      exact access
    · rw [both]
      exact access.remove (by simp)
  | advance seconds => exact kept.wait (le_add_of_nonneg_right seconds.2)

theorem Kept.run {ops : List SessionOp} (kept : Kept codec s.redis)
    (authenticated : Throughout (Authenticated codec) codec secrets s ops)
    (covered : Throughout (Covered codec secrets) codec secrets s ops) :
    Kept codec (ops.foldl (SessionSystem.step codec secrets) s).redis := by
  induction ops generalizing s with
  | nil => exact kept
  | cons op ops ih => exact ih (kept.step authenticated.1 covered.1) authenticated.2 covered.2

/-- A refresh token that is accepted has a client that is kept. -/
theorem Kept.resolves (kept : Kept codec s.redis) {token : String} {rt : RefreshToken}
    (accepted : s.refreshToken codec token = some rt) : ∃ c, s.client codec rt.clientId = some c := by
  cases live : s.redis.live (Key.refresh token).name with
  | none =>
    have absent : (alone (OnRedis.loadRefreshToken codec token) s.redis).1 = .ok none :=
      congrArg Prod.fst (OnRedis.loadRefreshToken_absent live)
    rw [refreshToken, absent] at accepted
    cases accepted
  | some raw =>
    obtain ⟨limit, read, serves⟩ := Redis.live_eq_some.mp live
    obtain ⟨found, link, l, wrote, rfl, raw', l', record, le⟩ := kept.refresh token raw limit read
    have same : found = rt := by
      rw [refreshToken, OnRedis.loadRefreshToken_held live wrote] at accepted
      split at accepted
      · rename_i answer
        split at answer
        · cases answer
          cases accepted
        · cases answer
          exact Option.some.inj accepted
      · cases accepted
    subst same
    obtain ⟨⟨c, valid⟩, _⟩ := kept.clients _ _ _ record
    have kept' : lapsed (some l') s.redis.now = false := by
      rw [lapsed, decide_eq_false_iff_not, not_le] at serves ⊢
      exact serves.trans_le le
    have held : s.redis.live (Key.client found.clientId).name = some raw' :=
      Redis.live_eq_some.mpr ⟨_, record, kept'⟩
    refine ⟨c, ?_⟩
    have found' : (alone (OnRedis.getClient codec found.clientId) s.redis).1 = .ok (some c) :=
      congrArg Prod.fst (RedisClientRegistry.get_held held valid)
    rw [client, found']

end Run

/-- Where tokens are only issued to clients whose record outlasts them, every refresh token that is
accepted has a client that is still registered. -/
theorem live_sessions_keep_their_client (codec : Codec) (secrets : Secrets) (start : { q : Rat // 0 ≤ q })
    (ops : List SessionOp)
    (authenticated : Throughout (Authenticated codec) codec secrets { redis := { now := start } } ops)
    (covered : Throughout (Covered codec secrets) codec secrets { redis := { now := start } } ops) {token : String}
    {rt : RefreshToken} (accepted : (after codec secrets start ops).refreshToken codec token = some rt) :
    ∃ c, (after codec secrets start ops).client codec rt.clientId = some c := by
  have empty : Kept codec { now := start } := by
    constructor
    · intro _ _ _ absurd
      cases absurd
    · intro _ _ _ absurd
      cases absurd
  exact (Kept.run (s := { redis := { now := start } }) empty authenticated covered).resolves accepted

section Sample

deriving instance DecidableEq for OAuthClient

instance Authenticated.decidable (codec : Codec) (s : SessionSystem) :
    (op : SessionOp) → Decidable (Authenticated codec s op)
  | .exchangeAuthorizationCode client _ =>
    inferInstanceAs (Decidable (s.client codec client.clientId = some client))
  | .exchangeRefreshToken client _ _ =>
    inferInstanceAs (Decidable (s.client codec client.clientId = some client))
  | .registerClient _ | .getClient _ | .authorize _ _ | .completeConsent _ _ | .loadAuthorizationCode _
  | .loadRefreshToken _ | .loadAccessToken _ | .revokeToken _ | .advance _ => inferInstanceAs (Decidable True)

instance Outlasts.decidable (s : SessionSystem) (client : OAuthClient) : Decidable (s.Outlasts client) :=
  inferInstanceAs (Decidable (∀ e ∈ Dict.get? s.redis.entries (Key.client client.clientId).name,
    ∀ limit ∈ e.2, refreshEnds s.redis.now ≤ limit))

instance Covered.decidable (codec : Codec) (secrets : Secrets) (s : SessionSystem) (op : SessionOp) :
    Decidable (Covered codec secrets s op) :=
  inferInstanceAs (Decidable (∀ client ∈ s.issuesTo codec secrets op, s.Outlasts client))

instance Throughout.decidable (P : SessionSystem → SessionOp → Prop) [∀ s op, Decidable (P s op)]
    (codec : Codec) (secrets : Secrets) :
    (s : SessionSystem) → (ops : List SessionOp) → Decidable (Throughout P codec secrets s ops)
  | _, [] => inferInstanceAs (Decidable True)
  | s, op :: ops =>
    have := Throughout.decidable P codec secrets (s.step codec secrets op) ops
    inferInstanceAs (Decidable (P s op ∧ Throughout P codec secrets (s.step codec secrets op) ops))

def someDays (n : ℕ) : { q : Rat // 0 ≤ q } := ⟨n * 86400, by positivity⟩

/-- A registration, a consent and its code, and one rotation after another, each a number of days
after the one before. -/
def sampleSession (days : ℕ) (tokens : List String) : List SessionOp :=
  let client : OAuthClient := { clientId := "c1" }
  let link : TokenLink := ⟨"u1", "t1", ["crawlers:read"], none⟩
  let request : Pending := { clientId := "c1", params := sampleParams ["crawlers:read"], expiresAt := 600 }
  [.registerClient client, .authorize client (sampleParams ["crawlers:read"]), .completeConsent "a" (.ok link),
    .exchangeAuthorizationCode client (Provider.authorizationCode "aa" ["crawlers:read"] 0 request link)] ++
  tokens.flatMap fun token => [.advance (someDays days),
    .exchangeRefreshToken client ⟨token, "c1", ["crawlers:read"], none⟩ []]

/-- Rotated at once, a token's client is known when it is loaded. -/
theorem a_fresh_session_keeps_its_client :
    let s := after markingCodec countingSecrets ⟨0, le_rfl⟩ (sampleSession 1 ["aaaa"])
    ∃ rt c, s.refreshToken markingCodec "aaaaaaaa" = some rt ∧ s.client markingCodec rt.clientId = some c := by
  intro s
  obtain ⟨rt, accepted⟩ : ∃ rt, s.refreshToken markingCodec "aaaaaaaa" = some rt :=
    Option.isSome_iff_exists.mp (by decide +kernel)
  obtain ⟨c, found⟩ := live_sessions_keep_their_client markingCodec countingSecrets ⟨0, le_rfl⟩
    (sampleSession 1 ["aaaa"]) (by decide +kernel) (by decide +kernel) accepted
  exact ⟨rt, c, accepted, found⟩

/-- Rotated every twenty-nine days, a session outlives its client's record. -/
theorem an_old_session_loses_its_client :
    let ops := sampleSession 29 ["aaaa", "aaaaaaaa", "aaaaaaaaaaaa"] ++ [.advance (someDays 4)]
    let s := after markingCodec countingSecrets ⟨0, le_rfl⟩ ops
    Throughout (Authenticated markingCodec) markingCodec countingSecrets { redis := { now := 0 } } ops ∧
      ∃ rt ∈ s.refreshToken markingCodec "aaaaaaaaaaaaaaaa", s.client markingCodec rt.clientId = none := by
  decide +kernel

end Sample
end SessionSystem
end LobstrMcp
