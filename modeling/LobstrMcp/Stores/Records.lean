import LobstrMcp.World.Redis
import Mathlib.Data.Rat.Floor
import Mathlib.Tactic.Linarith

/-!
What each method of the Redis stores does, alone on Redis: the record it writes is read back as it
was, and an expiry is kept as the second before it or not at all.
-/

namespace LobstrMcp
open Interaction

/-! ### Records are read back -/

section Records
variable {codec : Codec}

theorem mapM_asStr? (items : List String) : (items.map Json.str).mapM Json.asStr? = some items := by
  induction items with
  | nil => rfl
  | cons first rest ih =>
    rw [List.map_cons, List.mapM_cons, ih]
    rfl

theorem scopesFromJson_arr (scopes : List String) : scopesFromJson (.arr (scopes.map .str)) = some scopes := by
  have kept : (Json.arr (scopes.map .str)).orElse (.arr []) = .arr (scopes.map .str) := by
    cases scopes <;> rfl
  rw [scopesFromJson, kept]
  exact mapM_asStr? scopes

theorem expiryFromJson_float (expiresAt : Option Rat) :
    expiryFromJson (expiresAt.elim .null .float) = some expiresAt := by
  cases expiresAt <;> rfl

theorem linkFromJson_linkToJson (iv : ℕ) (link : TokenLink) :
    linkFromJson codec (linkToJson codec iv link) = some link := by
  simp [linkFromJson, linkToJson, Json.asStr?, codec.decrypt_encrypt, scopesFromJson_arr, expiryFromJson_float]

theorem refreshFromJson_refreshToJson (iv : ℕ) (rt : RefreshToken) (link : TokenLink) :
    refreshFromJson codec (refreshToJson codec iv rt link) = some (rt, link) := by
  have read : Dict.get? [("refresh", codec.dumpRefresh rt), ("link", linkToJson codec iv link)] "refresh" =
      some (codec.dumpRefresh rt) := by
    rw [Dict.get?_cons, if_pos rfl]
  simp [refreshFromJson, refreshToJson, read, codec.validate_dumpRefresh, linkFromJson_linkToJson]

end Records

/-! ### Expiries -/

theorem truncate_le_of_nonneg {q : Rat} (nonneg : 0 ≤ q) : (truncate q : Rat) ≤ q := by
  rw [truncate, if_pos nonneg]
  exact Int.floor_le q

theorem lt_truncate_add_one (q : Rat) : q < truncate q + 1 := by
  rw [truncate]
  split
  · exact Int.lt_floor_add_one q
  · exact Rat.le_ceil.trans_lt (lt_add_one (q.ceil : Rat))

/-- A TTL is positive, ends at the expiry or less than a second before it. -/
theorem ttlFrom_some {expiresAt : Option Rat} {now : Rat} {n : Int} (ttl : ttlFrom expiresAt now = some n) :
    0 < n ∧ ∃ t, expiresAt = some t ∧ now + n ≤ t ∧ t < now + n + 1 := by
  cases expiresAt with
  | none => cases ttl
  | some t =>
    rw [ttlFrom] at ttl
    split at ttl
    · rename_i positive
      cases ttl
      have nonneg : 0 ≤ t - now := by
        by_contra negative
        have zero : truncate (t - now) ≤ 0 := by
          rw [truncate, if_neg negative]
          exact Rat.ceil_le_iff.mpr (not_le.mp negative).le
        exact absurd positive (not_lt.mpr zero)
      have below := truncate_le_of_nonneg nonneg
      have above := lt_truncate_add_one (t - now)
      exact ⟨positive, t, rfl, by linarith, by linarith⟩
    · cases ttl

theorem expires_ttlFrom (expiresAt : Option Rat) (now : Rat) : Redis.Expires (ttlFrom expiresAt now) :=
  fun _ ttl => (ttlFrom_some ttl).1

/-! ### What the methods do -/

section Methods
variable {codec : Codec} {r : Redis}

abbrev alone {α : Type} (p : SessionM α) (r : Redis) : Except SessionError α × Redis := p.run Redis.machine r

theorem redisSet_alone {name : String} {value : Json} {ex : Option Int} (expires : Redis.Expires ex) :
    alone (redisSet name value ex) r = (.ok (), r.store name value ex) := by
  simp [alone, redisSet, Redis.machine, expires]

theorem RedisTokenStore.put_alone (t : String) (link : TokenLink) :
    alone (RedisTokenStore.put codec t link) r = (.ok (), { r with drawn := r.drawn + 1 }.store
      (Key.token t).name (linkToJson codec r.drawn link) (ttlFrom link.expiresAt r.now)) := by
  exact redisSet_alone (r := { r with drawn := r.drawn + 1 }) (expires_ttlFrom _ _)

theorem RedisTokenStore.get_absent {t : String} (absent : r.live (Key.token t).name = none) :
    alone (RedisTokenStore.get codec t) r = (.ok none, r) := by
  have read : (Redis.machine r (.get (tokenPrefix ++ t))).1 = none := absent
  rw [alone, RedisTokenStore.get, redisGet, Program.run_ask_bind, read]
  rfl

theorem RedisTokenStore.get_held {t : String} {raw : Json} {link : TokenLink}
    (held : r.live (Key.token t).name = some raw) (wrote : linkFromJson codec raw = some link) :
    alone (RedisTokenStore.get codec t) r =
      if link.isExpired r.now then (.ok none, r.remove (Key.token t).name) else (.ok (some link), r) := by
  have read : (Redis.machine r (.get (tokenPrefix ++ t))).1 = some raw := held
  rw [alone, RedisTokenStore.get, redisGet, Program.run_ask_bind, read]
  dsimp only
  rw [wrote, decoded, Option.elim_some, Program.run_bind_ok (Program.run_ofExcept _), wallTime,
    Program.run_ask_bind]
  show (if link.isExpired r.now then _ else _ : SessionM _).run _ _ = _
  split <;> rfl

theorem RedisRefreshRegistry.put_alone (rt : RefreshToken) (link : TokenLink) :
    alone (RedisRefreshRegistry.put codec rt link) r = (.ok (), { r with drawn := r.drawn + 1 }.store
      (Key.refresh rt.token).name (refreshToJson codec r.drawn rt link)
      (ttlFrom (rt.expiresAt.map Int.cast) r.now)) := by
  exact redisSet_alone (r := { r with drawn := r.drawn + 1 }) (expires_ttlFrom _ _)

theorem RedisRefreshRegistry.get_absent {t : String} (absent : r.live (Key.refresh t).name = none) :
    alone (RedisRefreshRegistry.get codec t) r = (.ok none, r) := by
  have read : (Redis.machine r (.get (refreshPrefix ++ t))).1 = none := absent
  rw [alone, RedisRefreshRegistry.get, redisGet, Program.run_ask_bind, read]
  rfl

theorem RedisRefreshRegistry.get_held {t : String} {raw : Json} {pair : RefreshToken × TokenLink}
    (held : r.live (Key.refresh t).name = some raw) (wrote : refreshFromJson codec raw = some pair) :
    alone (RedisRefreshRegistry.get codec t) r = (.ok (some pair), r) := by
  have read : (Redis.machine r (.get (refreshPrefix ++ t))).1 = some raw := held
  rw [alone, RedisRefreshRegistry.get, redisGet, Program.run_ask_bind, read]
  dsimp only
  rw [wrote, decoded, Option.elim_some]
  rfl

theorem RedisRefreshRegistry.pop_absent {t : String} (absent : r.live (Key.refresh t).name = none) :
    alone (RedisRefreshRegistry.pop codec t) r = (.ok none, r) := by
  have read : (Redis.machine r (.get (refreshPrefix ++ t))).1 = none := absent
  rw [alone, RedisRefreshRegistry.pop, redisGet, Program.run_ask_bind, read]
  rfl

theorem RedisRefreshRegistry.pop_held {t : String} {raw : Json} {pair : RefreshToken × TokenLink}
    (held : r.live (Key.refresh t).name = some raw) (wrote : refreshFromJson codec raw = some pair) :
    alone (RedisRefreshRegistry.pop codec t) r = (.ok (some pair), r.remove (Key.refresh t).name) := by
  have read : (Redis.machine r (.get (refreshPrefix ++ t))).1 = some raw := held
  rw [alone, RedisRefreshRegistry.pop, redisGet, Program.run_ask_bind, read]
  dsimp only
  rw [wrote, decoded, Option.elim_some]
  rfl

/-- The token is past its own expiry, which is read in whole seconds. -/
def RefreshToken.past (rt : RefreshToken) (now : Rat) : Bool :=
  match rt.expiresAt with
  | none => false
  | some t => t < truncate now

theorem OnRedis.loadRefreshToken_absent {t : String} (absent : r.live (Key.refresh t).name = none) :
    alone (OnRedis.loadRefreshToken codec t) r = (.ok none, r) := by
  rw [alone, OnRedis.loadRefreshToken, Program.run_bind_ok (RedisRefreshRegistry.get_absent absent)]
  rfl

theorem OnRedis.loadRefreshToken_held {t : String} {raw : Json} {rt : RefreshToken} {link : TokenLink}
    (held : r.live (Key.refresh t).name = some raw) (wrote : refreshFromJson codec raw = some (rt, link)) :
    alone (OnRedis.loadRefreshToken codec t) r =
      if rt.past r.now then (.ok none, r.remove (Key.refresh t).name) else (.ok (some rt), r) := by
  rw [alone, OnRedis.loadRefreshToken, Program.run_bind_ok (RedisRefreshRegistry.get_held held wrote)]
  unfold RefreshToken.past
  cases expires : rt.expiresAt with
  | none => simp [expires]
  | some limit =>
    simp only [expires, wallTime, Program.run_ask_bind]
    show (if limit < truncate r.now then _ else _ : SessionM _).run _ r = _
    by_cases past : limit < truncate r.now
    · rw [if_pos past, Program.run_bind_ok (RedisRefreshRegistry.pop_held held wrote)]
      simp [past]
    · rw [if_neg past]
      simp [past]

theorem RedisClientRegistry.put_alone (client : OAuthClient) :
    alone (RedisClientRegistry.put codec client) r =
      (.ok (), r.store (Key.client client.clientId).name (codec.dumpClient client) (some clientTtl)) :=
  redisSet_alone fun n same => by
    cases same
    decide

theorem RedisClientRegistry.get_absent {id : String} (absent : r.live (Key.client id).name = none) :
    alone (RedisClientRegistry.get codec id) r = (.ok none, r) := by
  have read : (Redis.machine r (.get (clientPrefix ++ id))).1 = none := absent
  rw [alone, RedisClientRegistry.get, redisGet, Program.run_ask_bind, read]
  rfl

theorem RedisClientRegistry.get_held {id : String} {raw : Json} {client : OAuthClient}
    (held : r.live (Key.client id).name = some raw) (wrote : codec.validateClient raw = some client) :
    alone (RedisClientRegistry.get codec id) r = (.ok (some client), r) := by
  have read : (Redis.machine r (.get (clientPrefix ++ id))).1 = some raw := held
  rw [alone, RedisClientRegistry.get, redisGet, Program.run_ask_bind, read]
  dsimp only
  rw [wrote, decoded, Option.elim_some]
  rfl

/-- A look-up of a client leaves everything as it is. -/
theorem OnRedis.getClient_alone (id : String) : (alone (OnRedis.getClient codec id) r).2 = r := by
  unfold OnRedis.getClient
  cases live : r.live (Key.client id).name with
  | none => rw [RedisClientRegistry.get_absent live]
  | some raw =>
    have read : (Redis.machine r (.get (clientPrefix ++ id))).1 = some raw := live
    rw [alone, RedisClientRegistry.get, redisGet, Program.run_ask_bind, read]
    dsimp only
    cases codec.validateClient raw <;> rfl

/-- A look-up of an access token drops its record, if anything. -/
theorem OnRedis.loadAccessToken_alone (t : String) : (alone (OnRedis.loadAccessToken codec t) r).2 = r ∨
    (alone (OnRedis.loadAccessToken codec t) r).2 = r.remove (Key.token t).name := by
  unfold OnRedis.loadAccessToken
  cases live : r.live (Key.token t).name with
  | none =>
    rw [alone, Program.run_bind_ok (RedisTokenStore.get_absent live)]
    exact .inl rfl
  | some raw =>
    cases wrote : linkFromJson codec raw with
    | none =>
      have read : (Redis.machine r (.get (tokenPrefix ++ t))).1 = some raw := live
      rw [alone, RedisTokenStore.get, redisGet, Program.bind_assoc, Program.run_ask_bind, read]
      dsimp only
      rw [wrote]
      exact .inl rfl
    | some link =>
      have got := RedisTokenStore.get_held live wrote
      split at got
      · rw [alone, Program.run_bind_ok got]
        exact .inr rfl
      · rw [alone, Program.run_bind_ok got]
        exact .inl rfl

/-- A pop drops a record that is there, whoever wrote it. -/
theorem RedisRefreshRegistry.pop_alone (t : String) : (alone (RedisRefreshRegistry.pop codec t) r).2 = r ∨
    (alone (RedisRefreshRegistry.pop codec t) r).2 = r.remove (Key.refresh t).name := by
  cases live : r.live (Key.refresh t).name with
  | none =>
    rw [RedisRefreshRegistry.pop_absent live]
    exact .inl rfl
  | some raw =>
    have read : (Redis.machine r (.get (refreshPrefix ++ t))).1 = some raw := live
    rw [alone, RedisRefreshRegistry.pop, redisGet, Program.run_ask_bind, read]
    dsimp only
    -- the record is deleted before it is decoded
    cases refreshFromJson codec raw with
    | none => exact .inr rfl
    | some pair => exact .inr rfl

/-- What a revocation leaves. -/
theorem OnRedis.revokeToken_alone (t : String) : (alone (OnRedis.revokeToken codec t) r).2 = r ∨
    (alone (OnRedis.revokeToken codec t) r).2 = r.remove (Key.token t).name ∨
    (alone (OnRedis.revokeToken codec t) r).2 = (r.remove (Key.token t).name).remove (Key.refresh t).name := by
  unfold OnRedis.revokeToken
  split
  · exact .inl rfl
  right
  rw [alone, RedisTokenStore.revoke, redisDelete, Program.run_ask_bind, Program.run_bind_pure]
  exact RedisRefreshRegistry.pop_alone t

theorem RedisIdempotencyStore.put_alone {default : Int} {ttl : Option Int} (key runId : String)
    (positive : 0 < ttl.getD default) : alone (RedisIdempotencyStore.put default key runId ttl) r =
      (.ok (), r.store (Key.idem key).name (.str runId) (some (ttl.getD default))) :=
  redisSet_alone fun n same => by
    cases same
    exact positive

theorem RedisIdempotencyStore.get_alone (key : String) : alone (RedisIdempotencyStore.get key) r =
    (.ok ((r.live (Key.idem key).name).map Json.text), r) := by
  have read : (Redis.machine r (.get (idemPrefix ++ key))).1 = r.live (Key.idem key).name := rfl
  rw [alone, RedisIdempotencyStore.get, redisGet, Program.run_ask_bind, read]
  cases r.live (Key.idem key).name <;> rfl

/-- What `issue` leaves: the access token's record, then the refresh token's. -/
def Redis.issued (codec : Codec) (secrets : Secrets) (client : OAuthClient) (link : TokenLink)
    (scopes : List String) (r : Redis) : Redis :=
  let access : TokenLink :=
    ⟨link.lobstrUserId, link.lobstrApiToken, scopes, some (truncate r.now + accessTtl : Int)⟩
  let refresh : RefreshToken :=
    ⟨secrets.urlsafe (r.drawn + 1), client.clientId, scopes, some (truncate r.now + refreshTtl)⟩
  let stored := { r with drawn := r.drawn + 3 }.store (Key.token (secrets.urlsafe r.drawn)).name
    (linkToJson codec (r.drawn + 2) access) (ttlFrom access.expiresAt r.now)
  { stored with drawn := r.drawn + 4 }.store (Key.refresh refresh.token).name
    (refreshToJson codec (r.drawn + 3) refresh link) (ttlFrom (refresh.expiresAt.map Int.cast) r.now)

theorem OnRedis.issue_alone (codec : Codec) (secrets : Secrets) (client : OAuthClient) (link : TokenLink)
    (scopes : List String) (r : Redis) : ∃ token, alone (OnRedis.issue codec secrets client link scopes) r =
      (.ok token, r.issued codec secrets client link scopes) := by
  refine ⟨{ accessToken := secrets.urlsafe r.drawn, tokenType := "Bearer", expiresIn := accessTtl
            scope := String.intercalate " " scopes, refreshToken := secrets.urlsafe (r.drawn + 1) }, ?_⟩
  rw [alone, OnRedis.issue, randomBits, Program.run_ask_bind, Program.run_ask_bind, wallTime, Program.run_ask_bind,
    Program.run_bind_ok (RedisTokenStore.put_alone _ _), Program.run_ask_bind,
    Program.run_bind_ok (RedisRefreshRegistry.put_alone _ _)]
  rfl

theorem OnRedis.exchangeRefreshToken_absent {secrets : Secrets} {client : OAuthClient} {rt : RefreshToken}
    {scopes : List String} (absent : r.live (Key.refresh rt.token).name = none) :
    alone (OnRedis.exchangeRefreshToken codec secrets client rt scopes) r =
      (.error (.oauth (.invalidGrant "unknown refresh token")), r) := by
  rw [alone, OnRedis.exchangeRefreshToken, Program.run_bind_ok (RedisRefreshRegistry.pop_absent absent)]
  rfl

theorem OnRedis.exchangeRefreshToken_held {secrets : Secrets} {client : OAuthClient} {rt : RefreshToken}
    {scopes : List String} {raw : Json} {found : RefreshToken} {link : TokenLink}
    (held : r.live (Key.refresh rt.token).name = some raw) (wrote : refreshFromJson codec raw = some (found, link)) :
    alone (OnRedis.exchangeRefreshToken codec secrets client rt scopes) r =
      match effectiveScopes (if scopes.isEmpty then rt.scopes else scopes) link.scopes with
      | .error e => (.error (.oauth e), r.remove (Key.refresh rt.token).name)
      | .ok newScopes => alone (OnRedis.issue codec secrets client link newScopes)
          (r.remove (Key.refresh rt.token).name) := by
  rw [alone, OnRedis.exchangeRefreshToken, Program.run_bind_ok (RedisRefreshRegistry.pop_held held wrote)]
  dsimp only
  cases effectiveScopes (if scopes.isEmpty then rt.scopes else scopes) link.scopes <;> rfl

end Methods

/-! ### A codec -/

section Sample

/-- A cipher that marks what it encrypted, and the models as objects of their fields. -/
def markingCodec : Codec where
  encrypt _ text := "gAAAAA" ++ text
  decrypt blob := some (String.ofList (blob.toList.drop 6))
  decrypt_encrypt _ text := by simp
  dumpRefresh rt := .obj [("token", .str rt.token), ("client_id", .str rt.clientId),
    ("scopes", .arr (rt.scopes.map .str)), ("expires_at", rt.expiresAt.elim .null .int)]
  validateRefresh
    | .obj [(_, .str token), (_, .str clientId), (_, .arr scopes), (_, expiresAt)] => do
      let scopes ← scopes.mapM Json.asStr?
      return ⟨token, clientId, scopes, match expiresAt with | .int n => some n | _ => none⟩
    | _ => none
  validate_dumpRefresh rt := by
    obtain ⟨token, clientId, scopes, expiresAt⟩ := rt
    dsimp only
    rw [mapM_asStr?]
    cases expiresAt <;> rfl
  dumpClient client := .obj [("client_id", .str client.clientId),
    ("client_name", client.clientName.elim .null .str), ("redirect_uris", client.redirectHost.elim .null .str)]
  validateClient
    | .obj [(_, .str clientId), (_, name), (_, host)] => some ⟨clientId, name.asStr?, host.asStr?⟩
    | _ => none
  validate_dumpClient client := by
    obtain ⟨clientId, name, host⟩ := client
    cases name <;> cases host <;> rfl

end Sample
end LobstrMcp
