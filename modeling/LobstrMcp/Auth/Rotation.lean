import LobstrMcp.Auth.Clients
import LobstrMcp.Interaction.Claiming

/-!
Refresh tokens exchanged by several processes on one Redis, each command a step of its own. The
token is read before it is deleted, so two processes that both read it both rotate it; where none
reads it between another's read and deletion, one process rotates it at most once.
-/

namespace LobstrMcp
open Interaction

/-! ### Redis between two commands -/

/-- What others may have done to Redis meanwhile: anything, but for one key, which they may delete
and not set. -/
structure Redis.Meanwhile (name : String) (r r' : Redis) : Prop where
  now : r.now ≤ r'.now
  drawn : r.drawn ≤ r'.drawn
  entry : Dict.get? r'.entries name = Dict.get? r.entries name ∨ Dict.get? r'.entries name = none

/-- Redis shared with others; each command is one step. -/
def Redis.shared (name : String) : World RedisCall RedisCall.Answer Redis := fun r c ans t =>
  ∃ r', Redis.Meanwhile name r r' ∧ (ans, t) = Redis.machine r' c

theorem Redis.Meanwhile.refl (name : String) (r : Redis) : Redis.Meanwhile name r r := ⟨le_rfl, le_rfl, .inl rfl⟩

/-- A secret that was given out, with a record of the registry if it has one. -/
structure Redis.Issued (codec : Codec) (secrets : Secrets) (token : String) (r : Redis) : Prop where
  drawn : ∃ n < r.drawn, secrets.urlsafe n = token
  record : ∀ raw limit, Dict.get? r.entries (Key.refresh token).name = some (raw, limit) →
    ∃ pair, refreshFromJson codec raw = some pair

/-! ### The claim -/

/-- A rotation of a refresh token: read it, delete it, and write the new pair. -/
def rotating (codec : Codec) (secrets : Secrets) (token : String) : Claiming RedisCall RedisCall.Answer where
  finds
    | .get name, some _ => name = (Key.refresh token).name
    | _, _ => False
  takes c := c = .delete (Key.refresh token).name
  yields _ _ := False
  acts
    | .set _ _ _ => True
    | _ => False
  restores
    | .set name _ _ => name = (Key.refresh token).name
    | _ => False
  cannot
    | .get name, some raw => name = (Key.refresh token).name ∧ refreshFromJson codec raw = none
    | .set _ _ ex, .error _ => Redis.Expires ex
    | .random, n => secrets.urlsafe n = token
    | _, _ => False

section Claim
variable {codec : Codec} {secrets : Secrets} {token : String}

section Issued
variable {r r' : Redis}

theorem Redis.Issued.meanwhile (issued : r.Issued codec secrets token)
    (meanwhile : Redis.Meanwhile (Key.refresh token).name r r') : r'.Issued codec secrets token := by
  obtain ⟨n, lt, named⟩ := issued.drawn
  refine ⟨⟨n, lt.trans_le meanwhile.drawn, named⟩, fun raw limit read => ?_⟩
  rcases meanwhile.entry with same | gone
  · exact issued.record raw limit (same.symm.trans read)
  · rw [gone] at read
    cases read

theorem Redis.Issued.store (issued : r.Issued codec secrets token) {name : String}
    (other : name ≠ (Key.refresh token).name) (value : Json) (ex : Option Int) :
    (r.store name value ex).Issued codec secrets token := by
  refine ⟨issued.drawn, fun raw limit read => ?_⟩
  rw [Redis.get?_store, if_neg other] at read
  exact issued.record raw limit read

theorem Redis.Issued.remove (issued : r.Issued codec secrets token) (name : String) :
    (r.remove name).Issued codec secrets token := by
  refine ⟨issued.drawn, fun raw limit read => ?_⟩
  rw [Redis.get?_remove] at read
  split at read
  · cases read
  · exact issued.record raw limit read

/-- A command that does not set the key leaves it as it was, and is answered as it can be. -/
theorem Redis.Issued.machine (issued : r.Issued codec secrets token) {c : RedisCall}
    (lasts : ¬ (rotating codec secrets token).restores c) :
    (Redis.machine r c).2.Issued codec secrets token ∧
      ¬ (rotating codec secrets token).cannot c (Redis.machine r c).1 := by
  cases c with
  | get name =>
    refine ⟨issued, ?_⟩
    cases live : r.live name with
    | none => rw [Redis.machine_get, live]; exact id
    | some raw =>
      rw [Redis.machine_get, live]
      rintro ⟨rfl, foreign⟩
      obtain ⟨limit, read, _⟩ := Redis.live_eq_some.mp live
      obtain ⟨pair, wrote⟩ := issued.record raw limit read
      rw [wrote] at foreign
      cases foreign
  | set name value ex =>
    by_cases expires : Redis.Expires ex
    · rw [Redis.machine_set expires]
      exact ⟨issued.store lasts value ex, id⟩
    · rw [Redis.machine_refuses expires]
      exact ⟨issued, expires⟩
  | delete name => exact ⟨issued.remove name, id⟩
  | time => exact ⟨issued, id⟩
  | random =>
    obtain ⟨n, lt, named⟩ := issued.drawn
    refine ⟨⟨⟨n, lt.trans (Nat.lt_succ_self _), named⟩, issued.record⟩, fun same => ?_⟩
    have same : secrets.urlsafe r.drawn = token := same
    have equal := secrets.never_repeats (same.trans named.symm)
    omega

theorem Redis.issued_issued (client : OAuthClient) (link : TokenLink) (scopes : List String) :
    (r.issued codec secrets client link scopes).Issued codec secrets (secrets.urlsafe (r.drawn + 1)) := by
  refine ⟨⟨r.drawn + 1, Nat.add_lt_add_left (by decide) _, rfl⟩, fun raw limit read => ?_⟩
  unfold Redis.issued at read
  rw [Redis.get?_store, if_pos rfl] at read
  cases read
  exact ⟨_, refreshFromJson_refreshToJson _ _ _⟩

end Issued

theorem Redis.Meanwhile.contains {name : String} {r r' : Redis} (meanwhile : Redis.Meanwhile name r r')
    (held : Dict.contains r'.entries name = true) : Dict.contains r.entries name = true := by
  unfold Dict.contains at held ⊢
  rcases meanwhile.entry with same | gone
  · rwa [same] at held
  · rw [gone] at held
    cases held

theorem rotating_sound : (rotating codec secrets token).Sound (Redis.shared (Key.refresh token).name)
    (fun r => Dict.contains r.entries (Key.refresh token).name = true) (Redis.Issued codec secrets token) where
  keeps := by
    rintro s c ans t lasts issued ⟨r', meanwhile, step⟩
    obtain rfl : ans = (Redis.machine r' c).1 := congrArg Prod.fst step
    obtain rfl : t = (Redis.machine r' c).2 := congrArg Prod.snd step
    exact (issued.meanwhile meanwhile).machine lasts
  found := by
    rintro s c ans t issued ⟨r', meanwhile, step⟩ finds
    obtain rfl : ans = (Redis.machine r' c).1 := congrArg Prod.fst step
    obtain rfl : t = (Redis.machine r' c).2 := congrArg Prod.snd step
    cases c with
    | get name =>
      cases live : r'.live name with
      | none =>
        rw [Redis.machine_get, live] at finds
        exact finds.elim
      | some raw =>
        rw [Redis.machine_get, live] at finds
        obtain rfl : name = (Key.refresh token).name := finds
        obtain ⟨limit, read, _⟩ := Redis.live_eq_some.mp live
        exact meanwhile.contains ((Dict.contains_iff _ _).mpr ⟨_, read⟩)
    | _ => exact finds.elim
  removed := by
    rintro s c ans t ⟨r', meanwhile, step⟩ taken
    obtain rfl : c = .delete (Key.refresh token).name := taken
    obtain rfl : t = r'.remove (Key.refresh token).name := congrArg Prod.snd step
    simp [Redis.remove, Dict.contains]
  absent := by
    rintro s c ans t lasts issued ⟨r', meanwhile, step⟩ gone held
    obtain rfl : ans = (Redis.machine r' c).1 := congrArg Prod.fst step
    obtain rfl : t = (Redis.machine r' c).2 := congrArg Prod.snd step
    refine gone (meanwhile.contains ?_)
    cases c with
    | set name value ex =>
      by_cases expires : Redis.Expires ex
      · rw [Redis.machine_set expires] at held
        have other : name ≠ (Key.refresh token).name := lasts
        simpa [Dict.contains, other] using held
      · rw [Redis.machine_refuses expires] at held
        exact held
    | delete name =>
      have held : Dict.contains (r'.remove name).entries (Key.refresh token).name = true := held
      unfold Dict.contains at held ⊢
      rw [Redis.get?_remove] at held
      split at held
      · cases held
      · exact held
    | _ => exact held

/-- How an exchange ends: with a pair, if it took the token, or with an invalid grant. -/
def RotationEnds (q : Claim) (r : Except SessionError OAuthToken) : Prop :=
  q = .astray ∨ (q = .taken ∧ ∃ pair, r = .ok pair) ∨ ∃ message, r = .error (.oauth (.invalidGrant message))

theorem rotationEnds_astray (r : Except SessionError OAuthToken) : RotationEnds .astray r := .inl rfl

theorem token_ne_refresh (t token : String) : tokenPrefix ++ t ≠ (Key.refresh token).name :=
  fun same => by cases @Key.name_injective (.token t) (.refresh token) same

theorem refresh_ne {t token : String} (other : t ≠ token) : refreshPrefix ++ t ≠ (Key.refresh token).name :=
  fun same => other (Key.refresh.inj (@Key.name_injective (.refresh t) (.refresh token) same))

section Obeys
variable {good : Claim → Except SessionError OAuthToken → Prop} {q : Claim}

theorem random_obeys (ends : ∀ r, good .astray r) {f : ℕ → SessionM OAuthToken}
    (next : ∀ n, secrets.urlsafe n ≠ token → (f n).Follows (rotating codec secrets token).Obeys good q) :
    (randomBits >>= f).Follows (rotating codec secrets token).Obeys good q := by
  refine Program.follows_ask_bind.mpr fun n => ?_
  by_cases same : secrets.urlsafe n = token
  · exact ⟨.astray, .astray id same, Claiming.follows_astray ends _⟩
  · exact ⟨q, .quiet id False.elim fun _ => ⟨(fun absurd => by cases absurd), id⟩, next n same⟩

theorem time_obeys {f : Rat → SessionM OAuthToken}
    (next : ∀ now, (f now).Follows (rotating codec secrets token).Obeys good q) :
    (wallTime >>= f).Follows (rotating codec secrets token).Obeys good q :=
  Program.follows_ask_bind.mpr fun now =>
    ⟨q, .quiet id False.elim fun _ => ⟨(fun absurd => by cases absurd), id⟩, next now⟩

theorem set_obeys (ends : ∀ r, good .astray r) {name : String} {value : Json} {ex : Option Int}
    {f : Unit → SessionM OAuthToken} (other : name ≠ (Key.refresh token).name) (expires : Redis.Expires ex)
    (next : (f ()).Follows (rotating codec secrets token).Obeys good .taken) :
    (redisSet name value ex >>= f).Follows (rotating codec secrets token).Obeys good .taken := by
  rw [redisSet, Program.bind_assoc]
  refine Program.follows_ask_bind.mpr fun answer => ?_
  cases answer with
  | error message => exact ⟨.astray, .astray other expires, Claiming.follows_astray ends _⟩
  | ok done => exact ⟨.taken, .quiet other (fun _ => rfl) (fun absurd => by cases absurd), next⟩

theorem issue_obeys (client : OAuthClient) (link : TokenLink) (scopes : List String) :
    (OnRedis.issue codec secrets client link scopes).Follows (rotating codec secrets token).Obeys
      RotationEnds .taken := by
  unfold OnRedis.issue
  refine random_obeys rotationEnds_astray fun first _ => ?_
  refine random_obeys rotationEnds_astray fun second fresh => ?_
  refine time_obeys fun now => ?_
  rw [RedisTokenStore.put, Program.bind_assoc]
  refine random_obeys rotationEnds_astray fun iv _ => ?_
  rw [Program.bind_assoc]
  refine time_obeys fun now => ?_
  refine set_obeys rotationEnds_astray (token_ne_refresh _ _) (expires_ttlFrom _ _) ?_
  refine time_obeys fun now => ?_
  rw [RedisRefreshRegistry.put, Program.bind_assoc]
  refine random_obeys rotationEnds_astray fun iv _ => ?_
  rw [Program.bind_assoc]
  refine time_obeys fun now => ?_
  refine set_obeys rotationEnds_astray (refresh_ne fresh)
    (expires_ttlFrom _ _) ?_
  exact .inr (.inl ⟨rfl, _, rfl⟩)

end Obeys

theorem effectiveScopes_raises {requested granted : List String} {e : OAuthError}
    (refused : effectiveScopes requested granted = .error e) : ∃ message, e = .invalidGrant message := by
  unfold effectiveScopes at refused
  split at refused
  · cases refused
  · split at refused
    · cases refused
    · dsimp only at refused
      split at refused
      · cases refused
        exact ⟨_, rfl⟩
      · cases refused

/-- An exchange whose read found the token: the rest of it. -/
def OnRedis.exchangeFound (codec : Codec) (secrets : Secrets) (client : OAuthClient) (rt : RefreshToken)
    (scopes : List String) (raw : Json) : SessionM OAuthToken := do
  redisDelete (Key.refresh rt.token).name
  let (_, link) ← decoded (refreshFromJson codec raw)
  let newScopes ← Program.ofExcept ((effectiveScopes (if scopes.isEmpty then rt.scopes else scopes)
    link.scopes).mapError .oauth)
  OnRedis.issue codec secrets client link newScopes

/-- An exchange after its read. -/
def OnRedis.exchangeRest (codec : Codec) (secrets : Secrets) (client : OAuthClient) (rt : RefreshToken)
    (scopes : List String) : Option Json → SessionM OAuthToken
  | none => .raise (.oauth (.invalidGrant "unknown refresh token"))
  | some raw => OnRedis.exchangeFound codec secrets client rt scopes raw

theorem exchange_reads (client : OAuthClient) (rt : RefreshToken) (scopes : List String) :
    OnRedis.exchangeRefreshToken codec secrets client rt scopes =
      redisGet (Key.refresh rt.token).name >>= OnRedis.exchangeRest codec secrets client rt scopes := by
  rw [OnRedis.exchangeRefreshToken, RedisRefreshRegistry.pop, Program.bind_assoc]
  congr 1
  funext found
  cases found with
  | none => rfl
  | some raw =>
    rw [OnRedis.exchangeRest, OnRedis.exchangeFound]
    dsimp only
    rw [Program.bind_assoc]
    congr 1
    funext _
    rw [Program.bind_assoc]
    congr 1
    funext pair
    dsimp only [Program.pure_bind]
    cases effectiveScopes (if scopes.isEmpty then rt.scopes else scopes) pair.2.scopes <;> rfl

theorem exchangeFound_obeys (client : OAuthClient) (rt : RefreshToken) (scopes : List String) {raw : Json}
    {pair : RefreshToken × TokenLink} (wrote : refreshFromJson codec raw = some pair) :
    (OnRedis.exchangeFound codec secrets client rt scopes raw).Follows
      (rotating codec secrets rt.token).Obeys RotationEnds .holding := by
  refine Program.follows_ask_bind.mpr fun _ => ⟨.taken, .takes id id rfl, ?_⟩
  rw [wrote]
  show Program.Follows _ _ _ (Program.ofExcept ((effectiveScopes (if scopes.isEmpty then rt.scopes else scopes)
    pair.2.scopes).mapError SessionError.oauth) >>= _)
  cases effective : effectiveScopes (if scopes.isEmpty then rt.scopes else scopes) pair.2.scopes with
  | error e =>
    obtain ⟨message, rfl⟩ := effectiveScopes_raises effective
    show RotationEnds .taken _
    exact .inr (.inr ⟨message, rfl⟩)
  | ok newScopes => exact issue_obeys client pair.2 newScopes

/-- An exchange reads the token, deletes it if it was there, and writes only then. -/
theorem exchange_obeys (client : OAuthClient) (rt : RefreshToken) (scopes : List String) :
    (OnRedis.exchangeRefreshToken codec secrets client rt scopes).Follows
      (rotating codec secrets rt.token).Obeys RotationEnds .seeking := by
  rw [exchange_reads]
  refine Program.follows_ask_bind.mpr fun found => ?_
  cases found with
  | none =>
    exact ⟨.seeking, .quiet id False.elim (fun absurd => by cases absurd), .inr (.inr ⟨_, rfl⟩)⟩
  | some raw =>
    cases wrote : refreshFromJson codec raw with
    | none => exact ⟨.astray, .astray id ⟨rfl, wrote⟩, Claiming.follows_astray rotationEnds_astray _⟩
    | some pair => exact ⟨.holding, .finds id id rfl, exchangeFound_obeys client rt scopes wrote⟩

end Claim

/-! ### The refresh tokens of a server -/

/-- Every refresh token on Redis was issued. -/
def AllIssued (codec : Codec) (secrets : Secrets) (r : Redis) : Prop :=
  ∀ t, Dict.contains r.entries (Key.refresh t).name = true → r.Issued codec secrets t

section AllIssued
variable {codec : Codec} {secrets : Secrets} {r : Redis}

theorem AllIssued.drawn (all : AllIssued codec secrets r) {n : ℕ} (le : r.drawn ≤ n) :
    AllIssued codec secrets { r with drawn := n } := by
  intro t held
  obtain ⟨⟨m, lt, named⟩, record⟩ := all t held
  exact ⟨⟨m, lt.trans_le le, named⟩, record⟩

theorem AllIssued.wait (all : AllIssued codec secrets r) (now : Rat) :
    AllIssued codec secrets { r with now := now } := fun t held => ⟨(all t held).drawn, (all t held).record⟩

theorem AllIssued.store (all : AllIssued codec secrets r) {k : Key} (other : ∀ t, k ≠ Key.refresh t) (value : Json)
    (ex : Option Int) : AllIssued codec secrets (r.store k.name value ex) := by
  intro t held
  rw [Dict.contains, Redis.get?_store, if_neg (Key.name_injective.ne (other t))] at held
  exact (all t held).store (Key.name_injective.ne (other t)) value ex

theorem AllIssued.remove (all : AllIssued codec secrets r) (name : String) :
    AllIssued codec secrets (r.remove name) := by
  intro t held
  rw [Dict.contains, Redis.get?_remove] at held
  split at held
  · cases held
  · exact (all t held).remove name

theorem AllIssued.issued (all : AllIssued codec secrets r) (client : OAuthClient) (link : TokenLink)
    (scopes : List String) : AllIssued codec secrets (r.issued codec secrets client link scopes) := by
  intro t held
  by_cases new : secrets.urlsafe (r.drawn + 1) = t
  · subst new
    exact Redis.issued_issued client link scopes
  · have stored := ((all.drawn (Nat.le_add_right r.drawn 3)).store (k := .token (secrets.urlsafe r.drawn)) (by simp)
      (linkToJson codec (r.drawn + 2) ⟨link.lobstrUserId, link.lobstrApiToken, scopes,
        some (truncate r.now + accessTtl : Int)⟩)
      (ttlFrom (some (truncate r.now + accessTtl : Int)) r.now)).drawn (Nat.le_succ (r.drawn + 3))
    have other : Key.refresh (secrets.urlsafe (r.drawn + 1)) ≠ Key.refresh t := by simpa using new
    unfold Redis.issued at held ⊢
    rw [Dict.contains, Redis.get?_store, if_neg (Key.name_injective.ne other)] at held
    exact (stored t held).store (Key.name_injective.ne other) _ _

theorem completeConsent_drawn (p : Provider) (now : Rat) (requestId : String)
    (redeemed : Except String TokenLink) : p.drawn ≤ (p.completeConsent secrets now requestId redeemed).2.drawn := by
  unfold Provider.completeConsent
  dsimp only
  split
  · exact le_rfl
  · split
    · exact le_rfl
    · split
      · exact le_rfl
      · exact Nat.le_succ _

theorem AllIssued.issue (all : AllIssued codec secrets r) (client : OAuthClient) (link : TokenLink)
    (scopes : List String) : AllIssued codec secrets (alone (OnRedis.issue codec secrets client link scopes) r).2 := by
  obtain ⟨token, issued⟩ := OnRedis.issue_alone codec secrets client link scopes r
  rw [issued]
  exact all.issued client link scopes

theorem AllIssued.record (all : AllIssued codec secrets r) {t : String} {raw : Json}
    (live : r.live (Key.refresh t).name = some raw) : ∃ pair, refreshFromJson codec raw = some pair := by
  obtain ⟨limit, read, _⟩ := Redis.live_eq_some.mp live
  exact (all t ((Dict.contains_iff _ _).mpr ⟨_, read⟩)).record raw limit read

theorem AllIssued.step {s : SessionSystem} (all : AllIssued codec secrets s.redis) (op : SessionOp) :
    AllIssued codec secrets (s.step codec secrets op).redis := by
  cases op with
  | registerClient client =>
    show AllIssued codec secrets (alone (RedisClientRegistry.put codec client) s.redis).2
    rw [RedisClientRegistry.put_alone]
    exact all.store (by simp) _ _
  | getClient clientId =>
    show AllIssued codec secrets (alone (OnRedis.getClient codec clientId) s.redis).2
    rw [OnRedis.getClient_alone]
    exact all
  | authorize client params => exact all.drawn (Nat.le_succ _)
  | completeConsent requestId redeemed => exact all.drawn (completeConsent_drawn { s.process with drawn := _ } _ _ _)
  | loadAuthorizationCode code => exact all
  | exchangeAuthorizationCode client code =>
    show AllIssued codec secrets
      (alone (OnRedis.exchangeAuthorizationCode codec secrets s.process client code).1 s.redis).2
    unfold OnRedis.exchangeAuthorizationCode
    cases Dict.get? s.process.codeIdentity code.code with
    | none => exact all
    | some link => exact all.issue client link code.scopes
  | loadRefreshToken token =>
    show AllIssued codec secrets (alone (OnRedis.loadRefreshToken codec token) s.redis).2
    cases live : s.redis.live (Key.refresh token).name with
    | none =>
      rw [OnRedis.loadRefreshToken_absent live]
      exact all
    | some raw =>
      obtain ⟨⟨rt, link⟩, wrote⟩ := all.record live
      rw [OnRedis.loadRefreshToken_held live wrote]
      split
      · exact all.remove _
      · exact all
  | exchangeRefreshToken client rt scopes =>
    show AllIssued codec secrets (alone (OnRedis.exchangeRefreshToken codec secrets client rt scopes) s.redis).2
    cases live : s.redis.live (Key.refresh rt.token).name with
    | none =>
      rw [OnRedis.exchangeRefreshToken_absent live]
      exact all
    | some raw =>
      obtain ⟨⟨found, link⟩, wrote⟩ := all.record live
      rw [OnRedis.exchangeRefreshToken_held live wrote]
      split
      · exact all.remove _
      · exact (all.remove _).issue client link _
  | loadAccessToken token =>
    show AllIssued codec secrets (alone (OnRedis.loadAccessToken codec token) s.redis).2
    rcases OnRedis.loadAccessToken_alone token with same | dropped
    · rw [same]
      exact all
    · rw [dropped]
      exact all.remove _
  | revokeToken token =>
    show AllIssued codec secrets (alone (OnRedis.revokeToken codec token) s.redis).2
    rcases OnRedis.revokeToken_alone token with same | dropped | both
    · rw [same]
      exact all
    · rw [dropped]
      exact all.remove _
    · rw [both]
      exact (all.remove _).remove _
  | advance seconds => exact all.wait _

end AllIssued

theorem SessionSystem.after_issued (codec : Codec) (secrets : Secrets) (start : { q : Rat // 0 ≤ q })
    (ops : List SessionOp) : AllIssued codec secrets (after codec secrets start ops).redis := by
  induction ops using List.reverseRecOn with
  | nil =>
    intro _ absurd
    cases absurd
  | append_singleton ops op ih =>
    rw [after, List.foldl_append]
    exact ih.step op

/-- Alone, an exchange that has found the token ends with a pair, if the scopes are granted. -/
theorem exchangeFound_alone {codec : Codec} {secrets : Secrets} {client : OAuthClient} {rt : RefreshToken}
    {scopes newScopes : List String} {raw : Json} {pair : RefreshToken × TokenLink}
    (wrote : refreshFromJson codec raw = some pair)
    (effective : effectiveScopes (if scopes.isEmpty then rt.scopes else scopes) pair.2.scopes = .ok newScopes)
    (r : Redis) : ∃ token t, alone (OnRedis.exchangeFound codec secrets client rt scopes raw) r = (.ok token, t) := by
  obtain ⟨token, issued⟩ := OnRedis.issue_alone codec secrets client pair.2 newScopes
    (r.remove (Key.refresh rt.token).name)
  refine ⟨token, (r.remove (Key.refresh rt.token).name).issued codec secrets client pair.2 newScopes, ?_⟩
  rw [← issued, alone, OnRedis.exchangeFound, wrote]
  show alone (Program.ofExcept ((effectiveScopes (if scopes.isEmpty then rt.scopes else scopes)
    pair.2.scopes).mapError SessionError.oauth) >>= _) _ = _
  rw [effective]
  rfl

/-! ### Single use -/

/-- A call of `exchange_refresh_token`. -/
structure Exchange where
  client : OAuthClient
  refreshToken : RefreshToken
  scopes : List String

/-- These calls, each a process on the same Redis. -/
def exchanging {ι : Type} (codec : Codec) (secrets : Secrets) (calls : ι → Exchange) (redis : Redis) :
    Pool ι RedisCall RedisCall.Answer Redis SessionError OAuthToken where
  state := redis
  programs i := OnRedis.exchangeRefreshToken codec secrets (calls i).client (calls i).refreshToken (calls i).scopes

/-- The call has written a token, or returned a pair. -/
def Issues {ι : Type} (log : Schedule ι RedisCall RedisCall.Answer Redis)
    (p : Pool ι RedisCall RedisCall.Answer Redis SessionError OAuthToken) (i : ι) : Prop :=
  (∃ e, (i, e) ∈ log ∧ ∃ name value ex, e.op = .set name value ex) ∨ ∃ pair, p.programs i = .pure pair

/-- At most one call issues tokens, and the calls that raise raise an invalid grant. -/
structure SingleUse {ι : Type} (log : Schedule ι RedisCall RedisCall.Answer Redis)
    (p : Pool ι RedisCall RedisCall.Answer Redis SessionError OAuthToken) : Prop where
  once : ∀ i j, Issues log p i → Issues log p j → i = j
  others : ∀ i e, p.programs i = .raise e → ∃ message, e = .oauth (.invalidGrant message)

/-- A refresh token is rotated once, by whatever calls, as long as no call reads it between another's
read and deletion. -/
theorem rotation_is_single_use {ι : Type} [DecidableEq ι] (codec : Codec) (secrets : Secrets) {token : String}
    {calls : ι → Exchange} (presented : ∀ i, (calls i).refreshToken.token = token) {redis : Redis}
    (issued : redis.Issued codec secrets token) {log : Schedule ι RedisCall RedisCall.Answer Redis}
    {p : Pool ι RedisCall RedisCall.Answer Redis SessionError OAuthToken}
    (runs : Pool.Runs (Redis.shared (Key.refresh token).name) (rotating codec secrets token).Alone
      (exchanging codec secrets calls redis) log p) : SingleUse log p := by
  have follows : ∀ i, ((exchanging codec secrets calls redis).programs i).Follows
      (rotating codec secrets token).Obeys RotationEnds .seeking := by
    intro i
    rw [← presented i]
    exact exchange_obeys _ _ _
  obtain ⟨phases, exclusive, stand⟩ := Claiming.exclusive_runs rotating_sound runs issued follows
  have taken : ∀ i, Issues log p i → phases i = .taken := by
    rintro i (⟨e, member, name, value, ex, wrote⟩ | ⟨pair, returned⟩)
    · refine exclusive.acted i e member ?_
      rw [wrote]
      trivial
    · have ended := stand i
      rw [returned] at ended
      rcases ended with lost | ⟨taken, _⟩ | ⟨_, absurd⟩
      · exact (exclusive.regular i lost).elim
      · exact taken
      · cases absurd
  refine ⟨fun i j first second => ?_, fun i e raised => ?_⟩
  · exact exclusive.single i j (.inr (taken i first)) (.inr (taken j second))
  · have ended := stand i
    rw [raised] at ended
    rcases ended with lost | ⟨_, _, absurd⟩ | ⟨message, same⟩
    · exact (exclusive.regular i lost).elim
    · cases absurd
    · cases same
      exact ⟨message, rfl⟩

theorem Redis.shared_machine (name : String) (r : Redis) (c : RedisCall) :
    Redis.shared name r c (Redis.machine r c).1 (Redis.machine r c).2 :=
  ⟨r, .refl name r, rfl⟩

/-- Two calls that both read the token before either deletes it both rotate it, if both are granted
the scopes they ask for. -/
theorem overlapping_reads_rotate_twice {codec : Codec} (secrets : Secrets) {token : String}
    (calls : Bool → Exchange) (presented : ∀ i, (calls i).refreshToken.token = token) {redis : Redis} {raw : Json}
    {pair : RefreshToken × TokenLink} (live : redis.live (Key.refresh token).name = some raw)
    (wrote : refreshFromJson codec raw = some pair)
    (granted : ∀ i, ∃ scopes, effectiveScopes (if (calls i).scopes.isEmpty then (calls i).refreshToken.scopes
      else (calls i).scopes) pair.2.scopes = .ok scopes) :
    ∃ log p, Pool.Runs (Redis.shared (Key.refresh token).name) (fun _ _ _ _ _ => True)
        (exchanging codec secrets calls redis) log p ∧
      ∀ i, ∃ pair, p.programs i = .pure pair := by
  let found (i : Bool) := OnRedis.exchangeFound codec secrets (calls i).client (calls i).refreshToken (calls i).scopes
  have here (i : Bool) : (exchanging codec secrets calls redis).programs i = redisGet (Key.refresh token).name >>=
      OnRedis.exchangeRest codec secrets (calls i).client (calls i).refreshToken (calls i).scopes := by
    rw [← presented i]
    exact exchange_reads _ _ _
  have reads : Redis.shared (Key.refresh token).name redis (.get (Key.refresh token).name) (some raw) redis := by
    have step := Redis.shared_machine (Key.refresh token).name redis (.get (Key.refresh token).name)
    rwa [Redis.machine_get, live] at step
  have ends (i : Bool) (r : Redis) : ∃ token t, alone (found i raw) r = (.ok token, t) := by
    obtain ⟨scopes, effective⟩ := granted i
    exact exchangeFound_alone wrote effective r
  -- both reads
  have idle : Pool.Runs (Redis.shared (Key.refresh token).name) (fun _ _ _ _ _ => True)
      (exchanging codec secrets calls redis) [] (exchanging codec secrets calls redis) := .start
  have first := idle.turn (here false) reads trivial
  have second := first.turn (i := true) ((Pool.after_other _ _ _ (by decide)).trans (here true)) reads trivial
  -- the rest of each
  obtain ⟨one, t, rotates⟩ := ends false redis
  have third := second.alone (i := false) (a := one) (t := t) (Redis.shared_machine _)
    (by rw [Pool.after_other _ _ _ (by decide), Pool.after_self]; exact rotates) fun _ _ _ => trivial
  obtain ⟨two, t', rotates'⟩ := ends true t
  have fourth := third.alone (i := true) (a := two) (t := t') (Redis.shared_machine _)
    (by rw [Pool.after_other _ _ _ (by decide), Pool.after_self]; exact rotates') fun _ _ _ => trivial
  refine ⟨_, _, fourth, fun i => ?_⟩
  cases i with
  | true => exact ⟨two, Pool.after_self _ _ _ _⟩
  | false => exact ⟨one, (Pool.after_other _ _ _ (by decide)).trans (Pool.after_self _ _ _ _)⟩

section Sample

def onePair : Redis :=
  Redis.issued markingCodec countingSecrets { clientId := "c1" } ⟨"u1", "t1", ["crawlers:read"], none⟩
    ["crawlers:read"] { now := 0 }

def sampleExchange : Exchange where
  client := { clientId := "c1" }
  refreshToken := ⟨countingSecrets.urlsafe 1, "c1", ["crawlers:read"], some refreshTtl⟩
  scopes := []

theorem onePair_issued : onePair.Issued markingCodec countingSecrets (countingSecrets.urlsafe 1) :=
  Redis.issued_issued (r := { now := 0 }) { clientId := "c1" } ⟨"u1", "t1", ["crawlers:read"], none⟩
    ["crawlers:read"]

theorem onePair_live : ∃ raw, onePair.live (Key.refresh (countingSecrets.urlsafe 1)).name = some raw ∧
    refreshFromJson markingCodec raw = some (sampleExchange.refreshToken, ⟨"u1", "t1", ["crawlers:read"], none⟩) := by
  refine ⟨_, Redis.live_eq_some.mpr ⟨_, (Redis.get?_store _ _ _ _ _).trans (if_pos rfl), ?_⟩,
    refreshFromJson_refreshToJson _ _ _⟩
  decide +kernel

def onePairRotated : Redis :=
  (onePair.remove (Key.refresh (countingSecrets.urlsafe 1)).name).issued markingCodec countingSecrets
    { clientId := "c1" } ⟨"u1", "t1", ["crawlers:read"], none⟩ ["crawlers:read"]

/-- One process exchanges the token, then another tries to. -/
theorem a_second_rotation_is_refused : ∃ log p pair, p.programs false = .pure pair ∧
    p.programs true = .raise (.oauth (.invalidGrant "unknown refresh token")) ∧ SingleUse log p := by
  let name := (Key.refresh (countingSecrets.urlsafe 1)).name
  let calls : Bool → Exchange := fun _ => sampleExchange
  let start := exchanging markingCodec countingSecrets calls onePair
  obtain ⟨raw, live, wrote⟩ := onePair_live
  obtain ⟨pair, rotates⟩ : ∃ pair, alone (start.programs false) onePair = (.ok pair, onePairRotated) := by
    obtain ⟨pair, issued⟩ := OnRedis.issue_alone markingCodec countingSecrets { clientId := "c1" }
      ⟨"u1", "t1", ["crawlers:read"], none⟩ ["crawlers:read"] (onePair.remove name)
    refine ⟨pair, ?_⟩
    show alone (OnRedis.exchangeRefreshToken _ _ _ sampleExchange.refreshToken []) _ = _
    rw [OnRedis.exchangeRefreshToken_held live wrote]
    exact issued
  have idle : Pool.Runs (Redis.shared name)
      (rotating markingCodec countingSecrets (countingSecrets.urlsafe 1)).Alone start [] start := .start
  have first := idle.alone (i := false) (Redis.shared_machine name) rotates fun before e p' _ j other opened => by
      obtain ⟨_, _, _, split, _⟩ := opened
      have member : (j, _) ∈ before.map (Prod.mk false) := split ▸ List.mem_append_right _ (.head _)
      obtain ⟨_, _, same⟩ := List.mem_map.mp member
      exact other (Prod.mk.inj same).1.symm
  have absent : Redis.shared name onePairRotated (.get name) none onePairRotated := by
    have step := Redis.shared_machine name onePairRotated (.get name)
    rwa [Redis.machine_get, show onePairRotated.live name = none by decide +kernel] at step
  have second := first.turn (i := true) ((Pool.after_other _ _ _ (by decide)).trans (exchange_reads _ _ _))
    absent fun absurd => absurd.elim
  have presented : ∀ i, (calls i).refreshToken.token = countingSecrets.urlsafe 1 := fun _ => rfl
  have single := rotation_is_single_use markingCodec countingSecrets presented onePair_issued second
  exact ⟨_, _, pair, (Pool.after_other _ _ _ (by decide)).trans (Pool.after_self _ _ _ _),
    Pool.after_self _ _ _ _, single⟩

/-- Two processes read the token before either deletes it, and both exchange it. -/
theorem two_rotations_of_one_token : ∃ log p,
    Pool.Runs (Redis.shared (Key.refresh (countingSecrets.urlsafe 1)).name) (fun _ _ _ _ _ => True)
      (exchanging markingCodec countingSecrets (fun _ : Bool => sampleExchange) onePair) log p ∧
    ¬ SingleUse log p := by
  obtain ⟨raw, live, wrote⟩ := onePair_live
  obtain ⟨log, p, runs, both⟩ := overlapping_reads_rotate_twice countingSecrets
    (fun _ : Bool => sampleExchange) (fun _ => rfl) live wrote fun _ => ⟨["crawlers:read"], rfl⟩
  refine ⟨log, p, runs, fun single => ?_⟩
  have same := single.once false true (.inr (both false)) (.inr (both true))
  cases same

end Sample
end LobstrMcp
