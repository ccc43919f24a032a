import LobstrMcp.Auth.Clients
import LobstrMcp.Interaction.Claiming
import LobstrMcp.Interaction.Sharing

/-!
Processes that serve the provider on one Redis, each command a step of its own. A process may end in the middle
of a method, and another begin: the methods it was in take no more turns. A pair of tokens that one of them
issued is served by all of them, until its tokens are used up, revoked or too old.
-/

namespace LobstrMcp
open Interaction

/-! ### What is asked of a process -/

/-- What a process asks its stores for. An exchange of a code begins with the codes that its process holds, which a
restart takes away. -/
inductive SessionRequest where
  | registerClient (client : OAuthClient)
  | getClient (clientId : String)
  | exchangeAuthorizationCode (process : Provider) (client : OAuthClient) (code : AuthorizationCode)
  | loadRefreshToken (token : String)
  | exchangeRefreshToken (client : OAuthClient) (token : RefreshToken) (scopes : List String)
  | loadAccessToken (token : String)
  | revokeToken (token : String)
  | getRun (key : String)
  | putRun (key runId : String) (ttl : Option Int)

inductive SessionReply where
  | done
  | client (found : Option OAuthClient)
  | pair (issued : OAuthToken)
  | refresh (loaded : Option RefreshToken)
  | access (loaded : Option AccessToken)
  | run (found : Option String)
  deriving DecidableEq

namespace SessionRequest

def program (codec : Codec) (secrets : Secrets) : SessionRequest → SessionM SessionReply
  | .registerClient client => OnRedis.registerClient codec client >>= fun _ => pure .done
  | .getClient clientId => OnRedis.getClient codec clientId >>= fun found => pure (.client found)
  | .exchangeAuthorizationCode process client code =>
    (OnRedis.exchangeAuthorizationCode codec secrets process client code).1 >>= fun pair => pure (.pair pair)
  | .loadRefreshToken token => OnRedis.loadRefreshToken codec token >>= fun loaded => pure (.refresh loaded)
  | .exchangeRefreshToken client token scopes =>
    OnRedis.exchangeRefreshToken codec secrets client token scopes >>= fun pair => pure (.pair pair)
  | .loadAccessToken token => OnRedis.loadAccessToken codec token >>= fun loaded => pure (.access loaded)
  | .revokeToken token => OnRedis.revokeToken codec token >>= fun _ => pure .done
  | .getRun key => RedisIdempotencyStore.get key >>= fun found => pure (.run found)
  | .putRun key runId ttl => RedisIdempotencyStore.put defaultIdemTtl key runId ttl >>= fun _ => pure .done

end SessionRequest

/-- Redis as the processes share it: between two commands time passes, and random values are drawn. -/
def Redis.commands : World RedisCall RedisCall.Answer Redis := fun r c ans t =>
  ∃ now drawn, r.now ≤ now ∧ r.drawn ≤ drawn ∧ (ans, t) = Redis.machine { r with now, drawn } c

/-- The processes, on a Redis that holds nothing yet. -/
def serving {ι : Type} (codec : Codec) (secrets : Secrets) (requests : ι → SessionRequest) (start : Rat) :
    Pool ι RedisCall RedisCall.Answer Redis SessionError SessionReply where
  state := { now := start }
  programs := fun i => (requests i).program codec secrets

/-! ### The two tokens of a pair -/

inductive TokenKind where
  | access
  | refresh
  deriving DecidableEq

namespace TokenKind

def key : TokenKind → String → Key
  | .access => .token
  | .refresh => .refresh

def of : TokenKind → OAuthToken → String
  | .access => OAuthToken.accessToken
  | .refresh => OAuthToken.refreshToken

def ttl : TokenKind → Int
  | .access => accessTtl
  | .refresh => refreshTtl

/-- The request that loads such a token. -/
def load : TokenKind → String → SessionRequest
  | .access => .loadAccessToken
  | .refresh => .loadRefreshToken

/-- What such a load makes of a record. -/
def reads (codec : Codec) (token : String) (raw : Json) : TokenKind → Option SessionReply
  | .access => (linkFromJson codec raw).map fun link => .access (some (link.accessToken token))
  | .refresh => (refreshFromJson codec raw).map fun found => .refresh (some found.1)

/-- When a record ends by itself. -/
def expiry (codec : Codec) (raw : Json) : TokenKind → Option Rat
  | .access => (linkFromJson codec raw).bind TokenLink.expiresAt
  | .refresh => (refreshFromJson codec raw).bind fun found => found.1.expiresAt.map Int.cast

/-- The record of a token of a pair that was issued to this client, at this time. -/
def Issued (codec : Codec) (client : OAuthClient) (pair : OAuthToken) (now : Rat) (raw : Json) : TokenKind → Prop
  | .access => ∃ link : TokenLink, linkFromJson codec raw = some link ∧ String.intercalate " " link.scopes =
    pair.scope ∧
    link.expiresAt = some ((truncate now + accessTtl : Int) : Rat)
  | .refresh => ∃ (scopes : List String) (link : TokenLink), String.intercalate " " scopes = pair.scope ∧
    refreshFromJson codec raw =
      some (⟨pair.refreshToken, client.clientId, scopes, some (truncate now + refreshTtl)⟩, link)

theorem Issued.expiry {codec : Codec} {client : OAuthClient} {pair : OAuthToken} {now : Rat} {raw : Json}
    {kind : TokenKind} (issued : kind.Issued codec client pair now raw) :
    kind.expiry codec raw = some ((truncate now + kind.ttl : Int) : Rat) := by
  cases kind with
  | access =>
    obtain ⟨link, read, -, expires⟩ := issued
    simp only [TokenKind.expiry, read, Option.bind_some, expires, ttl]
  | refresh =>
    obtain ⟨scopes, link, -, read⟩ := issued
    simp only [TokenKind.expiry, read, Option.bind_some, Option.map_some, ttl]

theorem key_eq_iff (kind kind' : TokenKind) (token token' : String) :
    (kind.key token).name = (kind'.key token').name ↔ kind = kind' ∧ token = token' := by
  rw [Key.name_injective.eq_iff]
  cases kind <;> cases kind' <;> simp [key]

end TokenKind

/-! ### How a method handles one token -/

/-- What a method did about one token: whether it drew the secret, the record it set, what it read there, and the
times it was told. -/
structure Handling where
  drew : Bool := false
  wrote : Option Json := none
  found : List (Option Json) := []
  times : List Rat := []

namespace Handling
variable (codec : Codec) (secrets : Secrets) (kind : TokenKind) (token : String)

/-- A record is set by who drew the secret, once, to last for as long as it says; it is deleted by who read that
its time has elapsed. -/
def Permits (q : Handling) : RedisCall → Prop
  | .set name raw ex => name = (kind.key token).name → q.drew = true ∧ q.wrote = none ∧
    ∃ t ∈ q.times, ∃ t' ∈ q.times, kind.expiry codec raw = some ((truncate t + kind.ttl : Int) : Rat) ∧
      ex = ttlFrom (kind.expiry codec raw) t'
  | .delete name => name = (kind.key token).name →
    ∃ raw, some raw ∈ q.found ∧ ∃ t ∈ q.times, ∃ ends, kind.expiry codec raw = some ends ∧ ends ≤ t
  | _ => True

def next (q : Handling) : (c : RedisCall) → c.Answer → Handling
  | .get name, answer => if name = (kind.key token).name then { q with found := answer :: q.found } else q
  | .set name raw _, .ok () => if name = (kind.key token).name then { q with wrote := some raw } else q
  | .time, t => { q with times := t :: q.times }
  | .random, n => if secrets.urlsafe n = token then { q with drew := true } else q
  | _, _ => q

/-- The methods that neither use the token up nor revoke it handle it so. -/
def protocol : Protocol RedisCall RedisCall.Answer Handling := fun q c ans q' =>
  q.Permits codec kind token c ∧ q' = q.next secrets kind token c ans

end Handling

section Commands
variable {codec : Codec} {secrets : Secrets} {kind : TokenKind} {token : String} {α : Type}
  {good : Handling → Except SessionError α → Prop} {q : Handling}

/-- A record was read, which may be that of the secret. -/
structure Handling.Read (kind : TokenKind) (token : String) (q : Handling) (name : String) (answer : Option Json)
    (q' : Handling) : Prop where
  wrote : q'.wrote = q.wrote
  here : name = (kind.key token).name → answer ∈ q'.found
  still : ∀ earlier ∈ q.found, earlier ∈ q'.found
  times : q'.times = q.times

theorem get_handles {name : String} {f : Option Json → SessionM α}
    (rest : ∀ answer q', Handling.Read kind token q name answer q' →
      (f answer).Follows (Handling.protocol codec secrets kind token) good q') :
    (redisGet name >>= f).Follows (Handling.protocol codec secrets kind token) good q := by
  refine Program.follows_ask_bind.mpr fun answer => ⟨_, ⟨trivial, rfl⟩, rest answer _ ?_⟩
  dsimp only [Handling.next]
  split
  · exact ⟨rfl, fun _ => List.mem_cons_self, fun _ earlier => List.mem_cons_of_mem _ earlier, rfl⟩
  · rename_i other
    exact ⟨rfl, fun named => absurd named other, fun _ earlier => earlier, rfl⟩

/-- A method reads on. -/
structure Handling.More (q q' : Handling) : Prop where
  wrote : q'.wrote = q.wrote
  still : ∀ earlier ∈ q.found, earlier ∈ q'.found
  times : q'.times = q.times

theorem time_handles {f : Rat → SessionM α}
    (rest : ∀ t, (f t).Follows (Handling.protocol codec secrets kind token) good { q with times := t :: q.times }) :
    (wallTime >>= f).Follows (Handling.protocol codec secrets kind token) good q :=
  Program.follows_ask_bind.mpr fun t => ⟨_, ⟨trivial, rfl⟩, rest t⟩

/-- A random value was drawn, which may be the secret. -/
structure Handling.Drawn (secrets : Secrets) (token : String) (q : Handling) (n : ℕ) (q' : Handling) : Prop where
  drew : secrets.urlsafe n = token → q'.drew = true
  still : q.drew = true → q'.drew = true
  wrote : q'.wrote = q.wrote
  found : q'.found = q.found
  times : q'.times = q.times

theorem random_handles {f : ℕ → SessionM α}
    (rest : ∀ n q', Handling.Drawn secrets token q n q' →
      (f n).Follows (Handling.protocol codec secrets kind token) good q') :
    (randomBits >>= f).Follows (Handling.protocol codec secrets kind token) good q := by
  refine Program.follows_ask_bind.mpr fun n => ⟨_, ⟨trivial, rfl⟩, rest n _ ?_⟩
  dsimp only [Handling.next]
  split
  · exact ⟨fun _ => rfl, fun _ => rfl, rfl, rfl, rfl⟩
  · rename_i other
    exact ⟨fun same => absurd same other, id, rfl, rfl, rfl⟩

theorem delete_handles {name : String} {f : Unit → SessionM α} (permits : q.Permits codec kind token (.delete name))
    (rest : (f ()).Follows (Handling.protocol codec secrets kind token) good q) :
    (redisDelete name >>= f).Follows (Handling.protocol codec secrets kind token) good q :=
  Program.follows_ask_bind.mpr fun _ => ⟨_, ⟨permits, rfl⟩, rest⟩

/-- A record was set, which may be that of the secret. -/
structure Handling.Stored (kind : TokenKind) (token : String) (q : Handling) (name : String) (raw : Json)
    (q' : Handling) : Prop where
  drew : q'.drew = q.drew
  here : name = (kind.key token).name → q'.wrote = some raw
  elsewhere : name ≠ (kind.key token).name → q'.wrote = q.wrote
  times : q'.times = q.times

theorem set_handles {name : String} {raw : Json} {ex : Option Int} {f : Unit → SessionM α}
    (permits : q.Permits codec kind token (.set name raw ex)) (raises : ∀ message, good q (.error (.redis message)))
    (rest : ∀ q', Handling.Stored kind token q name raw q' →
      (f ()).Follows (Handling.protocol codec secrets kind token) good q') :
    (redisSet name raw ex >>= f).Follows (Handling.protocol codec secrets kind token) good q := by
  rw [redisSet, Program.bind_assoc]
  refine Program.follows_ask_bind.mpr fun answer => ⟨_, ⟨permits, rfl⟩, ?_⟩
  cases answer with
  | error message => exact raises message
  | ok done =>
    refine rest _ ?_
    dsimp only [Handling.next]
    split
    · rename_i named
      exact ⟨rfl, fun _ => rfl, fun other => absurd named other, rfl⟩
    · rename_i other
      exact ⟨rfl, fun named => absurd named other, fun _ => rfl, rfl⟩

/-- A refresh token is taken out: it is read, and deleted if it was there. -/
theorem pop_handles {t : String} {f : Option (RefreshToken × TokenLink) → SessionM α}
    (permits : ∀ q', q.More q' → q'.Permits codec kind token (.delete (refreshPrefix ++ t)))
    (raises : ∀ q', q.More q' → ∀ e, good q' (.error e))
    (rest : ∀ q', q.More q' → ∀ found, (f found).Follows (Handling.protocol codec secrets kind token) good q') :
    (RedisRefreshRegistry.pop codec t >>= f).Follows (Handling.protocol codec secrets kind token) good q := by
  rw [RedisRefreshRegistry.pop, Program.bind_assoc]
  refine get_handles fun answer q' read => ?_
  have more : q.More q' := ⟨read.wrote, read.still, read.times⟩
  cases answer with
  | none => exact rest q' more none
  | some raw =>
    dsimp only
    rw [Program.bind_assoc]
    refine delete_handles (permits q' more) ?_
    cases refreshFromJson codec raw with
    | none => exact raises q' more .foreign
    | some found => exact rest q' more (some found)

end Commands

/-! ### The methods -/

theorem truncate_intCast (n : Int) : truncate (n : Rat) = n := by
  simp [truncate, Rat.floor_intCast, Rat.ceil_intCast]

theorem le_of_lt_truncate {n : Int} {q : Rat} (lt : n < truncate q) : (n : Rat) < q := by
  rw [truncate] at lt
  split at lt
  · exact (Int.cast_lt.mpr lt).trans_le (Rat.le_floor_iff.mp le_rfl)
  · exact Rat.lt_ceil_iff.mp lt

section Issue
variable {codec : Codec} {secrets : Secrets} {kind : TokenKind} {token : String} {q : Handling}
  {good : Handling → Except SessionError OAuthToken → Prop} (client : OAuthClient) (pair : OAuthToken)

/-- The method wrote the record of this token of this pair. -/
def Handling.Wrote (codec : Codec) (kind : TokenKind) (client : OAuthClient) (pair : OAuthToken) (q : Handling) :
    Prop :=
  ∃ raw, q.wrote = some raw ∧ ∃ t ∈ q.times, kind.Issued codec client pair t raw

theorem put_access_handles {link : TokenLink} {f : Unit → SessionM OAuthToken} {t : Rat} (told : t ∈ q.times)
    (drew : pair.accessToken = token → q.drew = true) (fresh : q.wrote = none)
    (raises : ∀ q e, good q (.error e)) (expires : link.expiresAt = some ((truncate t + accessTtl : Int) : Rat))
    (scope : String.intercalate " " link.scopes = pair.scope)
    (rest : ∀ q', (q.drew = true → q'.drew = true) →
      (kind = .access → pair.accessToken = token → q'.Wrote codec kind client pair) →
      (kind = .refresh → q'.wrote = none) → (f ()).Follows (Handling.protocol codec secrets kind token) good q') :
    (RedisTokenStore.put codec pair.accessToken link >>= f).Follows
      (Handling.protocol codec secrets kind token) good q := by
  have named := TokenKind.key_eq_iff .access kind pair.accessToken token
  rw [RedisTokenStore.put, Program.bind_assoc]
  refine random_handles fun iv q₁ drawn => ?_
  rw [Program.bind_assoc]
  refine time_handles fun now => set_handles (fun same => ?_) (fun _ => raises _ _) fun q₂ stored => ?_
  · obtain ⟨rfl, own⟩ := named.mp same
    have expiry : TokenKind.expiry codec (linkToJson codec iv link) .access =
        some ((truncate t + accessTtl : Int) : Rat) := by
      rw [TokenKind.expiry, linkFromJson_linkToJson, Option.bind_some, expires]
    refine ⟨drawn.still (drew own), drawn.wrote.trans fresh, t, ?_, now, List.mem_cons_self, expiry, ?_⟩
    · exact List.mem_cons_of_mem _ (drawn.times ▸ told)
    · rw [expiry, expires]
  · refine rest q₂ (fun drew => stored.drew.trans (drawn.still drew)) ?_ ?_
    · rintro rfl same
      refine ⟨_, stored.here (named.mpr ⟨rfl, same⟩), t, ?_, link, linkFromJson_linkToJson _ _, scope, expires⟩
      rw [stored.times]
      exact List.mem_cons_of_mem _ (drawn.times ▸ told)
    · rintro rfl
      refine (stored.elsewhere fun same => ?_).trans (drawn.wrote.trans fresh)
      cases (named.mp same).1

theorem put_refresh_handles {link : TokenLink} {f : Unit → SessionM OAuthToken} {t : Rat} {scopes : List String}
    (told : t ∈ q.times) (drew : pair.refreshToken = token → q.drew = true)
    (wrote : kind = .access → pair.accessToken = token → q.Wrote codec kind client pair)
    (fresh : kind = .refresh → q.wrote = none) (raises : ∀ q e, good q (.error e))
    (scope : String.intercalate " " scopes = pair.scope)
    (rest : ∀ q', (kind.of pair = token → q'.Wrote codec kind client pair) →
      (f ()).Follows (Handling.protocol codec secrets kind token) good q') :
    (RedisRefreshRegistry.put codec ⟨pair.refreshToken, client.clientId, scopes, some (truncate t + refreshTtl)⟩ link
      >>= f).Follows (Handling.protocol codec secrets kind token) good q := by
  have named := TokenKind.key_eq_iff .refresh kind pair.refreshToken token
  rw [RedisRefreshRegistry.put, Program.bind_assoc]
  refine random_handles fun iv q₁ drawn => ?_
  rw [Program.bind_assoc]
  refine time_handles fun now => set_handles (fun same => ?_)
    (fun _ => raises _ _) fun q₂ stored => rest q₂ fun same => ?_
  · obtain ⟨rfl, own⟩ := named.mp same
    have expiry : TokenKind.expiry codec (refreshToJson codec iv
        ⟨pair.refreshToken, client.clientId, scopes, some (truncate t + refreshTtl)⟩ link) .refresh =
        some ((truncate t + refreshTtl : Int) : Rat) := by
      rw [TokenKind.expiry, refreshFromJson_refreshToJson]
      rfl
    refine ⟨drawn.still (drew own), drawn.wrote.trans (fresh rfl), t, ?_, now, List.mem_cons_self, expiry, ?_⟩
    · exact List.mem_cons_of_mem _ (drawn.times ▸ told)
    · rw [expiry]
      rfl
  · have times : ∀ t ∈ q.times, t ∈ q₂.times := by
      rw [stored.times]
      exact fun t told => List.mem_cons_of_mem _ (drawn.times ▸ told)
    cases kind with
    | access =>
      obtain ⟨raw, held, t, told, issued⟩ := wrote rfl same
      refine ⟨raw, ?_, t, times t told, issued⟩
      exact (stored.elsewhere fun same => by cases (named.mp same).1).trans (drawn.wrote.trans held)
    | refresh =>
      exact ⟨_, stored.here (named.mpr ⟨rfl, same⟩), t, times t told, scopes, link, scope,
        refreshFromJson_refreshToJson _ _ _⟩

/-- A pair is issued: both secrets are drawn, and a record is set under each. -/
theorem issue_handles (link : TokenLink) (scopes : List String) (fresh : q.wrote = none)
    (raises : ∀ q e, good q (.error e))
    (ends : ∀ q pair, (kind.of pair = token → q.Wrote codec kind client pair) → good q (.ok pair)) :
    (OnRedis.issue codec secrets client link scopes).Follows (Handling.protocol codec secrets kind token) good q := by
  refine random_handles fun first q₁ drawn₁ => random_handles fun second q₂ drawn₂ => time_handles fun t => ?_
  let pair : OAuthToken :=
    { accessToken := secrets.urlsafe first, tokenType := "Bearer", expiresIn := accessTtl
      scope := String.intercalate " " scopes, refreshToken := secrets.urlsafe second }
  refine put_access_handles client pair List.mem_cons_self (fun same => drawn₂.still (drawn₁.drew same))
    (drawn₂.wrote.trans (drawn₁.wrote.trans fresh)) raises rfl rfl fun q₃ still wrote unwritten => ?_
  refine time_handles fun t' => put_refresh_handles client pair List.mem_cons_self
    (fun same => still (drawn₂.drew same)) (fun access same => ?_) unwritten raises rfl fun q₄ both => ends q₄ pair both
  obtain ⟨raw, held, t, told, issued⟩ := wrote access same
  exact ⟨raw, held, t, List.mem_cons_of_mem _ told, issued⟩

end Issue

namespace SessionRequest

/-- The client that a pair is issued to. -/
def exchanges : SessionRequest → Option OAuthClient
  | .exchangeAuthorizationCode _ client _ => some client
  | .exchangeRefreshToken client _ _ => some client
  | _ => none

/-- The request uses the token up, or revokes it. -/
def Takes : SessionRequest → TokenKind → String → Prop
  | .exchangeRefreshToken _ rt _, kind, token => kind = .refresh ∧ rt.token = token
  | .revokeToken revoked, _, token => revoked = token
  | _, _, _ => False

instance (request : SessionRequest) (kind : TokenKind) (token : String) : Decidable (request.Takes kind token) := by
  unfold Takes
  split <;> infer_instance

/-- How a request ends, by what it did about the token. -/
structure Ended (codec : Codec) (kind : TokenKind) (token : String) (request : SessionRequest) (q : Handling)
    (r : Except SessionError SessionReply) : Prop where
  issued : ∀ client pair, request.exchanges = some client → r = .ok (.pair pair) → kind.of pair = token →
    q.Wrote codec kind client pair
  loaded : request = kind.load token → none ∈ q.found ∨ ∃ raw, some raw ∈ q.found ∧
    ((∃ ends, kind.expiry codec raw = some ends ∧ ∃ t ∈ q.times, ends ≤ t) ∨
      r = (kind.reads codec token raw).elim (.error .foreign) .ok)

end SessionRequest

section Requests
variable {codec : Codec} {secrets : Secrets} {kind : TokenKind} {token : String}

/-- The records of clients and runs are not those of tokens. -/
theorem key_apart (k : Key) (noToken : ∀ t, k ≠ .token t) (noRefresh : ∀ t, k ≠ .refresh t)
    (named : k.name = (kind.key token).name) : False := by
  have same := Key.name_injective named
  cases kind with
  | access => exact noToken token same
  | refresh => exact noRefresh token same

theorem ended_load {request : SessionRequest} {q : Handling} {r : Except SessionError SessionReply}
    (idle : request.exchanges = none)
    (loaded : request = kind.load token → none ∈ q.found ∨ ∃ raw, some raw ∈ q.found ∧
      ((∃ ends, kind.expiry codec raw = some ends ∧ ∃ t ∈ q.times, ends ≤ t) ∨
        r = (kind.reads codec token raw).elim (.error .foreign) .ok)) : request.Ended codec kind token q r where
  issued := by
    intro client pair exchanges
    rw [idle] at exchanges
    cases exchanges
  loaded := loaded

theorem ended_idle {request : SessionRequest} (idle : request.exchanges = none) (other : request ≠ kind.load token)
    (q : Handling) (r : Except SessionError SessionReply) : request.Ended codec kind token q r :=
  ended_load idle fun same => absurd same other

theorem ended_failed {request : SessionRequest} (other : request ≠ kind.load token) (q : Handling) (e : SessionError) :
    request.Ended codec kind token q (.error e) where
  issued := fun _ _ _ absurd => by cases absurd
  loaded := fun same => absurd same other

theorem loadAccess_handles (t : String) : ((SessionRequest.loadAccessToken t).program codec secrets).Follows
    (Handling.protocol codec secrets kind token) ((SessionRequest.loadAccessToken t).Ended codec kind token) {} := by
  have named : SessionRequest.loadAccessToken t = kind.load token → tokenPrefix ++ t = (kind.key token).name := by
    intro same
    cases kind <;> cases same
    rfl
  unfold SessionRequest.program OnRedis.loadAccessToken RedisTokenStore.get
  simp only [Program.bind_assoc]
  refine get_handles fun answer q read => ?_
  cases answer with
  | none => exact ended_load rfl fun same => .inl (read.here (named same))
  | some raw =>
    cases wrote : linkFromJson codec raw with
    | none =>
      simp only [wrote]
      refine ended_load rfl fun same => .inr ⟨raw, read.here (named same), .inr ?_⟩
      cases kind <;> cases same
      simp [TokenKind.reads, wrote]
    | some link =>
      simp only [wrote, decoded, Option.elim_some, Program.ofExcept, Program.leaf_bind]
      refine time_handles fun now => ?_
      dsimp only [Program.bind]
      split
      · rename_i late
        have elapsed (same : kind = .access) : ∃ ends, kind.expiry codec raw = some ends ∧ ends ≤ now := by
          subst same
          unfold TokenLink.isExpired at late
          split at late
          · cases late
          · rename_i ends expires
            exact ⟨ends, by simp [TokenKind.expiry, wrote, expires], of_decide_eq_true late⟩
        simp only [RedisTokenStore.revoke]
        refine delete_handles (fun under => ?_) (ended_load rfl fun same => .inr ⟨raw, read.here (named same), .inl ?_⟩)
        · obtain ⟨rfl, -⟩ := (TokenKind.key_eq_iff .access kind t token).mp under
          obtain ⟨ends, expiry, le⟩ := elapsed rfl
          exact ⟨raw, read.here under, now, List.mem_cons_self, ends, expiry, le⟩
        · obtain ⟨rfl, -⟩ := (TokenKind.key_eq_iff .access kind t token).mp (named same)
          obtain ⟨ends, expiry, le⟩ := elapsed rfl
          exact ⟨ends, expiry, now, List.mem_cons_self, le⟩
      · refine ended_load rfl fun same => .inr ⟨raw, read.here (named same), .inr ?_⟩
        cases kind <;> cases same
        simp [TokenKind.reads, wrote]

theorem loadRefresh_handles (t : String) : ((SessionRequest.loadRefreshToken t).program codec secrets).Follows
    (Handling.protocol codec secrets kind token) ((SessionRequest.loadRefreshToken t).Ended codec kind token) {} := by
  have named : SessionRequest.loadRefreshToken t = kind.load token → refreshPrefix ++ t = (kind.key token).name := by
    intro same
    cases kind <;> cases same
    rfl
  unfold SessionRequest.program OnRedis.loadRefreshToken RedisRefreshRegistry.get
  simp only [Program.bind_assoc]
  refine get_handles fun answer q read => ?_
  cases answer with
  | none => exact ended_load rfl fun same => .inl (read.here (named same))
  | some raw =>
    cases wrote : refreshFromJson codec raw with
    | none =>
      simp only [wrote]
      refine ended_load rfl fun same => .inr ⟨raw, read.here (named same), .inr ?_⟩
      cases kind <;> cases same
      simp [TokenKind.reads, wrote]
    | some found =>
      obtain ⟨rt, link⟩ := found
      have loads (q' : Handling) (still : ∀ earlier ∈ q.found, earlier ∈ q'.found) :
          (SessionRequest.loadRefreshToken t).Ended codec kind token q' (.ok (.refresh (some rt))) := by
        refine ended_load rfl fun same => .inr ⟨raw, still _ (read.here (named same)), .inr ?_⟩
        cases kind <;> cases same
        simp [TokenKind.reads, wrote]
      simp only [wrote, decoded, Option.elim_some, Program.ofExcept, Program.leaf_bind, Program.pure_bind]
      cases expires : rt.expiresAt with
      | none => exact loads q fun _ earlier => earlier
      | some limit =>
        simp only [Program.bind_assoc]
        refine time_handles fun now => ?_
        split
        · rename_i late
          have elapsed (same : kind = .refresh) : ∃ ends, kind.expiry codec raw = some ends ∧ ends ≤ now := by
            subst same
            exact ⟨limit, by simp [TokenKind.expiry, wrote, expires], (le_of_lt_truncate late).le⟩
          have ended {q' : Handling} (more : Handling.More { q with times := now :: q.times } q')
              (r : Except SessionError SessionReply) :
              (SessionRequest.loadRefreshToken t).Ended codec kind token q' r := by
            refine ended_load rfl fun same => .inr ⟨raw, more.still _ (read.here (named same)), .inl ?_⟩
            obtain ⟨rfl, -⟩ := (TokenKind.key_eq_iff .refresh kind t token).mp (named same)
            obtain ⟨ends, expiry, le⟩ := elapsed rfl
            exact ⟨ends, expiry, now, more.times ▸ List.mem_cons_self, le⟩
          -- it is read again before it is deleted, and may be gone by then
          rw [Program.bind_assoc]
          refine pop_handles (fun q' more under => ?_) (fun q' more e => ended more _) fun q' more _ => ended more _
          obtain ⟨rfl, -⟩ := (TokenKind.key_eq_iff .refresh kind t token).mp under
          obtain ⟨ends, expiry, le⟩ := elapsed rfl
          exact ⟨raw, more.still _ (read.here under), now, more.times ▸ List.mem_cons_self, ends, expiry, le⟩
        · exact loads _ fun _ earlier => earlier

/-- A pair that is issued ends an exchange as it should. -/
theorem exchange_handles {request : SessionRequest} {client : OAuthClient} (idle : request ≠ kind.load token)
    (own : request.exchanges = some client) {q : Handling} (fresh : q.wrote = none) (link : TokenLink)
      (scopes : List String) :
    (OnRedis.issue codec secrets client link scopes >>= fun pair => pure (.pair pair)).Follows
      (Handling.protocol codec secrets kind token) (request.Ended codec kind token) q := by
  refine Program.follows_bind.mpr (issue_handles client link scopes fresh (fun q e => ?_) fun q pair wrote => ?_)
  · exact ended_failed idle q e
  · refine ⟨fun client' pair' same answer of => ?_, fun same => absurd same idle⟩
    cases own.symm.trans same
    cases answer
    exact wrote of

theorem exchangeRefresh_handles (client : OAuthClient) (rt : RefreshToken) (scopes : List String)
    (spared : ¬ (SessionRequest.exchangeRefreshToken client rt scopes).Takes kind token) :
    ((SessionRequest.exchangeRefreshToken client rt scopes).program codec secrets).Follows
      (Handling.protocol codec secrets kind token)
      ((SessionRequest.exchangeRefreshToken client rt scopes).Ended codec kind token) {} := by
  have idle : SessionRequest.exchangeRefreshToken client rt scopes ≠ kind.load token := by cases kind <;> nofun
  unfold SessionRequest.program OnRedis.exchangeRefreshToken
  dsimp only
  rw [Program.bind_assoc]
  refine pop_handles (fun q _ named => ?_) (fun q _ e => ended_failed idle q e) fun q more found => ?_
  · obtain ⟨rfl, same⟩ := (TokenKind.key_eq_iff .refresh kind rt.token token).mp named
    exact (spared ⟨rfl, same⟩).elim
  · cases found with
    | none => exact ended_failed idle q _
    | some found =>
      dsimp only
      cases effectiveScopes (if scopes.isEmpty then rt.scopes else scopes) found.2.scopes with
      | error e => exact ended_failed idle q _
      | ok granted => exact exchange_handles idle rfl more.wrote found.2 granted

theorem revoke_handles (t : String) (spared : ¬ (SessionRequest.revokeToken t).Takes kind token) :
    ((SessionRequest.revokeToken t).program codec secrets).Follows (Handling.protocol codec secrets kind token)
      ((SessionRequest.revokeToken t).Ended codec kind token) {} := by
  have idle := @ended_idle codec kind token (.revokeToken t) rfl (by cases kind <;> nofun)
  -- it deletes under both kinds of key, whatever kind the token is of
  have other (k : TokenKind) : (k.key t).name ≠ (kind.key token).name :=
    fun named => spared ((TokenKind.key_eq_iff k kind t token).mp named).2
  unfold SessionRequest.program OnRedis.revokeToken
  dsimp only
  split
  · exact idle _ _
  · simp only [RedisTokenStore.revoke, Program.bind_assoc]
    refine delete_handles (fun named => (other .access named).elim) ?_
    exact pop_handles (fun q _ named => (other .refresh named).elim) (fun q _ e => idle _ _) fun q _ _ => idle _ _

theorem request_handles {request : SessionRequest} (spared : ¬ request.Takes kind token) :
    (request.program codec secrets).Follows (Handling.protocol codec secrets kind token)
      (request.Ended codec kind token) {} := by
  cases request with
  | registerClient client =>
    have idle := @ended_idle codec kind token (.registerClient client) rfl (by cases kind <;> nofun)
    refine set_handles (fun named => ?_) (fun _ => idle _ _) fun _ _ => idle _ _
    exact (key_apart (.client client.clientId) (by nofun) (by nofun) named).elim
  | getClient clientId =>
    have idle := @ended_idle codec kind token (.getClient clientId) rfl (by cases kind <;> nofun)
    unfold SessionRequest.program OnRedis.getClient RedisClientRegistry.get
    dsimp only
    rw [Program.bind_assoc]
    refine get_handles fun answer q _ => ?_
    cases answer with
    | none => exact idle _ _
    | some raw =>
      dsimp only
      cases codec.validateClient raw <;> exact idle _ _
  | exchangeAuthorizationCode process client code =>
    unfold SessionRequest.program OnRedis.exchangeAuthorizationCode
    dsimp only
    cases Dict.get? process.codeIdentity code.code with
    | none => exact ended_failed (by cases kind <;> nofun) _ _
    | some link => exact exchange_handles (by cases kind <;> nofun) rfl rfl link code.scopes
  | loadRefreshToken t => exact loadRefresh_handles t
  | exchangeRefreshToken client rt scopes => exact exchangeRefresh_handles client rt scopes spared
  | loadAccessToken t => exact loadAccess_handles t
  | revokeToken t => exact revoke_handles t spared
  | getRun key =>
    have idle := @ended_idle codec kind token (.getRun key) rfl (by cases kind <;> nofun)
    unfold SessionRequest.program RedisIdempotencyStore.get
    dsimp only
    rw [Program.bind_assoc]
    refine get_handles fun answer q _ => ?_
    cases answer <;> exact idle _ _
  | putRun key runId ttl =>
    have idle := @ended_idle codec kind token (.putRun key runId ttl) rfl (by cases kind <;> nofun)
    refine set_handles (fun named => ?_) (fun _ => idle _ _) fun _ _ => idle _ _
    exact (key_apart (.idem key) (by nofun) (by nofun) named).elim

end Requests

/-! ### Any number of methods -/

/-- How a token stands: one method at most drew its secret, and the record that it set is the only one, which is
there until it ends. -/
structure Custody {ι : Type} (codec : Codec) (secrets : Secrets) (kind : TokenKind) (token : String)
    (log : Schedule ι RedisCall RedisCall.Answer Redis) (phases : ι → Handling) (r : Redis) : Prop where
  told : ∀ i, ∀ t ∈ (phases i).times, t ≤ r.now ∧ ∃ s, (i, ⟨s, .time, t⟩) ∈ log
  single : ∀ i j, (phases i).drew = true → (phases j).drew = true → i = j
  drawn : ∀ i, (phases i).drew = true → ∃ n < r.drawn, secrets.urlsafe n = token
  drew : ∀ i raw, (phases i).wrote = some raw → (phases i).drew = true
  found : ∀ i raw, some raw ∈ (phases i).found → ∃ j, (phases j).wrote = some raw
  held : ∀ raw limit, Dict.get? r.entries (kind.key token).name = some (raw, limit) → ∃ j, (phases j).wrote = some raw
  stands : ∀ i raw, (phases i).wrote = some raw → ∃ ends, kind.expiry codec raw = some ends ∧ (ends ≤ r.now ∨
    ∃ limit, Dict.get? r.entries (kind.key token).name = some (raw, limit) ∧ ∀ l ∈ limit, ends - 1 < l)

namespace Custody
variable {ι : Type} {codec : Codec} {secrets : Secrets} {kind : TokenKind} {token : String} {start : Rat}
  {log : Schedule ι RedisCall RedisCall.Answer Redis} {phases : ι → Handling} {r r' : Redis} {i j : ι}

theorem first : Custody codec secrets kind token ([] : Schedule ι RedisCall RedisCall.Answer Redis)
    (fun _ => {}) { now := start } where
  told := nofun
  single := nofun
  drawn := nofun
  drew := nofun
  found := nofun
  held := nofun
  stands := nofun

theorem same_record (custody : Custody codec secrets kind token log phases r) {raw raw' : Json}
    (wrote : (phases i).wrote = some raw) (wrote' : (phases j).wrote = some raw') : raw = raw' := by
  obtain rfl := custody.single i j (custody.drew i raw wrote) (custody.drew j raw' wrote')
  exact Option.some.inj (wrote.symm.trans wrote')

/-- Time passes, and others draw random values. -/
theorem waits (custody : Custody codec secrets kind token log phases r)
    (entry : Dict.get? r'.entries (kind.key token).name = Dict.get? r.entries (kind.key token).name)
    (now : r.now ≤ r'.now) (drawn : r.drawn ≤ r'.drawn) : Custody codec secrets kind token log phases r' where
  told := fun i t told => ⟨(custody.told i t told).1.trans now, (custody.told i t told).2⟩
  single := custody.single
  drawn := fun i drew => by
    obtain ⟨n, lt, same⟩ := custody.drawn i drew
    exact ⟨n, lt.trans_le drawn, same⟩
  drew := custody.drew
  found := custody.found
  held := fun raw limit read => custody.held raw limit (entry ▸ read)
  stands := fun i raw wrote => by
    obtain ⟨ends, expiry, elapsed | here⟩ := custody.stands i raw wrote
    · exact ⟨ends, expiry, .inl (elapsed.trans now)⟩
    · exact ⟨ends, expiry, .inr (entry ▸ here)⟩

theorem logged (custody : Custody codec secrets kind token log phases r)
    (turn : ι × Event RedisCall RedisCall.Answer Redis) : Custody codec secrets kind token
      (log ++ [turn]) phases r where
  told := fun i t told => by
    obtain ⟨le, s, member⟩ := custody.told i t told
    exact ⟨le, s, List.mem_append_left _ member⟩
  single := custody.single
  drawn := custody.drawn
  drew := custody.drew
  found := custody.found
  held := custody.held
  stands := custody.stands

/-- The record is deleted once its time has elapsed. -/
theorem deletes (custody : Custody codec secrets kind token log phases r) {raw : Json} {ends : Rat}
    (found : some raw ∈ (phases i).found) (expiry : kind.expiry codec raw = some ends) (elapsed : ends ≤ r.now) :
    Custody codec secrets kind token log phases (r.remove (kind.key token).name) where
  told := custody.told
  single := custody.single
  drawn := custody.drawn
  drew := custody.drew
  found := custody.found
  held := fun raw' limit read => by
    rw [Redis.get?_remove, if_pos rfl] at read
    cases read
  stands := fun j raw' wrote => by
    obtain ⟨k, wrote'⟩ := custody.found i raw found
    obtain rfl := custody.same_record wrote' wrote
    exact ⟨ends, expiry, .inl elapsed⟩

variable [DecidableEq ι] {q : Handling}

/-- What a turn leaves of the handling of whoever takes it. -/
theorem update_same {β : Type} (part : Handling → β) (same : part q = part (phases i)) (j : ι) :
    part (Function.update phases i q j) = part (phases j) := by
  by_cases here : j = i
  · subst here
    rw [Function.update_self, same]
  · rw [Function.update_of_ne here]

/-- A turn that neither draws the secret nor touches its record. -/
theorem quiet (custody : Custody codec secrets kind token log phases r) (drew : q.drew = (phases i).drew)
    (wrote : q.wrote = (phases i).wrote)
    (found : ∀ raw, some raw ∈ q.found → some raw ∈ (phases i).found ∨
      ∃ limit, Dict.get? r.entries (kind.key token).name = some (raw, limit))
    (times : ∀ t ∈ q.times, t ∈ (phases i).times ∨ t ≤ r.now ∧ ∃ s, (i, ⟨s, .time, t⟩) ∈ log) :
    Custody codec secrets kind token log (Function.update phases i q) r := by
  have drawer := update_same Handling.drew drew
  have writer := update_same Handling.wrote wrote
  constructor
  · intro j t told
    by_cases same : j = i
    · subst same
      rw [Function.update_self] at told
      exact (times t told).elim (custody.told j t) id
    · rw [Function.update_of_ne same] at told
      exact custody.told j t told
  · simp only [drawer]
    exact custody.single
  · simp only [drawer]
    exact custody.drawn
  · simp only [drawer, writer]
    exact custody.drew
  · simp only [writer]
    intro j raw member
    by_cases same : j = i
    · subst same
      rw [Function.update_self] at member
      exact (found raw member).elim (custody.found j raw) fun ⟨limit, read⟩ => custody.held raw limit read
    · rw [Function.update_of_ne same] at member
      exact custody.found j raw member
  · simp only [writer]
    exact custody.held
  · simp only [writer]
    exact custody.stands

/-- The secret is drawn: by nobody else, before or after. -/
theorem draws (custody : Custody codec secrets kind token log phases r) (same : secrets.urlsafe r.drawn = token) :
    Custody codec secrets kind token log (Function.update phases i { phases i with drew := true })
      { r with drawn := r.drawn + 1 } := by
  -- who drew the secret before drew another number
  have nobody (j : ι) : (phases j).drew = false := by
    refine Bool.eq_false_iff.mpr fun drew => ?_
    obtain ⟨n, lt, named⟩ := custody.drawn j drew
    exact lt.ne (secrets.never_repeats (named.trans same.symm))
  have unwritten (j : ι) (raw : Json) : (phases j).wrote ≠ some raw := fun wrote => by
    cases (nobody j).symm.trans (custody.drew j raw wrote)
  have drawer (j : ι) (drew : (Function.update phases i { phases i with drew := true } j).drew = true) : j = i := by
    by_contra other
    rw [Function.update_of_ne other, nobody j] at drew
    cases drew
  have writer := @update_same ι phases i _ { phases i with drew := true } _ Handling.wrote rfl
  have finder := @update_same ι phases i _ { phases i with drew := true } _ Handling.found rfl
  have teller := @update_same ι phases i _ { phases i with drew := true } _ Handling.times rfl
  constructor
  · simp only [teller]
    exact custody.told
  · exact fun j k drew drew' => (drawer j drew).trans (drawer k drew').symm
  · exact fun _ _ => ⟨r.drawn, Nat.lt_succ_self _, same⟩
  · exact fun j raw wrote => absurd ((writer j).symm.trans wrote) (unwritten j raw)
  · simp only [finder, writer]
    exact custody.found
  · simp only [writer]
    exact custody.held
  · exact fun j raw wrote => absurd ((writer j).symm.trans wrote) (unwritten j raw)

/-- The record is set, by who drew the secret. -/
theorem stores (custody : Custody codec secrets kind token log phases r) {raw : Json} {ends t : Rat}
    (drew : (phases i).drew = true) (fresh : (phases i).wrote = none) (told : t ∈ (phases i).times)
    (expiry : kind.expiry codec raw = some ends) :
    Custody codec secrets kind token log (Function.update phases i { phases i with wrote := some raw })
      (r.store (kind.key token).name raw (ttlFrom (kind.expiry codec raw) t)) := by
  rw [expiry]
  have unwritten (j : ι) (raw' : Json) : (phases j).wrote ≠ some raw' := fun wrote => by
    obtain rfl := custody.single i j drew (custody.drew j raw' wrote)
    cases fresh.symm.trans wrote
  have drawer := @update_same ι phases i _ { phases i with wrote := some raw } _ Handling.drew rfl
  have finder := @update_same ι phases i _ { phases i with wrote := some raw } _ Handling.found rfl
  have teller := @update_same ι phases i _ { phases i with wrote := some raw } _ Handling.times rfl
  have writer {j : ι} {raw' : Json} (wrote : (Function.update phases i { phases i with wrote := some raw } j).wrote =
      some raw') : j = i ∧ raw' = raw := by
    by_cases same : j = i
    · subst same
      rw [Function.update_self] at wrote
      exact ⟨rfl, (Option.some.inj wrote).symm⟩
    · rw [Function.update_of_ne same] at wrote
      exact absurd wrote (unwritten j raw')
  constructor
  · simp only [teller]
    exact custody.told
  · simp only [drawer]
    exact custody.single
  · simp only [drawer]
    exact custody.drawn
  · intro j raw' wrote
    rw [drawer, (writer wrote).1]
    exact drew
  · intro j raw' member
    rw [finder] at member
    obtain ⟨k, wrote⟩ := custody.found j raw' member
    exact absurd wrote (unwritten k raw')
  · intro raw' limit read
    rw [Redis.get?_store, if_pos rfl] at read
    cases read
    exact ⟨i, by rw [Function.update_self]⟩
  · intro j raw' wrote
    obtain ⟨rfl, rfl⟩ := writer wrote
    refine ⟨ends, expiry, .inr ⟨_, (Redis.get?_store _ _ _ _ _).trans (if_pos rfl), ?_⟩⟩
    -- the time it is set for was read at `t`, and time has passed since
    intro l lasts
    obtain ⟨n, ttl, rfl⟩ := Option.mem_map.mp lasts
    obtain ⟨-, limit, same, -, lt⟩ := ttlFrom_some ttl
    cases same
    have le := (custody.told j t told).1
    linarith

theorem kept (custody : Custody codec secrets kind token log phases r) :
    Custody codec secrets kind token log (Function.update phases i (phases i)) r := by
  rwa [Function.update_eq_self]

theorem turn (custody : Custody codec secrets kind token log phases r) {c : RedisCall} {ans : c.Answer}
    (handles : Handling.protocol codec secrets kind token (phases i) c ans q) (step : Redis.commands r c ans r') :
    Custody codec secrets kind token (log ++ [(i, ⟨r, c, ans⟩)]) (Function.update phases i q) r' := by
  obtain ⟨now, drawn, waits, draws, stepped⟩ := step
  have later : Custody codec secrets kind token log phases { r with now, drawn } :=
    Custody.waits custody rfl waits draws
  have waited := later.logged (i, ⟨r, c, ans⟩)
  obtain ⟨permits, rfl⟩ := handles
  cases c with
  | get name =>
    cases stepped
    dsimp only [Handling.next]
    split
    · rename_i named
      refine waited.quiet rfl rfl (fun raw member => ?_) fun t told => .inl told
      rcases List.mem_cons.mp member with read | before
      · obtain ⟨limit, read, -⟩ := Redis.live_eq_some.mp read.symm
        exact .inr ⟨limit, named ▸ read⟩
      · exact .inl before
    · exact waited.kept
  | set name raw ex =>
    by_cases expires : Redis.Expires ex
    · rw [Redis.machine_set expires] at stepped
      cases stepped
      dsimp only [Handling.next]
      split
      · rename_i named
        subst named
        obtain ⟨drew, fresh, t, told, t', told', expiry, rfl⟩ := permits rfl
        exact waited.stores drew fresh told' expiry
      · rename_i other
        exact (waited.waits ((Redis.get?_store _ _ _ _ _).trans (if_neg other)) le_rfl le_rfl).kept
    · rw [Redis.machine_refuses expires] at stepped
      cases stepped
      exact waited.kept
  | delete name =>
    cases stepped
    by_cases named : name = (kind.key token).name
    · subst named
      obtain ⟨raw, found, t, told, ends, expiry, elapsed⟩ := permits rfl
      exact (waited.deletes found expiry (elapsed.trans (waited.told i t told).1)).kept
    · exact (waited.waits ((Redis.get?_remove _ _ _).trans (if_neg named)) le_rfl le_rfl).kept
  | time =>
    cases stepped
    refine waited.quiet rfl rfl (fun raw found => .inl found) fun t told => ?_
    rcases List.mem_cons.mp told with rfl | before
    · exact .inr ⟨le_rfl, r, List.mem_append_right _ List.mem_cons_self⟩
    · exact .inl before
  | random =>
    cases stepped
    dsimp only [Handling.next]
    split
    · rename_i same
      exact waited.draws same
    · have drawn' : Custody codec secrets kind token (log ++ [(i, ⟨r, .random, drawn⟩)]) phases
          { r with now, drawn := drawn + 1 } := Custody.waits waited rfl le_rfl (Nat.le_succ _)
      exact drawn'.kept

omit [DecidableEq ι] in
/-- Who finds nothing came late. -/
theorem missed (custody : Custody codec secrets kind token log phases r) {raw : Json} {ends : Rat}
    (wrote : (phases i).wrote = some raw) (expiry : kind.expiry codec raw = some ends)
    (step : Redis.commands r (.get (kind.key token).name) none r') : ends ≤ r'.now + 1 := by
  obtain ⟨now, drawn, waits, -, stepped⟩ := step
  have absent : Redis.live { r with now, drawn } (kind.key token).name = none := (congrArg Prod.fst stepped).symm
  obtain rfl : r' = { r with now, drawn } := congrArg Prod.snd stepped
  obtain ⟨limit, known, elapsed | ⟨limit', read, lasts⟩⟩ := custody.stands i raw wrote
  · cases expiry.symm.trans known
    linarith [elapsed.trans waits]
  · cases expiry.symm.trans known
    have lapsed := Redis.live_eq_none.mp absent raw limit' read
    cases limit' with
    | none => cases lapsed
    | some l =>
      have gone := of_decide_eq_true lapsed
      have bound := lasts l rfl
      linarith

/-- A method that has not begun forgets what it did not do. -/
theorem begins (custody : Custody codec secrets kind token log phases r) {raw : Json}
    (wrote : (phases i).wrote = some raw) (other : j ≠ i) :
    Custody codec secrets kind token log (Function.update phases j {}) r := by
  have drew : (phases j).drew = false := by
    refine Bool.eq_false_iff.mpr fun drew => other ?_
    exact custody.single j i drew (custody.drew i raw wrote)
  have unwritten : (phases j).wrote = none := by
    refine Option.eq_none_iff_forall_ne_some.mpr fun raw' wrote' => ?_
    cases drew.symm.trans (custody.drew j raw' wrote')
  exact custody.quiet drew.symm unwritten.symm nofun nofun

end Custody

/-! ### What any process answers -/

/-- What a load of a token of this pair answers, that was issued to this client at this time. -/
def TokenKind.Serves (client : OAuthClient) (pair : OAuthToken) (now : Rat) : TokenKind → SessionReply → Prop
  | .access, .access (some loaded) => loaded.token = pair.accessToken ∧
    String.intercalate " " loaded.scopes = pair.scope ∧ loaded.expiresAt = some (truncate now + accessTtl)
  | .refresh, .refresh (some loaded) => loaded.token = pair.refreshToken ∧ loaded.clientId = client.clientId ∧
    String.intercalate " " loaded.scopes = pair.scope ∧ loaded.expiresAt = some (truncate now + refreshTtl)
  | _, _ => False

section Processes
variable {ι : Type} [DecidableEq ι] {codec : Codec} {secrets : Secrets} {kind : TokenKind} {token : String}
  {requests : ι → SessionRequest} {start : Rat} {log log' : Schedule ι RedisCall RedisCall.Answer Redis}
  {p p' : Pool ι RedisCall RedisCall.Answer Redis SessionError SessionReply} {i j : ι} {client : OAuthClient}
    {pair : OAuthToken}
  {phases : ι → Handling} {good : ι → Handling → Except SessionError SessionReply → Prop}

theorem TokenKind.Issued.serves {now : Rat} {raw : Json} (issued : kind.Issued codec client pair now raw) :
    ∃ reply, kind.reads codec (kind.of pair) raw = some reply ∧ kind.Serves client pair now reply := by
  cases kind with
  | access =>
    obtain ⟨link, read, scope, expires⟩ := issued
    refine ⟨.access (some (link.accessToken pair.accessToken)), ?_, rfl, scope, ?_⟩
    · rw [TokenKind.reads, read]
      rfl
    · show link.expiresAt.map truncate = _
      rw [expires, Option.map_some, truncate_intCast]
  | refresh =>
    obtain ⟨scopes, link, scope, read⟩ := issued
    refine ⟨.refresh (some ⟨pair.refreshToken, client.clientId, scopes, some (truncate now + refreshTtl)⟩), ?_, rfl,
      rfl, scope, rfl⟩
    rw [TokenKind.reads, read]
    rfl

theorem custody_of_runs
    (runs : Pool.Runs Redis.commands (fun _ _ _ _ _ => True) (serving codec secrets requests start) log p)
    (spared : ∀ j, ¬ (requests j).Takes kind token) : ∃ phases, Custody codec secrets kind token log phases p.state ∧
      ∀ i, (p.programs i).Follows (Handling.protocol codec secrets kind token) ((requests i).Ended codec kind token)
        (phases i) :=
  runs.keeps (fun i => request_handles (spared i)) .first fun custody handles step => custody.turn handles step

theorem Redis.commands_now {r r' : Redis} {c : RedisCall} {ans : c.Answer} (step : Redis.commands r c ans r') :
    r.now ≤ r'.now := by
  obtain ⟨now, drawn, waits, -, stepped⟩ := step
  obtain rfl : r' = (Redis.machine { r with now, drawn } c).2 := congrArg Prod.snd stepped
  cases c with
  | set name raw ex =>
    unfold Redis.machine
    dsimp only
    split <;> exact waits
  | _ => exact waits

theorem Handling.missing_next {q q' : Handling} {c : RedisCall} {ans : c.Answer}
    (handles : Handling.protocol codec secrets kind token q c ans q') (missing : none ∈ q'.found) :
    none ∈ q.found ∨ (⟨c, ans⟩ : (c : RedisCall) × c.Answer) = ⟨.get (kind.key token).name, none⟩ := by
  obtain ⟨-, rfl⟩ := handles
  unfold Handling.next at missing
  split at missing
  · split at missing
    · rename_i named
      subst named
      rcases List.mem_cons.mp missing with rfl | before
      · exact .inr rfl
      · exact .inl before
    · exact .inl missing
  · split at missing <;> exact .inl missing
  · exact .inl missing
  · split at missing <;> exact .inl missing
  · exact .inl missing

/-- A record that was set stays the one that its method set. -/
theorem Handling.wrote_next {q q' : Handling} {c : RedisCall} {ans : c.Answer} {raw : Json}
    (handles : Handling.protocol codec secrets kind token q c ans q') (wrote : q.wrote = some raw) :
    q'.wrote = some raw := by
  obtain ⟨permits, rfl⟩ := handles
  unfold Handling.next
  split
  · split <;> exact wrote
  · split
    · rename_i named
      cases wrote.symm.trans (permits named).2.1
    · exact wrote
  · exact wrote
  · split <;> exact wrote
  · exact wrote

/-- What a method that has not begun finds of a record that another method set: it finds it, until a second before it
ends. -/
theorem found_in_time (custody : Custody codec secrets kind token log phases p.state) {raw : Json} {ends : Rat}
    (wrote : (phases i).wrote = some raw) (expiry : kind.expiry codec raw = some ends)
    (runs : Pool.Runs Redis.commands (fun _ _ _ _ _ => True) p log' p')
    (follow : ∀ k, (p.programs k).Follows (Handling.protocol codec secrets kind token) (good k) (phases k))
    (fresh : (phases j).found = []) : ∃ phases', Custody codec secrets kind token (log ++ log') phases' p'.state ∧
      (phases' i).wrote = some raw ∧ (none ∈ (phases' j).found → ends ≤ p'.state.now + 1) ∧
      ∀ k, (p'.programs k).Follows (Handling.protocol codec secrets kind token) (good k) (phases' k) := by
  have run : ∃ phases', (Custody codec secrets kind token (log ++ log') phases' p'.state ∧
      (phases' i).wrote = some raw ∧ (none ∈ (phases' j).found → ends ≤ p'.state.now + 1)) ∧
      ∀ k, (p'.programs k).Follows (Handling.protocol codec secrets kind token) (good k) (phases' k) := by
    refine runs.keeps (I := fun log' phases r => Custody codec secrets kind token (log ++ log') phases r ∧
      (phases i).wrote = some raw ∧ (none ∈ (phases j).found → ends ≤ r.now + 1)) follow ?_ ?_
    · rw [List.append_nil, fresh]
      exact ⟨custody, wrote, nofun⟩
    · intro log' phases k q s c ans t ⟨custody, wrote, late⟩ handles step
      have waits := Redis.commands_now step
      refine ⟨?_, ?_, fun missing => ?_⟩
      · rw [← List.append_assoc]
        exact custody.turn handles step
      · by_cases same : i = k
        · subst same
          rw [Function.update_self]
          exact Handling.wrote_next handles wrote
        · rwa [Function.update_of_ne same]
      · by_cases same : j = k
        · subst same
          rw [Function.update_self] at missing
          rcases Handling.missing_next handles missing with before | same
          · linarith [late before]
          · cases same
            exact custody.missed wrote expiry step
        · rw [Function.update_of_ne same] at missing
          linarith [late missing]
  obtain ⟨phases', ⟨kept, still, late⟩, follow'⟩ := run
  exact ⟨phases', kept, still, late, follow'⟩

/-- However the processes take turns, and whichever of them end before they are done: once one of them answered a
pair, a token of it that nobody uses up or revokes is served by all of them, all the same way, until less than a
second is left of the time it was issued for. -/
theorem pairs_outlast_their_process (codec : Codec) (secrets : Secrets) (kind : TokenKind)
    (runs : Pool.Runs Redis.commands (fun _ _ _ _ _ => True) (serving codec secrets requests start) log p)
    (asked : (requests i).exchanges = some client) (answered : p.programs i = .pure (.pair pair))
    (spared : ∀ j, ¬ (requests j).Takes kind (kind.of pair)) :
    ∃ now s reply, (i, ⟨s, .time, now⟩) ∈ log ∧ kind.Serves client pair now reply ∧
      ∀ {log' p' j result}, Pool.Runs Redis.commands (fun _ _ _ _ _ => True) p log' p' →
        requests j = kind.load (kind.of pair) → p.programs j = (requests j).program codec secrets →
        p'.programs j = .ofExcept result → p'.state.now + 1 < truncate now + kind.ttl → result = .ok reply := by
  obtain ⟨phases, custody, follow⟩ := custody_of_runs runs spared
  have ended : (requests i).Ended codec kind (kind.of pair) (phases i) (.ok (.pair pair)) := by
    have own := follow i
    rwa [answered] at own
  obtain ⟨raw, wrote, now, told, issued⟩ := ended.issued client pair asked rfl rfl
  obtain ⟨reply, reads, serves⟩ := issued.serves
  obtain ⟨s, member⟩ := (custody.told i now told).2
  refine ⟨now, s, reply, member, serves, fun {log' p' j result} runs' asks unstarted done inTime => ?_⟩
  have other : j ≠ i := by
    rintro rfl
    rw [answered, asks] at unstarted
    cases kind <;> cases unstarted
  -- the load has done nothing yet, so it may be taken to begin its handling here
  have handles (k : ι) : (p.programs k).Follows (Handling.protocol codec secrets kind (kind.of pair))
      ((requests k).Ended codec kind (kind.of pair)) (Function.update phases j {} k) := by
    by_cases same : k = j
    · subst same
      rw [Function.update_self, unstarted]
      exact request_handles (spared k)
    · rw [Function.update_of_ne same]
      exact follow k
  obtain ⟨phases', kept, still, late, follow'⟩ := found_in_time (custody.begins wrote other)
    ((congrArg Handling.wrote (Function.update_of_ne other.symm _ _)).trans wrote) issued.expiry runs' handles
    (congrArg Handling.found (Function.update_self j {} phases))
  have ends := follow' j
  rw [done, Program.follows_ofExcept] at ends
  rcases ends.loaded asks with missing | ⟨raw', found, elapsed | told⟩
  · have le := late missing
    push_cast at le
    linarith
  · obtain ⟨k, wrote'⟩ := kept.found j raw' found
    obtain rfl := kept.same_record still wrote'
    obtain ⟨limit, expiry, t, told, le⟩ := elapsed
    cases issued.expiry.symm.trans expiry
    have before := (kept.told j t told).1
    push_cast at le
    linarith
  · obtain ⟨k, wrote'⟩ := kept.found j raw' found
    obtain rfl := kept.same_record still wrote'
    rw [told, reads]
    rfl

end Processes

section Sample

def sampleRequests : Bool → SessionRequest
  | false => .exchangeAuthorizationCode
      { codeIdentity := [("code", ⟨"u1", "t1", ["crawlers:read"], none⟩)] } { clientId := "c1" }
      (Provider.authorizationCode "code" ["crawlers:read"] 0
        { clientId := "c1", params := sampleParams ["crawlers:read"], expiresAt := 600 } ⟨"u1", "t1",
          ["crawlers:read"], none⟩)
  | true => .loadAccessToken "a"

def samplePair : OAuthToken :=
  { accessToken := "a", tokenType := "Bearer", expiresIn := 3600, scope := "crawlers:read", refreshToken := "aa" }

def sampleServing : Pool Bool RedisCall RedisCall.Answer Redis SessionError SessionReply :=
  serving markingCodec countingSecrets sampleRequests 0

def sampleLoad : SessionReply :=
  .access (some (TokenLink.accessToken ⟨"u1", "t1", ["crawlers:read"], some 3600⟩ "a"))

/-- Redis after the exchange, and after the load that follows it. -/
def afterExchange : Redis := ((sampleServing.programs false).run Redis.machine sampleServing.state).2

def afterLoad : Redis := ((sampleServing.programs true).run Redis.machine afterExchange).2

theorem commands_machine (r : Redis) (c : RedisCall) : Redis.commands r c (Redis.machine r c).1 (Redis.machine r c).2 :=
  ⟨r.now, r.drawn, le_rfl, le_rfl, rfl⟩

/-- An event that tells no other time than the start. -/
def TellsStart : Event RedisCall RedisCall.Answer Redis → Bool
  | ⟨_, .time, t⟩ => t = 0
  | _ => true

/-- A process answers a pair and ends; another one serves its access token. -/
theorem a_new_process_serves_an_old_pair : ∃ log p log' p' now reply,
    Pool.Runs Redis.commands (fun _ _ _ _ _ => True) sampleServing log p ∧
    p.programs false = .pure (.pair samplePair) ∧
    Pool.Runs Redis.commands (fun _ _ _ _ _ => True) p log' p' ∧ p'.programs true = .pure reply ∧
    TokenKind.access.Serves { clientId := "c1" } samplePair now reply := by
  let exchange := sampleServing.after false (.pure (.pair samplePair)) afterExchange
  have exchanged : Pool.Runs Redis.commands (fun _ _ _ _ _ => True) sampleServing _ exchange :=
    Pool.Runs.start.alone commands_machine (Prod.ext (by decide +kernel) rfl) fun _ _ _ => trivial
  have unstarted : exchange.programs true = sampleServing.programs true := Pool.after_other _ _ _ (by decide)
  have ran : (exchange.programs true).run Redis.machine exchange.state = (.ok sampleLoad, afterLoad) := by
    rw [unstarted]
    exact Prod.ext (by decide +kernel) rfl
  have loaded : Pool.Runs Redis.commands (fun _ _ _ _ _ => True) exchange _
    (exchange.after true (.pure sampleLoad) afterLoad) :=
    Pool.Runs.start.alone commands_machine ran fun _ _ _ => trivial
  obtain ⟨now, s, reply, told, serves, always⟩ :=
    pairs_outlast_their_process markingCodec countingSecrets .access exchanged
    rfl (Pool.after_self _ _ _ _) (by decide)
  have atOnce : now = 0 := by
    obtain ⟨e, member, same⟩ := List.mem_map.mp told
    have all : ((sampleServing.programs false).trace Redis.machine sampleServing.state).all TellsStart = true := by
      decide +kernel
    have tells := List.all_eq_true.mp all e member
    cases same
    exact of_decide_eq_true tells
  have done : (exchange.after true (.pure sampleLoad) afterLoad).programs true = .ofExcept (.ok sampleLoad) :=
    Pool.after_self _ _ _ _
  have answers := always loaded rfl unstarted done (by
    rw [atOnce]
    decide +kernel)
  exact ⟨_, _, _, _, now, _, exchanged, Pool.after_self _ _ _ _, loaded, Pool.after_self _ _ _ _,
    (Except.ok.inj answers) ▸ serves⟩

end Sample
end LobstrMcp
