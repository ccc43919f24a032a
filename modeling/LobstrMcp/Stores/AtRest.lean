import LobstrMcp.Auth.Clients

/-!
What Redis holds of the Lobstr tokens: what the cipher makes of them, and nothing else. If every token is
replaced by another one, and the cipher makes of each what it made of the one it stands for, Redis holds
the same after any operations.
-/

namespace LobstrMcp
open Interaction

/-! ### Tokens that are replaced -/

def TokenLink.renamed (e : Equiv.Perm String) (link : TokenLink) : TokenLink :=
  { link with lobstrApiToken := e link.lobstrApiToken }

/-- The cipher that makes of a new token what it made of the old one. -/
def Codec.renamed (codec : Codec) (e : Equiv.Perm String) : Codec :=
  { codec with
    encrypt := fun iv text => codec.encrypt iv (e.symm text)
    decrypt := fun blob => (codec.decrypt blob).map e
    decrypt_encrypt := fun iv text => by simp [codec.decrypt_encrypt] }

/-- The grant of a consent is redeemed for another token. -/
def SessionOp.renamed (e : Equiv.Perm String) : SessionOp → SessionOp
  | .completeConsent requestId redeemed => .completeConsent requestId (redeemed.map (TokenLink.renamed e))
  | op => op

section Records
variable {codec : Codec} {e : Equiv.Perm String} {link : TokenLink}

@[simp] theorem renamed_userId : (link.renamed e).lobstrUserId = link.lobstrUserId := rfl

@[simp] theorem renamed_apiToken : (link.renamed e).lobstrApiToken = e link.lobstrApiToken := rfl

@[simp] theorem renamed_scopes : (link.renamed e).scopes = link.scopes := rfl

@[simp] theorem linkToJson_renamed (iv : ℕ) :
    linkToJson (codec.renamed e) iv (link.renamed e) = linkToJson codec iv link := by
  simp [linkToJson, Codec.renamed, TokenLink.renamed]

theorem linkFromJson_renamed (record : Json) :
    linkFromJson (codec.renamed e) record = (linkFromJson codec record).map (TokenLink.renamed e) := by
  simp only [linkFromJson, Codec.renamed, Option.bind_eq_bind, Option.bind_map, Option.map_bind, Option.pure_def,
    Function.comp_def, Option.map_some]
  rfl

theorem refreshFromJson_renamed (record : Json) : refreshFromJson (codec.renamed e) record =
    (refreshFromJson codec record).map fun found => (found.1, found.2.renamed e) := by
  simp only [refreshFromJson, linkFromJson_renamed, Option.bind_eq_bind, Option.bind_map, Option.map_bind,
    Option.pure_def,
    Function.comp_def, Option.map_some]
  rfl

end Records

/-! ### The methods -/

section Methods
variable {codec : Codec} {e : Equiv.Perm String} {secrets : Secrets} {link : TokenLink} {α β : Type}

theorem RedisTokenStore.put_renamed (token : String) (link : TokenLink) :
    RedisTokenStore.put (codec.renamed e) token (link.renamed e) = RedisTokenStore.put codec token link := by
  unfold RedisTokenStore.put
  simp only [linkToJson_renamed]
  rfl

theorem RedisRefreshRegistry.put_renamed (rt : RefreshToken) :
    RedisRefreshRegistry.put (codec.renamed e) rt (link.renamed e) = RedisRefreshRegistry.put codec rt link := by
  unfold RedisRefreshRegistry.put refreshToJson
  simp only [linkToJson_renamed]
  rfl

theorem OnRedis.issue_renamed (client : OAuthClient) (scopes : List String) :
    OnRedis.issue (codec.renamed e) secrets client (link.renamed e) scopes =
      OnRedis.issue codec secrets client link scopes := by
  have access (now : Rat) (token : String) : RedisTokenStore.put (codec.renamed e) token
      ⟨link.lobstrUserId, e link.lobstrApiToken, scopes, some (truncate now + accessTtl : Int)⟩ =
      RedisTokenStore.put codec token
        ⟨link.lobstrUserId, link.lobstrApiToken, scopes, some (truncate now + accessTtl : Int)⟩ :=
    RedisTokenStore.put_renamed token ⟨link.lobstrUserId, link.lobstrApiToken, scopes, _⟩
  unfold OnRedis.issue
  simp only [RedisRefreshRegistry.put_renamed, renamed_userId, renamed_apiToken, access]

/-- What is read under the other cipher is what was read under the first, the tokens replaced. -/
theorem decoded_map_bind (value : Option α) (g : α → β) {γ : Type} (f : β → SessionM γ) :
    (decoded (value.map g) >>= f) = decoded value >>= fun a => f (g a) := by
  cases value <;> rfl

theorem RedisTokenStore.get_renamed (token : String) : RedisTokenStore.get (codec.renamed e) token =
    RedisTokenStore.get codec token >>= fun found => pure (found.map (TokenLink.renamed e)) := by
  unfold RedisTokenStore.get
  simp only [Program.bind_assoc]
  congr 1
  funext raw
  cases raw with
  | none => rfl
  | some raw =>
    simp only [linkFromJson_renamed, decoded_map_bind, Program.bind_assoc]
    congr 1
    funext link
    refine congrArg (wallTime >>= ·) (funext fun now => ?_)
    have same : (link.renamed e).isExpired now = link.isExpired now := rfl
    rw [same]
    split <;> rfl

theorem RedisRefreshRegistry.get_renamed_bind (token : String) (f : Option (RefreshToken × TokenLink) → SessionM α) :
    (RedisRefreshRegistry.get (codec.renamed e) token >>= f) =
      RedisRefreshRegistry.get codec token >>= fun found => f (found.map fun x => (x.1, x.2.renamed e)) := by
  unfold RedisRefreshRegistry.get
  simp only [Program.bind_assoc]
  congr 1
  funext raw
  cases raw with
  | none => rfl
  | some raw =>
    simp only [refreshFromJson_renamed, decoded_map_bind, Program.bind_assoc]
    rfl

theorem RedisRefreshRegistry.pop_renamed_bind (token : String) (f : Option (RefreshToken × TokenLink) → SessionM α) :
    (RedisRefreshRegistry.pop (codec.renamed e) token >>= f) =
      RedisRefreshRegistry.pop codec token >>= fun found => f (found.map fun x => (x.1, x.2.renamed e)) := by
  unfold RedisRefreshRegistry.pop
  simp only [Program.bind_assoc]
  congr 1
  funext raw
  cases raw with
  | none => rfl
  | some raw =>
    simp only [refreshFromJson_renamed, decoded_map_bind, Program.bind_assoc]
    rfl

theorem OnRedis.loadRefreshToken_renamed (token : String) :
    OnRedis.loadRefreshToken (codec.renamed e) token = OnRedis.loadRefreshToken codec token := by
  unfold OnRedis.loadRefreshToken
  rw [RedisRefreshRegistry.get_renamed_bind]
  congr 1
  funext found
  cases found with
  | none => rfl
  | some found =>
    obtain ⟨rt, link⟩ := found
    dsimp only [Option.map_some]
    cases rt.expiresAt with
    | none => rfl
    | some t =>
      dsimp only
      congr 1
      funext now
      split
      · rw [RedisRefreshRegistry.pop_renamed_bind]
      · rfl

/-- The client's token is told as the other one, and Redis is left as it was. -/
theorem OnRedis.loadAccessToken_renamed (token : String) (r : Redis) :
    (alone (OnRedis.loadAccessToken (codec.renamed e) token) r).2 =
      (alone (OnRedis.loadAccessToken codec token) r).2 := by
  have told (codec : Codec) : OnRedis.loadAccessToken codec token =
      RedisTokenStore.get codec token >>= fun found => pure (found.map (TokenLink.accessToken · token)) := by
    unfold OnRedis.loadAccessToken
    congr 1
    funext found
    cases found <;> rfl
  rw [told, told, alone, alone, Program.run_bind_pure, Program.run_bind_pure, RedisTokenStore.get_renamed,
    Program.run_bind_pure]

theorem OnRedis.revokeToken_renamed (token : String) :
    OnRedis.revokeToken (codec.renamed e) token = OnRedis.revokeToken codec token := by
  unfold OnRedis.revokeToken
  rw [RedisRefreshRegistry.pop_renamed_bind]

theorem OnRedis.exchangeRefreshToken_renamed (client : OAuthClient) (token : RefreshToken) (asked : List String) :
    OnRedis.exchangeRefreshToken (codec.renamed e) secrets client token asked =
      OnRedis.exchangeRefreshToken codec secrets client token asked := by
  unfold OnRedis.exchangeRefreshToken
  rw [RedisRefreshRegistry.pop_renamed_bind]
  congr 1
  funext found
  cases found with
  | none => rfl
  | some found =>
    obtain ⟨rt, link⟩ := found
    dsimp only [Option.map_some]
    rw [renamed_scopes]
    cases effectiveScopes (if asked.isEmpty then token.scopes else asked) link.scopes with
    | error refused => rfl
    | ok scopes => exact OnRedis.issue_renamed client scopes

end Methods

/-! ### Every run -/

namespace SessionSystem
variable {codec : Codec} {e : Equiv.Perm String} {secrets : Secrets} {s s' : SessionSystem}

/-- Two systems that differ in the tokens that their processes hold, and not in what Redis does. -/
structure Alike (e : Equiv.Perm String) (s s' : SessionSystem) : Prop where
  redis : s'.redis = s.redis
  pending : s'.process.pending = s.process.pending
  identity : ∀ code, Dict.get? s'.process.codeIdentity code =
    (Dict.get? s.process.codeIdentity code).map (TokenLink.renamed e)

theorem Alike.authorize (alike : Alike e s s') (client : OAuthClient) (params : AuthorizationParams) :
    Alike e (s.step codec secrets (.authorize client params))
      (s'.step (codec.renamed e) secrets (.authorize client params)) := by
  obtain ⟨redis, pending, identity⟩ := alike
  unfold step inProcess Provider.authorize Provider.prunePending
  dsimp only
  rw [redis, pending]
  exact ⟨rfl, rfl, identity⟩

/-- A consent is redeemed: the code goes with the token of the grant. -/
theorem Alike.completeConsent (alike : Alike e s s') (requestId : String) (redeemed : Except String TokenLink) :
    Alike e (s.step codec secrets (.completeConsent requestId redeemed))
      (s'.step (codec.renamed e) secrets (.completeConsent requestId (redeemed.map (TokenLink.renamed e)))) := by
  obtain ⟨redis, pending, identity⟩ := alike
  unfold step inProcess Provider.completeConsent Provider.prunePending
  dsimp only
  rw [redis, pending]
  cases Dict.get? (List.foldl Dict.erase s.process.pending _) requestId with
  | none => exact ⟨rfl, rfl, identity⟩
  | some request =>
    cases redeemed with
    | error text => exact ⟨rfl, rfl, identity⟩
    | ok link =>
      dsimp only [Except.map]
      rw [renamed_scopes]
      cases effectiveScopes request.params.scopes link.scopes with
      | error refused => exact ⟨rfl, rfl, identity⟩
      | ok scopes =>
        refine ⟨rfl, rfl, fun code => ?_⟩
        dsimp only [Provider.popPending]
        rw [Dict.get?_set, Dict.get?_set]
        split
        · rfl
        · exact identity code

theorem Alike.exchangeCode (alike : Alike e s s') (client : OAuthClient) (code : AuthorizationCode) :
    Alike e (s.step codec secrets (.exchangeAuthorizationCode client code))
      (s'.step (codec.renamed e) secrets (.exchangeAuthorizationCode client code)) := by
  obtain ⟨redis, pending, identity⟩ := alike
  have popped (other : String) : Dict.get? (Dict.erase s'.process.codeIdentity code.code) other =
      (Dict.get? (Dict.erase s.process.codeIdentity code.code) other).map (TokenLink.renamed e) := by
    rw [Dict.get?_erase, Dict.get?_erase]
    split
    · rfl
    · exact identity other
  unfold step OnRedis.exchangeAuthorizationCode
  dsimp only
  rw [redis, identity]
  cases Dict.get? s.process.codeIdentity code.code with
  | none => exact ⟨rfl, pending, popped⟩
  | some link =>
    dsimp only [Option.map_some]
    rw [OnRedis.issue_renamed]
    exact ⟨rfl, pending, popped⟩

theorem Alike.step (alike : Alike e s s') (op : SessionOp) :
    Alike e (s.step codec secrets op) (s'.step (codec.renamed e) secrets (op.renamed e)) := by
  cases op with
  | registerClient client =>
    refine ⟨?_, alike.pending, alike.identity⟩
    show (alone (OnRedis.registerClient (codec.renamed e) client) s'.redis).2 = _
    rw [alike.redis]
    rfl
  | getClient clientId =>
    refine ⟨?_, alike.pending, alike.identity⟩
    show (alone (OnRedis.getClient (codec.renamed e) clientId) s'.redis).2 = _
    rw [alike.redis]
    rfl
  | authorize client params => exact alike.authorize client params
  | completeConsent requestId redeemed => exact alike.completeConsent requestId redeemed
  | loadAuthorizationCode code => exact alike
  | exchangeAuthorizationCode client code => exact alike.exchangeCode client code
  | loadRefreshToken token =>
    refine ⟨?_, alike.pending, alike.identity⟩
    show (alone (OnRedis.loadRefreshToken (codec.renamed e) token) s'.redis).2 = _
    rw [alike.redis, OnRedis.loadRefreshToken_renamed]
    rfl
  | exchangeRefreshToken client token asked =>
    refine ⟨?_, alike.pending, alike.identity⟩
    show (alone (OnRedis.exchangeRefreshToken (codec.renamed e) secrets client token asked) s'.redis).2 = _
    rw [alike.redis, OnRedis.exchangeRefreshToken_renamed]
    rfl
  | loadAccessToken token =>
    refine ⟨?_, alike.pending, alike.identity⟩
    show (alone (OnRedis.loadAccessToken (codec.renamed e) token) s'.redis).2 = _
    rw [alike.redis, OnRedis.loadAccessToken_renamed]
    rfl
  | revokeToken token =>
    refine ⟨?_, alike.pending, alike.identity⟩
    show (alone (OnRedis.revokeToken (codec.renamed e) token) s'.redis).2 = _
    rw [alike.redis, OnRedis.revokeToken_renamed]
    rfl
  | advance seconds =>
    refine ⟨?_, alike.pending, alike.identity⟩
    show { s'.redis with now := s'.redis.now + seconds } = _
    rw [alike.redis]
    rfl

theorem Alike.run (alike : Alike e s s') (ops : List SessionOp) :
    Alike e (ops.foldl (SessionSystem.step codec secrets) s)
      ((ops.map (SessionOp.renamed e)).foldl (SessionSystem.step (codec.renamed e) secrets) s') := by
  induction ops generalizing s s' with
  | nil => exact alike
  | cons op ops ih => exact ih (alike.step op)

/-- What Redis holds after any operations is the same whatever the Lobstr tokens are, as long as the cipher
makes the same of them. -/
theorem tokens_rest_encrypted (codec : Codec) (secrets : Secrets) (start : { q : Rat // 0 ≤ q }) (ops : List SessionOp)
    (e : Equiv.Perm String) :
    (after (codec.renamed e) secrets start (ops.map (SessionOp.renamed e))).redis =
      (after codec secrets start ops).redis := by
  have first : Alike e { redis := { now := start } } { redis := { now := start } } := ⟨rfl, rfl, fun _ => rfl⟩
  have last : Alike e (after codec secrets start ops)
    (after (codec.renamed e) secrets start (ops.map (SessionOp.renamed e))) :=
    first.run ops
  exact last.redis

end SessionSystem
end LobstrMcp
