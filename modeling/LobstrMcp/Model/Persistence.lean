import LobstrMcp.Interaction.Machine
import LobstrMcp.Model.OAuthProvider

/-!
`persistence.py`, and `auth/oauth_provider.py` on its Redis stores. Each method is a program: it
asks Redis, one command at a time, the clock, and the source of random values. A record is JSON
text in Redis; here it stands there as the value it is the text of.
-/

namespace LobstrMcp
open Interaction

/-- What the stores and the provider ask. -/
inductive RedisCall where
  | get (name : String)
  | set (name : String) (value : Json) (ex : Option Int)
  | delete (name : String)
  | time
  /-- Random bits: of a secret, or of an encryption. -/
  | random
  deriving DecidableEq

/-- What a method raises. -/
inductive SessionError where
  | oauth (e : OAuthError)
  /-- Redis refused the command. -/
  | redis (message : String)
  /-- A record that none of the stores wrote. -/
  | foreign
  deriving DecidableEq

abbrev RedisCall.Answer : RedisCall → Type
  | .get _ => Option Json
  | .set .. => Except String Unit
  | .delete _ => Unit
  | .time => Rat
  | .random => ℕ

abbrev SessionM := Program RedisCall RedisCall.Answer SessionError

/-- `TokenCipher` under the server's key, its random part first, and the JSON of the client SDK's
own models. -/
structure Codec where
  encrypt : ℕ → String → String
  decrypt : String → Option String
  decrypt_encrypt : ∀ iv text, decrypt (encrypt iv text) = some text
  dumpRefresh : RefreshToken → Json
  validateRefresh : Json → Option RefreshToken
  validate_dumpRefresh : ∀ rt, validateRefresh (dumpRefresh rt) = some rt
  dumpClient : OAuthClient → Json
  validateClient : Json → Option OAuthClient
  validate_dumpClient : ∀ client, validateClient (dumpClient client) = some client

/-! ### Records -/

def tokenPrefix : String := "lobstr_mcp:token:"

def idemPrefix : String := "lobstr_mcp:idem:"

def clientPrefix : String := "lobstr_mcp:client:"

def refreshPrefix : String := "lobstr_mcp:refresh:"

def defaultIdemTtl : Int := 24 * 3600

def clientTtl : Int := 90 * 24 * 3600

/-- `_ttl_from`, at the time it is called. -/
def ttlFrom (expiresAt : Option Rat) (now : Rat) : Option Int :=
  match expiresAt with
  | none => none
  | some t =>
    let remaining := truncate (t - now)
    if 0 < remaining then some remaining else none

def linkToJson (codec : Codec) (iv : ℕ) (link : TokenLink) : Json :=
  .obj [("lobstr_user_id", .str link.lobstrUserId),
    ("lobstr_api_token_enc", .str (codec.encrypt iv link.lobstrApiToken)),
    ("scopes", .arr (link.scopes.map .str)),
    ("expires_at", link.expiresAt.elim .null .float)]

/-- The scopes of a record, `list(d.get("scopes") or [])`. -/
def scopesFromJson (scopes : Json) : Option (List String) := do
  let items ← ((scopes.orElse (.arr [])).asArr?)
  items.mapM Json.asStr?

/-- The expiry of a record, `d.get("expires_at")`. -/
def expiryFromJson : Json → Option (Option Rat)
  | .null => some none
  | .int n => some (some n)
  | .float q => some (some q)
  | _ => none

/-- `_link_from_json`; nothing for a record that `_link_to_json` did not write. -/
def linkFromJson (codec : Codec) (record : Json) : Option TokenLink := do
  let d ← record.asObj?
  let userId ← (Fields.get d "lobstr_user_id").asStr?
  let blob ← (Fields.get d "lobstr_api_token_enc").asStr?
  let apiToken ← codec.decrypt blob
  let scopes ← scopesFromJson (Fields.get d "scopes")
  let expiresAt ← expiryFromJson (Fields.get d "expires_at")
  return ⟨userId, apiToken, scopes, expiresAt⟩

/-- What `RedisRefreshRegistry.put` writes. -/
def refreshToJson (codec : Codec) (iv : ℕ) (refreshToken : RefreshToken) (link : TokenLink) : Json :=
  .obj [("refresh", codec.dumpRefresh refreshToken), ("link", linkToJson codec iv link)]

/-- `RedisRefreshRegistry._load` -/
def refreshFromJson (codec : Codec) (record : Json) : Option (RefreshToken × TokenLink) := do
  let d ← record.asObj?
  let refresh ← (Dict.get? d "refresh").bind codec.validateRefresh
  let link ← linkFromJson codec (Fields.get d "link")
  return (refresh, link)

/-- The value that was read out of a record. -/
def decoded {α : Type} (value : Option α) : SessionM α := .ofExcept (value.elim (.error .foreign) .ok)

def redisGet (name : String) : SessionM (Option Json) := Program.ask (RedisCall.get name)

def redisSet (name : String) (value : Json) (ex : Option Int) : SessionM Unit := do
  let answer : Except String Unit ← Program.ask (RedisCall.set name value ex)
  match answer with
  | .ok () => return ()
  | .error message => .raise (.redis message)

def redisDelete (name : String) : SessionM Unit := Program.ask (RedisCall.delete name)

def wallTime : SessionM Rat := Program.ask RedisCall.time

def randomBits : SessionM ℕ := Program.ask RedisCall.random

/-! ### The stores -/

def RedisTokenStore.put (codec : Codec) (mcpToken : String) (link : TokenLink) : SessionM Unit := do
  let iv ← randomBits
  let payload := linkToJson codec iv link
  let now ← wallTime
  redisSet (tokenPrefix ++ mcpToken) payload (ttlFrom link.expiresAt now)

def RedisTokenStore.revoke (mcpToken : String) : SessionM Unit :=
  redisDelete (tokenPrefix ++ mcpToken)

def RedisTokenStore.get (codec : Codec) (mcpToken : String) : SessionM (Option TokenLink) := do
  match ← redisGet (tokenPrefix ++ mcpToken) with
  | none => return none
  | some raw =>
    let link ← decoded (linkFromJson codec raw)
    let now ← wallTime
    if link.isExpired now then
      RedisTokenStore.revoke mcpToken
      return none
    else return some link

/-- `RedisIdempotencyStore.get`; `str(raw)` of what `put` wrote is the run id. -/
def RedisIdempotencyStore.get (key : String) : SessionM (Option String) := do
  match ← redisGet (idemPrefix ++ key) with
  | none => return none
  | some raw => return some raw.text

/-- `RedisIdempotencyStore.put`; `default` is the store's own TTL. -/
def RedisIdempotencyStore.put (default : Int) (key runId : String) (ttl : Option Int) : SessionM Unit :=
  redisSet (idemPrefix ++ key) (.str runId) (some (ttl.getD default))

def RedisClientRegistry.put (codec : Codec) (client : OAuthClient) : SessionM Unit :=
  redisSet (clientPrefix ++ client.clientId) (codec.dumpClient client) (some clientTtl)

def RedisClientRegistry.get (codec : Codec) (clientId : String) : SessionM (Option OAuthClient) := do
  match ← redisGet (clientPrefix ++ clientId) with
  | none => return none
  | some raw => return some (← decoded (codec.validateClient raw))

def RedisRefreshRegistry.put (codec : Codec) (refreshToken : RefreshToken) (link : TokenLink) :
    SessionM Unit := do
  let iv ← randomBits
  let payload := refreshToJson codec iv refreshToken link
  let now ← wallTime
  redisSet (refreshPrefix ++ refreshToken.token) payload (ttlFrom (refreshToken.expiresAt.map Int.cast) now)

def RedisRefreshRegistry.get (codec : Codec) (token : String) :
    SessionM (Option (RefreshToken × TokenLink)) := do
  match ← redisGet (refreshPrefix ++ token) with
  | none => return none
  | some raw => return some (← decoded (refreshFromJson codec raw))

def RedisRefreshRegistry.pop (codec : Codec) (token : String) :
    SessionM (Option (RefreshToken × TokenLink)) := do
  let name := refreshPrefix ++ token
  match ← redisGet name with
  | none => return none
  | some raw =>
    redisDelete name
    return some (← decoded (refreshFromJson codec raw))

/-! ### The same in memory -/

def TokenStore.put (byToken : Dict String TokenLink) (mcpToken : String) (link : TokenLink) :
    Dict String TokenLink :=
  Dict.set byToken mcpToken link

def TokenStore.revoke (byToken : Dict String TokenLink) (mcpToken : String) : Dict String TokenLink :=
  Dict.erase byToken mcpToken

/-- `TokenStore.get`, and the store with an expired entry dropped. -/
def TokenStore.get (byToken : Dict String TokenLink) (now : Rat) (mcpToken : String) :
    Option TokenLink × Dict String TokenLink :=
  match Dict.get? byToken mcpToken with
  | none => (none, byToken)
  | some link => if link.isExpired now then (none, Dict.erase byToken mcpToken) else (some link, byToken)

def MemoryRefreshRegistry.put (d : Dict String (RefreshToken × TokenLink)) (refreshToken : RefreshToken)
    (link : TokenLink) : Dict String (RefreshToken × TokenLink) :=
  Dict.set d refreshToken.token (refreshToken, link)

/-! ### The provider on Redis -/

/-- The `AccessToken` that `load_access_token` makes of a link. -/
def TokenLink.accessToken (link : TokenLink) (token : String) : AccessToken where
  token := token
  clientId := link.lobstrUserId
  scopes := link.scopes
  expiresAt := link.expiresAt.map truncate
  subject := link.lobstrUserId
  lobstrToken := link.lobstrApiToken
  lobstrUserId := link.lobstrUserId

namespace OnRedis

def registerClient (codec : Codec) (client : OAuthClient) : SessionM Unit := RedisClientRegistry.put codec client

def getClient (codec : Codec) (clientId : String) : SessionM (Option OAuthClient) :=
  RedisClientRegistry.get codec clientId

/-- The end of both exchanges, as `Provider.issue` on the in-memory stores. -/
def issue (codec : Codec) (secrets : Secrets) (client : OAuthClient) (link : TokenLink)
    (scopes : List String) : SessionM OAuthToken := do
  let access := secrets.urlsafe (← randomBits)
  let refresh := secrets.urlsafe (← randomBits)
  let now ← wallTime
  RedisTokenStore.put codec access
    ⟨link.lobstrUserId, link.lobstrApiToken, scopes, some (truncate now + accessTtl : Int)⟩
  let now ← wallTime
  RedisRefreshRegistry.put codec
    ⟨refresh, client.clientId, scopes, some (truncate now + refreshTtl)⟩ link
  return { accessToken := access, tokenType := "Bearer", expiresIn := accessTtl
           scope := String.intercalate " " scopes, refreshToken := refresh }

/-- `exchange_authorization_code`; both pops of the code are in this process. -/
def exchangeAuthorizationCode (codec : Codec) (secrets : Secrets) (p : Provider) (client : OAuthClient)
    (authorizationCode : AuthorizationCode) : SessionM OAuthToken × Provider :=
  (match Dict.get? p.codeIdentity authorizationCode.code with
    | none => .raise (.oauth (.invalidGrant "unknown or already-used authorization code"))
    | some link => issue codec secrets client link authorizationCode.scopes,
    p.popCode authorizationCode.code)

def loadRefreshToken (codec : Codec) (refreshToken : String) : SessionM (Option RefreshToken) := do
  match ← RedisRefreshRegistry.get codec refreshToken with
  | none => return none
  | some (rt, _) =>
  match rt.expiresAt with
  | none => return some rt
  | some t =>
    let now ← wallTime
    if t < truncate now then
      let _ ← RedisRefreshRegistry.pop codec refreshToken
      return none
    else return some rt

def exchangeRefreshToken (codec : Codec) (secrets : Secrets) (client : OAuthClient)
    (refreshToken : RefreshToken) (scopes : List String) : SessionM OAuthToken := do
  match ← RedisRefreshRegistry.pop codec refreshToken.token with
  | none => .raise (.oauth (.invalidGrant "unknown refresh token"))
  | some (_, link) =>
  let asked := if scopes.isEmpty then refreshToken.scopes else scopes
  match effectiveScopes asked link.scopes with
  | .error e => .raise (.oauth e)
  | .ok newScopes => issue codec secrets client link newScopes

def loadAccessToken (codec : Codec) (token : String) : SessionM (Option AccessToken) := do
  match ← RedisTokenStore.get codec token with
  | none => return none
  | some link => return some (link.accessToken token)

def revokeToken (codec : Codec) (token : String) : SessionM Unit :=
  if token = "" then return () else do
    RedisTokenStore.revoke token
    let _ ← RedisRefreshRegistry.pop codec token

end OnRedis
end LobstrMcp
