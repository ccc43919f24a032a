import LobstrMcp.Model.Safeguards

/-!
`auth/oauth_provider.py` on the in-memory stores of `auth/token_store.py` and `persistence.py`:
each method takes the provider and the instant it is called at, and returns its answer and the
provider after it. Redirects are what `construct_redirect_uri` is given.
-/

namespace LobstrMcp

structure TokenLink where
  lobstrUserId : String
  lobstrApiToken : String
  scopes : List String
  expiresAt : Option Rat
  deriving DecidableEq

def TokenLink.isExpired (link : TokenLink) (now : Rat) : Bool :=
  match link.expiresAt with
  | none => false
  | some t => t ≤ now

/-- What the provider reads of a registered client; `redirectHost` is `_redirect_host(client)`. -/
structure OAuthClient where
  clientId : String
  clientName : Option String := none
  redirectHost : Option String := none

structure AuthorizationParams where
  state : Option String
  scopes : List String
  codeChallenge : String
  redirectUri : String
  redirectUriProvidedExplicitly : Bool
  resource : Option String
  deriving DecidableEq

structure AuthorizationCode where
  code : String
  scopes : List String
  expiresAt : Int
  clientId : String
  codeChallenge : String
  redirectUri : String
  redirectUriProvidedExplicitly : Bool
  resource : Option String
  subject : String
  deriving DecidableEq

structure RefreshToken where
  token : String
  clientId : String
  scopes : List String
  expiresAt : Option Int
  deriving DecidableEq

/-- `AccessToken`, with the two claims it carries. -/
structure AccessToken where
  token : String
  clientId : String
  scopes : List String
  expiresAt : Option Int
  subject : String
  lobstrToken : String
  lobstrUserId : String
  deriving DecidableEq

structure OAuthToken where
  accessToken : String
  tokenType : String
  expiresIn : Int
  scope : String
  refreshToken : String
  deriving DecidableEq

/-- What a method of the provider raises: its own error, or the delegation's. -/
inductive OAuthError where
  | invalidGrant (message : String)
  | delegation (text : String)
  deriving DecidableEq

/-- `secrets.token_urlsafe(32)`, draw after draw. -/
structure Secrets where
  urlsafe : ℕ → String
  never_repeats : Function.Injective urlsafe
  nonempty : ∀ n, urlsafe n ≠ ""

def pendingTtl : Int := 600

def authCodeTtl : Int := 600

def accessTtl : Int := 3600

def refreshTtl : Int := 30 * 24 * 3600

/-- A request that waits for the user's consent. -/
structure Pending where
  clientId : String
  params : AuthorizationParams
  expiresAt : Int
  deriving DecidableEq

/-- `LobstrOAuthProvider`, its token store and its refresh registry; `drawn` counts the secrets. -/
structure Provider where
  consentUrl : String := ""
  pending : Dict String Pending := []
  codes : Dict String AuthorizationCode := []
  codeIdentity : Dict String TokenLink := []
  tokens : Dict String TokenLink := []
  refresh : Dict String (RefreshToken × TokenLink) := []
  drawn : ℕ := 0

/-- A redirect: where to, and with which query. -/
structure Redirect where
  uri : String
  query : Dict String String
  deriving DecidableEq

def effectiveScopes (requested granted : List String) : Except OAuthError (List String) :=
  if granted.isEmpty then .ok requested else
  if requested.isEmpty then .ok granted else
  let scopes := requested.filter (· ∈ granted)
  if scopes.isEmpty then
    .error (.invalidGrant "none of the requested scopes were granted by the user")
  else .ok scopes

namespace Provider

def prunePending (p : Provider) (now : Rat) : Provider :=
  let stale := Dict.keys (p.pending.filter fun e => e.2.expiresAt < truncate now)
  { p with pending := stale.foldl Dict.erase p.pending }

/-- `_pending.pop(request_id, None)` -/
def popPending (p : Provider) (requestId : String) : Provider :=
  { p with pending := Dict.erase p.pending requestId }

/-- `authorize`: the id of the request, and the redirect to the consent page. -/
def authorize (secrets : Secrets) (p : Provider) (now : Rat) (client : OAuthClient)
    (params : AuthorizationParams) : (String × Redirect) × Provider :=
  let p := p.prunePending now
  let requestId := secrets.urlsafe p.drawn
  let request : Pending :=
    { clientId := client.clientId, params, expiresAt := truncate now + pendingTtl }
  let name := (client.clientName.filter (· ≠ "")).toList.map (("client_name", ·))
  let host := (client.redirectHost.filter (· ≠ "")).toList.map (("redirect_host", ·))
  let query := [("request_id", requestId), ("scope", String.intercalate " " params.scopes),
    ("client_id", client.clientId)] ++ name ++ host
  ((requestId, { uri := p.consentUrl, query }),
    { p with pending := Dict.set p.pending requestId request, drawn := p.drawn + 1 })

/-- The authorization code of a redeemed consent. -/
def authorizationCode (code : String) (scopes : List String) (now : Rat) (request : Pending)
    (link : TokenLink) : AuthorizationCode where
  code := code
  scopes := scopes
  expiresAt := truncate now + authCodeTtl
  clientId := request.clientId
  codeChallenge := request.params.codeChallenge
  redirectUri := request.params.redirectUri
  redirectUriProvidedExplicitly := request.params.redirectUriProvidedExplicitly
  resource := request.params.resource
  subject := link.lobstrUserId

/-- `complete_consent`: the code, and the redirect that brings it to the client. `redeemed` is the
answer of the delegation to the grant. -/
def completeConsent (secrets : Secrets) (p : Provider) (now : Rat) (requestId : String)
    (redeemed : Except String TokenLink) : Except OAuthError (String × Redirect) × Provider :=
  let p := p.prunePending now
  match Dict.get? p.pending requestId with
  | none => (.error (.invalidGrant "unknown or expired consent request"), p)
  | some request =>
  match redeemed with
  | .error text => (.error (.delegation text), p)
  | .ok link =>
  let p := p.popPending requestId
  match effectiveScopes request.params.scopes link.scopes with
  | .error e => (.error e, p)
  | .ok scopes =>
  let code := secrets.urlsafe p.drawn
  let state := request.params.state.toList.map (("state", ·))
  (.ok (code, { uri := request.params.redirectUri, query := ("code", code) :: state }),
    { p with
      codes := Dict.set p.codes code (authorizationCode code scopes now request link)
      codeIdentity := Dict.set p.codeIdentity code link
      drawn := p.drawn + 1 })

def loadAuthorizationCode (p : Provider) (now : Rat) (code : String) : Option AuthorizationCode :=
  (Dict.get? p.codes code).filter fun found => truncate now ≤ found.expiresAt

/-- The end of both exchanges: a pair of tokens for the identity, under these scopes. -/
def issue (secrets : Secrets) (p : Provider) (now : Rat) (client : OAuthClient) (link : TokenLink)
    (scopes : List String) : OAuthToken × Provider :=
  let access := secrets.urlsafe p.drawn
  let refresh := secrets.urlsafe (p.drawn + 1)
  ({ accessToken := access, tokenType := "Bearer", expiresIn := accessTtl
     scope := String.intercalate " " scopes, refreshToken := refresh },
   { p with
     tokens := Dict.set p.tokens access
       ⟨link.lobstrUserId, link.lobstrApiToken, scopes, some (truncate now + accessTtl : Int)⟩
     refresh := Dict.set p.refresh refresh (⟨refresh, client.clientId, scopes,
       some (truncate now + refreshTtl)⟩, link)
     drawn := p.drawn + 2 })

/-- Both pops of a code. -/
def popCode (p : Provider) (code : String) : Provider :=
  { p with codeIdentity := Dict.erase p.codeIdentity code, codes := Dict.erase p.codes code }

def exchangeAuthorizationCode (secrets : Secrets) (p : Provider) (now : Rat) (client : OAuthClient)
    (authorizationCode : AuthorizationCode) : Except OAuthError OAuthToken × Provider :=
  let popped := p.popCode authorizationCode.code
  match Dict.get? p.codeIdentity authorizationCode.code with
  | none => (.error (.invalidGrant "unknown or already-used authorization code"), popped)
  | some link =>
  let (token, issued) := popped.issue secrets now client link authorizationCode.scopes
  (.ok token, issued)

/-- `_refresh.pop(token)` -/
def popRefresh (p : Provider) (token : String) : Provider :=
  { p with refresh := Dict.erase p.refresh token }

def loadRefreshToken (p : Provider) (now : Rat) (token : String) : Option RefreshToken × Provider :=
  match Dict.get? p.refresh token with
  | none => (none, p)
  | some (found, _) =>
  match found.expiresAt with
  | some t => if t < truncate now then (none, p.popRefresh token) else (some found, p)
  | none => (some found, p)

/-- `exchange_refresh_token`: the token is retired whatever comes of it. -/
def exchangeRefreshToken (secrets : Secrets) (p : Provider) (now : Rat) (client : OAuthClient)
    (refreshToken : RefreshToken) (scopes : List String) : Except OAuthError OAuthToken × Provider :=
  let popped := p.popRefresh refreshToken.token
  match Dict.get? p.refresh refreshToken.token with
  | none => (.error (.invalidGrant "unknown refresh token"), popped)
  | some (_, link) =>
  match effectiveScopes (if scopes.isEmpty then refreshToken.scopes else scopes) link.scopes with
  | .error e => (.error e, popped)
  | .ok newScopes =>
  let (token, issued) := popped.issue secrets now client link newScopes
  (.ok token, issued)

/-- `TokenStore.revoke` -/
def revokeAccess (p : Provider) (token : String) : Provider :=
  { p with tokens := Dict.erase p.tokens token }

/-- `load_access_token`, with `TokenStore.get` -/
def loadAccessToken (p : Provider) (now : Rat) (token : String) : Option AccessToken × Provider :=
  match Dict.get? p.tokens token with
  | none => (none, p)
  | some link =>
  if link.isExpired now then (none, p.revokeAccess token) else
  (some { token, clientId := link.lobstrUserId, scopes := link.scopes
          expiresAt := link.expiresAt.map truncate, subject := link.lobstrUserId
          lobstrToken := link.lobstrApiToken, lobstrUserId := link.lobstrUserId }, p)

def revokeToken (p : Provider) (token : String) : Provider :=
  if token = "" then p else (p.revokeAccess token).popRefresh token

end Provider
end LobstrMcp
