import LobstrMcp.Model.OAuthProvider
import Mathlib.Data.List.Induction

/-!
Runs of the provider, one operation at a time on one clock, and the ledger of what they issued:
which consent made which code, and which pair of tokens came of which code or token.
-/

namespace LobstrMcp

/-- What a secret stands for. -/
inductive Item where
  | request (id : String)
  | code (code : String)
  | access (token : String)
  | refresh (token : String)
  deriving DecidableEq

def Item.secret : Item → String
  | request id => id
  | .code c => c
  | access token => token
  | refresh token => token

/-- An entry of the ledger. -/
inductive Act where
  /-- A consent was redeemed, and made a code. -/
  | consent (requestId : String) (link : TokenLink) (code : String)
  /-- A code or a refresh token was exchanged for a pair. -/
  | issue (source : Item) (access refresh : String)
  | revoke (token : String)

/-- What an entry uses up. -/
def Act.spends : Act → Option Item
  | consent requestId _ _ => some (.request requestId)
  | issue source _ _ => some source
  | revoke _ => none

/-- What an entry brings about. -/
def Act.makes : Act → List Item
  | consent _ _ code => [.code code]
  | issue _ access refresh => [.access access, .refresh refresh]
  | revoke _ => []

/-- The latest entry first, each with its instant. -/
abbrev Ledger := List (Rat × Act)

def spent (ledger : Ledger) : List Item := ledger.filterMap fun e => e.2.spends

/-- The grant at the root of an item's chain. -/
def grantOf : Ledger → Item → Option TokenLink
  | [], _ => none
  | (_, .consent _ link code) :: older, item =>
    if item = .code code then some link else grantOf older item
  | (_, .issue source access refresh) :: older, item =>
    if item = .access access ∨ item = .refresh refresh then grantOf older source else grantOf older item
  | (_, .revoke _) :: older, item => grantOf older item

/-- The access token was issued less than its lifetime ago, and not revoked since. -/
def Live (ledger : Ledger) (token : String) (now : Rat) : Prop :=
  ∃ newer issued source refresh older, ledger = newer ++ (issued, .issue source token refresh) :: older ∧
    (∀ e ∈ newer, e.2 ≠ .revoke token) ∧ now < issued + accessTtl

/-- The operations on a provider, with what each is given. -/
inductive OAuthOp where
  | authorize (client : OAuthClient) (params : AuthorizationParams)
  | completeConsent (requestId : String) (redeemed : Except String TokenLink)
  | loadAuthorizationCode (code : String)
  | exchangeAuthorizationCode (client : OAuthClient) (code : AuthorizationCode)
  | loadRefreshToken (token : String)
  | exchangeRefreshToken (client : OAuthClient) (token : RefreshToken) (scopes : List String)
  | loadAccessToken (token : String)
  | revokeToken (token : String)
  | advance (seconds : { q : Rat // 0 ≤ q })

/-- A provider in time, its ledger, and what its loads have answered so far. -/
structure OAuthSystem where
  provider : Provider := {}
  now : Rat
  ledger : Ledger := []
  codesLoaded : List AuthorizationCode := []
  refreshLoaded : List RefreshToken := []

namespace OAuthSystem

def step (secrets : Secrets) (s : OAuthSystem) : OAuthOp → OAuthSystem
  | .authorize client params =>
    { s with provider := (s.provider.authorize secrets s.now client params).2 }
  | .completeConsent requestId redeemed =>
    let (answer, provider) := s.provider.completeConsent secrets s.now requestId redeemed
    match answer, redeemed with
    | .ok (code, _), .ok link =>
      { s with provider, ledger := (s.now, .consent requestId link code) :: s.ledger }
    | _, _ => { s with provider }
  | .loadAuthorizationCode code =>
    { s with codesLoaded := (s.provider.loadAuthorizationCode s.now code).toList ++ s.codesLoaded }
  | .exchangeAuthorizationCode client code =>
    let (answer, provider) := s.provider.exchangeAuthorizationCode secrets s.now client code
    match answer with
    | .ok token => { s with
        provider
        ledger := (s.now, .issue (.code code.code) token.accessToken token.refreshToken) :: s.ledger }
    | .error _ => { s with provider }
  | .loadRefreshToken token =>
    let (answer, provider) := s.provider.loadRefreshToken s.now token
    { s with provider, refreshLoaded := answer.toList ++ s.refreshLoaded }
  | .exchangeRefreshToken client token scopes =>
    let (answer, provider) := s.provider.exchangeRefreshToken secrets s.now client token scopes
    match answer with
    | .ok pair => { s with
        provider
        ledger := (s.now, .issue (.refresh token.token) pair.accessToken pair.refreshToken) :: s.ledger }
    | .error _ => { s with provider }
  | .loadAccessToken token => { s with provider := (s.provider.loadAccessToken s.now token).2 }
  | .revokeToken token => { s with
      provider := s.provider.revokeToken token
      ledger := (s.now, .revoke token) :: s.ledger }
  | .advance seconds => { s with now := s.now + seconds }

/-- The system after these operations, from its start at this instant. -/
def after (secrets : Secrets) (start : { q : Rat // 0 ≤ q }) (ops : List OAuthOp) : OAuthSystem :=
  ops.foldl (step secrets) { now := start }

theorem after_append (secrets : Secrets) (start : { q : Rat // 0 ≤ q }) (ops : List OAuthOp) (op : OAuthOp) :
    after secrets start (ops ++ [op]) = (after secrets start ops).step secrets op := by
  rw [after, List.foldl_append]
  rfl

theorem after_induct {secrets : Secrets} {I : OAuthSystem → Prop} (start : { q : Rat // 0 ≤ q })
    (first : I { now := start }) (keep : ∀ s op, I s → I (s.step secrets op)) (ops : List OAuthOp) :
    I (after secrets start ops) := by
  induction ops using List.reverseRecOn with
  | nil => exact first
  | append_singleton ops op ih =>
    rw [after_append]
    exact keep _ op ih

end OAuthSystem

/-- The item is in its table. -/
def Provider.Holds (p : Provider) : Item → Prop
  | .request id => Dict.contains p.pending id = true
  | .code code => Dict.contains p.codeIdentity code = true
  | .access token => Dict.contains p.tokens token = true
  | .refresh token => Dict.contains p.refresh token = true

/-- The second provider has lost entries, a code from both of its tables, and nothing else. -/
structure Shrinks (p p' : Provider) : Prop where
  pending : Dict.Sub p'.pending p.pending
  codes : Dict.Sub p'.codes p.codes
  codeIdentity : Dict.Sub p'.codeIdentity p.codeIdentity
  tokens : Dict.Sub p'.tokens p.tokens
  refresh : Dict.Sub p'.refresh p.refresh
  drawn : p'.drawn = p.drawn
  tables : (∀ code, Dict.contains p.codes code = Dict.contains p.codeIdentity code) →
    ∀ code, Dict.contains p'.codes code = Dict.contains p'.codeIdentity code

namespace Shrinks
variable {p p' p'' : Provider}

theorem refl (p : Provider) : Shrinks p p := ⟨.refl _, .refl _, .refl _, .refl _, .refl _, rfl, id⟩

theorem trans (first : Shrinks p p') (second : Shrinks p' p'') : Shrinks p p'' where
  pending := second.pending.trans first.pending
  codes := second.codes.trans first.codes
  codeIdentity := second.codeIdentity.trans first.codeIdentity
  tokens := second.tokens.trans first.tokens
  refresh := second.refresh.trans first.refresh
  drawn := second.drawn.trans first.drawn
  tables := fun same => second.tables (first.tables same)

theorem holds (shrinks : Shrinks p p') {item : Item} (held : p'.Holds item) : p.Holds item := by
  cases item with
  | request id => exact shrinks.pending.contains held
  | code code => exact shrinks.codeIdentity.contains held
  | access token => exact shrinks.tokens.contains held
  | refresh token => exact shrinks.refresh.contains held

theorem prunePending (p : Provider) (now : Rat) : Shrinks p (p.prunePending now) :=
  { refl p with pending := Dict.sub_erases _ _ }

theorem popPending (p : Provider) (requestId : String) : Shrinks p (p.popPending requestId) :=
  { refl p with pending := Dict.sub_erase _ _ }

theorem popRefresh (p : Provider) (token : String) : Shrinks p (p.popRefresh token) :=
  { refl p with refresh := Dict.sub_erase _ _ }

theorem revokeAccess (p : Provider) (token : String) : Shrinks p (p.revokeAccess token) :=
  { refl p with tokens := Dict.sub_erase _ _ }

theorem popCode (p : Provider) (code : String) : Shrinks p (p.popCode code) :=
  { refl p with
    codes := Dict.sub_erase _ _
    codeIdentity := Dict.sub_erase _ _
    tables := by
      intro same k
      have agree := same k
      simp only [Dict.contains, Provider.popCode, Dict.get?_erase] at agree ⊢
      split
      · rfl
      · exact agree }

theorem revokeToken (p : Provider) (token : String) : Shrinks p (p.revokeToken token) := by
  unfold Provider.revokeToken
  split
  · exact .refl p
  · exact (Shrinks.revokeAccess p token).trans (.popRefresh _ token)

end Shrinks

/-! ### What one operation can do -/

/-- The operation asks for nothing that is allowed. -/
def Refuses (s : OAuthSystem) : OAuthOp → Prop
  | .completeConsent requestId (.ok link) => ∀ request,
    Dict.get? (s.provider.prunePending s.now).pending requestId = some request →
      ∃ e, effectiveScopes request.params.scopes link.scopes = .error e
  | .exchangeRefreshToken _ token scopes => ∀ found link,
    Dict.get? s.provider.refresh token.token = some (found, link) →
      ∃ e, effectiveScopes (if scopes.isEmpty then token.scopes else scopes) link.scopes = .error e
  | _ => True

/-- The system an operation leads to, by what the operation brought about. -/
inductive Stepped (secrets : Secrets) (s : OAuthSystem) : OAuthOp → OAuthSystem → Prop where
  /-- Entries are lost at most. -/
  | loses {op : OAuthOp} {p : Provider} (shrinks : Shrinks s.provider p) (refuses : Refuses s op) :
    Stepped secrets s op { s with provider := p }
  | requests {client : OAuthClient} {params : AuthorizationParams} {p : Provider}
    (shrinks : Shrinks s.provider p) (request : Pending) :
    Stepped secrets s (.authorize client params) { s with provider := { p with
      pending := Dict.set p.pending (secrets.urlsafe p.drawn) request, drawn := p.drawn + 1 } }
  | consents {requestId : String} {link : TokenLink} {p : Provider} {request : Pending} {scopes : List String}
    (shrinks : Shrinks s.provider p)
    (waits : Dict.get? (s.provider.prunePending s.now).pending requestId = some request)
    (waited : Dict.get? p.pending requestId = some request)
    (effective : effectiveScopes request.params.scopes link.scopes = .ok scopes) :
    Stepped secrets s (.completeConsent requestId (.ok link)) { s with
      provider := { p.popPending requestId with
        codes := Dict.set p.codes (secrets.urlsafe p.drawn)
          (Provider.authorizationCode (secrets.urlsafe p.drawn) scopes s.now request link)
        codeIdentity := Dict.set p.codeIdentity (secrets.urlsafe p.drawn) link
        drawn := p.drawn + 1 }
      ledger := (s.now, .consent requestId link (secrets.urlsafe p.drawn)) :: s.ledger }
  | loadsCode {code : String} {found : AuthorizationCode} (read : Dict.get? s.provider.codes code = some found) :
    Stepped secrets s (.loadAuthorizationCode code) { s with codesLoaded := found :: s.codesLoaded }
  | exchangesCode {client : OAuthClient} {code : AuthorizationCode} {link : TokenLink}
    (read : Dict.get? s.provider.codeIdentity code.code = some link) :
    Stepped secrets s (.exchangeAuthorizationCode client code) { s with
      provider := ((s.provider.popCode code.code).issue secrets s.now client link code.scopes).2
      ledger := (s.now, .issue (.code code.code) (secrets.urlsafe s.provider.drawn)
        (secrets.urlsafe (s.provider.drawn + 1))) :: s.ledger }
  | loadsRefresh {token : String} {found : RefreshToken} {link : TokenLink}
    (read : Dict.get? s.provider.refresh token = some (found, link)) :
    Stepped secrets s (.loadRefreshToken token) { s with refreshLoaded := found :: s.refreshLoaded }
  | exchangesRefresh {client : OAuthClient} {token found : RefreshToken} {asked scopes : List String}
    {link : TokenLink} (read : Dict.get? s.provider.refresh token.token = some (found, link))
    (effective : effectiveScopes (if asked.isEmpty then token.scopes else asked) link.scopes = .ok scopes) :
    Stepped secrets s (.exchangeRefreshToken client token asked) { s with
      provider := ((s.provider.popRefresh token.token).issue secrets s.now client link scopes).2
      ledger := (s.now, .issue (.refresh token.token) (secrets.urlsafe s.provider.drawn)
        (secrets.urlsafe (s.provider.drawn + 1))) :: s.ledger }
  | revokes {token : String} (shrinks : Shrinks s.provider (s.provider.revokeToken token)) :
    Stepped secrets s (.revokeToken token) { s with
      provider := s.provider.revokeToken token, ledger := (s.now, .revoke token) :: s.ledger }
  | advances {seconds : { q : Rat // 0 ≤ q }} :
    Stepped secrets s (.advance seconds) { s with now := s.now + seconds }

section Step
variable (secrets : Secrets) (s : OAuthSystem)

theorem completeConsent_stepped (requestId : String) (redeemed : Except String TokenLink) :
    Stepped secrets s (.completeConsent requestId redeemed) (s.step secrets (.completeConsent requestId redeemed)) := by
  have pruned := Shrinks.prunePending s.provider s.now
  unfold OAuthSystem.step Provider.completeConsent
  dsimp only
  cases waits : Dict.get? (s.provider.prunePending s.now).pending requestId with
  | none =>
    refine .loses pruned ?_
    cases redeemed with
    | error text => trivial
    | ok link => exact fun request waited => by cases waits.symm.trans waited
  | some request =>
    cases redeemed with
    | error text => exact .loses pruned trivial
    | ok link =>
      dsimp only
      cases effective : effectiveScopes request.params.scopes link.scopes with
      | error e =>
        refine .loses (pruned.trans (.popPending _ requestId)) ?_
        intro request' waited
        cases waits.symm.trans waited
        exact ⟨e, effective⟩
      | ok scopes => exact .consents pruned waits waits effective

theorem loadAuthorizationCode_stepped (code : String) :
    Stepped secrets s (.loadAuthorizationCode code) (s.step secrets (.loadAuthorizationCode code)) := by
  unfold OAuthSystem.step
  dsimp only
  cases loaded : s.provider.loadAuthorizationCode s.now code with
  | none => exact .loses (.refl _) trivial
  | some found => exact .loadsCode (Option.eq_some_of_filter_eq_some loaded)

theorem exchangeAuthorizationCode_stepped (client : OAuthClient) (code : AuthorizationCode) :
    Stepped secrets s (.exchangeAuthorizationCode client code)
      (s.step secrets (.exchangeAuthorizationCode client code)) := by
  unfold OAuthSystem.step Provider.exchangeAuthorizationCode
  dsimp only
  cases read : Dict.get? s.provider.codeIdentity code.code with
  | none => exact .loses (.popCode _ _) trivial
  | some link => exact .exchangesCode read

theorem loadRefreshToken_stepped (token : String) :
    Stepped secrets s (.loadRefreshToken token) (s.step secrets (.loadRefreshToken token)) := by
  unfold OAuthSystem.step Provider.loadRefreshToken
  dsimp only
  cases read : Dict.get? s.provider.refresh token with
  | none => exact .loses (.refl _) trivial
  | some entry =>
    obtain ⟨found, link⟩ := entry
    dsimp only
    cases found.expiresAt with
    | none => exact .loadsRefresh read
    | some t =>
      dsimp only
      split
      · exact .loses (.popRefresh _ _) trivial
      · exact .loadsRefresh read

theorem exchangeRefreshToken_stepped (client : OAuthClient) (token : RefreshToken) (asked : List String) :
    Stepped secrets s (.exchangeRefreshToken client token asked)
      (s.step secrets (.exchangeRefreshToken client token asked)) := by
  have popped := Shrinks.popRefresh s.provider token.token
  unfold OAuthSystem.step Provider.exchangeRefreshToken
  dsimp only
  cases read : Dict.get? s.provider.refresh token.token with
  | none => exact .loses popped fun found link held => by cases read.symm.trans held
  | some entry =>
    obtain ⟨found, link⟩ := entry
    dsimp only
    cases effective : effectiveScopes (if asked.isEmpty then token.scopes else asked) link.scopes with
    | error e =>
      refine .loses popped ?_
      intro found' link' held
      cases read.symm.trans held
      exact ⟨e, effective⟩
    | ok scopes => exact .exchangesRefresh read effective

theorem loadAccessToken_stepped (token : String) :
    Stepped secrets s (.loadAccessToken token) (s.step secrets (.loadAccessToken token)) := by
  unfold OAuthSystem.step Provider.loadAccessToken
  dsimp only
  cases Dict.get? s.provider.tokens token with
  | none => exact .loses (.refl _) trivial
  | some link =>
    dsimp only
    split
    · exact .loses (.revokeAccess _ _) trivial
    · exact .loses (.refl _) trivial

theorem OAuthSystem.stepped (op : OAuthOp) : Stepped secrets s op (s.step secrets op) := by
  cases op with
  | authorize client params => exact .requests (.prunePending _ _) _
  | completeConsent requestId redeemed => exact completeConsent_stepped secrets s requestId redeemed
  | loadAuthorizationCode code => exact loadAuthorizationCode_stepped secrets s code
  | exchangeAuthorizationCode client code => exact exchangeAuthorizationCode_stepped secrets s client code
  | loadRefreshToken token => exact loadRefreshToken_stepped secrets s token
  | exchangeRefreshToken client token asked => exact exchangeRefreshToken_stepped secrets s client token asked
  | loadAccessToken token => exact loadAccessToken_stepped secrets s token
  | revokeToken token => exact .revokes (.revokeToken _ _)
  | advance seconds => exact .advances

end Step

end LobstrMcp
