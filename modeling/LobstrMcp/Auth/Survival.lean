import LobstrMcp.Auth.Consent
import LobstrMcp.Auth.Narrowing
import LobstrMcp.Run.Estimate

/-!
What is left of a flow that nobody else ends. A request that waits for its consent, a code and a token
stay as they are, whatever else is done with the provider, until they are used up, revoked or too old.
So a user who takes the steps of a flow in time comes to a pair of tokens, and a client that renews the
pair in time keeps its session.
-/

namespace LobstrMcp

/-- What the provider holds under a secret. -/
inductive Entry where
  | request (id : String) (pending : Pending)
  | code (issued : AuthorizationCode) (link : TokenLink)
  | access (token : String) (link : TokenLink)
  | refresh (issued : RefreshToken) (link : TokenLink)

def Entry.item : Entry → Item
  | request id _ => .request id
  | code issued _ => .code issued.code
  | access token _ => .access token
  | refresh issued _ => .refresh issued.token

/-- The entry is not too old to be held. -/
def Entry.Fresh (now : Rat) : Entry → Prop
  | request _ pending => truncate now ≤ pending.expiresAt
  | code _ _ => True
  | access _ link => link.isExpired now = false
  | refresh issued _ => ∀ t, issued.expiresAt = some t → truncate now ≤ t

def Provider.Has (p : Provider) : Entry → Prop
  | .request id pending => Dict.get? p.pending id = some pending
  | .code issued link => Dict.get? p.codes issued.code = some issued ∧ Dict.get? p.codeIdentity issued.code = some link
  | .access token link => Dict.get? p.tokens token = some link
  | .refresh issued link => Dict.get? p.refresh issued.token = some (issued, link)

/-- The operation uses the item up, or revokes it. -/
def OAuthOp.Takes : OAuthOp → Item → Prop
  | .completeConsent requestId (.ok _), item => item = .request requestId
  | .exchangeAuthorizationCode _ code, item => item = .code code.code
  | .exchangeRefreshToken _ token _, item => item = .refresh token.token
  | .revokeToken token, item => item = .access token ∨ item = .refresh token
  | _, _ => False

instance (op : OAuthOp) (item : Item) : Decidable (op.Takes item) := by
  unfold OAuthOp.Takes
  split <;> infer_instance

section Survives
variable {secrets : Secrets} {p : Provider} {entry : Entry} {s : OAuthSystem} {now earlier : Rat}

theorem Provider.Has.holds (held : p.Has entry) : p.Holds entry.item := by
  cases entry with
  | code issued link => exact (Dict.contains_iff _ _).mpr ⟨_, held.2⟩
  | _ => exact (Dict.contains_iff _ _).mpr ⟨_, held⟩

theorem Entry.Fresh.before (fresh : entry.Fresh now) (nonneg : 0 ≤ earlier) (le : earlier ≤ now) :
    entry.Fresh earlier := by
  cases entry with
  | request id pending => exact (truncate_mono nonneg le).trans fresh
  | code => trivial
  | access token link =>
    have alive : link.isExpired now = false := fresh
    show link.isExpired earlier = false
    unfold TokenLink.isExpired at alive ⊢
    split at alive
    · rfl
    · exact decide_eq_false fun expired => of_decide_eq_false alive (expired.trans le)
  | refresh issued link => exact fun t expires => (truncate_mono nonneg le).trans (fresh t expires)

/-! ### What one change of the tables leaves -/

namespace Provider.Has

theorem prunePending (held : p.Has entry) (distinct : (Dict.keys p.pending).Nodup) (fresh : entry.Fresh now) :
    (p.prunePending now).Has entry := by
  cases entry with
  | request id pending => exact prunePending_keeps distinct held fresh
  | _ => exact held

theorem popPending (id : String) (held : p.Has entry) (other : entry.item ≠ .request id) :
    (p.popPending id).Has entry := by
  cases entry with
  | request k pending =>
    show Dict.get? (Dict.erase p.pending id) k = some pending
    rw [Dict.get?_erase, if_neg fun same => other (congrArg Item.request same.symm)]
    exact held
  | _ => exact held

theorem popCode (code : String) (held : p.Has entry) (other : entry.item ≠ .code code) :
    (p.popCode code).Has entry := by
  cases entry with
  | code issued link =>
    have differs : ¬ code = issued.code := fun same => other (congrArg Item.code same.symm)
    refine ⟨?_, ?_⟩
    · show Dict.get? (Dict.erase p.codes code) issued.code = some issued
      rw [Dict.get?_erase, if_neg differs]
      exact held.1
    · show Dict.get? (Dict.erase p.codeIdentity code) issued.code = some link
      rw [Dict.get?_erase, if_neg differs]
      exact held.2
  | _ => exact held

theorem popRefresh (token : String) (held : p.Has entry) (other : entry.item ≠ .refresh token) :
    (p.popRefresh token).Has entry := by
  cases entry with
  | refresh issued link =>
    show Dict.get? (Dict.erase p.refresh token) issued.token = some (issued, link)
    rw [Dict.get?_erase, if_neg fun same => other (congrArg Item.refresh same.symm)]
    exact held
  | _ => exact held

theorem revokeAccess {token : String} (held : p.Has entry) (other : entry.item ≠ .access token) :
    (p.revokeAccess token).Has entry := by
  cases entry with
  | access t link =>
    show Dict.get? (Dict.erase p.tokens token) t = some link
    rw [Dict.get?_erase, if_neg fun same => other (congrArg Item.access same.symm)]
    exact held
  | _ => exact held

theorem revokeToken {token : String} (held : p.Has entry) (noAccess : entry.item ≠ .access token)
    (noRefresh : entry.item ≠ .refresh token) : (p.revokeToken token).Has entry := by
  unfold Provider.revokeToken
  split
  · exact held
  · exact (held.revokeAccess noAccess).popRefresh token noRefresh

/-- A request that is new. -/
theorem setPending (held : p.Has entry) (known : Known secrets p.drawn entry.item) (request : Pending) :
    Provider.Has { p with
      pending := Dict.set p.pending (secrets.urlsafe p.drawn) request, drawn := p.drawn + 1 } entry := by
  have new : secrets.urlsafe p.drawn ≠ entry.item.secret := (known.ne le_rfl).symm
  cases entry with
  | request id pending => exact (Dict.get?_set_other _ _ new).trans held
  | _ => exact held

/-- A code that is new. -/
theorem setCode (held : p.Has entry) (known : Known secrets p.drawn entry.item) (made : AuthorizationCode)
    (grant : TokenLink) :
    Provider.Has { p with
      codes := Dict.set p.codes (secrets.urlsafe p.drawn) made
      codeIdentity := Dict.set p.codeIdentity (secrets.urlsafe p.drawn) grant
      drawn := p.drawn + 1 } entry := by
  have new : secrets.urlsafe p.drawn ≠ entry.item.secret := (known.ne le_rfl).symm
  cases entry with
  | code issued link =>
    exact ⟨(Dict.get?_set_other _ _ new).trans held.1, (Dict.get?_set_other _ _ new).trans held.2⟩
  | _ => exact held

/-- A pair that is new. -/
theorem issue (held : p.Has entry) (known : Known secrets p.drawn entry.item) (client : OAuthClient)
    (grant : TokenLink) (scopes : List String) : (p.issue secrets now client grant scopes).2.Has entry := by
  have first : secrets.urlsafe p.drawn ≠ entry.item.secret := (known.ne le_rfl).symm
  have second : secrets.urlsafe (p.drawn + 1) ≠ entry.item.secret := (known.ne (Nat.le_succ _)).symm
  cases entry with
  | access token link => exact (Dict.get?_set_other _ _ first).trans held
  | refresh issued link => exact (Dict.get?_set_other _ _ second).trans held
  | _ => exact held

end Provider.Has

/-! ### What one operation leaves -/

section Step
variable (secrets)

theorem completeConsent_leaves (distinct : (Dict.keys s.provider.pending).Nodup)
    (known : Known secrets s.provider.drawn entry.item) (held : s.provider.Has entry) (fresh : entry.Fresh s.now)
    {requestId : String} {redeemed : Except String TokenLink}
    (kept : ¬ (OAuthOp.completeConsent requestId redeemed).Takes entry.item) :
    (s.step secrets (.completeConsent requestId redeemed)).provider.Has entry := by
  have pruned := held.prunePending distinct fresh
  unfold OAuthSystem.step Provider.completeConsent
  dsimp only
  cases Dict.get? (s.provider.prunePending s.now).pending requestId with
  | none => exact pruned
  | some request =>
    cases redeemed with
    | error text => exact pruned
    | ok link =>
      have popped := pruned.popPending requestId kept
      dsimp only
      cases effectiveScopes request.params.scopes link.scopes with
      | error e => exact popped
      | ok scopes => exact popped.setCode known _ link

theorem exchangeAuthorizationCode_leaves (known : Known secrets s.provider.drawn entry.item)
    (held : s.provider.Has entry) {client : OAuthClient} {code : AuthorizationCode}
    (kept : ¬ (OAuthOp.exchangeAuthorizationCode client code).Takes entry.item) :
    (s.step secrets (.exchangeAuthorizationCode client code)).provider.Has entry := by
  have popped := held.popCode code.code kept
  unfold OAuthSystem.step Provider.exchangeAuthorizationCode
  dsimp only
  cases Dict.get? s.provider.codeIdentity code.code with
  | none => exact popped
  | some link => exact popped.issue known client link code.scopes

theorem exchangeRefreshToken_leaves (known : Known secrets s.provider.drawn entry.item)
    (held : s.provider.Has entry) {client : OAuthClient} {token : RefreshToken} {asked : List String}
    (kept : ¬ (OAuthOp.exchangeRefreshToken client token asked).Takes entry.item) :
    (s.step secrets (.exchangeRefreshToken client token asked)).provider.Has entry := by
  have popped := held.popRefresh token.token kept
  unfold OAuthSystem.step Provider.exchangeRefreshToken
  dsimp only
  cases Dict.get? s.provider.refresh token.token with
  | none => exact popped
  | some entry =>
    obtain ⟨found, link⟩ := entry
    dsimp only
    cases effectiveScopes (if asked.isEmpty then token.scopes else asked) link.scopes with
    | error e => exact popped
    | ok scopes => exact popped.issue known client link scopes

/-- A load removes what it finds too old, and this entry is not. -/
theorem loadRefreshToken_leaves (held : p.Has entry) (fresh : entry.Fresh now) (token : String) :
    (p.loadRefreshToken now token).2.Has entry := by
  unfold Provider.loadRefreshToken
  cases read : Dict.get? p.refresh token with
  | none => exact held
  | some stored =>
    obtain ⟨found, link⟩ := stored
    dsimp only
    cases expires : found.expiresAt with
    | none => exact held
    | some t =>
      dsimp only
      split
      · rename_i old
        refine held.popRefresh _ fun same => ?_
        cases entry with
        | refresh issued link' =>
          obtain rfl : issued.token = token := Item.refresh.inj same
          cases read.symm.trans held
          exact absurd old (not_lt.mpr (fresh t expires))
        | _ => cases same
      · exact held

theorem loadAccessToken_leaves (held : p.Has entry) (fresh : entry.Fresh now) (token : String) :
    (p.loadAccessToken now token).2.Has entry := by
  unfold Provider.loadAccessToken
  cases read : Dict.get? p.tokens token with
  | none => exact held
  | some stored =>
    dsimp only
    split
    · rename_i old
      refine held.revokeAccess fun same => ?_
      cases entry with
      | access t link =>
        obtain rfl : t = token := Item.access.inj same
        cases read.symm.trans held
        exact absurd old (Bool.not_eq_true _ ▸ fresh)
      | _ => cases same
    · exact held

theorem OAuthSystem.step_leaves (inv : OAuthInv secrets s.provider s.now s.ledger)
    (distinct : (Dict.keys s.provider.pending).Nodup) (held : s.provider.Has entry) (fresh : entry.Fresh s.now)
    {op : OAuthOp} (kept : ¬ op.Takes entry.item) : (s.step secrets op).provider.Has entry := by
  have known := inv.known _ held.holds
  cases op with
  | authorize client params => exact (held.prunePending distinct fresh).setPending known _
  | completeConsent requestId redeemed => exact completeConsent_leaves secrets distinct known held fresh kept
  | loadAuthorizationCode code => exact held
  | exchangeAuthorizationCode client code => exact exchangeAuthorizationCode_leaves secrets known held kept
  | loadRefreshToken token => exact loadRefreshToken_leaves held fresh token
  | exchangeRefreshToken client token asked => exact exchangeRefreshToken_leaves secrets known held kept
  | loadAccessToken token => exact loadAccessToken_leaves held fresh token
  | revokeToken token => exact held.revokeToken (fun same => kept (.inl same)) fun same => kept (.inr same)
  | advance seconds => exact held

theorem OAuthSystem.now_le_step (op : OAuthOp) : s.now ≤ (s.step secrets op).now := by
  have stepped := s.stepped secrets op
  generalize s.step secrets op = s' at stepped
  cases stepped with
  | @advances seconds => exact le_add_of_nonneg_right seconds.2
  | _ => exact le_rfl

end Step

/-- None of the operations takes the item. -/
def Leave (others : List OAuthOp) (item : Item) : Prop := ∀ op ∈ others, ¬ op.Takes item

instance (others : List OAuthOp) (item : Item) : Decidable (Leave others item) := List.decidableBAll _ others

/-- An entry outlasts whatever is done meanwhile that does not take it, as long as it is fresh. -/
theorem OAuthSystem.after_leaves {start : { q : Rat // 0 ≤ q }} {ops others : List OAuthOp}
    (held : (after secrets start ops).provider.Has entry) (left : Leave others entry.item)
    (fresh : entry.Fresh (after secrets start (ops ++ others)).now) :
    (after secrets start (ops ++ others)).provider.Has entry := by
  induction others using List.reverseRecOn with
  | nil => rwa [List.append_nil]
  | append_singleton others op ih =>
    rw [← List.append_assoc, after_append] at fresh ⊢
    have inv := after_inv secrets start (ops ++ others)
    have before := fresh.before inv.clock (now_le_step secrets op)
    exact step_leaves secrets inv (after_distinct secrets start _)
      (ih (fun earlier member => left earlier (List.mem_append_left _ member)) before) before
      (left op (List.mem_append_right _ List.mem_cons_self))

end Survives

/-! ### What a user who takes the next step is answered -/

section Answers
variable {secrets : Secrets} {p : Provider} {now : Rat} {link : TokenLink} {scopes : List String}

theorem completeConsent_held (secrets : Secrets) {id : String} {pending : Pending}
    (distinct : (Dict.keys p.pending).Nodup)
    (held : p.Has (.request id pending)) (fresh : truncate now ≤ pending.expiresAt)
    (worth : effectiveScopes pending.params.scopes link.scopes = .ok scopes) :
    (p.completeConsent secrets now id (.ok link)).1 = .ok (secrets.urlsafe p.drawn,
      ⟨pending.params.redirectUri,
        ("code", secrets.urlsafe p.drawn) :: pending.params.state.toList.map (("state", ·))⟩) ∧
    (p.completeConsent secrets now id (.ok link)).2.Has
      (.code (Provider.authorizationCode (secrets.urlsafe p.drawn) scopes now pending link) link) := by
  unfold Provider.completeConsent
  dsimp only
  rw [prunePending_keeps distinct held fresh]
  dsimp only
  rw [worth]
  exact ⟨rfl, Dict.get?_set_self _ _ _, Dict.get?_set_self _ _ _⟩

theorem issue_has (secrets : Secrets) (p : Provider) (now : Rat) (client : OAuthClient) (link : TokenLink)
    (scopes : List String) :
    (p.issue secrets now client link scopes).2.Has (.access (secrets.urlsafe p.drawn)
      ⟨link.lobstrUserId, link.lobstrApiToken, scopes, some (truncate now + accessTtl : Int)⟩) ∧
    (p.issue secrets now client link scopes).2.Has (.refresh ⟨secrets.urlsafe (p.drawn + 1), client.clientId, scopes,
      some (truncate now + refreshTtl)⟩ link) :=
  ⟨Dict.get?_set_self _ _ _, Dict.get?_set_self _ _ _⟩

theorem exchangeAuthorizationCode_held (secrets : Secrets) (now : Rat) {made : AuthorizationCode}
    (held : p.Has (.code made link)) (client : OAuthClient) :
    p.exchangeAuthorizationCode secrets now client made =
      (.ok ((p.popCode made.code).issue secrets now client link made.scopes).1,
        ((p.popCode made.code).issue secrets now client link made.scopes).2) := by
  unfold Provider.exchangeAuthorizationCode
  rw [held.2]

theorem exchangeRefreshToken_held (secrets : Secrets) (now : Rat) {issued : RefreshToken}
    (held : p.Has (.refresh issued link))
    (fits : Fits issued.scopes link.scopes) (client : OAuthClient) :
    p.exchangeRefreshToken secrets now client issued [] =
      (.ok ((p.popRefresh issued.token).issue secrets now client link issued.scopes).1,
        ((p.popRefresh issued.token).issue secrets now client link issued.scopes).2) := by
  unfold Provider.exchangeRefreshToken
  rw [show Dict.get? p.refresh issued.token = some (issued, link) from held]
  dsimp only
  rw [List.isEmpty_nil, if_pos rfl, fits.effective]

theorem loadAuthorizationCode_held {made : AuthorizationCode} (held : p.Has (.code made link))
    (fresh : truncate now ≤ made.expiresAt) : p.loadAuthorizationCode now made.code = some made := by
  rw [Provider.loadAuthorizationCode, held.1, Option.filter_some, if_pos (decide_eq_true fresh)]

theorem loadRefreshToken_held {issued : RefreshToken} (held : p.Has (.refresh issued link))
    (fresh : (Entry.refresh issued link).Fresh now) : (p.loadRefreshToken now issued.token).1 = some issued := by
  unfold Provider.loadRefreshToken
  rw [show Dict.get? p.refresh issued.token = some (issued, link) from held]
  dsimp only
  cases expires : issued.expiresAt with
  | none => rfl
  | some t =>
    dsimp only
    rw [if_neg (not_lt.mpr (fresh t expires))]

theorem loadAccessToken_held {token : String} (held : p.Has (.access token link)) (fresh : link.isExpired now = false) :
    (p.loadAccessToken now token).1 = some
      { token, clientId := link.lobstrUserId, scopes := link.scopes, expiresAt := link.expiresAt.map truncate
        subject := link.lobstrUserId, lobstrToken := link.lobstrApiToken, lobstrUserId := link.lobstrUserId } := by
  unfold Provider.loadAccessToken
  rw [show Dict.get? p.tokens token = some link from held]
  dsimp only
  rw [fresh]
  rfl

end Answers

/-! ### A flow, and the session it comes to -/

/-- How far a flow has come, with what the client or the user holds of it. -/
inductive Stage where
  | requested (id : String)
  | consented (code : String)
  | session (pair : OAuthToken)

/-- What the next step uses up, and for how long it can. -/
def Stage.item : Stage → Item
  | requested id => .request id
  | consented code => .code code
  | session pair => .refresh pair.refreshToken

def Stage.ttl : Stage → Int
  | requested _ => pendingTtl
  | consented _ => authCodeTtl
  | session _ => refreshTtl

section Flow
variable (secrets : Secrets) (start : { q : Rat // 0 ≤ q }) (client : OAuthClient) (params : AuthorizationParams)
  (link : TokenLink)

/-- The operations that others do between two steps of the flow: they leave what it goes on with, and take
no longer than it lasts. -/
structure Between (stage : Stage) (ops others : List OAuthOp) : Prop where
  leave : Leave others stage.item
  inTime : truncate (OAuthSystem.after secrets start (ops ++ others)).now ≤
    truncate (OAuthSystem.after secrets start ops).now + stage.ttl

/-- What the next step of the flow is answered: a code that is sent to the client, or another pair. -/
def GoesOn (s : OAuthSystem) : Stage → Stage → OAuthOp → Prop
  | .requested id, .consented code, op => op = .completeConsent id (.ok link) ∧
    ∃ redirect, (s.provider.completeConsent secrets s.now id (.ok link)).1 = .ok (code, redirect) ∧
      redirect.uri = params.redirectUri
  | .consented code, .session pair, op => ∃ made, s.provider.loadAuthorizationCode s.now code = some made ∧
    made.clientId = client.clientId ∧ made.codeChallenge = params.codeChallenge ∧
    op = .exchangeAuthorizationCode client made ∧
    (s.provider.exchangeAuthorizationCode secrets s.now client made).1 = .ok pair
  | .session pair, .session renewed, op => ∃ issued,
    (s.provider.loadRefreshToken s.now pair.refreshToken).1 = some issued ∧
    issued.clientId = client.clientId ∧ op = .exchangeRefreshToken client issued [] ∧
    (s.provider.exchangeRefreshToken secrets s.now client issued []).1 = .ok renewed
  | _, _, _ => False

/-- A flow after any operations: a request, its consent, the exchange of its code, and then any number of
renewals, each step among whatever others do. -/
inductive Flow : Stage → List OAuthOp → Prop
  | requests (ops : List OAuthOp) :
    Flow (.requested (secrets.urlsafe (OAuthSystem.after secrets start ops).provider.drawn))
      (ops ++ [.authorize client params])
  | goesOn {stage next : Stage} {ops others : List OAuthOp} {op : OAuthOp} (flow : Flow stage ops)
    (between : Between secrets start stage ops others)
    (answered : GoesOn secrets client params link (OAuthSystem.after secrets start (ops ++ others)) stage next op) :
    Flow next (ops ++ others ++ [op])

end Flow

section Flow
variable {secrets : Secrets} {start : { q : Rat // 0 ≤ q }} {client : OAuthClient} {params : AuthorizationParams}
  {link : TokenLink} {scopes : List String} {stage next : Stage} {ops others : List OAuthOp} {op : OAuthOp}
  {s : OAuthSystem} {since now : Rat}

/-- What the provider holds for a flow that came this far at an instant. -/
def Stage.entry (client : OAuthClient) (params : AuthorizationParams) (link : TokenLink) (scopes : List String)
    (since : Rat) : Stage → Entry
  | requested id => .request id ⟨client.clientId, params, truncate since + pendingTtl⟩
  | consented code =>
    .code (Provider.authorizationCode code scopes since ⟨client.clientId, params, truncate since⟩ link) link
  | session pair =>
    .refresh ⟨pair.refreshToken, client.clientId, scopes, some (truncate since + refreshTtl)⟩ link

/-- The access token of a pair that was issued at an instant. -/
def OAuthToken.entry (pair : OAuthToken) (link : TokenLink) (scopes : List String) (since : Rat) : Entry :=
  .access pair.accessToken ⟨link.lobstrUserId, link.lobstrApiToken, scopes, some (truncate since + accessTtl : Int)⟩

theorem Stage.entry_item : (stage.entry client params link scopes since).item = stage.item := by
  cases stage <;> rfl

theorem Stage.entry_fresh (inTime : truncate now ≤ truncate since + stage.ttl) :
    (stage.entry client params link scopes since).Fresh now := by
  cases stage with
  | requested id => exact inTime
  | consented code => trivial
  | session pair =>
    intro t expires
    cases expires
    exact inTime

/-- While the entry of its stage is held and lasts, a flow can go on. -/
theorem Stage.goes_on (secrets : Secrets) (worth : effectiveScopes params.scopes link.scopes = .ok scopes)
    (distinct : (Dict.keys s.provider.pending).Nodup)
    (held : s.provider.Has (stage.entry client params link scopes since))
    (inTime : truncate s.now ≤ truncate since + stage.ttl) :
    ∃ next op, GoesOn secrets client params link s stage next op := by
  cases stage with
  | requested id =>
    obtain ⟨answered, -⟩ := completeConsent_held secrets distinct held inTime worth
    exact ⟨.consented _, _, rfl, _, answered, rfl⟩
  | consented code =>
    have loaded := loadAuthorizationCode_held held inTime
    have answered := exchangeAuthorizationCode_held secrets s.now held client
    exact ⟨.session _, _, _, loaded, rfl, rfl, rfl, congrArg Prod.fst answered⟩
  | session pair =>
    have fresh : (Stage.entry client params link scopes since (.session pair)).Fresh s.now := Stage.entry_fresh inTime
    have loaded := loadRefreshToken_held held fresh
    have answered := exchangeRefreshToken_held secrets s.now held (effectiveScopes_fits worth) client
    exact ⟨.session _, _, _, loaded, rfl, rfl, congrArg Prod.fst answered⟩

/-- What the provider holds of a flow that has just come this far. -/
structure Standing (client : OAuthClient) (params : AuthorizationParams) (link : TokenLink) (scopes : List String)
    (stage : Stage) (s : OAuthSystem) : Prop where
  held : s.provider.Has (stage.entry client params link scopes s.now)
  access : ∀ pair, stage = .session pair → s.provider.Has (pair.entry link scopes s.now)

theorem Standing.issued {p : Provider} {ledger : Ledger} :
    Standing client params link scopes (.session (p.issue secrets s.now client link scopes).1)
      { s with provider := (p.issue secrets s.now client link scopes).2, ledger := ledger } := by
  obtain ⟨access, refresh⟩ := issue_has secrets p s.now client link scopes
  refine ⟨refresh, fun pair same => ?_⟩
  cases same
  exact access

/-- Each step that is answered leads to a stage that stands. -/
theorem GoesOn.standing (worth : effectiveScopes params.scopes link.scopes = .ok scopes)
    (distinct : (Dict.keys s.provider.pending).Nodup)
    (held : s.provider.Has (stage.entry client params link scopes since))
    (inTime : truncate s.now ≤ truncate since + stage.ttl)
    (answered : GoesOn secrets client params link s stage next op) :
    Standing client params link scopes next (s.step secrets op) := by
  match stage, next, answered with
  | .requested id, .consented code, answered =>
    obtain ⟨rfl, redirect, ok, -⟩ := answered
    obtain ⟨same, made⟩ := completeConsent_held secrets distinct held inTime worth
    rw [same] at ok
    cases ok
    unfold OAuthSystem.step
    dsimp only
    rw [same]
    exact ⟨made, fun pair absurd => by cases absurd⟩
  | .consented code, .session pair, answered =>
    obtain ⟨made, loaded, -, -, rfl, ok⟩ := answered
    cases (loadAuthorizationCode_held held inTime).symm.trans loaded
    have same := exchangeAuthorizationCode_held secrets s.now held client
    rw [same] at ok
    cases ok
    unfold OAuthSystem.step
    dsimp only
    rw [same]
    exact Standing.issued
  | .session pair, .session renewed, answered =>
    obtain ⟨issued, loaded, -, rfl, ok⟩ := answered
    have fresh : (Stage.entry client params link scopes since (.session pair)).Fresh s.now := Stage.entry_fresh inTime
    cases (loadRefreshToken_held held fresh).symm.trans loaded
    have same := exchangeRefreshToken_held secrets s.now held (effectiveScopes_fits worth) client
    rw [same] at ok
    cases ok
    unfold OAuthSystem.step
    dsimp only
    rw [same]
    exact Standing.issued

theorem Between.held (between : Between secrets start stage ops others)
    (standing : Standing client params link scopes stage (OAuthSystem.after secrets start ops)) :
    (OAuthSystem.after secrets start (ops ++ others)).provider.Has
      (stage.entry client params link scopes (OAuthSystem.after secrets start ops).now) :=
  OAuthSystem.after_leaves standing.held (Stage.entry_item ▸ between.leave) (Stage.entry_fresh between.inTime)

/-- A flow of any length stands, whatever others did between its steps. -/
theorem Flow.standing (worth : effectiveScopes params.scopes link.scopes = .ok scopes)
    (flow : Flow secrets start client params link stage ops) :
    Standing client params link scopes stage (OAuthSystem.after secrets start ops) := by
  induction flow with
  | requests ops =>
    rw [OAuthSystem.after_append]
    exact ⟨Dict.get?_set_self _ _ _, fun pair absurd => by cases absurd⟩
  | @goesOn stage next ops others op flow between answered ih =>
    rw [OAuthSystem.after_append]
    exact answered.standing worth (OAuthSystem.after_distinct secrets start _) (between.held ih) between.inTime

/-- A flow whose next step is taken in time can go on, from the request to a pair and from each pair to the
next, whatever is done with the provider meanwhile that leaves what it goes on with. -/
theorem flows_in_time_go_on (worth : effectiveScopes params.scopes link.scopes = .ok scopes)
    (flow : Flow secrets start client params link stage ops) (between : Between secrets start stage ops others) :
    ∃ next op, GoesOn secrets client params link (OAuthSystem.after secrets start (ops ++ others)) stage next op ∧
      Flow secrets start client params link next (ops ++ others ++ [op]) := by
  obtain ⟨next, op, answered⟩ := Stage.goes_on secrets worth (OAuthSystem.after_distinct secrets start _)
    (between.held (flow.standing worth)) between.inTime
  exact ⟨next, op, answered, flow.goesOn between answered⟩

end Flow

section Sample

def firstPair : OAuthToken := ⟨"aaa", "Bearer", accessTtl, "crawlers:read", "aaaa"⟩

/-- The sample chain up to its first pair. -/
theorem firstPair_flow : Flow countingSecrets ⟨0, le_rfl⟩ { clientId := "c1" }
    (sampleParams ["crawlers:read"]) sampleLink
    (.session firstPair) ((sampleChain ["crawlers:read"] ["crawlers:read"]).take 4) := by
  have requested : Flow countingSecrets ⟨0, le_rfl⟩ { clientId := "c1" } (sampleParams ["crawlers:read"]) sampleLink
      (.requested "a") ((sampleChain ["crawlers:read"] ["crawlers:read"]).take 1) := .requests []
  have atOnce : Between countingSecrets ⟨0, le_rfl⟩ (.requested "a")
      ((sampleChain ["crawlers:read"] ["crawlers:read"]).take 1) [] := ⟨by decide, by decide +kernel⟩
  have consented : Flow countingSecrets ⟨0, le_rfl⟩ { clientId := "c1" } (sampleParams ["crawlers:read"]) sampleLink
      (.consented "aa") ((sampleChain ["crawlers:read"] ["crawlers:read"]).take 2) :=
    requested.goesOn atOnce ⟨rfl, ⟨_, [("code", "aa")]⟩, by decide +kernel, rfl⟩
  have waited : Between countingSecrets ⟨0, le_rfl⟩ (.consented "aa")
      ((sampleChain ["crawlers:read"] ["crawlers:read"]).take 2) [.loadAuthorizationCode "aa"] :=
    ⟨by decide, by decide +kernel⟩
  exact consented.goesOn waited ⟨_, by decide +kernel, rfl, rfl, rfl, by decide +kernel⟩

/-- It is renewed a day later, another client's request and a bad refresh having come between. -/
theorem a_session_renews_a_day_later :
    let others : List OAuthOp := [.authorize { clientId := "c2" } (sampleParams []), .advance
      (SessionSystem.someDays 1),
      .exchangeRefreshToken { clientId := "c2" } ⟨"b", "c2", [], none⟩ []]
    let ops := (sampleChain ["crawlers:read"] ["crawlers:read"]).take 4
    ∃ next op, GoesOn countingSecrets { clientId := "c1" } (sampleParams ["crawlers:read"]) sampleLink
      (OAuthSystem.after countingSecrets ⟨0, le_rfl⟩ (ops ++ others)) (.session firstPair) next op ∧
      Flow countingSecrets ⟨0, le_rfl⟩ { clientId := "c1" } (sampleParams ["crawlers:read"]) sampleLink next
        (ops ++ others ++ [op]) :=
  @flows_in_time_go_on _ _ _ _ _ ["crawlers:read"] _ _ _ rfl firstPair_flow ⟨by decide, by decide +kernel⟩

end Sample
end LobstrMcp
