import LobstrMcp.Auth.Revocation
import LobstrMcp.Server.LeastPrivilege

/-!
From a consent to a request. The access token of a call is the one that the provider loads for its
bearer: so what a call does upstream goes back to a consent, is done with the Lobstr token of that
consent, and stays within its scopes.
-/

namespace LobstrMcp
open Interaction

/-! ### What the provider loads -/

section Loads
variable {secrets : Secrets} {p : Provider} {now : Rat} {ledger : Ledger} {bearer : String} {access : AccessToken}

/-- A token that loads is held, and not expired. -/
theorem loadAccessToken_cases (loaded : (p.loadAccessToken now bearer).1 = some access) :
    ∃ stored, Dict.get? p.tokens bearer = some stored ∧ stored.isExpired now = false ∧
      access.scopes = stored.scopes ∧ access.lobstrToken = stored.lobstrApiToken := by
  unfold Provider.loadAccessToken at loaded
  cases found : Dict.get? p.tokens bearer with
  | none =>
    rw [found] at loaded
    cases loaded
  | some stored =>
    rw [found] at loaded
    dsimp only at loaded
    split at loaded
    · cases loaded
    · rename_i live
      cases loaded
      exact ⟨stored, rfl, by simpa using live, rfl, rfl⟩

/-- What it carries is what was issued less than its lifetime ago. -/
theorem Carried.live {stored grant : TokenLink} (carried : Carried ledger bearer stored grant)
    (fresh : stored.isExpired now = false) : Live ledger bearer now := by
  obtain ⟨-, -, newer, issued, source, refresh, older, split, unrevoked, nonneg, expires⟩ := carried
  refine ⟨newer, issued, source, refresh, older, split, unrevoked, ?_⟩
  have early : now < (truncate issued + accessTtl : Int) := by
    rw [TokenLink.isExpired, expires] at fresh
    simpa using fresh
  have floor := truncate_le nonneg
  push_cast at early
  linarith

/-- What a token gives: it is live, and carries the Lobstr token of its grant and scopes of it. -/
structure GrantedBy (ledger : Ledger) (now : Rat) (bearer : String) (access : AccessToken) (grant : TokenLink) :
    Prop where
  live : Live ledger bearer now
  root : grantOf ledger (.access bearer) = some grant
  token : access.lobstrToken = grant.lobstrApiToken
  scopes : access.scopes ⊆ grant.scopes

theorem OAuthInv.granted (inv : OAuthInv secrets p now ledger) (within : ScopesWithin p ledger)
    (loaded : (p.loadAccessToken now bearer).1 = some access) : ∃ grant, GrantedBy ledger now bearer access grant := by
  obtain ⟨stored, held, fresh, scopes, token⟩ := loadAccessToken_cases loaded
  obtain ⟨grant, root, carried⟩ := inv.tokenGrant bearer stored held
  exact ⟨grant, carried.live fresh, root, token.trans carried.2.1, scopes ▸ within.tokens bearer stored grant held root⟩

end Loads

/-- In a run that asks no empty grant for scopes, every token is within its grant. -/
theorem within_after (secrets : Secrets) (start : { q : Rat // 0 ≤ q }) {ops : List OAuthOp}
    (presented : Along Presented secrets { now := start } ops) (asks : Along AsksWithin secrets { now := start } ops) :
    ScopesWithin (OAuthSystem.after secrets start ops).provider (OAuthSystem.after secrets start ops).ledger := by
  have coherent : Coherent secrets { now := start } := by constructor <;> intros <;> contradiction
  have within : ScopesWithin (OAuthSystem.provider { now := start }) [] := by
    constructor <;> intros <;> contradiction
  exact (run_within_iff (OAuthSystem.after_inv secrets start []) coherent within presented).mpr asks ops List.prefix_rfl

/-! ### Calls of a bearer -/

section Bearer
variable {K : Type} [ScoreField K] (host : Host K)

/-- A call with a bearer token, as the provider stands. -/
def serveBearer (s : OAuthSystem) (now : Int) (bearer : String) (call : ToolCall) :
    Program ServerCall ServerCall.Ans ToolError (Option Reply) :=
  serve host now (s.provider.loadAccessToken s.now bearer).1 call

/-- After any run of the provider that asks no empty grant for scopes, a call with a bearer token is
refused without a request, or goes back to a consent: the token is live, the call is served with the
Lobstr token that was consented to, and each request is made under a scope that was. -/
theorem requests_go_back_to_a_consent (secrets : Secrets) (start : { q : Rat // 0 ≤ q }) {ops : List OAuthOp}
    (presented : Along Presented secrets { now := start } ops) (asks : Along AsksWithin secrets { now := start } ops)
    (now : Int) (bearer : String) (call : ToolCall) :
    let s := OAuthSystem.after secrets start ops
    (∃ e, serveBearer host s now bearer call = .raise e) ∨
      ∃ access grant, GrantedBy s.ledger s.now bearer access grant ∧
        serveBearer host s now bearer call = call.served host now access ∧
        (serveBearer host s now bearer call).Uses fun op => ∃ scope ∈ op.governing,
          scope ∈ expandGranted grant.scopes := by
  intro s
  rcases serve_cases host now (s.provider.loadAccessToken s.now bearer).1 call with
    refused | ⟨access, loaded, -, -, served⟩
  · exact .inl refused
  obtain ⟨grant, granted⟩ := (OAuthSystem.after_inv secrets start ops).granted
    (within_after secrets start presented asks) loaded
  refine .inr ⟨access, grant, granted, served, ?_⟩
  refine (serve_governed host now _ call).mono fun op governed => ?_
  obtain ⟨a, same, scope, governs, held⟩ := governed
  rw [loaded] at same
  cases same
  exact ⟨scope, governs, expandGranted_mono granted.scopes held⟩

end Bearer

/-- A consent to reading crawlers, up to the exchange of its code. -/
def readingConsent : OAuthSystem :=
  OAuthSystem.after countingSecrets ⟨0, le_rfl⟩ ((sampleChain [crawlersRead] [crawlersRead]).take 4)

theorem a_bearer_reads_a_squid :
    ∃ access grant, GrantedBy readingConsent.ledger readingConsent.now "aaa" access grant ∧
      serveBearer plainHost readingConsent 0 "aaa" (.getMyScraper "squid") =
        (ToolCall.getMyScraper "squid").served plainHost 0 access ∧
      (serveBearer plainHost readingConsent 0 "aaa" (.getMyScraper "squid")).Uses fun op =>
        ∃ scope ∈ op.governing, scope ∈ expandGranted grant.scopes := by
  have loads : (readingConsent.provider.loadAccessToken readingConsent.now "aaa").1 =
      some ⟨"aaa", "u1", [crawlersRead], some 3600, "u1", "t1", "u1"⟩ := by decide +kernel
  refine (requests_go_back_to_a_consent plainHost countingSecrets ⟨0, le_rfl⟩ (by decide +kernel) (by decide +kernel) 0
    "aaa" (.getMyScraper "squid")).resolve_left ?_
  rintro ⟨e, refused⟩
  rw [serveBearer, show (OAuthSystem.after _ _ _) = readingConsent from rfl, loads] at refused
  cases refused

/-! ### Bearers that are refused -/

/-- An access token that was drawn, and that the provider does not load. -/
structure Lost (secrets : Secrets) (t : String) (s : OAuthSystem) : Prop where
  known : Known secrets s.provider.drawn (.access t)
  dead : Dead s.provider s.now (.access t)

section Lost
variable {secrets : Secrets} {start : { q : Rat // 0 ≤ q }} {ops : List OAuthOp} {t : String} {s : OAuthSystem}

theorem Lost.issue {p : Provider} (lost : Lost secrets t s) (shrinks : Shrinks s.provider p) (client : OAuthClient)
    (link : TokenLink) (scopes : List String) (ledger : Ledger) :
    Lost secrets t { s with provider := (p.issue secrets s.now client link scopes).2, ledger := ledger } := by
  have known : Known secrets p.drawn (.access t) := shrinks.drawn ▸ lost.known
  exact ⟨known.mono (Nat.le_add_right _ 2), (lost.dead.shrink shrinks).issue known client link scopes⟩

/-- No operation brings it back: what is issued is drawn anew. -/
theorem Lost.step (lost : Lost secrets t s) (op : OAuthOp) : Lost secrets t (s.step secrets op) := by
  have stepped := s.stepped secrets op
  generalize s.step secrets op = s' at stepped
  cases stepped with
  | loses shrinks => exact ⟨shrinks.drawn ▸ lost.known, lost.dead.shrink shrinks⟩
  | @requests _ _ p shrinks request =>
    have known : Known secrets p.drawn (.access t) := shrinks.drawn ▸ lost.known
    have dead : Dead p s.now (.access t) := lost.dead.shrink shrinks
    exact ⟨known.mono (Nat.le_succ _), dead⟩
  | @consents _ _ p _ _ shrinks =>
    have known : Known secrets p.drawn (.access t) := shrinks.drawn ▸ lost.known
    have dead : Dead p s.now (.access t) := lost.dead.shrink shrinks
    exact ⟨known.mono (Nat.le_succ _), dead⟩
  | loadsCode => exact ⟨lost.known, lost.dead⟩
  | exchangesCode => exact lost.issue (.popCode _ _) _ _ _ _
  | loadsRefresh => exact ⟨lost.known, lost.dead⟩
  | exchangesRefresh => exact lost.issue (.popRefresh _ _) _ _ _ _
  | revokes shrinks => exact ⟨shrinks.drawn ▸ lost.known, lost.dead.shrink shrinks⟩
  | @advances seconds => exact ⟨lost.known, lost.dead.wait (le_add_of_nonneg_right seconds.2)⟩

theorem Lost.later (lost : Lost secrets t (OAuthSystem.after secrets start ops)) (later : List OAuthOp) :
    Lost secrets t (OAuthSystem.after secrets start (ops ++ later)) := by
  induction later using List.reverseRecOn with
  | nil => simpa using lost
  | append_singleton later op ih =>
    rw [← List.append_assoc, OAuthSystem.after_append]
    exact ih.step op

theorem Lost.unloaded (lost : Lost secrets t s) : (s.provider.loadAccessToken s.now t).1 = none := by
  cases loaded : (s.provider.loadAccessToken s.now t).1 with
  | none => rfl
  | some access =>
    have rejected : ¬ Accepted secrets s (.access t) := (not_accepted_iff ⟨t, .inl rfl⟩).mpr lost.dead
    exact absurd ⟨access, loaded⟩ rejected

/-- A token that was issued and is revoked or expired makes no request ever again, whatever its bearer
calls and whatever is done with the provider meanwhile. -/
theorem refused_bearers_stay_refused {K : Type} [ScoreField K] (host : Host K) {issued : Rat} {source : Item}
    {refresh : String} (made : (issued, .issue source t refresh) ∈ (OAuthSystem.after secrets start ops).ledger)
    (refused : ((OAuthSystem.after secrets start ops).provider.loadAccessToken
      (OAuthSystem.after secrets start ops).now t).1 = none)
    (later : List OAuthOp) (now : Int) (call : ToolCall) :
    serveBearer host (OAuthSystem.after secrets start (ops ++ later)) now t call = .raise noToken := by
  have lost : Lost secrets t (OAuthSystem.after secrets start ops) := by
    have rejected : ¬ Accepted secrets (OAuthSystem.after secrets start ops) (.access t) := by
      rintro ⟨access, loaded⟩
      rw [refused] at loaded
      cases loaded
    exact ⟨(OAuthSystem.after_pairs secrets start ops _ _ _ _ made).1, (not_accepted_iff ⟨t, .inl rfl⟩).mp rejected⟩
  rw [serveBearer, (lost.later later).unloaded]
  rfl

end Lost

/-- The sample's access token, revoked; its session goes on with the refresh token of the pair. -/
theorem a_revoked_bearer_stays_refused :
    serveBearer plainHost (OAuthSystem.after countingSecrets ⟨0, le_rfl⟩
      ((sampleChain [crawlersRead] [crawlersRead]).take 4 ++ [.revokeToken "aaa"] ++
        (sampleChain [crawlersRead] [crawlersRead]).drop 4)) 0 "aaa" (.getMyScraper "squid") = .raise noToken := by
  have made : (0, .issue (.code "aa") "aaa" "aaaa") ∈ (OAuthSystem.after countingSecrets ⟨0, le_rfl⟩
      ((sampleChain [crawlersRead] [crawlersRead]).take 4 ++ [.revokeToken "aaa"])).ledger := by
    exact .tail _ (.head _)
  exact refused_bearers_stay_refused plainHost made (by decide +kernel) _ 0 _

end LobstrMcp
