import LobstrMcp.Auth.Survival
import LobstrMcp.Server.Identity

/-!
What a session is good for: while the access token of its latest pair lasts, each call within the scopes of
the consent is served, with the Lobstr token of the consent, whatever else is done with the provider.
-/

namespace LobstrMcp
open Interaction

section Session
variable {secrets : Secrets} {start : { q : Rat // 0 ≤ q }} {client : OAuthClient} {params : AuthorizationParams}
  {link : TokenLink} {scopes : List String} {pair : OAuthToken} {ops others : List OAuthOp}

theorem OAuthToken.entry_fresh (pair : OAuthToken) (link : TokenLink) (scopes : List String) {now since : Rat}
    (alive : now < truncate since + accessTtl) :
    (pair.entry link scopes since).Fresh now := by
  show TokenLink.isExpired _ now = false
  unfold TokenLink.isExpired
  dsimp only
  refine decide_eq_false (not_le.mpr ?_)
  push_cast
  exact alive

/-- The access token of a session loads until it is revoked or too old. -/
theorem Flow.access_loads (worth : effectiveScopes params.scopes link.scopes = .ok scopes)
    (flow : Flow secrets start client params link (.session pair) ops) (left : Leave others (.access pair.accessToken))
    (alive : (OAuthSystem.after secrets start (ops ++ others)).now <
      truncate (OAuthSystem.after secrets start ops).now + accessTtl) :
    let s := OAuthSystem.after secrets start (ops ++ others)
    ∃ access, (s.provider.loadAccessToken s.now pair.accessToken).1 = some access ∧ access.scopes = scopes ∧
      access.lobstrToken = link.lobstrApiToken ∧ access.lobstrUserId = link.lobstrUserId := by
  have issued := (flow.standing worth).access pair rfl
  have fresh := OAuthToken.entry_fresh pair link scopes alive
  have held := OAuthSystem.after_leaves issued left fresh
  exact ⟨_, loadAccessToken_held held fresh, rfl, rfl, rfl⟩

/-- A call within the scopes of a session is served, with the Lobstr token of its consent, after any number of
renewals and among whatever others do that does not revoke the access token of its latest pair. -/
theorem sessions_are_served {K : Type} [ScoreField K] (host : Host K)
    (worth : effectiveScopes params.scopes link.scopes = .ok scopes) (linked : link.lobstrApiToken ≠ "")
    (flow : Flow secrets start client params link (.session pair) ops) (left : Leave others (.access pair.accessToken))
    (alive : (OAuthSystem.after secrets start (ops ++ others)).now <
      truncate (OAuthSystem.after secrets start ops).now + accessTtl)
    (now : Int) {call : ToolCall} (within : call.scopes ⊆ expandGranted scopes) :
    ∃ access, access.scopes = scopes ∧ access.lobstrToken = link.lobstrApiToken ∧
      serveBearer host (OAuthSystem.after secrets start (ops ++ others)) now pair.accessToken call =
        call.served host now access := by
  obtain ⟨access, loaded, same, token, -⟩ := flow.access_loads worth left alive
  refine ⟨access, same, token, ?_⟩
  rw [serveBearer, loaded]
  exact serve_held host now (same ▸ within) (token ▸ linked)

end Session

def halfAnHour : { q : Rat // 0 ≤ q } := ⟨1800, by norm_num⟩

/-- The sample's first pair serves a look-up half an hour later, its refresh token having been revoked. -/
theorem the_first_pair_serves_a_look_up :
    ∃ access : AccessToken, access.scopes = [crawlersRead] ∧ access.lobstrToken = "t1" ∧
      serveBearer plainHost (OAuthSystem.after countingSecrets ⟨0, le_rfl⟩
        ((sampleChain [crawlersRead] [crawlersRead]).take 4 ++ [.advance halfAnHour, .revokeToken "aaaa"])) 0
        "aaa" (.getMyScraper "squid") = (ToolCall.getMyScraper "squid").served plainHost 0 access :=
  sessions_are_served plainHost rfl (by decide) firstPair_flow (by decide) (by decide +kernel) 0 (by decide)

end LobstrMcp
