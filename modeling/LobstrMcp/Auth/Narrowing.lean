import LobstrMcp.Auth.Scopes

/-!
What a refresh issues: never more than the token that was presented, and never nothing. A
registered token's scopes fit the grant it is kept with, so the scopes of a refresh can always be
computed once the token is retired.
-/

namespace LobstrMcp

/-- Scopes that a grant allows as they are. -/
def Fits (scopes granted : List String) : Prop := granted ≠ [] → scopes ≠ [] ∧ scopes ⊆ granted

/-- Codes and refresh tokens fit the grant they are kept with. -/
structure ScopesFit (p : Provider) : Prop where
  codes : ∀ code made link, Dict.get? p.codes code = some made → Dict.get? p.codeIdentity code = some link →
    Fits made.scopes link.scopes
  refresh : ∀ token found link, Dict.get? p.refresh token = some (found, link) → Fits found.scopes link.scopes

/-! ### One list against another -/

section Effective
variable {held asked granted requested scopes : List String}

theorem effectiveScopes_fits (effective : effectiveScopes requested granted = .ok scopes) :
    Fits scopes granted := by
  intro some'
  refine ⟨?_, (effectiveScopes_ok effective).2 some'⟩
  unfold effectiveScopes at effective
  rw [if_neg (by simpa using some')] at effective
  split at effective
  · cases effective
    exact some'
  · dsimp only at effective
    split at effective
    · cases effective
    · rename_i present
      cases effective
      simpa using present

theorem Fits.effective (fits : Fits scopes granted) : effectiveScopes scopes granted = .ok scopes := by
  unfold effectiveScopes
  split
  · rfl
  rename_i some'
  obtain ⟨present, subset⟩ := fits (by simpa using some')
  rw [if_neg (by simpa using present)]
  have all : scopes.filter (fun scope => decide (scope ∈ granted)) = scopes :=
    List.filter_eq_self.mpr fun scope member => decide_eq_true (subset member)
  dsimp only
  rw [all, if_neg (by simpa using present)]

/-- The scopes that a refresh asks for: those it names, or all it holds. -/
def refreshScopes (asked held : List String) : List String := if asked.isEmpty then held else asked

theorem refreshScopes_subset (within : asked ⊆ held) : refreshScopes asked held ⊆ held := by
  unfold refreshScopes
  split
  · exact List.Subset.refl _
  · exact within

theorem Fits.refresh (fits : Fits held granted) (within : asked ⊆ held) :
    Fits (refreshScopes asked held) granted := by
  intro some'
  obtain ⟨present, subset⟩ := fits some'
  refine ⟨?_, fun _ member => subset (refreshScopes_subset within member)⟩
  unfold refreshScopes
  split
  · exact present
  · rename_i asks
    simpa using asks

end Effective

/-! ### Every run -/

section Fit
variable {secrets : Secrets} {s : OAuthSystem} {p p' : Provider}

theorem ScopesFit.shrink (fit : ScopesFit p) (shrinks : Shrinks p p') : ScopesFit p' where
  codes := fun code made link read identity =>
    fit.codes code made link (shrinks.codes _ _ read) (shrinks.codeIdentity _ _ identity)
  refresh := fun token found link read => fit.refresh token found link (shrinks.refresh _ _ read)

theorem ScopesFit.issue (fit : ScopesFit p) (now : Rat) (client : OAuthClient) {link : TokenLink}
    {scopes : List String} (fits : Fits scopes link.scopes) :
    ScopesFit (p.issue secrets now client link scopes).2 where
  codes := fit.codes
  refresh := by
    intro token found kept read
    have read : Dict.get? (Dict.set p.refresh (secrets.urlsafe (p.drawn + 1)) _) token = some (found, kept) := read
    rw [Dict.get?_set] at read
    split at read
    · cases read
      exact fits
    · exact fit.refresh token found kept read

theorem ScopesFit.step (fit : ScopesFit s.provider) (inv : OAuthInv secrets s.provider s.now s.ledger)
    (coherent : Coherent secrets s) {op : OAuthOp} (presented : Presented s op) :
    ScopesFit (s.step secrets op).provider := by
  have stepped := s.stepped secrets op
  generalize s.step secrets op = s' at stepped
  cases stepped with
  | loses shrinks => exact fit.shrink shrinks
  | requests shrinks request =>
    have shrunk := fit.shrink shrinks
    exact ⟨shrunk.codes, shrunk.refresh⟩
  | @consents requestId link p request scopes shrinks _ _ effective =>
    have shrunk := fit.shrink shrinks
    refine ⟨?_, shrunk.refresh⟩
    intro code made kept read identity
    dsimp only at read identity
    rw [Dict.get?_set] at read identity
    split at read
    · rename_i same
      rw [if_pos same] at identity
      cases read
      cases identity
      exact effectiveScopes_fits effective
    · rename_i other
      rw [if_neg other] at identity
      exact shrunk.codes code made kept read identity
  | loadsCode read => exact fit
  | @exchangesCode client code link read =>
    obtain ⟨made, held⟩ : ∃ made, Dict.get? s.provider.codes code.code = some made :=
      (Dict.contains_iff _ _).mp ((inv.tables _).trans ((Dict.contains_iff _ _).mpr ⟨link, read⟩))
    obtain rfl := coherent.codeSame code presented made held
    exact (fit.shrink (.popCode _ _)).issue s.now client (fit.codes _ _ _ held read)
  | loadsRefresh read => exact fit
  | exchangesRefresh read effective =>
    exact (fit.shrink (.popRefresh _ _)).issue s.now _ (effectiveScopes_fits effective)
  | revokes shrinks => exact fit.shrink shrinks
  | advances => exact fit

end Fit

section Run
variable (secrets : Secrets) (start : { q : Rat // 0 ≤ q }) (ops : List OAuthOp)

theorem Along.keeps {P : OAuthSystem → OAuthOp → Prop} {I : OAuthSystem → Prop} {secrets : Secrets}
    {s : OAuthSystem} {ops : List OAuthOp} (along : Along P secrets s ops) (first : I s)
    (keep : ∀ s op, P s op → I s → I (s.step secrets op)) : I (ops.foldl (OAuthSystem.step secrets) s) := by
  induction ops generalizing s with
  | nil => exact first
  | cons op ops ih => exact ih along.2 (keep s op along.1 first)

theorem OAuthSystem.coherent_start : Coherent secrets { now := start } := by
  constructor
  all_goals intros; contradiction

theorem OAuthSystem.after_coherent : Coherent secrets (after secrets start ops) := by
  have both := after_induct
    (I := fun s => OAuthInv secrets s.provider s.now s.ledger ∧ Coherent secrets s) start
    ⟨after_inv secrets start [], coherent_start secrets start⟩
    (fun s op held => ⟨held.1.step op, held.2.step held.1 op⟩) ops
  exact both.2

theorem OAuthSystem.after_fit (presented : Along Presented secrets { now := start } ops) :
    ScopesFit (after secrets start ops).provider := by
  have first : ScopesFit ({ now := start } : OAuthSystem).provider := by
    constructor
    all_goals intros; contradiction
  have all := presented.keeps
    (I := fun s => (OAuthInv secrets s.provider s.now s.ledger ∧ Coherent secrets s) ∧ ScopesFit s.provider)
    ⟨⟨after_inv secrets start [], coherent_start secrets start⟩, first⟩
    fun s op presented held =>
      ⟨⟨held.1.1.step op, held.1.2.step held.1.1 op⟩, held.2.step held.1.1 held.1.2 presented⟩
  exact all.2

theorem OAuthSystem.ledger_step (s : OAuthSystem) (op : OAuthOp) :
    ∃ newer, (s.step secrets op).ledger = newer ++ s.ledger := by
  have stepped := s.stepped secrets op
  generalize s.step secrets op = s' at stepped
  cases stepped with
  | loses => exact ⟨[], rfl⟩
  | requests => exact ⟨[], rfl⟩
  | consents => exact ⟨[_], rfl⟩
  | loadsCode => exact ⟨[], rfl⟩
  | exchangesCode => exact ⟨[_], rfl⟩
  | loadsRefresh => exact ⟨[], rfl⟩
  | exchangesRefresh => exact ⟨[_], rfl⟩
  | revokes => exact ⟨[_], rfl⟩
  | advances => exact ⟨[], rfl⟩

theorem OAuthSystem.spent_later {item : Item} (later : List OAuthOp)
    (used : item ∈ spent (after secrets start ops).ledger) :
    item ∈ spent (after secrets start (ops ++ later)).ledger := by
  induction later using List.reverseRecOn with
  | nil => simpa using used
  | append_singleton later op ih =>
    rw [← List.append_assoc, after_append]
    obtain ⟨newer, grown⟩ := ledger_step secrets (after secrets start (ops ++ later)) op
    rw [grown, spent, List.filterMap_append]
    exact List.mem_append_right _ ih

end Run

/-! ### A refresh -/

/-- The pair is held with these scopes. -/
structure IssuedWith (p : Provider) (pair : OAuthToken) (scopes : List String) : Prop where
  access : ∃ stored, Dict.get? p.tokens pair.accessToken = some stored ∧ stored.scopes = scopes
  refresh : ∃ kept link, Dict.get? p.refresh pair.refreshToken = some (kept, link) ∧ kept.scopes = scopes

/-- A refresh token that is not accepted. -/
structure Rejected (secrets : Secrets) (s : OAuthSystem) (token : String) : Prop where
  load : (s.provider.loadRefreshToken s.now token).1 = none
  exchange : ∀ client (presented : RefreshToken) asked, presented.token = token →
    (s.provider.exchangeRefreshToken secrets s.now client presented asked).1 =
      .error (.invalidGrant "unknown refresh token")

section Refresh
variable {secrets : Secrets} {s : OAuthSystem} {token : String} {rt : RefreshToken}

theorem Rejected.of_absent (absent : Dict.get? s.provider.refresh token = none) : Rejected secrets s token where
  load := by rw [Provider.loadRefreshToken, absent]
  exchange := by
    rintro client presented asked rfl
    rw [Provider.exchangeRefreshToken, absent]

theorem registered_of_load (live : (s.provider.loadRefreshToken s.now token).1 = some rt) :
    ∃ link, Dict.get? s.provider.refresh token = some (rt, link) := by
  unfold Provider.loadRefreshToken at live
  cases read : Dict.get? s.provider.refresh token with
  | none =>
    rw [read] at live
    cases live
  | some entry =>
    obtain ⟨found, link⟩ := entry
    rw [read] at live
    dsimp only at live
    split at live
    · split at live
      · cases live
      · cases live
        exact ⟨link, rfl⟩
    · cases live
      exact ⟨link, rfl⟩

/-- An exchange whose scopes can be computed issues a pair with them. -/
theorem exchangeRefreshToken_eq (secrets : Secrets) {link : TokenLink} {asked scopes : List String}
    (client : OAuthClient)
    (read : Dict.get? s.provider.refresh rt.token = some (rt, link))
    (effective : effectiveScopes (refreshScopes asked rt.scopes) link.scopes = .ok scopes) :
    s.provider.exchangeRefreshToken secrets s.now client rt asked =
      (.ok ((s.provider.popRefresh rt.token).issue secrets s.now client link scopes).1,
        ((s.provider.popRefresh rt.token).issue secrets s.now client link scopes).2) := by
  rw [refreshScopes] at effective
  rw [Provider.exchangeRefreshToken, read]
  dsimp only
  rw [effective]

theorem issuedWith_issue (p : Provider) (now : Rat) (client : OAuthClient) (link : TokenLink)
    (scopes : List String) :
    IssuedWith (p.issue secrets now client link scopes).2 (p.issue secrets now client link scopes).1 scopes where
  access := ⟨_, Dict.get?_set_self _ _ _, rfl⟩
  refresh := ⟨_, _, Dict.get?_set_self _ _ _, rfl⟩

end Refresh

/-- Refreshing with a token that loads, for none or for some of its scopes: a pair is issued, with
exactly those scopes, and the token is not accepted again, whatever comes later. -/
theorem refresh_narrows (secrets : Secrets) (start : { q : Rat // 0 ≤ q }) (ops : List OAuthOp)
    (presented : Along Presented secrets { now := start } ops) {token : String} {rt : RefreshToken}
    (live : ((OAuthSystem.after secrets start ops).provider.loadRefreshToken
      (OAuthSystem.after secrets start ops).now token).1 = some rt)
    (client : OAuthClient) {asked : List String} (within : asked ⊆ rt.scopes) :
    let s := OAuthSystem.after secrets start ops
    ∃ pair scopes, (s.provider.exchangeRefreshToken secrets s.now client rt asked).1 = .ok pair ∧
      IssuedWith (s.provider.exchangeRefreshToken secrets s.now client rt asked).2 pair scopes ∧
      scopes ⊆ rt.scopes ∧ (asked = [] → scopes = rt.scopes) ∧
      ∀ later, Rejected secrets
        (OAuthSystem.after secrets start (ops ++ .exchangeRefreshToken client rt asked :: later)) token := by
  intro s
  obtain ⟨link, read⟩ := registered_of_load live
  have coherent := OAuthSystem.after_coherent secrets start ops
  obtain rfl : rt.token = token := coherent.refreshName token rt link read
  have fits := (OAuthSystem.after_fit secrets start ops presented).refresh rt.token rt link read
  have effective := (fits.refresh within).effective
  have issued := exchangeRefreshToken_eq secrets client read effective
  refine ⟨_, _, by rw [issued], by rw [issued]; exact issuedWith_issue _ _ _ _ _,
    refreshScopes_subset within, ?_, ?_⟩
  · rintro rfl
    rfl
  · intro later
    have used : Item.refresh rt.token ∈
        spent (OAuthSystem.after secrets start (ops ++ [.exchangeRefreshToken client rt asked])).ledger := by
      rw [OAuthSystem.after_append]
      unfold OAuthSystem.step
      dsimp only
      rw [issued]
      exact List.mem_cons_self
    have still := OAuthSystem.spent_later secrets start _ later used
    rw [List.append_assoc, List.singleton_append] at still
    have gone := (OAuthSystem.after_inv secrets start _).spentGone _ still
    apply Rejected.of_absent
    simpa [Provider.Holds, Dict.contains] using gone

/-- A refresh without scopes, of a token that was narrowed by its grant. -/
theorem a_narrowed_token_refreshes :
    let s := OAuthSystem.after countingSecrets ⟨0, le_rfl⟩
      ((sampleChain ["crawlers:read", "runs:execute"] ["crawlers:read"]).take 5)
    ∃ pair scopes, (s.provider.exchangeRefreshToken countingSecrets s.now { clientId := "c1" }
        ⟨"aaaa", "c1", ["crawlers:read"], some 2592000⟩ []).1 = .ok pair ∧
      scopes = ["crawlers:read"] := by
  intro s
  have live : (s.provider.loadRefreshToken s.now "aaaa").1 =
      some ⟨"aaaa", "c1", ["crawlers:read"], some 2592000⟩ := by decide +kernel
  obtain ⟨pair, scopes, issued, _, _, all, _⟩ := refresh_narrows countingSecrets ⟨0, le_rfl⟩
    ((sampleChain ["crawlers:read", "runs:execute"] ["crawlers:read"]).take 5) (by decide +kernel) live
    { clientId := "c1" } (List.nil_subset _)
  exact ⟨pair, scopes, issued, all rfl⟩

end LobstrMcp
