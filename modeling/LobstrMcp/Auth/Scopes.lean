import LobstrMcp.Auth.Soundness

/-!
The scopes of what is issued, against the scopes of the grant it goes back to.
-/

namespace LobstrMcp

/-- Every code and every token has scopes of the grant at its root only. -/
structure ScopesWithin (p : Provider) (ledger : Ledger) : Prop where
  codes : ∀ code made link, Dict.get? p.codes code = some made → grantOf ledger (.code code) = some link →
    made.scopes ⊆ link.scopes
  tokens : ∀ token stored link, Dict.get? p.tokens token = some stored →
    grantOf ledger (.access token) = some link → stored.scopes ⊆ link.scopes
  refresh : ∀ token found link kept, Dict.get? p.refresh token = some (found, kept) →
    grantOf ledger (.refresh token) = some link → found.scopes ⊆ link.scopes

/-- What an exchange is given was answered by a load. -/
def Presented (s : OAuthSystem) : OAuthOp → Prop
  | .exchangeAuthorizationCode _ code => code ∈ s.codesLoaded
  | .exchangeRefreshToken _ token _ => token ∈ s.refreshLoaded
  | _ => True

/-- Where the grant has no scopes, none are asked for: not by the request that is consented to,
and not by a refresh. -/
def AsksWithin (s : OAuthSystem) : OAuthOp → Prop
  | .completeConsent requestId (.ok link) =>
    ∀ request ∈ Dict.get? (s.provider.prunePending s.now).pending requestId,
      link.scopes ≠ [] ∨ request.params.scopes = []
  | .exchangeRefreshToken _ token scopes =>
    ∀ kept ∈ Dict.get? s.provider.refresh token.token, kept.2.scopes ≠ [] ∨ scopes = []
  | _ => True

instance (s : OAuthSystem) : (op : OAuthOp) → Decidable (Presented s op)
  | .exchangeAuthorizationCode _ code => inferInstanceAs (Decidable (code ∈ s.codesLoaded))
  | .exchangeRefreshToken _ token _ => inferInstanceAs (Decidable (token ∈ s.refreshLoaded))
  | .authorize .. | .completeConsent .. | .loadAuthorizationCode .. | .loadRefreshToken ..
  | .loadAccessToken .. | .revokeToken .. | .advance .. => .isTrue trivial

instance (s : OAuthSystem) : (op : OAuthOp) → Decidable (AsksWithin s op)
  | .completeConsent requestId (.ok link) => inferInstanceAs (Decidable
      (∀ request ∈ Dict.get? (s.provider.prunePending s.now).pending requestId,
        link.scopes ≠ [] ∨ request.params.scopes = []))
  | .exchangeRefreshToken _ token scopes => inferInstanceAs (Decidable
      (∀ kept ∈ Dict.get? s.provider.refresh token.token, kept.2.scopes ≠ [] ∨ scopes = []))
  | .completeConsent _ (.error _) | .authorize .. | .loadAuthorizationCode ..
  | .exchangeAuthorizationCode .. | .loadRefreshToken .. | .loadAccessToken .. | .revokeToken ..
  | .advance .. => .isTrue trivial

/-! ### One list against another -/

section Effective
variable {requested granted scopes : List String} {e : OAuthError}

theorem effectiveScopes_ok (effective : effectiveScopes requested granted = .ok scopes) :
    (granted = [] → scopes = requested) ∧ (granted ≠ [] → scopes ⊆ granted) := by
  unfold effectiveScopes at effective
  split at effective
  · rename_i none'
    cases effective
    exact ⟨fun _ => rfl, fun some' => absurd (List.isEmpty_iff.mp none') some'⟩
  rename_i some'
  refine ⟨fun none' => absurd (List.isEmpty_iff.mpr none') some', fun _ => ?_⟩
  split at effective
  · cases effective
    exact List.Subset.refl _
  · dsimp only at effective
    split at effective
    · cases effective
    · cases effective
      intro scope member
      simpa using (List.mem_filter.mp member).2

theorem effectiveScopes_error (refused : effectiveScopes requested granted = .error e) : granted ≠ [] := by
  rintro rfl
  cases refused

/-- The scopes are the grant's, except where an empty grant is asked for some. -/
theorem effectiveScopes_within_iff (effective : effectiveScopes requested granted = .ok scopes) :
    scopes ⊆ granted ↔ granted ≠ [] ∨ requested = [] := by
  obtain ⟨ofNone, ofSome⟩ := effectiveScopes_ok effective
  by_cases none' : granted = []
  · rw [ofNone none', none']
    simp
  · exact iff_of_true (ofSome none') (.inl none')

end Effective

/-! ### What is loaded is what is held -/

/-- Codes and refresh tokens are held under their own names, and one that was loaded is the one
that is held, if it still is. -/
structure Coherent (secrets : Secrets) (s : OAuthSystem) : Prop where
  codeName : ∀ code made, Dict.get? s.provider.codes code = some made → made.code = code
  refreshName : ∀ token found link, Dict.get? s.provider.refresh token = some (found, link) →
    found.token = token
  codeKnown : ∀ loaded ∈ s.codesLoaded, Known secrets s.provider.drawn (.code loaded.code)
  codeSame : ∀ loaded ∈ s.codesLoaded, ∀ made, Dict.get? s.provider.codes loaded.code = some made →
    made = loaded
  refreshKnown : ∀ loaded ∈ s.refreshLoaded, Known secrets s.provider.drawn (.refresh loaded.token)
  refreshSame : ∀ loaded ∈ s.refreshLoaded, ∀ found link,
    Dict.get? s.provider.refresh loaded.token = some (found, link) → found = loaded

section Coherent
variable {secrets : Secrets} {s : OAuthSystem} {p : Provider}

theorem Coherent.shrink (coherent : Coherent secrets s) (shrinks : Shrinks s.provider p) (ledger : Ledger) :
    Coherent secrets { s with provider := p, ledger } where
  codeName := fun code made read => coherent.codeName code made (shrinks.codes _ _ read)
  refreshName := fun token found link read => coherent.refreshName token found link (shrinks.refresh _ _ read)
  codeKnown := by
    intro loaded member
    rw [shrinks.drawn]
    exact coherent.codeKnown loaded member
  codeSame := fun loaded member made read => coherent.codeSame loaded member made (shrinks.codes _ _ read)
  refreshKnown := by
    intro loaded member
    rw [shrinks.drawn]
    exact coherent.refreshKnown loaded member
  refreshSame := fun loaded member found link read =>
    coherent.refreshSame loaded member found link (shrinks.refresh _ _ read)

theorem Coherent.request (coherent : Coherent secrets s) (id : String) (request : Pending) :
    Coherent secrets { s with provider := { s.provider with
      pending := Dict.set s.provider.pending id request, drawn := s.provider.drawn + 1 } } :=
  { coherent with
    codeKnown := fun loaded member => (coherent.codeKnown loaded member).mono (Nat.le_succ _)
    refreshKnown := fun loaded member => (coherent.refreshKnown loaded member).mono (Nat.le_succ _) }

theorem Coherent.consent (coherent : Coherent secrets s) (made : AuthorizationCode) (link : TokenLink)
    (named : made.code = secrets.urlsafe s.provider.drawn) (ledger : Ledger) :
    Coherent secrets { s with
      provider := { s.provider with
        codes := Dict.set s.provider.codes (secrets.urlsafe s.provider.drawn) made
        codeIdentity := Dict.set s.provider.codeIdentity (secrets.urlsafe s.provider.drawn) link
        drawn := s.provider.drawn + 1 }
      ledger } where
  codeName := by
    intro code found read
    rw [Dict.get?_set] at read
    split at read
    · rename_i same
      cases read
      exact named.trans same
    · exact coherent.codeName code found read
  refreshName := coherent.refreshName
  codeKnown := fun loaded member => (coherent.codeKnown loaded member).mono (Nat.le_succ _)
  codeSame := by
    intro loaded member found read
    have other : secrets.urlsafe s.provider.drawn ≠ loaded.code :=
      Ne.symm ((coherent.codeKnown loaded member).ne le_rfl)
    rw [Dict.get?_set_other _ _ other] at read
    exact coherent.codeSame loaded member found read
  refreshKnown := fun loaded member => (coherent.refreshKnown loaded member).mono (Nat.le_succ _)
  refreshSame := coherent.refreshSame

theorem Coherent.issue (coherent : Coherent secrets s) (client : OAuthClient) (link : TokenLink)
    (scopes : List String) (ledger : Ledger) :
    Coherent secrets { s with
      provider := (s.provider.issue secrets s.now client link scopes).2
      ledger } where
  codeName := coherent.codeName
  refreshName := by
    intro token found kept read
    have read : Dict.get? (Dict.set s.provider.refresh (secrets.urlsafe (s.provider.drawn + 1)) _) token =
      some (found, kept) := read
    rw [Dict.get?_set] at read
    split at read
    · rename_i same
      cases read
      exact same
    · exact coherent.refreshName token found kept read
  codeKnown := fun loaded member => (coherent.codeKnown loaded member).mono (Nat.le_add_right _ _)
  codeSame := coherent.codeSame
  refreshKnown := fun loaded member => (coherent.refreshKnown loaded member).mono (Nat.le_add_right _ _)
  refreshSame := by
    intro loaded member found kept read
    have read : Dict.get? (Dict.set s.provider.refresh (secrets.urlsafe (s.provider.drawn + 1)) _) loaded.token =
      some (found, kept) := read
    have other : secrets.urlsafe (s.provider.drawn + 1) ≠ loaded.token :=
      Ne.symm ((coherent.refreshKnown loaded member).ne (Nat.le_succ _))
    rw [Dict.get?_set_other _ _ other] at read
    exact coherent.refreshSame loaded member found kept read

theorem Coherent.step (coherent : Coherent secrets s) (inv : OAuthInv secrets s.provider s.now s.ledger)
    (op : OAuthOp) : Coherent secrets (s.step secrets op) := by
  have stepped := s.stepped secrets op
  generalize s.step secrets op = s' at stepped
  cases stepped with
  | loses shrinks => exact coherent.shrink shrinks s.ledger
  | requests shrinks request => exact (coherent.shrink shrinks s.ledger).request _ request
  | @consents requestId link p request scopes shrinks =>
    exact (coherent.shrink (shrinks.trans (.popPending p requestId)) s.ledger).consent _ link rfl _
  | @loadsCode code found read =>
    obtain rfl := coherent.codeName code found read
    have held : s.provider.Holds (.code found.code) :=
      (inv.tables _).symm.trans ((Dict.contains_iff _ _).mpr ⟨found, read⟩)
    refine { coherent with
      codeKnown := List.forall_mem_cons.mpr ⟨inv.known _ held, coherent.codeKnown⟩
      codeSame := List.forall_mem_cons.mpr ⟨?_, coherent.codeSame⟩ }
    intro made again
    exact Option.some.inj (again.symm.trans read)
  | exchangesCode read => exact (coherent.shrink (.popCode _ _) s.ledger).issue _ _ _ _
  | @loadsRefresh token found link read =>
    obtain rfl := coherent.refreshName token found link read
    have held : s.provider.Holds (.refresh found.token) := (Dict.contains_iff _ _).mpr ⟨_, read⟩
    refine { coherent with
      refreshKnown := List.forall_mem_cons.mpr ⟨inv.known _ held, coherent.refreshKnown⟩
      refreshSame := List.forall_mem_cons.mpr ⟨?_, coherent.refreshSame⟩ }
    intro found' link' again
    exact congrArg Prod.fst (Option.some.inj (again.symm.trans read))
  | exchangesRefresh read => exact (coherent.shrink (.popRefresh _ _) s.ledger).issue _ _ _ _
  | revokes shrinks => exact coherent.shrink shrinks _
  | advances => exact { coherent with }

end Coherent

/-! ### Where an operation leaves the scopes -/

namespace ScopesWithin
variable {secrets : Secrets} {p p' : Provider} {now : Rat} {ledger : Ledger} {link : TokenLink}

theorem shrink (within : ScopesWithin p ledger) (shrinks : Shrinks p p') : ScopesWithin p' ledger where
  codes := fun code made link read => within.codes code made link (shrinks.codes _ _ read)
  tokens := fun token stored link read => within.tokens token stored link (shrinks.tokens _ _ read)
  refresh := fun token found link kept read => within.refresh token found link kept (shrinks.refresh _ _ read)

theorem revoke (within : ScopesWithin p ledger) (token : String) :
    ScopesWithin p ((now, .revoke token) :: ledger) :=
  ⟨within.codes, within.tokens, within.refresh⟩

theorem consent_iff (within : ScopesWithin p ledger) (inv : OAuthInv secrets p now ledger)
    (requestId : String) (made : AuthorizationCode) :
    ScopesWithin { p.popPending requestId with
      codes := Dict.set p.codes (secrets.urlsafe p.drawn) made
      codeIdentity := Dict.set p.codeIdentity (secrets.urlsafe p.drawn) link
      drawn := p.drawn + 1 } ((now, .consent requestId link (secrets.urlsafe p.drawn)) :: ledger) ↔
    made.scopes ⊆ link.scopes := by
  constructor
  · intro after
    exact after.codes (secrets.urlsafe p.drawn) made link (Dict.get?_set_self _ _ _) (if_pos rfl)
  intro subset
  refine ⟨?_, ?_, ?_⟩
  · intro code found link' read root
    have read : Dict.get? (Dict.set p.codes (secrets.urlsafe p.drawn) made) code = some found := read
    rw [Dict.get?_set] at read
    split at read
    · rename_i same
      cases read
      rw [grantOf, if_pos (congrArg Item.code same.symm)] at root
      cases root
      exact subset
    · have held : p.Holds (.code code) := (inv.tables _).symm.trans ((Dict.contains_iff _ _).mpr ⟨_, read⟩)
      rw [grantOf_consent (inv.known _ held)] at root
      exact within.codes code found link' read root
  · intro token stored link' read root
    rw [grantOf_consent (inv.known (.access token) ((Dict.contains_iff _ _).mpr ⟨_, read⟩))] at root
    exact within.tokens token stored link' read root
  · intro token found link' kept read root
    rw [grantOf_consent (inv.known (.refresh token) ((Dict.contains_iff _ _).mpr ⟨_, read⟩))] at root
    exact within.refresh token found link' kept read root

theorem issue_iff (within : ScopesWithin p ledger) (inv : OAuthInv secrets p now ledger) {source : Item}
    (root : grantOf ledger source = some link) (client : OAuthClient) (scopes : List String) :
    ScopesWithin (p.issue secrets now client link scopes).2
      ((now, .issue source (secrets.urlsafe p.drawn) (secrets.urlsafe (p.drawn + 1))) :: ledger) ↔
    scopes ⊆ link.scopes := by
  constructor
  · intro after
    exact after.tokens (secrets.urlsafe p.drawn) _ link (Dict.get?_set_self _ _ _)
      ((if_pos (.inl rfl)).trans root)
  intro subset
  refine ⟨?_, ?_, ?_⟩
  · intro code found link' read origin
    have held : p.Holds (.code code) := (inv.tables _).symm.trans ((Dict.contains_iff _ _).mpr ⟨_, read⟩)
    rw [grantOf_issue (inv.known _ held)] at origin
    exact within.codes code found link' read origin
  · intro token stored link' read origin
    have read : Dict.get? (Dict.set p.tokens (secrets.urlsafe p.drawn) _) token = some stored := read
    rw [Dict.get?_set] at read
    split at read
    · rename_i same
      cases read
      rw [grantOf, if_pos (.inl (congrArg Item.access same.symm)), root] at origin
      cases origin
      exact subset
    · rw [grantOf_issue (inv.known (.access token) ((Dict.contains_iff _ _).mpr ⟨_, read⟩))] at origin
      exact within.tokens token stored link' read origin
  · intro token found link' kept read origin
    have read : Dict.get? (Dict.set p.refresh (secrets.urlsafe (p.drawn + 1)) _) token = some (found, kept) := read
    rw [Dict.get?_set] at read
    split at read
    · rename_i same
      cases read
      rw [grantOf, if_pos (.inr (congrArg Item.refresh same.symm)), root] at origin
      cases origin
      exact subset
    · rw [grantOf_issue (inv.known (.refresh token) ((Dict.contains_iff _ _).mpr ⟨_, read⟩))] at origin
      exact within.refresh token found link' kept read origin

end ScopesWithin

theorem Refuses.asksWithin {s : OAuthSystem} {op : OAuthOp} (refuses : Refuses s op) : AsksWithin s op := by
  cases op with
  | completeConsent requestId redeemed =>
    cases redeemed with
    | error text => trivial
    | ok link =>
      intro request waits
      obtain ⟨e, refused⟩ := refuses request waits
      exact .inl (effectiveScopes_error refused)
  | exchangeRefreshToken client token scopes =>
    rintro ⟨found, link⟩ held
    obtain ⟨e, refused⟩ := refuses found link held
    exact .inl (effectiveScopes_error refused)
  | _ => trivial

section Step
variable {secrets : Secrets} {s : OAuthSystem}

/-- From scopes that are within, an operation leaves them within exactly if it asks within. -/
theorem step_within_iff (inv : OAuthInv secrets s.provider s.now s.ledger) (coherent : Coherent secrets s)
    (within : ScopesWithin s.provider s.ledger) {op : OAuthOp} (presented : Presented s op) :
    ScopesWithin (s.step secrets op).provider (s.step secrets op).ledger ↔ AsksWithin s op := by
  have stepped := s.stepped secrets op
  generalize s.step secrets op = s' at stepped
  cases stepped with
  | loses shrinks refuses => exact iff_of_true (within.shrink shrinks) refuses.asksWithin
  | requests shrinks request =>
    have shrunk := within.shrink shrinks
    exact iff_of_true ⟨shrunk.codes, shrunk.tokens, shrunk.refresh⟩ trivial
  | @consents requestId link p request scopes shrinks waits _ effective =>
    rw [(within.shrink shrinks).consent_iff (inv.shrink shrinks)]
    refine (effectiveScopes_within_iff effective).trans ⟨?_, fun asks => asks request waits⟩
    intro asks request' waits'
    cases waits.symm.trans waits'
    exact asks
  | loadsCode read => exact iff_of_true within trivial
  | @exchangesCode client code link read =>
    have shrinks := Shrinks.popCode s.provider code.code
    have root := inv.codeGrant _ _ read
    obtain ⟨made, held⟩ : ∃ made, Dict.get? s.provider.codes code.code = some made :=
      (Dict.contains_iff _ _).mp ((inv.tables _).trans ((Dict.contains_iff _ _).mpr ⟨link, read⟩))
    obtain rfl := coherent.codeSame code presented made held
    refine ((within.shrink shrinks).issue_iff (inv.shrink shrinks) root client made.scopes).trans ?_
    exact iff_of_true (within.codes _ _ _ held root) trivial
  | loadsRefresh read => exact iff_of_true within trivial
  | @exchangesRefresh client token found asked scopes link read effective =>
    have shrinks := Shrinks.popRefresh s.provider token.token
    have root := inv.refreshGrant _ _ _ read
    obtain rfl := coherent.refreshSame token presented found link read
    have kept := within.refresh _ _ _ _ read root
    -- only a token that carries no scope, of a grant of none, can be widened by asking
    refine ((within.shrink shrinks).issue_iff (inv.shrink shrinks) root client scopes).trans ?_
    rw [effectiveScopes_within_iff effective]
    have asksNone : (if asked.isEmpty then found.scopes else asked) = [] ↔ asked = [] ∧ found.scopes = [] := by
      cases asked <;> simp
    constructor
    · intro asks kept' held
      cases read.symm.trans held
      exact asks.imp_right fun none' => (asksNone.mp none').1
    · intro asks
      rcases asks (found, link) read with some' | none'
      · exact .inl some'
      · by_cases empty : link.scopes = []
        · rw [empty] at kept
          exact .inr (asksNone.mpr ⟨none', List.subset_nil.mp kept⟩)
        · exact .inl empty
  | revokes shrinks => exact iff_of_true ((within.shrink shrinks).revoke _) trivial
  | advances => exact iff_of_true within trivial

end Step

/-! ### Every run -/

/-- Every operation of a run meets the condition, in the system it is asked of. -/
def Along (P : OAuthSystem → OAuthOp → Prop) (secrets : Secrets) : OAuthSystem → List OAuthOp → Prop
  | _, [] => True
  | s, op :: ops => P s op ∧ Along P secrets (s.step secrets op) ops

instance Along.decidable (P : OAuthSystem → OAuthOp → Prop) [∀ s op, Decidable (P s op)] (secrets : Secrets) :
    (s : OAuthSystem) → (ops : List OAuthOp) → Decidable (Along P secrets s ops)
  | _, [] => .isTrue trivial
  | s, op :: ops =>
    have := Along.decidable P secrets (s.step secrets op) ops
    inferInstanceAs (Decidable (P s op ∧ Along P secrets (s.step secrets op) ops))

theorem run_within_iff {secrets : Secrets} {s : OAuthSystem} {ops : List OAuthOp}
    (inv : OAuthInv secrets s.provider s.now s.ledger) (coherent : Coherent secrets s)
    (within : ScopesWithin s.provider s.ledger) (presented : Along Presented secrets s ops) :
    (∀ before, before <+: ops → ScopesWithin (before.foldl (OAuthSystem.step secrets) s).provider
      (before.foldl (OAuthSystem.step secrets) s).ledger) ↔ Along AsksWithin secrets s ops := by
  induction ops generalizing s with
  | nil =>
    refine iff_of_true ?_ trivial
    intro before first
    rw [List.prefix_nil.mp first]
    exact within
  | cons op ops ih =>
    have stepIff := step_within_iff inv coherent within presented.1
    constructor
    · intro every
      have after := every [op] ⟨ops, rfl⟩
      refine ⟨stepIff.mp after, (ih (inv.step op) (coherent.step inv op) after presented.2).mp ?_⟩
      intro before first
      exact every (op :: before) (List.cons_prefix_cons.mpr ⟨rfl, first⟩)
    · rintro ⟨asks, rest⟩ before first
      rcases List.prefix_cons_iff.mp first with rfl | ⟨tail, rfl, shorter⟩
      · exact within
      · exact (ih (inv.step op) (coherent.step inv op) (stepIff.mpr asks) presented.2).mpr rest tail shorter

/-- Over a run whose exchanges are of what was loaded, the scopes are within their grants in every
system reached exactly if no operation asks an empty grant for scopes. -/
theorem scopes_within_grants_iff (secrets : Secrets) (start : { q : Rat // 0 ≤ q }) (ops : List OAuthOp)
    (presented : Along Presented secrets { now := start } ops) :
    (∀ before, before <+: ops → ScopesWithin (OAuthSystem.after secrets start before).provider
      (OAuthSystem.after secrets start before).ledger) ↔ Along AsksWithin secrets { now := start } ops := by
  -- at the start there is nothing whose scopes could be wrong
  have coherent : Coherent secrets { now := start } := by constructor <;> intros <;> contradiction
  have within : ScopesWithin (OAuthSystem.provider { now := start }) [] := by
    constructor <;> intros <;> contradiction
  exact run_within_iff (OAuthSystem.after_inv secrets start []) coherent within presented

section Sample

def countingSecrets : Secrets where
  urlsafe n := String.ofList (List.replicate (n + 1) 'a')
  never_repeats n m same := by
    have lengths := congrArg List.length (String.ofList_injective same)
    simpa using lengths
  nonempty n same := by
    have lengths := congrArg String.length same
    simp at lengths

def sampleParams (scopes : List String) : AuthorizationParams where
  state := none
  scopes := scopes
  codeChallenge := "c"
  redirectUri := "https://client.example/cb"
  redirectUriProvidedExplicitly := true
  resource := none

/-- A request for scopes, its consent, and the exchange of its code and of its refresh token. -/
def sampleChain (requested granted : List String) : List OAuthOp :=
  let link : TokenLink := ⟨"u1", "t1", granted, none⟩
  let request : Pending := { clientId := "c1", params := sampleParams requested, expiresAt := 600 }
  [.authorize { clientId := "c1" } (sampleParams requested),
   .completeConsent "a" (.ok link),
   .loadAuthorizationCode "aa",
   .exchangeAuthorizationCode { clientId := "c1" } (Provider.authorizationCode "aa" granted 0 request link),
   .loadRefreshToken "aaaa",
   .exchangeRefreshToken { clientId := "c1" } ⟨"aaaa", "c1", granted, some 2592000⟩ []]

/-- A grant of less than was requested. -/
theorem a_narrow_grant_stays_within :
    let s := OAuthSystem.after countingSecrets ⟨0, le_rfl⟩
      (sampleChain ["crawlers:read", "runs:execute"] ["crawlers:read"])
    ScopesWithin s.provider s.ledger :=
  (scopes_within_grants_iff countingSecrets ⟨0, le_rfl⟩ _ (by decide +kernel)).mpr (by decide +kernel) _
    List.prefix_rfl

/-- A grant of nothing gives a code for what was requested. -/
theorem an_empty_grant_executes :
    let s := OAuthSystem.after countingSecrets ⟨0, le_rfl⟩ ((sampleChain ["runs:execute"] []).take 2)
    ¬ ScopesWithin s.provider s.ledger := by
  intro s within
  obtain ⟨made, read, executes⟩ : ∃ made ∈ Dict.get? s.provider.codes "aa", "runs:execute" ∈ made.scopes := by
    decide +kernel
  have granted : grantOf s.ledger (.code "aa") = some ⟨"u1", "t1", [], none⟩ := by decide +kernel
  exact List.not_mem_nil (within.codes "aa" made _ read granted executes)

end Sample
end LobstrMcp
