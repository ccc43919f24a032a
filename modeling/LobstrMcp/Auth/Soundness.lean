import LobstrMcp.Auth.Ledger
import Mathlib.Tactic.Linarith

/-!
What holds of the provider in every run: its two code tables agree, whatever is used up was used
once, and a token that loads carries the identity of the grant at the root of its chain.
-/

namespace LobstrMcp

def Known (secrets : Secrets) (drawn : ℕ) (item : Item) : Prop := ∃ n < drawn, item.secret = secrets.urlsafe n

/-- The stored token carries the grant's identity, and expires as its exchange says. -/
def Carried (ledger : Ledger) (token : String) (stored grant : TokenLink) : Prop :=
  stored.lobstrUserId = grant.lobstrUserId ∧ stored.lobstrApiToken = grant.lobstrApiToken ∧
    ∃ newer issued source refresh older, ledger = newer ++ (issued, .issue source token refresh) :: older ∧
      (∀ e ∈ newer, e.2 ≠ .revoke token) ∧ 0 ≤ issued ∧
      stored.expiresAt = some (truncate issued + accessTtl : Int)

/-- The invariant of the provider and its ledger. -/
structure OAuthInv (secrets : Secrets) (p : Provider) (now : Rat) (ledger : Ledger) : Prop where
  clock : 0 ≤ now
  tables : ∀ code, Dict.contains p.codes code = Dict.contains p.codeIdentity code
  known : ∀ item, p.Holds item → Known secrets p.drawn item
  spentKnown : ∀ item ∈ spent ledger, Known secrets p.drawn item
  spentGone : ∀ item ∈ spent ledger, ¬ p.Holds item
  spentOnce : (spent ledger).Nodup
  codeGrant : ∀ code link, Dict.get? p.codeIdentity code = some link →
    grantOf ledger (.code code) = some link
  refreshGrant : ∀ token found link, Dict.get? p.refresh token = some (found, link) →
    grantOf ledger (.refresh token) = some link
  tokenGrant : ∀ token stored, Dict.get? p.tokens token = some stored →
    ∃ grant, grantOf ledger (.access token) = some grant ∧ Carried ledger token stored grant

section Inv
variable {secrets : Secrets} {p p' : Provider} {now : Rat} {ledger : Ledger} {item source : Item}
  {link : TokenLink}

theorem Known.mono {n m : ℕ} (known : Known secrets n item) (le : n ≤ m) : Known secrets m item := by
  obtain ⟨i, lt, same⟩ := known
  exact ⟨i, lt.trans_le le, same⟩

theorem Known.ne {n m : ℕ} (known : Known secrets n item) (le : n ≤ m) :
    item.secret ≠ secrets.urlsafe m := by
  obtain ⟨i, lt, same⟩ := known
  intro again
  have equal := secrets.never_repeats (same.symm.trans again)
  omega

theorem Carried.later {token : String} {stored grant : TokenLink} (carried : Carried ledger token stored grant)
    {e : Rat × Act} (kept : e.2 ≠ .revoke token) : Carried (e :: ledger) token stored grant := by
  obtain ⟨user, api, newer, issued, source, refresh, older, rfl, unrevoked, time, expires⟩ := carried
  refine ⟨user, api, e :: newer, issued, source, refresh, older, rfl, ?_, time, expires⟩
  intro e' member
  rcases List.mem_cons.mp member with rfl | member
  · exact kept
  · exact unrevoked e' member

theorem grantOf_consent {n : ℕ} (known : Known secrets n item) (requestId : String) :
    grantOf ((now, .consent requestId link (secrets.urlsafe n)) :: ledger) item = grantOf ledger item := by
  rw [grantOf, if_neg]
  rintro rfl
  exact known.ne le_rfl rfl

theorem grantOf_issue {n : ℕ} (known : Known secrets n item) :
    grantOf ((now, .issue source (secrets.urlsafe n) (secrets.urlsafe (n + 1))) :: ledger) item =
      grantOf ledger item := by
  rw [grantOf, if_neg]
  rintro (rfl | rfl)
  · exact known.ne le_rfl rfl
  · exact known.ne (Nat.le_succ n) rfl

namespace OAuthInv

theorem shrink (inv : OAuthInv secrets p now ledger) (shrinks : Shrinks p p') :
    OAuthInv secrets p' now ledger where
  clock := inv.clock
  tables := shrinks.tables inv.tables
  known := by
    intro item held
    rw [shrinks.drawn]
    exact inv.known item (shrinks.holds held)
  spentKnown := by
    rw [shrinks.drawn]
    exact inv.spentKnown
  spentGone := fun item member held => inv.spentGone item member (shrinks.holds held)
  spentOnce := inv.spentOnce
  codeGrant := fun code link read => inv.codeGrant code link (shrinks.codeIdentity _ _ read)
  refreshGrant := fun token found link read => inv.refreshGrant token found link (shrinks.refresh _ _ read)
  tokenGrant := fun token stored read => inv.tokenGrant token stored (shrinks.tokens _ _ read)

theorem request (inv : OAuthInv secrets p now ledger) (request : Pending) :
    OAuthInv secrets { p with
      pending := Dict.set p.pending (secrets.urlsafe p.drawn) request, drawn := p.drawn + 1 } now ledger where
  clock := inv.clock
  tables := inv.tables
  known := by
    intro item held
    have old (held : p.Holds item) : Known secrets (p.drawn + 1) item :=
      (inv.known item held).mono (Nat.le_succ _)
    cases item with
    | request id =>
      rcases (Dict.contains_of_set held : _ ∨ p.Holds (.request id)) with rfl | held
      · exact ⟨p.drawn, Nat.lt_succ_self _, rfl⟩
      · exact old held
    | _ => exact old held
  spentKnown := fun item member => (inv.spentKnown item member).mono (Nat.le_succ _)
  spentGone := by
    intro item member held
    have gone := inv.spentGone item member
    cases item with
    | request id =>
      rcases (Dict.contains_of_set held : _ ∨ p.Holds (.request id)) with rfl | held
      · exact (inv.spentKnown _ member).ne le_rfl rfl
      · exact gone held
    | _ => exact gone held
  spentOnce := inv.spentOnce
  codeGrant := inv.codeGrant
  refreshGrant := inv.refreshGrant
  tokenGrant := inv.tokenGrant

/-- A consent that is redeemed uses its request up, and makes a code. -/
theorem consent (inv : OAuthInv secrets p now ledger) {requestId : String}
    (held : p.Holds (.request requestId)) (link : TokenLink) (made : AuthorizationCode) :
    OAuthInv secrets { p.popPending requestId with
      codes := Dict.set p.codes (secrets.urlsafe p.drawn) made
      codeIdentity := Dict.set p.codeIdentity (secrets.urlsafe p.drawn) link
      drawn := p.drawn + 1 } now ((now, .consent requestId link (secrets.urlsafe p.drawn)) :: ledger) := by
  have requestKnown := inv.known _ held
  have used : spent ((now, .consent requestId link (secrets.urlsafe p.drawn)) :: ledger) =
      .request requestId :: spent ledger := rfl
  have codeHeld {code : String} (held : Dict.contains (Dict.set p.codeIdentity (secrets.urlsafe p.drawn) link)
      code = true) : secrets.urlsafe p.drawn = code ∨ p.Holds (.code code) := Dict.contains_of_set held
  have requestHeld {id : String} (held : Dict.contains (Dict.erase p.pending requestId) id = true) :
      requestId ≠ id ∧ p.Holds (.request id) := by
    refine ⟨?_, (Dict.sub_erase _ _).contains held⟩
    rintro rfl
    rw [Dict.contains, Dict.get?_erase_self] at held
    cases held
  constructor
  case clock => exact inv.clock
  case tables =>
    intro code
    rw [Dict.contains_set, Dict.contains_set, inv.tables code]
  case known =>
    intro item held
    have old (held : p.Holds item) : Known secrets (p.drawn + 1) item :=
      (inv.known item held).mono (Nat.le_succ _)
    cases item with
    | request id => exact old (requestHeld held).2
    | code code =>
      rcases codeHeld held with rfl | held
      · exact ⟨p.drawn, Nat.lt_succ_self _, rfl⟩
      · exact old held
    | _ => exact old held
  case spentKnown =>
    intro item member
    rw [used] at member
    rcases List.mem_cons.mp member with rfl | member
    · exact requestKnown.mono (Nat.le_succ _)
    · exact (inv.spentKnown item member).mono (Nat.le_succ _)
  case spentGone =>
    intro item member held'
    rw [used] at member
    rcases List.mem_cons.mp member with rfl | member
    · exact (requestHeld held').1 rfl
    · have gone := inv.spentGone item member
      cases item with
      | request id => exact gone (requestHeld held').2
      | code code =>
        rcases codeHeld held' with rfl | held'
        · exact (inv.spentKnown _ member).ne le_rfl rfl
        · exact gone held'
      | _ => exact gone held'
  case spentOnce =>
    rw [used]
    exact List.nodup_cons.mpr ⟨fun member => inv.spentGone _ member held, inv.spentOnce⟩
  case codeGrant =>
    intro code found read
    have read : Dict.get? (Dict.set p.codeIdentity (secrets.urlsafe p.drawn) link) code = some found := read
    rw [Dict.get?_set] at read
    split at read
    · rename_i same
      cases read
      rw [grantOf, if_pos (congrArg Item.code same.symm)]
    · rw [grantOf_consent (inv.known (.code code) ((Dict.contains_iff _ _).mpr ⟨_, read⟩))]
      exact inv.codeGrant code found read
  case refreshGrant =>
    intro token found link' read
    rw [grantOf_consent (inv.known (.refresh token) ((Dict.contains_iff _ _).mpr ⟨_, read⟩))]
    exact inv.refreshGrant token found link' read
  case tokenGrant =>
    intro token stored read
    rw [grantOf_consent (inv.known (.access token) ((Dict.contains_iff _ _).mpr ⟨_, read⟩))]
    obtain ⟨grant, root, carried⟩ := inv.tokenGrant token stored read
    exact ⟨grant, root, carried.later fun absurd => by cases absurd⟩

/-- An exchange uses its source up, and issues a pair for the identity at its root. -/
theorem issue (inv : OAuthInv secrets p now ledger) (drawn : Known secrets p.drawn source)
    (unspent : source ∉ spent ledger) (gone : ¬ p.Holds source) (root : grantOf ledger source = some link)
    (client : OAuthClient) (scopes : List String) :
    OAuthInv secrets (p.issue secrets now client link scopes).2 now
      ((now, .issue source (secrets.urlsafe p.drawn) (secrets.urlsafe (p.drawn + 1))) :: ledger) := by
  have used : spent ((now, .issue source (secrets.urlsafe p.drawn) (secrets.urlsafe (p.drawn + 1))) :: ledger) =
      source :: spent ledger := rfl
  -- The two new entries, or an old one.
  have holds {item : Item} (held : (p.issue secrets now client link scopes).2.Holds item) :
      item = .access (secrets.urlsafe p.drawn) ∨ item = .refresh (secrets.urlsafe (p.drawn + 1)) ∨
        p.Holds item := by
    cases item with
    | access token =>
      rcases (Dict.contains_of_set held : _ ∨ p.Holds (.access token)) with rfl | held
      · exact .inl rfl
      · exact .inr (.inr held)
    | refresh token =>
      rcases (Dict.contains_of_set held : _ ∨ p.Holds (.refresh token)) with rfl | held
      · exact .inr (.inl rfl)
      · exact .inr (.inr held)
    | _ => exact .inr (.inr held)
  constructor
  case clock => exact inv.clock
  case tables => exact inv.tables
  case known =>
    intro item held
    rcases holds held with rfl | rfl | old
    · exact ⟨p.drawn, Nat.lt_add_of_pos_right Nat.two_pos, rfl⟩
    · exact ⟨p.drawn + 1, Nat.lt_succ_self _, rfl⟩
    · exact (inv.known item old).mono (Nat.le_add_right _ _)
  case spentKnown =>
    intro item member
    rw [used] at member
    rcases List.mem_cons.mp member with rfl | member
    · exact drawn.mono (Nat.le_add_right _ _)
    · exact (inv.spentKnown item member).mono (Nat.le_add_right _ _)
  case spentGone =>
    intro item member held
    have known : Known secrets p.drawn item := by
      rw [used] at member
      rcases List.mem_cons.mp member with rfl | member
      · exact drawn
      · exact inv.spentKnown item member
    rcases holds held with rfl | rfl | old
    · exact known.ne le_rfl rfl
    · exact known.ne (Nat.le_succ _) rfl
    · rw [used] at member
      rcases List.mem_cons.mp member with rfl | member
      · exact gone old
      · exact inv.spentGone item member old
  case spentOnce =>
    rw [used]
    exact List.nodup_cons.mpr ⟨unspent, inv.spentOnce⟩
  case codeGrant =>
    intro code found read
    rw [grantOf_issue (inv.known (.code code) ((Dict.contains_iff _ _).mpr ⟨_, read⟩))]
    exact inv.codeGrant code found read
  case refreshGrant =>
    intro token found link' read
    have read : Dict.get? (Dict.set p.refresh (secrets.urlsafe (p.drawn + 1)) _) token = some (found, link') := read
    rw [Dict.get?_set] at read
    split at read
    · rename_i same
      cases read
      rw [grantOf, if_pos (.inr (congrArg Item.refresh same.symm))]
      exact root
    · rw [grantOf_issue (inv.known (.refresh token) ((Dict.contains_iff _ _).mpr ⟨_, read⟩))]
      exact inv.refreshGrant token found link' read
  case tokenGrant =>
    intro token stored read
    have found : Dict.get? (Dict.set p.tokens (secrets.urlsafe p.drawn) _) token = some stored := read
    rw [Dict.get?_set] at found
    split at found
    · rename_i same
      subst same
      cases found
      refine ⟨link, ?_, rfl, rfl, [], now, source, _, ledger, rfl, fun _ absurd => (by cases absurd),
        inv.clock, rfl⟩
      rw [grantOf, if_pos (.inl rfl)]
      exact root
    · rw [grantOf_issue (inv.known (.access token) ((Dict.contains_iff _ _).mpr ⟨_, found⟩))]
      obtain ⟨grant, root, carried⟩ := inv.tokenGrant token stored found
      exact ⟨grant, root, carried.later fun absurd => by cases absurd⟩

theorem revoke (inv : OAuthInv secrets p now ledger) (token : String) :
    OAuthInv secrets (p.revokeToken token) now ((now, .revoke token) :: ledger) := by
  have shrunk := inv.shrink (.revokeToken p token)
  refine { shrunk with tokenGrant := ?_ }
  intro other stored read
  obtain ⟨grant, root, carried⟩ := shrunk.tokenGrant other stored read
  refine ⟨grant, root, carried.later ?_⟩
  intro same
  obtain rfl : token = other := Act.revoke.inj same
  have named : token ≠ "" := by
    obtain ⟨n, _, drawn⟩ := shrunk.known (.access token) ((Dict.contains_iff _ _).mpr ⟨_, read⟩)
    have drawn : token = secrets.urlsafe n := drawn
    rw [drawn]
    exact secrets.nonempty n
  have erased : Dict.get? (p.revokeToken token).tokens token = none := by
    unfold Provider.revokeToken
    rw [if_neg named]
    exact Dict.get?_erase_self _ _
  rw [erased] at read
  cases read

theorem advance (inv : OAuthInv secrets p now ledger) (seconds : { q : Rat // 0 ≤ q }) :
    OAuthInv secrets p (now + seconds) ledger :=
  { inv with clock := add_nonneg inv.clock seconds.2 }

end OAuthInv

theorem OAuthInv.step {s : OAuthSystem} (inv : OAuthInv secrets s.provider s.now s.ledger) (op : OAuthOp) :
    OAuthInv secrets (s.step secrets op).provider (s.step secrets op).now (s.step secrets op).ledger := by
  have stepped := s.stepped secrets op
  generalize s.step secrets op = s' at stepped
  cases stepped with
  | loses shrinks => exact inv.shrink shrinks
  | requests shrinks request => exact (inv.shrink shrinks).request request
  | consents shrinks _ waited =>
    exact (inv.shrink shrinks).consent ((Dict.contains_iff _ _).mpr ⟨_, waited⟩) _ _
  | loadsCode => exact inv
  | @exchangesCode client code link read =>
    have held : s.provider.Holds (.code code.code) := (Dict.contains_iff _ _).mpr ⟨link, read⟩
    have gone : ¬ (s.provider.popCode code.code).Holds (.code code.code) := by
      simp [Provider.Holds, Provider.popCode, Dict.contains]
    exact (inv.shrink (.popCode _ _)).issue (inv.known _ held) (fun member => inv.spentGone _ member held)
      gone (inv.codeGrant _ _ read) client code.scopes
  | loadsRefresh => exact inv
  | @exchangesRefresh client token _ _ scopes link read =>
    have held : s.provider.Holds (.refresh token.token) := (Dict.contains_iff _ _).mpr ⟨_, read⟩
    have gone : ¬ (s.provider.popRefresh token.token).Holds (.refresh token.token) := by
      simp [Provider.Holds, Provider.popRefresh, Dict.contains]
    exact (inv.shrink (.popRefresh _ _)).issue (inv.known _ held) (fun member => inv.spentGone _ member held)
      gone (inv.refreshGrant _ _ _ read) client scopes
  | revokes => exact inv.revoke _
  | advances => exact inv.advance _

end Inv

/-! ### Every run -/

/-- What holds of the tokens of a system. -/
structure TokensSound (s : OAuthSystem) : Prop where
  tables : ∀ code, Dict.contains s.provider.codes code = Dict.contains s.provider.codeIdentity code
  once : (spent s.ledger).Nodup
  loads : ∀ token access, (s.provider.loadAccessToken s.now token).1 = some access →
    Live s.ledger token s.now ∧ ∃ grant, grantOf s.ledger (.access token) = some grant ∧
      access.subject = grant.lobstrUserId ∧ access.lobstrUserId = grant.lobstrUserId ∧
      access.lobstrToken = grant.lobstrApiToken

section Run
variable (secrets : Secrets) (start : { q : Rat // 0 ≤ q }) (ops : List OAuthOp)

theorem truncate_le {q : Rat} (nonneg : 0 ≤ q) : (truncate q : Rat) ≤ q := by
  rw [truncate, if_pos nonneg]
  exact Rat.floor_le q

theorem OAuthSystem.after_inv : OAuthInv secrets (after secrets start ops).provider
    (after secrets start ops).now (after secrets start ops).ledger := by
  refine after_induct (I := fun s => OAuthInv secrets s.provider s.now s.ledger) start ?_
    (fun _ op inv => inv.step op) ops
  refine ⟨start.2, fun _ => rfl, ?_, fun _ absurd => (by cases absurd), fun _ absurd => (by cases absurd),
    .nil, fun _ _ absurd => (by cases absurd), fun _ _ _ absurd => (by cases absurd),
    fun _ _ absurd => (by cases absurd)⟩
  intro item held
  cases item <;> cases held

/-- Token soundness, over all runs: the code tables agree, whatever is used up was used once, and a
token loads only while it lasts, with the identity of the grant at the root of its chain. -/
theorem tokens_sound : TokensSound (OAuthSystem.after secrets start ops) := by
  have inv := OAuthSystem.after_inv secrets start ops
  generalize OAuthSystem.after secrets start ops = s at inv
  refine ⟨inv.tables, inv.spentOnce, ?_⟩
  intro token access loaded
  unfold Provider.loadAccessToken at loaded
  cases found : Dict.get? s.provider.tokens token with
  | none =>
    rw [found] at loaded
    cases loaded
  | some stored =>
    rw [found] at loaded
    dsimp only at loaded
    split at loaded
    · cases loaded
    · rename_i live
      cases loaded
      obtain ⟨grant, root, user, api, newer, issued, source, refresh, older, split, unrevoked, nonneg,
        expires⟩ := inv.tokenGrant token stored found
      refine ⟨⟨newer, issued, source, refresh, older, split, unrevoked, ?_⟩, grant, root, user, user, api⟩
      have early : s.now < (truncate issued + accessTtl : Int) := by
        rw [TokenLink.isExpired, expires] at live
        simpa using live
      have floor := truncate_le nonneg
      push_cast at early
      linarith

end Run
end LobstrMcp
