import LobstrMcp.Auth.Narrowing

/-!
What a revocation ends. The two tokens of a pair are held apart, and revoking one leaves the other,
and whatever was refreshed from it: the session is over exactly when the token was the last of it.
-/

namespace LobstrMcp

/-- A token of the session of `t`: of its own pair, or of a pair refreshed from one of the session. -/
inductive InSession (ledger : Ledger) (t : String) : Item → Prop
  | pair {time : Rat} {source item : Item} {access refresh : String}
    (issued : (time, .issue source access refresh) ∈ ledger) (own : t = access ∨ t = refresh)
    (member : item ∈ (Act.issue source access refresh).makes) : InSession ledger t item
  | refreshed {time : Rat} {item : Item} {token access refresh : String}
    (kept : InSession ledger t (.refresh token))
    (issued : (time, .issue (.refresh token) access refresh) ∈ ledger)
    (member : item ∈ (Act.issue (.refresh token) access refresh).makes) : InSession ledger t item

/-- A token that one of the provider's methods takes. -/
def Accepted (secrets : Secrets) (s : OAuthSystem) : Item → Prop
  | .access token => ∃ access, (s.provider.loadAccessToken s.now token).1 = some access
  | .refresh token => (∃ rt, (s.provider.loadRefreshToken s.now token).1 = some rt) ∨
    ∃ client rt asked pair, rt.token = token ∧
      (s.provider.exchangeRefreshToken secrets s.now client rt asked).1 = .ok pair
  | _ => False

/-- An access token that is gone or expired, a refresh token that is gone. -/
def Dead (p : Provider) (now : Rat) : Item → Prop
  | .access token => ∀ stored, Dict.get? p.tokens token = some stored → stored.isExpired now = true
  | .refresh token => Dict.get? p.refresh token = none
  | _ => True

/-! ### What is accepted is alive -/

section Accepted
variable {secrets : Secrets} {s : OAuthSystem}

theorem accepted_access_iff {token : String} :
    Accepted secrets s (.access token) ↔ ¬ Dead s.provider s.now (.access token) := by
  unfold Accepted Dead Provider.loadAccessToken
  cases read : Dict.get? s.provider.tokens token with
  | none => simp [read]
  | some stored => cases expired : stored.isExpired s.now <;> simp [read, expired]

/-- A registered token can be exchanged: for the scopes of its grant, if for no others. -/
theorem accepted_refresh_iff {token : String} :
    Accepted secrets s (.refresh token) ↔ ¬ Dead s.provider s.now (.refresh token) := by
  constructor
  · intro accepted dead
    have rejected : Rejected secrets s token := .of_absent dead
    rcases accepted with ⟨rt, live⟩ | ⟨client, rt, asked, pair, named, issued⟩
    · rw [rejected.load] at live
      cases live
    · rw [rejected.exchange client rt asked named] at issued
      cases issued
  · intro held
    obtain ⟨⟨found, link⟩, read⟩ := Option.ne_none_iff_exists'.mp held
    let presented : RefreshToken := ⟨token, "", link.scopes, none⟩
    have fits : Fits link.scopes link.scopes := fun some' => ⟨some', List.Subset.refl _⟩
    refine .inr ⟨{ clientId := "" }, presented, [],
      ((s.provider.popRefresh token).issue secrets s.now { clientId := "" } link link.scopes).1, rfl, ?_⟩
    rw [Provider.exchangeRefreshToken, read]
    dsimp only [presented]
    rw [List.isEmpty_nil, if_pos rfl, fits.effective]

theorem not_accepted_iff {item : Item} (token : ∃ t, item = .access t ∨ item = .refresh t) :
    ¬ Accepted secrets s item ↔ Dead s.provider s.now item := by
  obtain ⟨t, rfl | rfl⟩ := token
  · rw [accepted_access_iff, not_not]
  · rw [accepted_refresh_iff, not_not]

end Accepted

section Dead
variable {secrets : Secrets} {p p' : Provider} {now later : Rat} {item : Item}

theorem Dead.shrink (dead : Dead p now item) (shrinks : Shrinks p p') : Dead p' now item := by
  cases item with
  | access token => exact fun stored read => dead stored (shrinks.tokens _ _ read)
  | refresh token =>
    refine Option.eq_none_iff_forall_ne_some.mpr fun entry read => ?_
    have held := shrinks.refresh _ _ read
    rw [show Dict.get? p.refresh token = none from dead] at held
    cases held
  | _ => trivial

theorem Dead.wait (dead : Dead p now item) (waits : now ≤ later) : Dead p later item := by
  cases item with
  | access token =>
    intro stored read
    have expired := dead stored read
    unfold TokenLink.isExpired at expired ⊢
    split at expired
    · cases expired
    · rename_i t limit
      exact decide_eq_true ((of_decide_eq_true expired).trans waits)
  | _ => exact dead

theorem Dead.issue (dead : Dead p now item) (known : Known secrets p.drawn item) (client : OAuthClient)
    (link : TokenLink) (scopes : List String) :
    Dead (p.issue secrets now client link scopes).2 now item := by
  cases item with
  | access token =>
    intro stored read
    have first : secrets.urlsafe p.drawn ≠ token := Ne.symm (known.ne le_rfl)
    have read : Dict.get? (Dict.set p.tokens (secrets.urlsafe p.drawn) _) token = some stored := read
    rw [Dict.get?_set_other _ _ first] at read
    exact dead stored read
  | refresh token =>
    have second : secrets.urlsafe (p.drawn + 1) ≠ token := Ne.symm (known.ne (Nat.le_succ _))
    show Dict.get? (Dict.set p.refresh (secrets.urlsafe (p.drawn + 1)) _) token = none
    rw [Dict.get?_set_other _ _ second]
    exact dead
  | _ => trivial

end Dead

/-! ### What a session consists of -/

/-- Every pair of the ledger was drawn. -/
def PairsKnown (secrets : Secrets) (p : Provider) (ledger : Ledger) : Prop :=
  ∀ time source access refresh, (time, Act.issue source access refresh) ∈ ledger →
    Known secrets p.drawn (.access access) ∧ Known secrets p.drawn (.refresh refresh)

section Session
variable {secrets : Secrets} {s : OAuthSystem} {p : Provider} {ledger : Ledger} {t : String} {item : Item}

theorem InSession.token (member : InSession ledger t item) : ∃ t, item = .access t ∨ item = .refresh t := by
  cases member with
  | pair _ _ made | refreshed _ _ made =>
    rcases List.mem_cons.mp made with rfl | made
    · exact ⟨_, .inl rfl⟩
    · exact ⟨_, .inr (List.mem_singleton.mp made)⟩

theorem InSession.known (pairs : PairsKnown secrets p ledger) (member : InSession ledger t item) :
    Known secrets p.drawn item := by
  cases member with
  | pair issued _ made | refreshed _ issued made =>
    obtain ⟨access, refresh⟩ := pairs _ _ _ _ issued
    rcases List.mem_cons.mp made with rfl | made
    · exact access
    · rw [List.mem_singleton.mp made]
      exact refresh

theorem InSession.of_cons {e : Rat × Act} (other : ∀ source access refresh, e.2 ≠ .issue source access refresh)
    (member : InSession (e :: ledger) t item) : InSession ledger t item := by
  induction member with
  | pair issued own made =>
    rcases List.mem_cons.mp issued with rfl | issued
    · exact absurd rfl (other _ _ _)
    · exact .pair issued own made
  | refreshed _ issued made ih =>
    rcases List.mem_cons.mp issued with rfl | issued
    · exact absurd rfl (other _ _ _)
    · exact .refreshed ih issued made

theorem InSession.of_issue {now : Rat} {source : Item} {access refresh : String}
    (apart : t ≠ access ∧ t ≠ refresh) (outside : ¬ InSession ledger t source)
    (member : InSession ((now, .issue source access refresh) :: ledger) t item) : InSession ledger t item := by
  induction member with
  | pair issued own made =>
    rcases List.mem_cons.mp issued with same | issued
    · cases same
      exact (own.elim apart.1 apart.2).elim
    · exact .pair issued own made
  | refreshed _ issued made ih =>
    rcases List.mem_cons.mp issued with same | issued
    · cases same
      exact (outside ih).elim
    · exact .refreshed ih issued made

theorem InSession.cons (e : Rat × Act) (member : InSession ledger t item) :
    InSession (e :: ledger) t item := by
  induction member with
  | pair issued own made => exact .pair (List.mem_cons_of_mem _ issued) own made
  | refreshed _ issued made ih => exact .refreshed ih (List.mem_cons_of_mem _ issued) made

theorem PairsKnown.mono {p' : Provider} (pairs : PairsKnown secrets p ledger) (le : p.drawn ≤ p'.drawn) :
    PairsKnown secrets p' ledger := by
  intro time source access refresh issued
  obtain ⟨first, second⟩ := pairs time source access refresh issued
  exact ⟨first.mono le, second.mono le⟩

theorem PairsKnown.cons {e : Rat × Act} (pairs : PairsKnown secrets p ledger)
    (other : ∀ source access refresh, e.2 ≠ .issue source access refresh) :
    PairsKnown secrets p (e :: ledger) := by
  intro time source access refresh issued
  rcases List.mem_cons.mp issued with rfl | issued
  · exact absurd rfl (other _ _ _)
  · exact pairs time source access refresh issued

theorem PairsKnown.issue (pairs : PairsKnown secrets p ledger) (now : Rat) (source : Item)
    (client : OAuthClient) (link : TokenLink) (scopes : List String) :
    PairsKnown secrets (p.issue secrets now client link scopes).2
      ((now, .issue source (secrets.urlsafe p.drawn) (secrets.urlsafe (p.drawn + 1))) :: ledger) := by
  intro time source' access refresh issued
  rcases List.mem_cons.mp issued with same | issued
  · cases same
    exact ⟨⟨p.drawn, Nat.lt_add_of_pos_right Nat.two_pos, rfl⟩, ⟨p.drawn + 1, Nat.lt_succ_self _, rfl⟩⟩
  · exact pairs.mono (Nat.le_add_right _ _) time source' access refresh issued

theorem PairsKnown.step (pairs : PairsKnown secrets s.provider s.ledger) (op : OAuthOp) :
    PairsKnown secrets (s.step secrets op).provider (s.step secrets op).ledger := by
  have stepped := s.stepped secrets op
  generalize s.step secrets op = s' at stepped
  cases stepped with
  | loses shrinks => exact pairs.mono (le_of_eq shrinks.drawn.symm)
  | requests shrinks => exact pairs.mono (le_of_eq_of_le shrinks.drawn.symm (Nat.le_succ _))
  | consents shrinks =>
    refine (pairs.cons ?_).mono (le_of_eq_of_le shrinks.drawn.symm (Nat.le_succ _))
    exact fun _ _ _ absurd => by cases absurd
  | loadsCode => exact pairs
  | exchangesCode => exact PairsKnown.issue (p := s.provider.popCode _) pairs _ _ _ _ _
  | loadsRefresh => exact pairs
  | exchangesRefresh => exact PairsKnown.issue (p := s.provider.popRefresh _) pairs _ _ _ _ _
  | revokes shrinks =>
    refine (pairs.cons ?_).mono (le_of_eq shrinks.drawn.symm)
    exact fun _ _ _ absurd => by cases absurd
  | advances => exact pairs

end Session

/-! ### A session that is over -/

/-- Every token of the session is dead. -/
structure Ended (secrets : Secrets) (t : String) (s : OAuthSystem) : Prop where
  known : ∃ n < s.provider.drawn, t = secrets.urlsafe n
  pairs : PairsKnown secrets s.provider s.ledger
  dead : ∀ item, InSession s.ledger t item → Dead s.provider s.now item

section Ended
variable {secrets : Secrets} {t : String} {s : OAuthSystem}

theorem Ended.issue {p : Provider} {source : Item} (ended : Ended secrets t s)
    (shrinks : Shrinks s.provider p) (outside : ¬ InSession s.ledger t source) (client : OAuthClient)
    (link : TokenLink) (scopes : List String) :
    Ended secrets t { s with
      provider := (p.issue secrets s.now client link scopes).2
      ledger := (s.now, .issue source (secrets.urlsafe s.provider.drawn)
        (secrets.urlsafe (s.provider.drawn + 1))) :: s.ledger } := by
  obtain ⟨n, lt, rfl⟩ := ended.known
  rw [← shrinks.drawn] at lt ⊢
  have pairs := ended.pairs.mono (le_of_eq shrinks.drawn.symm)
  refine ⟨⟨n, lt.trans_le (Nat.le_add_right _ _), rfl⟩, pairs.issue s.now source client link scopes, ?_⟩
  intro item member
  have apart (m : ℕ) (le : p.drawn ≤ m) : secrets.urlsafe n ≠ secrets.urlsafe m := by
    intro same
    have equal := secrets.never_repeats same
    omega
  have old := member.of_issue ⟨apart _ le_rfl, apart _ (Nat.le_succ _)⟩ outside
  exact ((ended.dead item old).shrink shrinks).issue (old.known pairs) client link scopes

/-- What is over stays over. -/
theorem Ended.step (ended : Ended secrets t s) (op : OAuthOp) : Ended secrets t (s.step secrets op) := by
  obtain ⟨n, lt, same⟩ := ended.known
  have stepped := s.stepped secrets op
  have pairs := ended.pairs.step op
  generalize s.step secrets op = s' at stepped pairs
  cases stepped with
  | loses shrinks =>
    exact ⟨⟨n, lt.trans_eq shrinks.drawn.symm, same⟩, pairs, fun item member =>
      (ended.dead item member).shrink shrinks⟩
  | requests shrinks request =>
    refine ⟨⟨n, (lt.trans_eq shrinks.drawn.symm).trans_le (Nat.le_succ _), same⟩, pairs, ?_⟩
    intro item member
    have dead := (ended.dead item member).shrink shrinks
    cases item <;> exact dead
  | @consents requestId link p request scopes shrinks =>
    refine ⟨⟨n, (lt.trans_eq shrinks.drawn.symm).trans_le (Nat.le_succ _), same⟩, pairs, ?_⟩
    intro item member
    have old := member.of_cons fun _ _ _ absurd => by cases absurd
    have dead := (ended.dead item old).shrink shrinks
    cases item <;> exact dead
  | loadsCode => exact ⟨⟨n, lt, same⟩, pairs, ended.dead⟩
  | exchangesCode =>
    -- a code is no token of the session
    refine ended.issue (.popCode _ _) (fun inside => ?_) _ _ _
    obtain ⟨_, absurd | absurd⟩ := inside.token
    · cases absurd
    · cases absurd
  | loadsRefresh => exact ⟨⟨n, lt, same⟩, pairs, ended.dead⟩
  | exchangesRefresh read =>
    -- what is exchanged is registered, and no token of the session is
    refine ended.issue (.popRefresh _ _) (fun inside => ?_) _ _ _
    have gone : Dict.get? s.provider.refresh _ = none := ended.dead _ inside
    rw [gone] at read
    cases read
  | revokes shrinks =>
    refine ⟨⟨n, lt.trans_eq shrinks.drawn.symm, same⟩, pairs, fun item member => ?_⟩
    have old := member.of_cons fun _ _ _ absurd => by cases absurd
    exact (ended.dead item old).shrink shrinks
  | @advances seconds =>
    have waits : s.now ≤ s.now + seconds := le_add_of_nonneg_right seconds.2
    exact ⟨⟨n, lt, same⟩, pairs, fun item member => (ended.dead item member).wait waits⟩

end Ended

section Run
variable {secrets : Secrets} {start : { q : Rat // 0 ≤ q }} {ops : List OAuthOp} {t : String}

theorem OAuthSystem.after_pairs (secrets : Secrets) (start : { q : Rat // 0 ≤ q }) (ops : List OAuthOp) :
    PairsKnown secrets (after secrets start ops).provider (after secrets start ops).ledger := by
  refine after_induct (I := fun s => PairsKnown secrets s.provider s.ledger) start ?_
    (fun _ op pairs => pairs.step op) ops
  intro _ _ _ _ issued
  cases issued

theorem Ended.later (ended : Ended secrets t (OAuthSystem.after secrets start ops)) (later : List OAuthOp) :
    Ended secrets t (OAuthSystem.after secrets start (ops ++ later)) := by
  induction later using List.reverseRecOn with
  | nil => simpa using ended
  | append_singleton later op ih =>
    rw [← List.append_assoc, OAuthSystem.after_append]
    exact ih.step op

/-- The revocation of the last token of a session ends it. -/
theorem Ended.of_revoke {s : OAuthSystem} (known : ∃ n < s.provider.drawn, t = secrets.urlsafe n)
    (pairs : PairsKnown secrets s.provider s.ledger)
    (last : ∀ item, InSession s.ledger t item → item.secret ≠ t → Dead s.provider s.now item) :
    Ended secrets t (s.step secrets (.revokeToken t)) := by
  have shrinks := Shrinks.revokeToken s.provider t
  obtain ⟨n, lt, named⟩ := known
  refine ⟨⟨n, lt.trans_eq shrinks.drawn.symm, named⟩, pairs.step _, fun item member => ?_⟩
  have old : InSession s.ledger t item := member.of_cons fun _ _ _ absurd => by cases absurd
  by_cases own : item.secret = t
  · have present : t ≠ "" := by
      rw [named]
      exact secrets.nonempty n
    have revoked : (s.step secrets (.revokeToken t)).provider = (s.provider.revokeAccess t).popRefresh t := by
      unfold OAuthSystem.step Provider.revokeToken
      dsimp only
      rw [if_neg present]
    rw [revoked]
    obtain ⟨token, rfl | rfl⟩ := old.token
    · obtain rfl : token = t := own
      intro stored read
      rw [show Dict.get? ((s.provider.revokeAccess token).popRefresh token).tokens token = none from
        Dict.get?_erase_self _ _] at read
      cases read
    · obtain rfl : token = t := own
      exact Dict.get?_erase_self _ _
  · exact (last item old own).shrink shrinks

theorem Accepted.of_revoke {s : OAuthSystem} {item : Item} (token : ∃ t, item = .access t ∨ item = .refresh t)
    (other : item.secret ≠ t) (accepted : Accepted secrets s item) :
    Accepted secrets (s.step secrets (.revokeToken t)) item := by
  by_contra rejected
  refine (not_accepted_iff token).mpr ?_ accepted
  have dead := (not_accepted_iff token).mp rejected
  have kept : (∀ k ≠ t, Dict.get? (s.provider.revokeToken t).tokens k = Dict.get? s.provider.tokens k) ∧
      ∀ k ≠ t, Dict.get? (s.provider.revokeToken t).refresh k = Dict.get? s.provider.refresh k := by
    unfold Provider.revokeToken
    split
    · exact ⟨fun _ _ => rfl, fun _ _ => rfl⟩
    · refine ⟨fun k different => ?_, fun k different => ?_⟩
      · exact (Dict.get?_erase _ _ _).trans (if_neg (Ne.symm different))
      · exact (Dict.get?_erase _ _ _).trans (if_neg (Ne.symm different))
  obtain ⟨k, rfl | rfl⟩ := token
  · intro stored read
    exact dead stored ((kept.1 k other).trans read)
  · exact (kept.2 k other).symm.trans dead

end Run

/-- Revoking a token that is held ends its session, for good, exactly if no other token of the
session is accepted at that moment. -/
theorem revocation_ends_session_iff (secrets : Secrets) (start : { q : Rat // 0 ≤ q }) (ops : List OAuthOp)
    {t : String} (held : (OAuthSystem.after secrets start ops).provider.Holds (.access t) ∨
      (OAuthSystem.after secrets start ops).provider.Holds (.refresh t)) :
    (∀ later item,
      InSession (OAuthSystem.after secrets start (ops ++ .revokeToken t :: later)).ledger t item →
      ¬ Accepted secrets (OAuthSystem.after secrets start (ops ++ .revokeToken t :: later)) item) ↔
    ∀ item, InSession (OAuthSystem.after secrets start ops).ledger t item → item.secret ≠ t →
      ¬ Accepted secrets (OAuthSystem.after secrets start ops) item := by
  have known : ∃ n < (OAuthSystem.after secrets start ops).provider.drawn, t = secrets.urlsafe n := by
    have inv := OAuthSystem.after_inv secrets start ops
    rcases held with held | held
    · exact inv.known _ held
    · exact inv.known _ held
  constructor
  · intro ends item member other accepted
    have revoked := ends [] item
    rw [OAuthSystem.after_append] at revoked
    exact revoked (member.cons _) (accepted.of_revoke member.token other)
  · intro last later item member
    have ended : Ended secrets t (OAuthSystem.after secrets start (ops ++ [.revokeToken t])) := by
      rw [OAuthSystem.after_append]
      refine .of_revoke known (OAuthSystem.after_pairs secrets start ops) fun item member other => ?_
      exact (not_accepted_iff member.token).mp (last item member other)
    have finished := ended.later later
    rw [List.append_assoc, List.singleton_append] at finished
    exact (not_accepted_iff member.token).mpr (finished.dead item member)

section Sample

/-- The sample's code is exchanged, and the refresh token of the pair revoked. -/
def halfRevoked : List OAuthOp :=
  (sampleChain ["crawlers:read"] ["crawlers:read"]).take 4 ++ [.revokeToken "aaaa"]

theorem halfRevoked_session {item : Item}
    (member : InSession (OAuthSystem.after countingSecrets ⟨0, le_rfl⟩ halfRevoked).ledger "aaa" item) :
    item = .access "aaa" ∨ item = .refresh "aaaa" := by
  have ledger : (OAuthSystem.after countingSecrets ⟨0, le_rfl⟩ halfRevoked).ledger =
      [(0, .revoke "aaaa"), (0, .issue (.code "aa") "aaa" "aaaa"),
        (0, .consent "a" ⟨"u1", "t1", ["crawlers:read"], none⟩ "aa")] := rfl
  rw [ledger] at member
  cases member with
  | pair issued own made =>
    simp only [List.mem_cons, Prod.mk.injEq, Act.issue.injEq, reduceCtorEq, and_false, List.not_mem_nil,
      or_false, false_or] at issued
    obtain ⟨_, _, rfl, rfl⟩ := issued
    simpa [Act.makes] using made
  | refreshed _ issued made => simp at issued

/-- Once the refresh token is revoked, revoking the access token ends the session. -/
theorem both_halves_end_the_session :
    ¬ Accepted countingSecrets (OAuthSystem.after countingSecrets ⟨0, le_rfl⟩
      (halfRevoked ++ .revokeToken "aaa" :: [.loadRefreshToken "aaaa"])) (.refresh "aaaa") := by
  have held : (OAuthSystem.after countingSecrets ⟨0, le_rfl⟩ halfRevoked).provider.Holds (.access "aaa") := by
    show Dict.contains _ _ = true
    decide +kernel
  refine (revocation_ends_session_iff countingSecrets ⟨0, le_rfl⟩ halfRevoked (.inl held)).mpr ?_
    [.loadRefreshToken "aaaa"] (.refresh "aaaa") ?_
  · intro item member other
    rcases halfRevoked_session member with rfl | rfl
    · exact (other rfl).elim
    · refine (not_accepted_iff member.token).mpr ?_
      show Dict.get? _ _ = none
      decide +kernel
  · have issued : (0, .issue (.code "aa") "aaa" "aaaa") ∈ (OAuthSystem.after countingSecrets ⟨0, le_rfl⟩
        (halfRevoked ++ .revokeToken "aaa" :: [.loadRefreshToken "aaaa"])).ledger :=
      .tail _ (.tail _ (.head _))
    exact .pair issued (.inl rfl) (.tail _ (.head _))

/-- The refresh token of a revoked access token still works. -/
theorem a_revoked_session_refreshes :
    let s := OAuthSystem.after countingSecrets ⟨0, le_rfl⟩
      ((sampleChain ["crawlers:read"] ["crawlers:read"]).take 4 ++ [.revokeToken "aaa"])
    InSession s.ledger "aaa" (.refresh "aaaa") ∧ Accepted countingSecrets s (.refresh "aaaa") := by
  intro s
  have issued : (0, .issue (.code "aa") "aaa" "aaaa") ∈ s.ledger := .tail _ (.head _)
  have live : ∃ rt ∈ (s.provider.loadRefreshToken s.now "aaaa").1, rt.token = "aaaa" := by decide +kernel
  obtain ⟨rt, loaded, _⟩ := live
  exact ⟨.pair issued (.inl rfl) (.tail _ (.head _)), .inl ⟨rt, loaded⟩⟩

end Sample
end LobstrMcp
