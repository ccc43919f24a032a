import LobstrMcp.Auth.Rotation
import LobstrMcp.Data.DictKeys
import LobstrMcp.Model.Consent

/-!
Consents redeemed by several threads of one process. The pending request is looked up before the
redemption and removed after it, so two threads that both find it both make a code of it; where
none finds it between another's look-up and removal, it makes one code at most.
-/

namespace LobstrMcp
open Interaction

/-! ### The process -/

/-- The tables of the process, and the time. -/
structure Process where
  provider : Provider
  now : Rat

namespace Process

/-- What a thread's accesses do, when the delegation answers the grant so. -/
def machine (redeemed : Except String TokenLink) : Machine ConsentCall ConsentCall.Answer Process
  | s, .time => (s.now, s)
  | s, .stale now => (some (Dict.keys (s.provider.pending.filter fun e => e.2.expiresAt < now)), s)
  | s, .del rid => (Dict.contains s.provider.pending rid, { s with provider := s.provider.popPending rid })
  | s, .get rid => (Dict.get? s.provider.pending rid, s)
  | s, .redeem _ => (redeemed, s)
  | s, .pop rid => ((), { s with provider := s.provider.popPending rid })
  | s, .random => (s.provider.drawn, { s with provider := { s.provider with drawn := s.provider.drawn + 1 } })
  | s, .setCode made => ((), { s with
      provider := { s.provider with codes := Dict.set s.provider.codes made.code made } })
  | s, .setIdentity code link => ((), { s with
      provider := { s.provider with codeIdentity := Dict.set s.provider.codeIdentity code link } })

/-- What other threads may have done meanwhile: anything, but that a request is as it was or gone. -/
def Meanwhile (requestId : String) (s s' : Process) : Prop :=
  Dict.get? s'.provider.pending requestId = Dict.get? s.provider.pending requestId ∨
    Dict.get? s'.provider.pending requestId = none

/-- A table that was changed while it was read. -/
def Interrupted (c : ConsentCall) (ans : c.Answer) : Prop :=
  match c, ans with
  | .stale _, none => True
  | _, _ => False

/-- Threads that share the tables, each access a step; the delegation answers as it likes. -/
def threads (requestId : String) : World ConsentCall ConsentCall.Answer Process := fun s c ans t =>
  ∃ s' redeemed, Meanwhile requestId s s' ∧ ((ans, t) = machine redeemed s' c ∨ t = s' ∧ Interrupted c ans)

end Process

/-! ### Alone, the method of the provider -/

section Alone
variable {secrets : Secrets} {redeemed : Except String TokenLink} {p : Provider} {now : Rat}

/-- The requests that are deleted one by one are those that are pruned. -/
theorem deleteAll_alone (stale : List String) (distinct : stale.Nodup)
    (held : ∀ rid ∈ stale, Dict.contains p.pending rid = true) :
    (Threaded.deleteAll stale).run (Process.machine redeemed) ⟨p, now⟩ =
      (.ok (), ⟨{ p with pending := stale.foldl Dict.erase p.pending }, now⟩) := by
  induction stale generalizing p with
  | nil => rfl
  | cons rid rest ih =>
    obtain ⟨fresh, distinct⟩ := List.nodup_cons.mp distinct
    have first : (Process.machine redeemed ⟨p, now⟩ (.del rid)).1 = true := held rid (.head _)
    rw [Threaded.deleteAll, ConsentCall.ask, Program.run_ask_bind, first, if_pos rfl]
    refine ih distinct fun other member => ?_
    have different : rid ≠ other := by
      rintro rfl
      exact fresh member
    show Dict.contains (Dict.erase p.pending rid) other = true
    rw [Dict.contains, Dict.get?_erase, if_neg different]
    exact held other (.tail _ member)

theorem prunePending_alone (redeemed : Except String TokenLink) (now : Rat)
    (distinct : (Dict.keys p.pending).Nodup) :
    Threaded.prunePending.run (Process.machine redeemed) ⟨p, now⟩ = (.ok (), ⟨p.prunePending now, now⟩) := by
  have part : (p.pending.filter fun e => e.2.expiresAt < truncate now).Sublist p.pending := List.filter_sublist
  refine deleteAll_alone _ (distinct.sublist (part.map Prod.fst)) fun rid member => ?_
  exact (Dict.mem_keys_iff _ _).mp ((part.map Prod.fst).subset member)

/-- A thread that runs alone does what `complete_consent` does. -/
theorem completeConsent_alone (distinct : (Dict.keys p.pending).Nodup) (requestId grant : String) :
    (Threaded.completeConsent secrets requestId grant).run (Process.machine redeemed) ⟨p, now⟩ =
      ((p.completeConsent secrets now requestId redeemed).1.mapError ConsentError.oauth,
        ⟨(p.completeConsent secrets now requestId redeemed).2, now⟩) := by
  have pruned := prunePending_alone redeemed now distinct
  rw [Threaded.completeConsent, Threaded.findRequest, Program.bind_assoc, Program.run_bind_ok pruned,
    ConsentCall.ask, Program.run_ask_bind, Provider.completeConsent]
  show (Threaded.consentTo secrets requestId grant (Dict.get? (p.prunePending now).pending requestId)).run _ _ = _
  cases found : Dict.get? (p.prunePending now).pending requestId with
  | none => rfl
  | some request =>
    rw [Threaded.consentTo, ConsentCall.ask, Program.run_ask_bind]
    cases redeemed with
    | error text => rfl
    | ok link =>
      show (Threaded.createCode secrets requestId request link).run _ _ = _
      rw [Threaded.createCode, ConsentCall.ask, Program.run_ask_bind]
      dsimp only
      cases effectiveScopes request.params.scopes link.scopes <;> rfl

theorem distinct_erase {α : Type} {d : Dict String α} (distinct : (Dict.keys d).Nodup) (k : String) :
    (Dict.keys (Dict.erase d k)).Nodup :=
  distinct.sublist (List.filter_sublist.map Prod.fst)

theorem distinct_erases {α : Type} {d : Dict String α} (distinct : (Dict.keys d).Nodup) (stale : List String) :
    (Dict.keys (stale.foldl Dict.erase d)).Nodup := by
  induction stale generalizing d with
  | nil => exact distinct
  | cons rid rest ih => exact ih (distinct_erase distinct rid)

theorem completeConsent_distinct (secrets : Secrets) (now : Rat) (distinct : (Dict.keys p.pending).Nodup)
    (requestId : String) (redeemed : Except String TokenLink) :
    (Dict.keys (p.completeConsent secrets now requestId redeemed).2.pending).Nodup := by
  have pruned : (Dict.keys (p.prunePending now).pending).Nodup := distinct_erases distinct _
  unfold Provider.completeConsent
  dsimp only
  split
  · exact pruned
  · split
    · exact pruned
    · split
      · exact distinct_erase pruned requestId
      · exact distinct_erase pruned requestId

theorem exchange_pending (secrets : Secrets) (p : Provider) (now : Rat) (client : OAuthClient)
    (code : AuthorizationCode) : (p.exchangeAuthorizationCode secrets now client code).2.pending = p.pending := by
  unfold Provider.exchangeAuthorizationCode
  dsimp only
  split <;> rfl

theorem refresh_pending (secrets : Secrets) (p : Provider) (now : Rat) (client : OAuthClient)
    (rt : RefreshToken) (scopes : List String) :
    (p.exchangeRefreshToken secrets now client rt scopes).2.pending = p.pending := by
  unfold Provider.exchangeRefreshToken
  dsimp only
  split
  · rfl
  · split <;> rfl

theorem load_pending (token : String) : (p.loadRefreshToken now token).2.pending = p.pending := by
  unfold Provider.loadRefreshToken
  split
  · rfl
  · split
    · split <;> rfl
    · rfl

theorem access_pending (token : String) : (p.loadAccessToken now token).2.pending = p.pending := by
  unfold Provider.loadAccessToken
  split
  · rfl
  · split <;> rfl

theorem revoke_pending (token : String) : (p.revokeToken token).pending = p.pending := by
  unfold Provider.revokeToken
  split <;> rfl

theorem OAuthSystem.after_distinct (secrets : Secrets) (start : { q : Rat // 0 ≤ q }) (ops : List OAuthOp) :
    (Dict.keys (after secrets start ops).provider.pending).Nodup := by
  refine after_induct (I := fun s => (Dict.keys s.provider.pending).Nodup) start .nil (fun s op distinct => ?_) ops
  cases op with
  | authorize client params =>
    exact Dict.nodup_keys_update (distinct_erases distinct _) [(secrets.urlsafe s.provider.drawn, _)]
  | completeConsent requestId redeemed =>
    have kept := completeConsent_distinct secrets s.now distinct requestId redeemed
    unfold OAuthSystem.step
    dsimp only
    split <;> exact kept
  | loadAuthorizationCode code => exact distinct
  | exchangeAuthorizationCode client code =>
    rw [← exchange_pending secrets s.provider s.now client code] at distinct
    unfold OAuthSystem.step
    dsimp only
    split <;> exact distinct
  | loadRefreshToken token => exact (congrArg (fun d => (Dict.keys d).Nodup) (load_pending token)).mpr distinct
  | exchangeRefreshToken client token scopes =>
    rw [← refresh_pending secrets s.provider s.now client token scopes] at distinct
    unfold OAuthSystem.step
    dsimp only
    split <;> exact distinct
  | loadAccessToken token => exact (congrArg (fun d => (Dict.keys d).Nodup) (access_pending token)).mpr distinct
  | revokeToken token => exact (congrArg (fun d => (Dict.keys d).Nodup) (revoke_pending token)).mpr distinct
  | advance seconds => exact distinct

end Alone

/-! ### The claim -/

/-- A consent: find the request, redeem the grant, remove the request, and make the code. -/
def consenting (requestId : String) : Claiming ConsentCall ConsentCall.Answer where
  finds
    | .get rid, some _ => rid = requestId
    | _, _ => False
  takes c := c = .pop requestId
  yields
    | .redeem _, .error _ => True
    | _, _ => False
  acts
    | .setCode _ => True
    | _ => False
  restores _ := False
  cannot _ _ := False

section Claim
variable {secrets : Secrets} {requestId : String}

theorem Process.Meanwhile.contains {s s' : Process} (meanwhile : Meanwhile requestId s s')
    (held : Dict.contains s'.provider.pending requestId = true) :
    Dict.contains s.provider.pending requestId = true := by
  unfold Dict.contains at held ⊢
  rcases meanwhile with same | gone
  · rwa [same] at held
  · rw [gone] at held
    cases held

theorem Process.machine_contains {redeemed : Except String TokenLink} {s : Process} {c : ConsentCall}
    (held : Dict.contains (machine redeemed s c).2.provider.pending requestId = true) :
    Dict.contains s.provider.pending requestId = true := by
  cases c with
  | del rid => exact (Dict.sub_erase _ _).contains held
  | pop rid => exact (Dict.sub_erase _ _).contains held
  | _ => exact held

theorem consenting_sound : (consenting requestId).Sound (Process.threads requestId)
    (fun s => Dict.contains s.provider.pending requestId = true) fun _ => True where
  keeps := fun _ _ _ => ⟨trivial, id⟩
  found := by
    rintro s c ans t _ ⟨s', redeemed, meanwhile, step | ⟨_, interrupted⟩⟩ finds
    · obtain rfl : ans = (Process.machine redeemed s' c).1 := congrArg Prod.fst step
      cases c with
      | get rid =>
        refine meanwhile.contains ?_
        cases held : Dict.get? s'.provider.pending rid with
        | none =>
          have finds : (consenting requestId).finds (.get rid) (Dict.get? s'.provider.pending rid) := finds
          rw [held] at finds
          exact finds.elim
        | some request =>
          have finds : (consenting requestId).finds (.get rid) (Dict.get? s'.provider.pending rid) := finds
          rw [held] at finds
          obtain rfl : rid = requestId := finds
          exact (Dict.contains_iff _ _).mpr ⟨request, held⟩
      | _ => exact finds.elim
    · cases c with
      | get rid => exact interrupted.elim
      | _ => exact finds.elim
  removed := by
    rintro s c ans t ⟨s', redeemed, meanwhile, step | ⟨_, interrupted⟩⟩ taken
    · obtain rfl : c = .pop requestId := taken
      obtain rfl : t = { s' with provider := s'.provider.popPending requestId } := congrArg Prod.snd step
      simp [Provider.popPending, Dict.contains]
    · obtain rfl : c = .pop requestId := taken
      exact interrupted.elim
  absent := by
    rintro s c ans t _ _ ⟨s', redeemed, meanwhile, step | ⟨rfl, _⟩⟩ gone held
    · obtain rfl : t = (Process.machine redeemed s' c).2 := congrArg Prod.snd step
      exact gone (meanwhile.contains (Process.machine_contains held))
    · exact gone (meanwhile.contains held)

/-- An access that is no part of the claim. -/
def Plain : ConsentCall → Prop
  | .time | .stale _ | .del _ | .random | .setIdentity _ _ => True
  | _ => False

theorem plain_obeys {c : ConsentCall} (plain : Plain c) (q : Claim) (ans : c.Answer) :
    (consenting requestId).Obeys q c ans q := by
  cases c with
  | get | redeem | pop | setCode => exact plain.elim
  | _ => exact .quiet id False.elim fun _ => ⟨(fun absurd => by cases absurd), id⟩

theorem deleteAll_plain (stale : List String) : (Threaded.deleteAll stale).Uses Plain := by
  induction stale with
  | nil => trivial
  | cons rid rest ih =>
    refine ⟨trivial, fun held => ?_⟩
    cases held with
    | true => exact ih
    | false => trivial

theorem prunePending_plain : Threaded.prunePending.Uses Plain := by
  refine ⟨trivial, fun now => ⟨trivial, fun stale => ?_⟩⟩
  cases stale with
  | none => trivial
  | some stale => exact deleteAll_plain stale

/-- Of its ends nothing is asked. -/
def anyEnd (_ : Claim) (_ : Except ConsentError (String × Redirect)) : Prop := True

theorem plain_bind_obeys {α : Type} {p : ConsentM α} {f : α → ConsentM (String × Redirect)} {q : Claim}
    (plain : p.Uses Plain) (rest : ∀ a, (f a).Follows (consenting requestId).Obeys anyEnd q) :
    (p >>= f).Follows (consenting requestId).Obeys anyEnd q := by
  rw [Program.follows_bind]
  refine Program.follows_of_uses plain (fun c plain ans => plain_obeys plain q ans) ?_
  refine Program.ends_of_forall (fun r => ?_) p
  cases r with
  | error e => trivial
  | ok a => exact rest a

theorem createCode_obeys (request : Pending) (link : TokenLink) :
    (Threaded.createCode secrets requestId request link).Follows (consenting requestId).Obeys anyEnd .holding := by
  refine Program.follows_ask_bind.mpr fun _ => ⟨.taken, .takes id id rfl, ?_⟩
  cases effectiveScopes request.params.scopes link.scopes with
  | error e => trivial
  | ok scopes =>
    refine Program.follows_ask_bind.mpr fun drawn => ⟨.taken, plain_obeys (c := .random) trivial _ _, ?_⟩
    refine Program.follows_ask_bind.mpr fun now => ⟨.taken, plain_obeys (c := .time) trivial _ _, ?_⟩
    refine Program.follows_ask_bind.mpr fun _ => ⟨.taken, .quiet id (fun _ => rfl) (fun absurd => by cases absurd), ?_⟩
    exact Program.follows_ask_bind.mpr fun _ => ⟨.taken, plain_obeys (c := .setIdentity _ _) trivial _ _, trivial⟩

/-- A thread looks the request up, removes it once the grant is redeemed, and makes a code only
then. -/
theorem completeConsent_obeys (grant : String) :
    (Threaded.completeConsent secrets requestId grant).Follows (consenting requestId).Obeys anyEnd .seeking := by
  rw [Threaded.completeConsent, Threaded.findRequest, Program.bind_assoc]
  refine plain_bind_obeys prunePending_plain fun _ => ?_
  refine Program.follows_ask_bind.mpr fun found => ?_
  cases found with
  | none => exact ⟨.seeking, .quiet id False.elim (fun absurd => by cases absurd), trivial⟩
  | some request =>
    refine ⟨.holding, .finds id id rfl, Program.follows_ask_bind.mpr fun redeemed => ?_⟩
    cases redeemed with
    | error text => exact ⟨.seeking, .yields id id trivial, trivial⟩
    | ok link =>
      refine ⟨.holding, .quiet id False.elim (fun _ => ⟨(fun absurd => by cases absurd), id⟩), ?_⟩
      exact createCode_obeys request link

/-! ### One code -/

/-- `setCode`, which creates an authorization code. -/
def ConsentCall.creates : ConsentCall → Bool
  | .setCode _ => true
  | _ => false

theorem uses_once {c : ConsentCall} (plain : c.creates = false) (created : Bool) (ans : c.Answer) :
    Claiming.OnceOnly ConsentCall.creates created c ans created := by
  rw [Claiming.OnceOnly, plain, if_neg Bool.false_ne_true]

theorem plain_creates {c : ConsentCall} (plain : Plain c) : c.creates = false := by
  cases c with
  | setCode made => exact plain.elim
  | _ => rfl

theorem createCode_once (request : Pending) (link : TokenLink) :
    (Threaded.createCode secrets requestId request link).Follows (Claiming.OnceOnly ConsentCall.creates)
      (fun _ _ => True) false := by
  refine Program.follows_ask_bind.mpr fun _ => ⟨false, uses_once rfl _ _, ?_⟩
  cases effectiveScopes request.params.scopes link.scopes with
  | error e => trivial
  | ok scopes =>
    refine Program.follows_ask_bind.mpr fun drawn => ⟨false, uses_once rfl _ _, ?_⟩
    refine Program.follows_ask_bind.mpr fun now => ⟨false, uses_once rfl _ _, ?_⟩
    refine Program.follows_ask_bind.mpr fun _ => ⟨true, ⟨rfl, rfl⟩, ?_⟩
    exact Program.follows_ask_bind.mpr fun _ => ⟨true, uses_once rfl _ _, trivial⟩

theorem completeConsent_once (grant : String) :
    (Threaded.completeConsent secrets requestId grant).Follows (Claiming.OnceOnly ConsentCall.creates)
      (fun _ _ => True) false := by
  rw [Threaded.completeConsent, Threaded.findRequest, Program.bind_assoc, Program.follows_bind]
  refine Program.follows_of_uses prunePending_plain (fun c plain ans => uses_once (plain_creates plain) _ _) ?_
  refine Program.ends_of_forall (fun r => ?_) _
  cases r with
  | error e => trivial
  | ok _ =>
    refine Program.follows_ask_bind.mpr fun found => ⟨false, uses_once rfl _ _, ?_⟩
    cases found with
    | none => trivial
    | some request =>
      refine Program.follows_ask_bind.mpr fun redeemed => ⟨false, uses_once rfl _ _, ?_⟩
      cases redeemed with
      | error text => trivial
      | ok link => exact createCode_once request link

/-- Threads that complete the same request, each with its own grant. -/
def consents {ι : Type} (secrets : Secrets) (requestId : String) (grants : ι → String) (process : Process) :
    Pool ι ConsentCall ConsentCall.Answer Process ConsentError (String × Redirect) where
  state := process
  programs i := Threaded.completeConsent secrets requestId (grants i)

def created {ι : Type} (log : Schedule ι ConsentCall ConsentCall.Answer Process) :
    Schedule ι ConsentCall ConsentCall.Answer Process :=
  log.filter fun x => x.2.op.creates

/-- A request makes one code at most, whatever threads complete it and whatever becomes of their
grants, as long as none finds it between another's look-up and the removal or the failure. -/
theorem consent_is_single_use {ι : Type} [DecidableEq ι] (secrets : Secrets) (requestId : String)
    (grants : ι → String) {process : Process} {log : Schedule ι ConsentCall ConsentCall.Answer Process}
    {p : Pool ι ConsentCall ConsentCall.Answer Process ConsentError (String × Redirect)}
    (runs : Pool.Runs (Process.threads requestId) (consenting requestId).Alone
      (consents secrets requestId grants process) log p) : (created log).length ≤ 1 := by
  obtain ⟨phases, exclusive, _⟩ := Claiming.exclusive_runs consenting_sound runs trivial
    fun i => completeConsent_obeys (grants i)
  have creating : ∀ c : ConsentCall, c.creates = true → (consenting requestId).acts c := by
    intro c creates
    cases c with
    | setCode made => trivial
    | _ => cases creates
  exact exclusive.acts_once creating (Claiming.acts_once_each runs fun i => completeConsent_once (grants i))

end Claim

/-! ### Two look-ups in a row -/

section Overlap
variable {secrets : Secrets} {requestId : String} {p : Provider} {now : Rat} {request : Pending}

theorem get?_erases {α : Type} (stale : List String) (d : Dict String α) (k : String) :
    Dict.get? (stale.foldl Dict.erase d) k = if k ∈ stale then none else Dict.get? d k := by
  induction stale generalizing d with
  | nil => simp
  | cons rid rest ih =>
    rw [List.foldl_cons, ih, Dict.get?_erase]
    by_cases same : rid = k
    · simp [same]
    · simp [same, Ne.symm same]

theorem prunePending_keeps (distinct : (Dict.keys p.pending).Nodup)
    (held : Dict.get? p.pending requestId = some request) (fresh : truncate now ≤ request.expiresAt) :
    Dict.get? (p.prunePending now).pending requestId = some request := by
  show Dict.get? (List.foldl Dict.erase p.pending _) requestId = some request
  rw [get?_erases, if_neg, held]
  intro member
  obtain ⟨⟨k, stale⟩, listed, rfl⟩ := List.mem_map.mp member
  obtain ⟨listed, expired⟩ := List.mem_filter.mp listed
  rw [Dict.mem_get? distinct listed] at held
  cases held
  exact absurd (of_decide_eq_true expired) (not_lt.mpr fresh)

theorem findRequest_alone (redeemed : Except String TokenLink) (distinct : (Dict.keys p.pending).Nodup)
    (held : Dict.get? p.pending requestId = some request) (fresh : truncate now ≤ request.expiresAt) :
    (Threaded.findRequest requestId).run (Process.machine redeemed) ⟨p, now⟩ =
      (.ok (some request), ⟨p.prunePending now, now⟩) := by
  rw [Threaded.findRequest, Program.run_bind_ok (prunePending_alone redeemed now distinct)]
  show (Except.ok (Dict.get? (p.prunePending now).pending requestId), _) = _
  rw [prunePending_keeps distinct held fresh]
  rfl

/-- Alone, a thread that has found the request makes a code of a grant that is worth one. -/
theorem consentTo_alone (secrets : Secrets) (requestId grant : String) {link : TokenLink} {scopes : List String}
    (effective : effectiveScopes request.params.scopes link.scopes = .ok scopes) (s : Process) :
    (∃ done t, (Threaded.consentTo secrets requestId grant (some request)).run (Process.machine (.ok link)) s =
      (.ok done, t)) ∧
    (((Threaded.consentTo secrets requestId grant (some request)).trace (Process.machine (.ok link)) s).filter
      fun e => e.op.creates).length = 1 := by
  rw [Threaded.consentTo, ConsentCall.ask, Program.run_ask_bind, Program.trace_ask_bind]
  show (∃ done t, (Threaded.createCode secrets requestId request link).run _ _ = (.ok done, t)) ∧
    (List.filter _ (_ :: (Threaded.createCode secrets requestId request link).trace _ _)).length = 1
  rw [Threaded.createCode, ConsentCall.ask, Program.run_ask_bind, Program.trace_ask_bind, effective]
  exact ⟨⟨_, _, rfl⟩, rfl⟩

theorem Process.threads_machine (requestId : String) (redeemed : Except String TokenLink) (s : Process)
    (c : ConsentCall) : threads requestId s c (machine redeemed s c).1 (machine redeemed s c).2 :=
  ⟨s, redeemed, .inl rfl, .inl rfl⟩

theorem created_append {ι : Type} (log later : Schedule ι ConsentCall ConsentCall.Answer Process) :
    created (log ++ later) = created log ++ created later :=
  List.filter_append _ _

theorem created_map {ι : Type} (i : ι) (tr : List (Event ConsentCall ConsentCall.Answer Process)) :
    (created (tr.map (i, ·))).length = (tr.filter fun e => e.op.creates).length := by
  rw [created, List.filter_map, List.length_map]
  rfl

/-- Two threads that both find the request before either removes it both make a code of it, if both
grants are worth one. -/
theorem overlapping_lookups_create_two (secrets : Secrets) (grants : Bool → String) (links : Bool → TokenLink)
    (distinct : (Dict.keys p.pending).Nodup) (held : Dict.get? p.pending requestId = some request)
    (fresh : truncate now ≤ request.expiresAt)
    (worth : ∀ i, ∃ scopes, effectiveScopes request.params.scopes (links i).scopes = .ok scopes) :
    ∃ log q, Pool.Runs (Process.threads requestId) (fun _ _ _ _ _ => True)
        (consents secrets requestId grants ⟨p, now⟩) log q ∧ 2 ≤ (created log).length := by
  let pruned := p.prunePending now
  have distinct' : (Dict.keys pruned.pending).Nodup := distinct_erases distinct _
  have held' := prunePending_keeps distinct held fresh
  -- both look-ups
  have idle : Pool.Runs (Process.threads requestId) (fun _ _ _ _ _ => True)
      (consents secrets requestId grants ⟨p, now⟩) [] (consents secrets requestId grants ⟨p, now⟩) := .start
  have first := idle.half (i := false) (Process.threads_machine requestId (.ok (links false))) rfl
    (findRequest_alone _ distinct held fresh) fun _ _ _ => trivial
  have second := first.half (i := true) (Process.threads_machine requestId (.ok (links true)))
    (Pool.after_other _ _ _ (by decide)) (findRequest_alone _ distinct' held' fresh) fun _ _ _ => trivial
  -- the rest of each
  obtain ⟨scopes, effective⟩ := worth false
  obtain ⟨⟨one, t, done⟩, once⟩ := consentTo_alone secrets requestId (grants false)
    effective ⟨pruned.prunePending now, now⟩
  have third := second.half (i := false) (f := .pure) (Process.threads_machine requestId (.ok (links false)))
    ((Pool.after_other _ _ _ (by decide)).trans ((Pool.after_self _ _ _ _).trans (Program.bind_pure _).symm)) done
    fun _ _ _ => trivial
  obtain ⟨scopes', effective'⟩ := worth true
  obtain ⟨⟨two, t', done'⟩, once'⟩ := consentTo_alone secrets requestId (grants true)
    effective' t
  have fourth := third.half (i := true) (f := .pure) (Process.threads_machine requestId (.ok (links true)))
    ((Pool.after_other _ _ _ (by decide)).trans ((Pool.after_self _ _ _ _).trans (Program.bind_pure _).symm)) done'
    fun _ _ _ => trivial
  refine ⟨_, _, fourth, ?_⟩
  rw [created_append, List.length_append, created_map, created_append, List.length_append, created_map]
  exact Nat.add_le_add (Nat.le_add_left_of_le once.ge) once'.ge

end Overlap

section Sample

def onePending : Provider :=
  (({} : Provider).authorize countingSecrets 0 { clientId := "c1" } (sampleParams ["crawlers:read"])).2

def samplePending : Pending :=
  { clientId := "c1", params := sampleParams ["crawlers:read"], expiresAt := truncate 0 + pendingTtl }

theorem onePending_distinct : (Dict.keys onePending.pending).Nodup :=
  OAuthSystem.after_distinct countingSecrets ⟨0, le_rfl⟩
    [.authorize { clientId := "c1" } (sampleParams ["crawlers:read"])]

theorem onePending_held : Dict.get? onePending.pending (countingSecrets.urlsafe 0) = some samplePending :=
  Dict.get?_set_self _ _ _

def sampleLink : TokenLink := ⟨"u1", "t1", ["crawlers:read"], none⟩

theorem samplePending_fresh : truncate 0 ≤ samplePending.expiresAt := by decide

theorem sampleLink_worth :
    effectiveScopes samplePending.params.scopes sampleLink.scopes = .ok ["crawlers:read"] := rfl

/-- A thread completes the request, and makes a code. -/
theorem one_consent_makes_one_code : ∃ (log : Schedule Unit ConsentCall ConsentCall.Answer Process)
    (p : Pool Unit ConsentCall ConsentCall.Answer Process ConsentError (String × Redirect)) (done : String × Redirect),
    p.programs () = .pure done ∧ (created log).length ≤ 1 := by
  let requestId := countingSecrets.urlsafe 0
  let start := consents countingSecrets requestId (fun _ : Unit => "grant") ⟨onePending, 0⟩
  have find := findRequest_alone (.ok sampleLink) onePending_distinct onePending_held samplePending_fresh
  obtain ⟨⟨done, t, makes⟩, _⟩ := consentTo_alone countingSecrets requestId "grant" sampleLink_worth
    ⟨onePending.prunePending 0, 0⟩
  have whole : (start.programs ()).run (Process.machine (.ok sampleLink)) start.state = (.ok done, t) :=
    (Program.run_bind_ok find).trans makes
  have idle : Pool.Runs (Process.threads requestId) (consenting requestId).Alone start [] start := .start
  have runs := idle.alone (Process.threads_machine requestId _) whole fun _ _ _ _ j other => (other rfl).elim
  exact ⟨_, start.after () (.pure done) t, done, Pool.after_self _ _ _ _,
    consent_is_single_use countingSecrets requestId (fun _ => "grant") runs⟩

/-- Two threads find the request before either removes it, and both make a code of it. -/
theorem two_codes_of_one_request : ∃ log p, Pool.Runs (Process.threads (countingSecrets.urlsafe 0))
    (fun _ _ _ _ _ => True)
    (consents countingSecrets (countingSecrets.urlsafe 0) (fun i : Bool => if i then "grant-2" else "grant-1")
      ⟨onePending, 0⟩) log p ∧ ¬ (created log).length ≤ 1 := by
  obtain ⟨log, p, runs, two⟩ := overlapping_lookups_create_two countingSecrets
    (fun i : Bool => if i then "grant-2" else "grant-1") (fun _ => sampleLink) onePending_distinct onePending_held
    samplePending_fresh fun _ => ⟨["crawlers:read"], sampleLink_worth⟩
  exact ⟨log, p, runs, by omega⟩

end Sample
end LobstrMcp
