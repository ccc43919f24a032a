import LobstrMcp.Interaction.Protocol
import LobstrMcp.Run.Attached
import LobstrMcp.Tools.UpdateScraper

/-!
What a tool says of a failure. A call that writes goes through phases, by how its writes were answered
so far; in each of them a reply may call a retry safe, or may not. A tool that saves once never says so
once its write may have had an effect.
-/

namespace LobstrMcp
open Interaction Tool

/-! ### The phases of a call that writes -/

/-- A request that makes a squid. -/
def Call.creates : Call → Bool
  | .createSquid _ _ => true
  | _ => false

/-- A request that starts a run. -/
def Call.starts : Call → Bool
  | .startRun _ => true
  | _ => false

/-- A failure of the idempotency store is its own: not the API's, nor of a request to it. -/
def storeFails (c : Call) (ans : Answer c) : Prop :=
  match c, ans with
  | .idemPut _ _ _, .error (.api _) => False
  | .idemPut _ _ _, .error (.transport _) => False
  | _, _ => True

inductive WritePhase where
  /-- No write was issued. -/
  | fresh
  /-- The first write failed, without effect. -/
  | missed
  /-- Every write was answered with success, and none of them made a squid. -/
  | got
  /-- The same, and one of them made a squid. -/
  | created
  /-- A write was never sent, where `run_scraper` forgets those before it. -/
  | slipped
  /-- A write failed, and it or one before it may have had its effect. -/
  | unsure
  /-- An answer that the API or the store never gives. -/
  | off
  deriving DecidableEq

namespace WritePhase

/-- After a write that was answered with success. -/
def answered (q : WritePhase) (c : Call) : WritePhase :=
  match q with
  | .fresh | .got => if c.creates then .created else .got
  | .missed | .unsure => .unsure
  | q => q

/-- After a write that was rejected. -/
def rejected : WritePhase → WritePhase
  | .fresh => .missed
  | .got | .created => .unsure
  | q => q

/-- After a write that was never sent. -/
def unsent (q : WritePhase) (c : Call) : WritePhase :=
  match q with
  | .created => .slipped
  | .got => if c.starts then .slipped else .unsure
  | q => q.rejected

/-- After a write whose answer was lost. -/
def lost : WritePhase → WritePhase
  | .slipped => .slipped
  | .off => .off
  | _ => .unsure

/-- Where an answer leads. -/
def after (q : WritePhase) (c : Call) (ans : Answer c) : WritePhase :=
  if c.writes then
    match ans with
    | .ok _ => q.answered c
    | .error (.api _) => q.rejected
    | .error (.transport failure) => if failure.kind.neverSent then q.unsent c else q.lost
    | .error _ => .off
  else match c, ans with
    | .idemPut _ _ _, .error (.api _) => .off
    | .idemPut _ _ _, .error (.transport _) => .off
    | _, _ => q

end WritePhase

def writeNext : Protocol Call Answer WritePhase := fun q c ans q' => q' = q.after c ans

/-- The reply calls a retry safe. -/
def CallsRetrySafe (reply : Fields) : Prop := Dict.get? reply "retry_safe" = some (.bool true)

/-- The call ends with a reply that calls a retry safe. -/
def Promises (r : Except Exc Fields) : Prop := ∃ reply, r = .ok reply ∧ CallsRetrySafe reply

/-- Once a write may have had its effect, a reply calls a retry safe only where the tool `slips`. -/
def retryEnds (slips : Prop) (q : WritePhase) (r : Except Exc Fields) : Prop :=
  match q with
  | .fresh | .missed | .off => True
  | .got | .created | .unsure => ¬ Promises r
  | .slipped => Promises r ↔ slips

/-- `retryEnds`, of a tool's body. -/
def bodyRetryEnds (slips : Prop) (verify : String) (q : WritePhase) (outcome : Except Exit Fields) : Prop :=
  retryEnds slips q (settle (some verify) outcome)

def Silent (reply : Fields) : Prop := ¬ CallsRetrySafe reply

/-- A way to leave a tool that does not call a retry safe. -/
def Exit.Unpromising : Exit → Prop
  | .returned reply => Silent reply
  | .raised (.transport failure) => failure.kind.neverSent = false
  | .raised _ => True

/-- An outcome that does not call a retry safe; a value is as good as given. -/
def Unpromising {α : Type} (good : α → Prop) (outcome : Except Exit α) : Prop :=
  match outcome with
  | .ok a => good a
  | .error e => e.Unpromising

/-! ### What the replies say -/

section Replies
variable {verify : String} {reply more : Fields}

theorem silent_toErrorDict (rejection : ApiError) : Silent (toErrorDict rejection) := by
  rw [Silent, CallsRetrySafe, toErrorDict_get_absent rejection (by decide)]
  exact fun absurd => by cases absurd

theorem callsRetrySafe_transport {failure : TransportError} :
    CallsRetrySafe (transportErrorDict failure (some verify)) ↔ failure.kind.neverSent = true := by
  simp [CallsRetrySafe, transportErrorDict]

theorem callsRetrySafe_update (absent : "retry_safe" ∉ Dict.keys more) :
    CallsRetrySafe (Dict.update reply more) ↔ CallsRetrySafe reply := by
  rw [CallsRetrySafe, Dict.get?_update_absent absent]
  exact Iff.rfl

theorem callsRetrySafe_set {key : String} (v : Json) (other : key ≠ "retry_safe") :
    CallsRetrySafe (Dict.set reply key v) ↔ CallsRetrySafe reply := by
  rw [CallsRetrySafe, Dict.get?_set_other _ _ other]
  exact Iff.rfl

/-- More in a reply, none of which is about retrying. -/
theorem silent_update (more : Fields) (absent : "retry_safe" ∉ Dict.keys more) (silent : Silent reply) :
    Silent (Dict.update reply more) := by
  rw [Silent, callsRetrySafe_update absent]
  exact silent

theorem silent_set {key : String} (v : Json) (other : key ≠ "retry_safe") (silent : Silent reply) :
    Silent (Dict.set reply key v) := by
  rw [Silent, callsRetrySafe_set v other]
  exact silent

theorem unpromising_bind {α β : Type} {good : α → Prop} {good' : β → Prop} {p : Tool α} {f : α → Tool β}
    (first : p.Ends (Unpromising good)) (rest : ∀ a, good a → (f a).Ends (Unpromising good')) :
    (p >>= f).Ends (Unpromising good') := by
  refine Program.ends_bind.mpr (first.mono fun r unpromising => ?_)
  cases r with
  | ok a => exact rest a unpromising
  | error e => exact unpromising

/-- An unpromising outcome is put to the caller as it is. -/
theorem not_promises_of_unpromising {outcome : Except Exit Fields} (unpromising : Unpromising Silent outcome) :
    ¬ Promises (settle (some verify) outcome) := by
  rintro ⟨reply, settled, safe⟩
  rcases outcome with (e | returned) | value
  · cases e with
    | api rejection =>
      cases settled
      exact silent_toErrorDict rejection safe
    | transport failure =>
      cases settled
      have unsent := callsRetrySafe_transport.mp safe
      have sent : failure.kind.neverSent = false := unpromising
      rw [sent] at unsent
      cases unsent
    | _ => cases settled
  · cases settled
    exact unpromising safe
  · cases settled
    exact unpromising safe

end Replies

section Phases
variable {slips : Prop} {verify : String} {q : WritePhase} {c : Call} {α β : Type}

theorem bodyRetryEnds_unsure {outcome : Except Exit Fields} (unpromising : Unpromising Silent outcome) :
    bodyRetryEnds slips verify .unsure outcome := not_promises_of_unpromising unpromising

/-- A tool that never slips may end so in any phase. -/
theorem bodyRetryEnds_of_unpromising {outcome : Except Exit Fields} (unpromising : Unpromising Silent outcome)
    (q : WritePhase) : bodyRetryEnds False verify q outcome := by
  have silent : ¬ Promises (settle (some verify) outcome) := not_promises_of_unpromising unpromising
  cases q with
  | slipped => exact iff_false_intro silent
  | got => exact silent
  | created => exact silent
  | unsure => exact silent
  | _ => trivial

/-! ### Following them -/

/-- A program whose every outcome is good in any phase. -/
theorem follows_anywhere {good : WritePhase → Except Exit α → Prop} {p : Tool α}
    (ends : p.Ends fun r => ∀ q, good q r) : p.Follows writeNext good q := by
  induction p generalizing q with
  | pure a => exact ends q
  | raise e => exact ends q
  | call c next ih => exact fun ans => ⟨_, rfl, ih ans (ends ans)⟩

theorem after_off (c : Call) (ans : Answer c) : WritePhase.off.after c ans = .off := by
  unfold WritePhase.after
  split
  · split
    · rfl
    · rfl
    · split <;> rfl
    · rfl
  · split <;> rfl

theorem follows_off {good : WritePhase → Except Exit α → Prop} (off : ∀ r, good .off r) (p : Tool α) :
    p.Follows writeNext good .off := by
  induction p with
  | pure a => exact off _
  | raise e => exact off _
  | call c next ih => exact fun ans => ⟨.off, (after_off c ans).symm, ih ans⟩

theorem after_unsure (c : Call) (ans : Answer c) :
    WritePhase.unsure.after c ans = .unsure ∨ WritePhase.unsure.after c ans = .off := by
  unfold WritePhase.after
  split
  · split
    · exact .inl rfl
    · exact .inl rfl
    · split
      · exact .inl rfl
      · exact .inl rfl
    · exact .inr rfl
  · split
    · exact .inr rfl
    · exact .inr rfl
    · exact .inl rfl

/-- After a failed write nothing that is sent helps. -/
theorem follows_unsure {good : WritePhase → Except Exit α → Prop} {p : Tool α} (off : ∀ r, good .off r)
    (ends : p.Ends (good .unsure)) : p.Follows writeNext good .unsure := by
  induction p with
  | pure a => exact ends
  | raise e => exact ends
  | call c next ih =>
    intro ans
    refine ⟨_, rfl, ?_⟩
    rcases after_unsure c ans with stays | strays
    · rw [stays]
      exact ih ans (ends ans)
    · rw [strays]
      exact follows_off off _

theorem after_read (reads : c.writes = false) (ans : Answer c) (q : WritePhase) :
    q.after c ans = q ∨ q.after c ans = .off := by
  unfold WritePhase.after
  rw [if_neg (by simp [reads])]
  split
  · exact .inr rfl
  · exact .inr rfl
  · exact .inl rfl

/-- Reads leave the phase as it is. -/
theorem follows_reads_bind {good : WritePhase → Except Exit β → Prop} {p : Tool α} {f : α → Tool β}
    (reads : p.Uses fun c => c.writes = false) (off : ∀ r, good .off r) (stops : ∀ e, good q (.error e))
    (rest : ∀ a, (f a).Follows writeNext good q) : (p >>= f).Follows writeNext good q := by
  induction p with
  | pure a => exact rest a
  | raise e => exact stops e
  | call c next ih =>
    intro ans
    refine ⟨_, rfl, ?_⟩
    rcases after_read reads.1 ans q with stays | strays
    · rw [stays]
      exact ih ans (reads.2 ans)
    · rw [strays]
      exact follows_off off _

/-- A write, and what follows each of its answers. -/
theorem follows_write_bind {good : WritePhase → Except Exit β → Prop} {f : Answer c → Tool β}
    (writes : c.writes = true) (off : ∀ r, good .off r)
    (answered : ∀ v, (f (.ok v)).Follows writeNext good (q.answered c))
    (rejected : ∀ rejection, (f (.error (.api rejection))).Follows writeNext good q.rejected)
    (unsent : ∀ failure : TransportError, failure.kind.neverSent = true →
      (f (.error (.transport failure))).Follows writeNext good (q.unsent c))
    (lost : ∀ failure : TransportError, failure.kind.neverSent = false →
      (f (.error (.transport failure))).Follows writeNext good q.lost) :
    (request c >>= f).Follows writeNext good q := by
  intro ans
  refine ⟨_, rfl, ?_⟩
  simp only [WritePhase.after, writes, if_true]
  cases ans with
  | ok v => exact answered v
  | error e =>
    cases e with
    | api rejection => exact rejected rejection
    | transport failure =>
      show (f _).Follows writeNext good (if failure.kind.neverSent = true then q.unsent c else q.lost)
      split
      · rename_i sent
        exact unsent failure sent
      · rename_i sent
        exact lost failure (by simpa using sent)
    | _ => exact follows_off off _

/-- A save that is the first write, and raises its failure. -/
theorem follows_first_bind {good : WritePhase → Except Exit β → Prop} {f : c.Resp → Tool β}
    (writes : c.writes = true) (off : ∀ r, good .off r)
    (answered : ∀ v, (f v).Follows writeNext good (WritePhase.fresh.answered c)) (stops : ∀ e, good .missed (.error e))
    (lost : ∀ failure : TransportError, failure.kind.neverSent = false →
      good .unsure (.error (.raised (.transport failure)))) :
    (send c >>= f).Follows writeNext good .fresh := by
  unfold send
  rw [Program.bind_assoc]
  exact follows_write_bind writes off answered (fun _ => stops _) (fun _ _ => stops _) lost

/-- The only write of a tool. -/
theorem follows_save {f : c.Resp → Tool Fields} (writes : c.writes = true)
    (after : ∀ v, (f v).Ends (Unpromising Silent)) :
    (send c >>= f).Follows writeNext (bodyRetryEnds False verify) .fresh :=
  follows_first_bind writes (fun _ => trivial)
    (fun v => follows_anywhere ((after v).mono fun _ unpromising => bodyRetryEnds_of_unpromising unpromising))
    (fun _ => trivial) fun _ sent => bodyRetryEnds_unsure sent

end Phases

/-! ### The tools that save once -/

section Tools
variable {slips : Prop} {verify : String} {α : Type}

theorem follows_structured {body : Tool Fields} {q : WritePhase}
    (follows : body.Follows writeNext (bodyRetryEnds slips verify) q) :
    (structured (some verify) body).Follows writeNext (retryEnds slips) q := by
  unfold structured
  refine Program.follows_bind.mpr (Program.follows_attempt.mpr (follows.mono fun q outcome ends => ?_))
  exact Program.follows_ofExcept.mpr ends

/-- The reads before the first write. -/
theorem follows_reading {p : Tool α} {f : α → Tool Fields} (reads : p.Uses fun c => c.writes = false)
    (rest : ∀ a, (f a).Follows writeNext (bodyRetryEnds slips verify) .fresh) :
    (p >>= f).Follows writeNext (bodyRetryEnds slips verify) .fresh :=
  follows_reads_bind reads (fun _ => trivial) (fun _ => trivial) rest

theorem addTasksImpl_follows (squidId : String) (tasks : List Json) :
    (addTasksImpl squidId tasks).Follows writeNext (retryEnds False) .fresh := by
  refine follows_structured ?_
  unfold addTasksBody
  split
  · trivial
  refine follows_reading ((uses_squidAndWireNames squidId).mono fun _ fetches => fetches.1) fun found => ?_
  refine follows_save rfl fun v => ?_
  show Silent _
  simp [Silent, CallsRetrySafe]

theorem updateScraperImpl_follows (squidId : String) (name : Option String) (config : Fields)
    (concurrency : Option Int) :
    (updateScraperImpl squidId name config concurrency).Follows writeNext (retryEnds False) .fresh := by
  refine follows_structured ?_
  unfold updateScraper
  dsimp only
  split
  · trivial
  refine follows_reading ((uses_squidAndWireNames squidId).mono fun _ fetches => fetches.1) fun found => ?_
  refine follows_save rfl fun v => ?_
  show Silent _
  simp [Silent, CallsRetrySafe]

theorem emptyScraperImpl_follows (squidId : String) :
    (emptyScraperImpl squidId).Follows writeNext (retryEnds False) .fresh := by
  refine follows_structured (follows_save rfl fun v => ?_)
  show Silent _
  simp [Silent, CallsRetrySafe]

theorem deactivateScraperImpl_follows (squidId : String) :
    (deactivateScraperImpl squidId).Follows writeNext (retryEnds False) .fresh := by
  refine follows_structured (follows_save rfl fun v => ?_)
  show Silent _
  simp [Silent, CallsRetrySafe]

theorem abortRunImpl_follows (lower : String → String) (runId : String) :
    (abortRunImpl lower runId).Follows writeNext (retryEnds False) .fresh := by
  refine follows_structured (follows_save rfl fun v => ?_)
  show Silent (abortReport lower runId _)
  unfold abortReport
  dsimp only
  split
  · simp [Silent, CallsRetrySafe]
  · split <;> simp [Silent, CallsRetrySafe]

theorem uses_findAttachment {allowed : Call → Prop} (s : Session) (squidId : String) (accountId : Option String)
    (accountType : Json) (current : List String) (given : ∀ account, allowed (.getAccount account))
    (listed : ∀ limit page type status, allowed (.listAccounts limit page type status)) :
    (findAttachment s squidId accountId accountType current).Uses allowed := by
  unfold findAttachment
  cases accountId with
  | none =>
    dsimp only
    split
    · trivial
    refine Program.uses_bind (uses_pickOrExplain _ _ (listed _ _ _ _)) fun found => ?_
    cases found with
    | error error => trivial
    | ok account => exact Program.uses_bind (uses_item _ _) fun _ => trivial
  | some accountId =>
    refine Program.uses_bind (uses_resolveAccount _ _ (given _)) fun found => ?_
    cases found <;> trivial

theorem uses_crawlerOf {allowed : Call → Prop} (squid : Fields) (permitted : ∀ crawler, allowed (.getCrawler crawler)) :
    (crawlerOf squid).Uses allowed := by
  unfold crawlerOf
  dsimp only
  split
  · exact (uses_send _).mpr (permitted _)
  · trivial

theorem attachAccountImpl_follows (s : Session) (squidId : String) (accountId : Option String) :
    (attachAccountImpl s squidId accountId).Follows writeNext (retryEnds False) .fresh := by
  refine follows_structured ?_
  refine follows_reading ((uses_send _).mpr rfl) fun squid => ?_
  refine follows_reading (uses_crawlerOf _ fun _ => rfl) fun crawler => ?_
  dsimp only
  split
  · trivial
  split
  · trivial
  refine follows_reading (uses_findAttachment s squidId accountId _ _ (fun _ => rfl) fun _ _ _ _ => rfl)
    fun found => ?_
  split
  · trivial
  refine follows_save rfl fun v => ?_
  refine silent_update _ (by simp [Dict.keys]) ?_
  cases found.warning <;> simp [Silent, CallsRetrySafe]

/-- Once the squid exists, no failure to configure it is called safe to retry. -/
theorem saveConfig_unpromising (squidId crawlerId : Json) (body reply : Fields) (silent : Silent reply) :
    (saveConfig squidId crawlerId body >>= fun _ => pure reply : Tool Fields).Ends (Unpromising Silent) := by
  intro ans
  cases ans with
  | ok _ => exact silent
  | error e =>
    cases e with
    | api rejection =>
      intro deleted
      have told (deleted : Bool) (message : String) : Silent (Dict.update (toErrorDict rejection)
          [("squid_id", squidId), ("scraper", crawlerId), ("deleted", .bool deleted), ("message", .str message)]) :=
        silent_update _ (by simp [Dict.keys]) (silent_toErrorDict rejection)
      cases deleted with
      | ok _ => exact told true _
      | error _ => exact told false _
    | transport failure =>
      show Silent (configApplyUnknown squidId crawlerId _)
      simp [Silent, CallsRetrySafe, configApplyUnknown]
    | _ => trivial

theorem uses_checkConfig (crawlerId : Json) (config : Fields) : (checkConfig crawlerId config).Uses Call.Fetches := by
  have reads {c : Call} (silent : c.writes = false) (quiet : c.Quiet) : c.Fetches := ⟨silent, quiet⟩
  unfold checkConfig
  split
  · trivial
  refine Program.uses_bind ?_ fun found => ?_
  · refine Program.uses_bind ((uses_request _).mpr (reads rfl trivial)) fun ans => ?_
    cases ans with
    | error e => trivial
    | ok crawler => exact Program.uses_bind (uses_readCrawlerParams _ (reads rfl trivial)) fun _ => trivial
  cases found with
  | none => trivial
  | some t =>
    dsimp only
    split
    · trivial
    · split <;> trivial

theorem createSquidImpl_follows (lower : String → String) (scraper : String) (name : Option String)
    (config : Fields) (concurrency : Option Int) :
    (createSquidImpl lower scraper name config concurrency).Follows writeNext (retryEnds False) .fresh := by
  refine follows_structured ?_
  refine follows_reading (uses_resolveCrawlerId _ _ rfl) fun crawlerId => ?_
  refine follows_reading ((uses_checkConfig _ _).mono fun _ fetches => fetches.1) fun cfg => ?_
  refine follows_save rfl fun squid => ?_
  dsimp only
  split
  · show Silent _
    simp [Silent, CallsRetrySafe]
  · refine saveConfig_unpromising _ _ _ _ ?_
    simp [Silent, CallsRetrySafe]

end Tools

end LobstrMcp
