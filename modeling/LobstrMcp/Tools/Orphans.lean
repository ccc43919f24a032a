import LobstrMcp.Tools.RetrySafe

/-!
The squid that a call creates. From the answer that names it on, the call goes through phases, and
what it may delete and what it must say depend on the phase: a reply names the squid, and one that
says it was deleted is given in the phase that the answered deletion leads to.
-/

namespace LobstrMcp
open Interaction Tool

/-- What became of the squid a call creates. -/
inductive SquidPhase where
  /-- No creation was answered. -/
  | start
  | made (id : Json)
  /-- The answer to the save of its configuration was lost. -/
  | unsure (id : Json)
  | gone (id : Json)
  /-- The store failed as it never does. -/
  | astray

/-- The squid is configured and deleted in the phase that its creation led to, and only there. -/
def squidNext : Protocol Call Answer SquidPhase := fun q c ans q' =>
  match c, ans with
  | .createSquid _ _, .ok record => q = .start ∧ q' = .made (Fields.get record "id")
  | .createSquid _ _, .error _ => q = .start ∧ q' = q
  | .deleteSquid id, .ok _ => q = .made id ∧ q' = .gone id
  | .deleteSquid id, .error _ => q = .made id ∧ q' = q
  | .updateSquid _ _, .error (.transport _) => ∃ id, q = .made id ∧ q' = .unsure id
  | .updateSquid _ _, _ => (∃ id, q = .made id) ∧ q' = q
  | .idemPut _ _ _, .error (.api _) => q' = .astray
  | .idemPut _ _ _, .error (.transport _) => q' = .astray
  | _, _ => q' = q

/-- A reply that names the squid, as one that is there. -/
def KeepsSquid (id : Json) (reply : Fields) : Prop :=
  Dict.get? reply "squid_id" = some id ∧ Dict.get? reply "deleted" ≠ some (.bool true)

/-- What a call in a phase may reply. -/
def squidReply (q : SquidPhase) (reply : Fields) : Prop :=
  match q with
  | .made id | .unsure id => KeepsSquid id reply
  | .gone id => Dict.get? reply "squid_id" = some id
  | _ => True

def squidEnds (q : SquidPhase) (r : Except Exc Fields) : Prop := ∀ reply, r = .ok reply → squidReply q reply

/-- `squidEnds`, of a tool's body. -/
def bodySquidEnds (verify : String) (q : SquidPhase) (outcome : Except Exit Fields) : Prop :=
  squidEnds q (settle (some verify) outcome)

section Phases
variable {verify : String} {q : SquidPhase} {c : Call} {α : Type} {id : Json}

theorem squidNext_reads (reads : c.Reads) (ans : Answer c) : squidNext q c ans q := by
  obtain ⟨silent, notPut⟩ := reads
  cases c with
  | createSquid _ _ => cases silent
  | deleteSquid _ => cases silent
  | updateSquid _ _ => cases silent
  | idemPut key runId ttl => exact absurd rfl (notPut key runId ttl)
  | _ => rfl

theorem squidEnds_start (r : Except Exc Fields) : squidEnds .start r := fun _ _ => trivial

theorem squidEnds_astray (r : Except Exc Fields) : squidEnds .astray r := fun _ _ => trivial

theorem follows_start_bind {β : Type} {good : SquidPhase → Except Exit β → Prop} {p : Tool α} {f : α → Tool β}
    (reads : p.Uses Call.Reads) (stops : ∀ e, good .start (.error e))
    (rest : ∀ a, (f a).Follows squidNext good .start) : (p >>= f).Follows squidNext good .start := by
  refine Program.follows_bind.mpr (Program.follows_of_uses reads
    (fun c same ans => squidNext_reads same ans) (Program.ends_of_forall (fun r => ?_) p))
  cases r with
  | error e => exact stops e
  | ok a => exact rest a

/-- A creation: the rest of the call is about the squid that the answer names. -/
theorem follows_create_bind {β : Type} {good : SquidPhase → Except Exit β → Prop} {crawler : Json}
    {name : Option String} {f : Fields → Tool β} (stops : ∀ e, good .start (.error e))
    (rest : ∀ record, (f record).Follows squidNext good (.made (Fields.get record "id"))) :
    (createSquid crawler name >>= f).Follows squidNext good .start := by
  intro ans
  cases ans with
  | ok record => exact ⟨.made (Fields.get record "id"), ⟨rfl, rfl⟩, rest record⟩
  | error e => exact ⟨.start, ⟨rfl, rfl⟩, stops _⟩

/-- The save of the configuration. -/
theorem follows_update_bind {β : Type} {good : SquidPhase → Except Exit β → Prop} {squid : Json} {body : Fields}
    {f : Answer (.updateSquid squid body) → Tool β}
    (saved : ∀ v, (f (.ok v)).Follows squidNext good (.made id))
    (lost : ∀ failure, (f (.error (.transport failure))).Follows squidNext good (.unsure id))
    (failed : ∀ e, (∀ failure, e ≠ .transport failure) → (f (.error e)).Follows squidNext good (.made id)) :
    (request (.updateSquid squid body) >>= f).Follows squidNext good (.made id) := by
  intro ans
  cases ans with
  | ok v => exact ⟨.made id, ⟨⟨id, rfl⟩, rfl⟩, saved v⟩
  | error e =>
    cases e with
    | transport failure => exact ⟨.unsure id, ⟨id, rfl, rfl⟩, lost failure⟩
    | _ => exact ⟨.made id, ⟨⟨id, rfl⟩, rfl⟩, failed _ fun _ absurd => by cases absurd⟩

/-- The deletion of the squid that was created. -/
theorem follows_delete_bind {β : Type} {good : SquidPhase → Except Exit β → Prop} {f : Answer (.deleteSquid id) → Tool β}
    (deleted : ∀ v, (f (.ok v)).Follows squidNext good (.gone id))
    (failed : ∀ e, (f (.error e)).Follows squidNext good (.made id)) :
    (request (.deleteSquid id) >>= f).Follows squidNext good (.made id) := by
  intro ans
  cases ans with
  | ok v => exact ⟨.gone id, ⟨rfl, rfl⟩, deleted v⟩
  | error e => exact ⟨.made id, ⟨rfl, rfl⟩, failed e⟩

theorem follows_squid_structured {body : Tool Fields} {q : SquidPhase}
    (follows : body.Follows squidNext (bodySquidEnds verify) q) :
    (structured (some verify) body).Follows squidNext squidEnds q := by
  unfold structured
  refine Program.follows_bind.mpr (Program.follows_attempt.mpr (follows.mono fun q outcome ends => ?_))
  exact Program.follows_ofExcept.mpr ends

theorem bodySquidEnds_returned {reply : Fields} (told : squidReply q reply) :
    bodySquidEnds verify q (.error (.returned reply)) := by
  rintro _ ⟨⟩
  exact told

theorem bodySquidEnds_ok {reply : Fields} (told : squidReply q reply) : bodySquidEnds verify q (.ok reply) := by
  rintro _ ⟨⟩
  exact told

/-- An exception that no tool turns into a reply. -/
theorem bodySquidEnds_escapes {e : Exc} (api : ∀ rejection, e ≠ .api rejection)
    (transport : ∀ failure, e ≠ .transport failure) : bodySquidEnds verify q (.error (.raised e)) := by
  intro reply settled
  cases e with
  | api rejection => exact absurd rfl (api rejection)
  | transport failure => exact absurd rfl (transport failure)
  | _ => cases settled

end Phases

/-! ### create_squid -/

theorem saveConfig_follows {verify : String} {id crawlerId : Json} {body reply : Fields} (keeps : KeepsSquid id reply) :
    (saveConfig id crawlerId body >>= fun _ => pure reply : Tool Fields).Follows squidNext (bodySquidEnds verify)
      (.made id) := by
  unfold saveConfig
  rw [Program.bind_assoc]
  refine follows_update_bind (fun v => ?_) (fun failure => ?_) fun e sent => ?_
  · exact bodySquidEnds_ok keeps
  · refine bodySquidEnds_returned ⟨?_, ?_⟩
    · simp [configApplyUnknown]
    · simp [configApplyUnknown]
  · cases e with
    | transport failure => exact absurd rfl (sent failure)
    | api rejection =>
      dsimp only
      unfold configRejected
      rw [Program.bind_assoc, Program.bind_assoc]
      refine follows_delete_bind (fun v => ?_) fun e => ?_
      · refine bodySquidEnds_returned (?_ : Dict.get? _ _ = _)
        simp [Dict.update]
      · refine bodySquidEnds_returned ⟨?_, ?_⟩
        · simp [Dict.update]
        · simp [Dict.update]
    | _ => exact bodySquidEnds_escapes (fun _ absurd => by cases absurd) fun _ absurd => by cases absurd

theorem createSquidImpl_squid_follows (lower : String → String) (scraper : String) (name : Option String)
    (config : Fields) (concurrency : Option Int) :
    (createSquidImpl lower scraper name config concurrency).Follows squidNext squidEnds .start := by
  refine follows_squid_structured ?_
  unfold createSquidBody
  refine follows_start_bind (uses_resolveCrawlerId _ _ (Call.Fetches.reads ⟨rfl, trivial⟩)) (fun _ => squidEnds_start _)
    fun crawlerId => ?_
  refine follows_start_bind ((uses_checkConfig _ _).mono fun _ => Call.Fetches.reads) (fun _ => squidEnds_start _)
    fun cfg => ?_
  refine follows_create_bind (fun _ => squidEnds_start _) fun record => ?_
  dsimp only
  split
  · refine bodySquidEnds_ok ⟨?_, ?_⟩
    · simp
    · simp
  · refine saveConfig_follows ⟨?_, ?_⟩
    · simp
    · simp

/-! ### run_scraper -/

/-- What the writes on a new squid come to. -/
def newEnds (q : SquidPhase) (r : Except Exit Written) : Prop :=
  match r with
  | .ok w => q = .made w.squidId ∧ w.action ≠ .replaced
  | .error e => bodySquidEnds runScraperVerify q (.error e)

theorem newSquidFailed_follows {id scraper : Json} {e : Exc} (sent : ∀ failure, e ≠ .transport failure) :
    (newSquidFailed id scraper e).Follows squidNext newEnds (.made id) := by
  cases e with
  | transport failure => exact absurd rfl (sent failure)
  | api rejection =>
    unfold newSquidFailed newSquidWriteFailed
    dsimp only
    rw [Program.bind_assoc]
    refine follows_delete_bind (fun v => ?_) fun e => ?_
    · refine bodySquidEnds_returned (?_ : Dict.get? _ _ = _)
      simp [Dict.update]
    · refine bodySquidEnds_returned ⟨?_, ?_⟩
      · simp [Dict.update]
      · simp [Dict.update]
  | _ => exact bodySquidEnds_escapes (fun _ absurd => by cases absurd) fun _ absurd => by cases absurd

theorem newSquidLost_ends {q : SquidPhase} {id scraper : Json} {failure : TransportError}
    (phase : q = .made id ∨ q = .unsure id) :
    (newSquidFailed id scraper (.transport failure)).Follows squidNext newEnds q := by
  have keeps : KeepsSquid id (Dict.update (transportErrorDict failure
      (some s!"get_my_scraper(squid_id='{id.text}')")) [("squid_id", id), ("scraper", scraper)]) := by
    refine ⟨by simp [Dict.update], ?_⟩
    simp [Dict.update, transportErrorDict]
  rcases phase with rfl | rfl
  · exact bodySquidEnds_returned keeps
  · exact bodySquidEnds_returned keeps

theorem writeNew_follows (plan : RunPlan) : (writeNew plan).Follows squidNext newEnds .start := by
  unfold writeNew
  refine follows_create_bind (fun _ => squidEnds_start _) fun record => ?_
  unfold item
  cases named : Dict.get? record "id" with
  | none => exact bodySquidEnds_escapes (fun _ absurd => by cases absurd) fun _ absurd => by cases absurd
  | some id =>
    rw [Fields.get_of_get? named]
    refine follows_update_bind (fun v => ?_) (fun failure => ?_) fun e sent => ?_
    · intro ans
      cases ans with
      | ok _ => exact ⟨.made id, rfl, rfl, fun absurd => by cases absurd⟩
      | error e =>
        refine ⟨.made id, rfl, ?_⟩
        by_cases lost : ∃ failure, e = .transport failure
        · obtain ⟨failure, rfl⟩ := lost
          exact newSquidLost_ends (.inl rfl)
        · exact newSquidFailed_follows fun failure same => lost ⟨failure, same⟩
    · exact newSquidLost_ends (.inr rfl)
    · exact newSquidFailed_follows sent

theorem keepsSquid_runFacts (plan : RunPlan) {w : Written} {failed : Fields} (silent : Dict.get? failed "deleted" = none) :
    KeepsSquid w.squidId (Dict.update failed (runFacts plan w)) := by
  refine ⟨?_, ?_⟩
  · simp [runFacts, Dict.update]
  · rw [Dict.get?_update_absent (by simp [runFacts, Dict.keys]), silent]
    exact fun absurd => by cases absurd

theorem keepsSquid_set {id v : Json} {key : String} {reply : Fields} (keeps : KeepsSquid id reply)
    (squid : key ≠ "squid_id") (deleted : key ≠ "deleted") : KeepsSquid id (Dict.set reply key v) := by
  unfold KeepsSquid
  rw [Dict.get?_set_other _ _ squid, Dict.get?_set_other _ _ deleted]
  exact keeps

/-- The start of a run on the squid that the call created, and what follows it. -/
theorem startAndReport_follows (plan : RunPlan) (funds : Funds) (w : Written) (created : w.action ≠ .replaced) :
    (startAndReport plan funds w).Follows squidNext (bodySquidEnds runScraperVerify) (.made w.squidId) := by
  -- the reply may tell what is left besides
  have failed {facts reply : Fields} (keeps : KeepsSquid w.squidId facts)
      (told : reply = facts ∨ ∃ left, reply = Dict.set facts "remaining" left) :
      bodySquidEnds runScraperVerify (.made w.squidId) (.ok reply) := by
    apply bodySquidEnds_ok
    obtain rfl | ⟨left, rfl⟩ := told
    · exact keeps
    · exact keepsSquid_set keeps (by decide) (by decide)
  intro ans
  refine ⟨.made w.squidId, rfl, ?_⟩
  cases ans with
  | error e =>
    unfold afterStart startFailed
    dsimp only
    cases e with
    | api rejection =>
      show Program.Follows _ _ _ (if w.action = .replaced then _ else _)
      rw [if_neg created]
      apply failed (keepsSquid_runFacts plan (toErrorDict_get_absent rejection (by decide)))
      cases funds.remaining with
      | none => exact .inl rfl
      | some left => exact .inr ⟨left, rfl⟩
    | transport failure =>
      show Program.Follows _ _ _ (if w.action = .replaced then _ else _)
      rw [if_neg created]
      have silent : Dict.get? (transportErrorDict failure (some "list_runs(squid_id=...)")) "deleted" = none := by
        simp [transportErrorDict]
      apply failed (keepsSquid_runFacts plan silent)
      cases funds.remaining with
      | none => exact .inl rfl
      | some left => exact .inr ⟨left, rfl⟩
    | _ => exact bodySquidEnds_escapes (fun _ absurd => by cases absurd) fun _ absurd => by cases absurd
  | ok run =>
    show Program.Follows _ _ _ (afterStart plan funds w (.ok run))
    unfold afterStart item
    dsimp only
    cases named : Dict.get? run "id" with
    | none => exact bodySquidEnds_escapes (fun _ absurd => by cases absurd) fun _ absurd => by cases absurd
    | some runId =>
      intro stored
      cases stored with
      | ok _ =>
        refine ⟨.made w.squidId, rfl, bodySquidEnds_ok ⟨?_, ?_⟩⟩
        · rw [runReport_get? _ _ _ _ _ (by decide)]
          simp [startedFacts]
        · rw [runReport_get? _ _ _ _ _ (by decide)]
          simp [startedFacts]
      | error e =>
        cases e with
        | api _ => exact ⟨.astray, rfl, squidEnds_astray _⟩
        | transport _ => exact ⟨.astray, rfl, squidEnds_astray _⟩
        | _ =>
          refine ⟨.made w.squidId, rfl, ?_⟩
          exact bodySquidEnds_escapes (fun _ absurd => by cases absurd) fun _ absurd => by cases absurd

theorem ends_prepareRun_args (s : Session) (args : RunArgs) :
    (prepareRun s args).Ends fun r => ∀ plan, r = .ok plan → plan.args = args := by
  unfold prepareRun
  split
  · exact fun _ absurd => by cases absurd
  refine Program.ends_bind_value fun target => ?_
  dsimp only
  split
  · exact fun _ absurd => by cases absurd
  refine Program.ends_bind_value fun _ => Program.ends_bind_value fun account => ?_
  refine Program.ends_bind_value fun snapshot => ?_
  rintro plan ⟨⟩
  rfl

theorem commitRun_squid_follows (s : Session) {plan : RunPlan} (new : plan.args.reuse = false) :
    (commitRun s plan).Follows squidNext (bodySquidEnds runScraperVerify) .start := by
  unfold commitRun
  split
  · exact squidEnds_start _
  refine follows_start_bind ((uses_readFunds plan).mono fun _ => Call.Fetches.reads) (fun _ => squidEnds_start _)
    fun funds => ?_
  rw [writeInput, new]
  refine Program.follows_bind.mpr ((writeNew_follows plan).mono fun q r ends => ?_)
  cases r with
  | error e => exact ends
  | ok w =>
    obtain ⟨rfl, created⟩ := ends
    exact startAndReport_follows plan funds w created

theorem runScraperImpl_squid_follows (s : Session) {args : RunArgs} (new : args.reuse = false) :
    (runScraperImpl s args).Follows squidNext squidEnds .start := by
  refine follows_squid_structured (Program.follows_bind.mpr (Program.follows_of_uses (uses_prepareRun s args)
    (fun c reads ans => squidNext_reads reads ans) ((ends_prepareRun_args s args).mono fun r kept => ?_)))
  cases r with
  | error e => exact squidEnds_start _
  | ok plan => exact commitRun_squid_follows s (by rw [kept plan rfl, new])

/-! ### Every run of a call that creates -/

/-- The calls that may create a squid. -/
inductive SquidMaker : Program Call Answer Exc Fields → Prop
  | runScraper (s : Session) (args : RunArgs) (new : args.reuse = false) : SquidMaker (runScraperImpl s args)
  | createSquid (lower : String → String) (scraper : String) (name : Option String) (config : Fields)
      (concurrency : Option Int) : SquidMaker (createSquidImpl lower scraper name config concurrency)

theorem SquidMaker.follows {p : Program Call Answer Exc Fields} (maker : SquidMaker p) :
    p.Follows squidNext squidEnds .start := by
  cases maker with
  | runScraper s args new => exact runScraperImpl_squid_follows s new
  | createSquid lower scraper name config concurrency =>
    exact createSquidImpl_squid_follows lower scraper name config concurrency

/-- The id that an answered creation names. -/
def madeId (e : Event Call Answer Upstream) : Option Json :=
  match e.op, e.ans with
  | .createSquid _ _, .ok record => some (Fields.get record "id")
  | _, _ => none

/-- The answer to a save was lost. -/
def losesSave (e : Event Call Answer Upstream) : Bool :=
  match e.op, e.ans with
  | .updateSquid _ _, .error (.transport _) => true
  | _, _ => false

def Created (tr : List (Event Call Answer Upstream)) (id : Json) : Prop := ∃ e ∈ tr, madeId e = some id

def SaveLost (tr : List (Event Call Answer Upstream)) : Prop := ∃ e ∈ tr, losesSave e = true

/-- What the phases stand for, after the operations so far. -/
structure SquidInv (past : List (Event Call Answer Upstream)) (q : SquidPhase) (u : Upstream) : Prop where
  settled : q ≠ .astray
  created : ∀ id, Created past id → q = .made id ∨ q = .unsure id ∨ (q = .gone id ∧ u.squids id = none)
  own : ∀ first e rest id, past = first ++ e :: rest → e.op = .deleteSquid id → Created first id ∧ ¬ SaveLost first
  named : ∀ id, q = .made id → Created past id
  lost : SaveLost past → ∃ id, q = .unsure id

theorem squids_stay_gone {reports : List Json → Json → Prop} {u t : Upstream} {c : Call} {ans : Answer c} {id : Json}
    (step : Upstream.world reports u c ans t) (other : ∀ crawler name, c ≠ .createSquid crawler name)
    (gone : u.squids id = none) : t.squids id = none := by
  have edited (squid : Json) (change : Squid → Squid) : u.edit squid change id = none := by
    by_cases same : id = squid
    · subst same
      rw [Upstream.edit_same, gone]
      rfl
    · rw [Upstream.edit_other _ _ same, gone]
  have taken {made : Fields} (takes : u.Takes c made t) : t.squids id = none := by
    obtain ⟨_, rfl⟩ := takes
    cases c with
    | createSquid crawler name => exact absurd rfl (other crawler name)
    | updateSquid squid settings => exact edited squid _
    | emptySquid squid => exact edited squid _
    | addTasks squid tasks => exact edited squid _
    | setSquidActive squid active => exact edited squid _
    | deleteSquid squid =>
      show Function.update u.squids squid none id = none
      by_cases same : id = squid
      · rw [same, Function.update_self]
      · rw [Function.update_of_ne same, gone]
    | _ => exact gone
  cases writes : c.writes with
  | false => rw [Upstream.world_keeps writes step, gone]
  | true =>
    cases ans with
    | ok payload => exact taken ((Upstream.world_write writes).mp step)
    | error e =>
      rcases Upstream.world_error writes step with ⟨_, rfl, rfl⟩ | ⟨_, rfl, rfl | ⟨_, made, takes⟩⟩
      · exact gone
      · exact gone
      · exact taken takes

section Run
variable {reports : List Json → Json → Prop} {past : List (Event Call Answer Upstream)} {q q' : SquidPhase}
  {u t : Upstream} {c : Call} {ans : Answer c} {e : Event Call Answer Upstream}

theorem created_snoc {id : Json} : Created (past ++ [e]) id ↔ Created past id ∨ madeId e = some id := by
  simp [Created, or_and_right, exists_or]

theorem saveLost_append : SaveLost (past ++ [e]) ↔ SaveLost past ∨ losesSave e = true := by
  simp [SaveLost, or_and_right, exists_or]

theorem SquidInv.own_append (inv : SquidInv past q u)
    (mine : ∀ id, e.op = .deleteSquid id → Created past id ∧ ¬ SaveLost past) :
    ∀ first f rest id, past ++ [e] = first ++ f :: rest → f.op = .deleteSquid id →
      Created first id ∧ ¬ SaveLost first := by
  intro first f rest id split deletes
  rcases List.eq_nil_or_concat rest with rfl | ⟨rest, last, rfl⟩
  · obtain ⟨rfl, same⟩ := List.append_inj' split rfl
    obtain rfl := List.singleton_inj.mp same
    exact mine id deletes
  · rw [List.concat_eq_append, ← List.cons_append, ← List.append_assoc] at split
    obtain ⟨same, _⟩ := List.append_inj' split rfl
    exact inv.own first f rest id same deletes

theorem SquidInv.unlost (inv : SquidInv past q u) (sure : ∀ id, q ≠ .unsure id) : ¬ SaveLost past := by
  intro lost
  obtain ⟨id, unsure⟩ := inv.lost lost
  exact sure id unsure

/-- An operation that neither creates nor deletes, and whose answer is not the lost one of a save. -/
theorem SquidInv.quiet (inv : SquidInv past q u) (step : Upstream.world reports u e.op e.ans t)
    (creates : ∀ crawler name, e.op ≠ .createSquid crawler name) (unmade : madeId e = none)
    (deletes : ∀ id, e.op ≠ .deleteSquid id) (saves : losesSave e = false) : SquidInv (past ++ [e]) q t where
  settled := inv.settled
  created id created := by
    rw [created_snoc, unmade] at created
    rcases inv.created id (created.resolve_right fun absurd => by cases absurd) with
      made | unsure | ⟨gone, absent⟩
    · exact .inl made
    · exact .inr (.inl unsure)
    · exact .inr (.inr ⟨gone, squids_stay_gone step creates absent⟩)
  own := inv.own_append fun id absurd => (deletes id absurd).elim
  named id made := created_snoc.mpr (.inl (inv.named id made))
  lost lost := by
    rw [saveLost_append, saves] at lost
    exact inv.lost (lost.resolve_right Bool.false_ne_true)

/-- A creation comes first. -/
theorem SquidInv.create (inv : SquidInv past .start u) {crawler : Json} {name : Option String}
    {made : Answer (.createSquid crawler name)} (led : squidNext .start (.createSquid crawler name) made q') :
    SquidInv (past ++ [⟨u, .createSquid crawler name, made⟩]) q' t := by
  have new (id : Json) : ¬ Created past id := by
    intro before
    rcases inv.created id before with absurd | absurd | ⟨absurd, _⟩ <;> cases absurd
  have unlost : ¬ SaveLost (past ++ [⟨u, .createSquid crawler name, made⟩]) := by
    rw [saveLost_append]
    rintro (before | now)
    · exact inv.unlost (fun id absurd => by cases absurd) before
    · cases now
  cases made with
  | ok record =>
    obtain ⟨_, rfl⟩ := led
    constructor
    · exact fun absurd => by cases absurd
    · intro id created
      cases (created_snoc.mp created).resolve_left (new id)
      exact .inl rfl
    · exact inv.own_append fun id absurd => by cases absurd
    · rintro id ⟨⟩
      exact created_snoc.mpr (.inr rfl)
    · exact fun lost => (unlost lost).elim
  | error e =>
    obtain ⟨_, rfl⟩ := led
    constructor
    · exact inv.settled
    · intro id created
      cases (created_snoc.mp created).resolve_left (new id)
    · exact inv.own_append fun id absurd => by cases absurd
    · exact fun id absurd => by cases absurd
    · exact fun lost => (unlost lost).elim

/-- The squid that was made is deleted, or was not. -/
theorem SquidInv.delete {id : Json} (inv : SquidInv past (.made id) u) {done : Answer (.deleteSquid id)}
    (led : squidNext (.made id) (.deleteSquid id) done q')
    (step : Upstream.world reports u (.deleteSquid id) done t) :
    SquidInv (past ++ [⟨u, .deleteSquid id, done⟩]) q' t := by
  have unlost : ¬ SaveLost past := inv.unlost fun id absurd => by cases absurd
  have stays : ¬ SaveLost (past ++ [⟨u, .deleteSquid id, done⟩]) := by
    rw [saveLost_append]
    rintro (before | now)
    · exact unlost before
    · cases now
  have made (squid : Json) (created : Created (past ++ [⟨u, .deleteSquid id, done⟩]) squid) : squid = id := by
    rcases inv.created squid ((created_snoc.mp created).resolve_right fun absurd => by cases absurd) with
      same | absurd | ⟨absurd, _⟩
    · cases same
      rfl
    · cases absurd
    · cases absurd
  have own := inv.own_append (e := ⟨u, .deleteSquid id, done⟩) (by
    rintro squid ⟨⟩
    exact ⟨inv.named id rfl, unlost⟩)
  cases done with
  | ok payload =>
    obtain ⟨_, rfl⟩ := led
    constructor
    · exact fun absurd => by cases absurd
    · intro squid created
      obtain rfl := made squid created
      obtain ⟨_, rfl⟩ := (Upstream.world_write rfl).mp step
      exact .inr (.inr ⟨rfl, Function.update_self _ _ _⟩)
    · exact own
    · exact fun squid absurd => by cases absurd
    · exact fun lost => (stays lost).elim
  | error e =>
    obtain ⟨_, rfl⟩ := led
    constructor
    · exact inv.settled
    · intro squid created
      obtain rfl := made squid created
      exact .inl rfl
    · exact own
    · rintro squid ⟨⟩
      exact created_snoc.mpr (.inl (inv.named id rfl))
    · exact fun lost => (stays lost).elim

/-- The answer to the save is lost. -/
theorem SquidInv.lose {id squid : Json} {body : Fields} {failure : TransportError} (inv : SquidInv past (.made id) u) :
    SquidInv (past ++ [⟨u, .updateSquid squid body, .error (.transport failure)⟩]) (.unsure id) t := by
  constructor
  · exact fun absurd => by cases absurd
  · intro other created
    rcases inv.created other ((created_snoc.mp created).resolve_right fun absurd => by cases absurd) with
      same | absurd | ⟨absurd, _⟩
    · cases same
      exact .inr (.inl rfl)
    · cases absurd
    · cases absurd
  · exact inv.own_append fun id absurd => by cases absurd
  · exact fun other absurd => by cases absurd
  · exact fun _ => ⟨id, rfl⟩

theorem SquidInv.step (inv : SquidInv past q u) (led : squidNext q c ans q')
    (step : (Upstream.world reports).given storeFails u c ans t) : SquidInv (past ++ [⟨u, c, ans⟩]) q' t := by
  obtain ⟨documented, step⟩ := step
  cases c with
  | createSquid crawler name =>
    have first : q = .start := by cases ans <;> exact led.1
    subst first
    exact inv.create led
  | deleteSquid id =>
    have made : q = .made id := by cases ans <;> exact led.1
    subst made
    exact inv.delete led step
  | updateSquid squid settings =>
    have kept (same : q' = q) (answered : losesSave ⟨u, .updateSquid squid settings, ans⟩ = false) :
        SquidInv (past ++ [⟨u, .updateSquid squid settings, ans⟩]) q' t := by
      subst same
      exact inv.quiet step (fun _ _ absurd => by cases absurd) rfl (fun _ absurd => by cases absurd) answered
    cases ans with
    | ok payload => exact kept led.2 rfl
    | error e =>
      cases e with
      | transport failure =>
        obtain ⟨id, rfl, rfl⟩ := led
        exact inv.lose
      | _ => exact kept led.2 rfl
  | idemPut key runId ttl =>
    have kept (same : q' = q) : SquidInv (past ++ [⟨u, .idemPut key runId ttl, ans⟩]) q' t := by
      subst same
      exact inv.quiet step (fun _ _ absurd => by cases absurd) rfl (fun _ absurd => by cases absurd) rfl
    cases ans with
    | ok _ => exact kept led
    | error e =>
      cases e with
      | api _ => exact documented.elim
      | transport _ => exact documented.elim
      | _ => exact kept led
  | _ =>
    obtain rfl : q' = q := led
    exact inv.quiet step (fun _ _ absurd => by cases absurd) rfl (fun _ absurd => by cases absurd) rfl

/-- No call leaves behind a squid of its own that it does not name: from the answered creation on its
replies carry the id, one that says the squid was deleted is right, and it deletes nothing but that
squid, and not after the answer to the save was lost. -/
theorem no_unnamed_orphan {p : Program Call Answer Exc Fields} (maker : SquidMaker p) {tr : List (Event Call Answer Upstream)}
    {r : Except Exc Fields} {id : Json}
    (run : Exec ((Upstream.world reports).given storeFails) p u tr r t) :
    (Created tr id → ∀ reply, r = .ok reply → Dict.get? reply "squid_id" = some id ∧
      (Dict.get? reply "deleted" = some (.bool true) → t.squids id = none)) ∧
    ∀ first e rest squid, tr = first ++ e :: rest → e.op = .deleteSquid squid →
      Created first squid ∧ ¬ SaveLost first := by
  have start : SquidInv [] .start u := by
    constructor
    · exact fun absurd => by cases absurd
    · rintro squid ⟨_, member, _⟩
      cases member
    · intro first e rest squid split
      simp at split
    · exact fun squid absurd => by cases absurd
    · rintro ⟨_, member, _⟩
      cases member
  obtain ⟨q, inv, ends⟩ := run.follows maker.follows start fun inv led step => inv.step led step
  rw [List.nil_append] at inv
  refine ⟨fun created reply replied => ?_, inv.own⟩
  have told := ends reply replied
  rcases inv.created id created with rfl | rfl | ⟨rfl, absent⟩
  · exact ⟨told.1, fun deleted => (told.2 deleted).elim⟩
  · exact ⟨told.1, fun deleted => (told.2 deleted).elim⟩
  · exact ⟨told, fun _ => absent⟩

end Run

/-! ### A squid whose configuration is rejected -/

def badConcurrency : Exc := .api (ApiError.make 400 (some "InvalidParam") none)

theorem may_reject_config :
    May plainWorld (createSquidImpl plainSession.lower plainCrawlerId none [] (some 0)) noSquids fun tr r _ =>
      Created tr (.str "squid") ∧ ∃ reply, r = .ok reply ∧ Dict.get? reply "deleted" = some (.bool true) := by
  refine may_structured ?_
  unfold createSquidBody
  refine may_bind_of_exec (exec_resolveCrawlerId _ (by decide)) ?_
  refine may_bind_of_exec (exec_pure.mpr ⟨rfl, rfl, rfl⟩) ?_
  refine may_send [("id", .str "squid")] ⟨trivial, rfl, rfl⟩ ?_
  unfold saveConfig
  dsimp only
  rw [if_neg (by decide), Program.bind_assoc]
  refine may_request (.error badConcurrency) ⟨trivial, rfl⟩ ?_
  unfold configRejected
  simp only [badConcurrency, Program.bind_assoc]
  refine may_request (.ok .null) ⟨trivial, trivial, rfl⟩ (may_raise.mpr ⟨?_, _, rfl, rfl⟩)
  exact ⟨_, List.mem_cons_self, rfl⟩

/-- The reply that says so names the squid, which is gone. -/
theorem a_rejected_squid_is_named :
    May plainWorld (createSquidImpl plainSession.lower plainCrawlerId none [] (some 0)) noSquids fun _ r t =>
      ∃ reply, r = .ok reply ∧ Dict.get? reply "squid_id" = some (.str "squid") ∧ t.squids (.str "squid") = none := by
  obtain ⟨tr, r, t, run, created, reply, replied, deleted⟩ := may_reject_config
  obtain ⟨named, gone⟩ := (no_unnamed_orphan (.createSquid _ _ _ _ _) run).1 created reply replied
  exact ⟨tr, r, t, run, reply, replied, named, gone deleted⟩

end LobstrMcp
