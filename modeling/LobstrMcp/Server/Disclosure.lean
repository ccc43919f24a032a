import LobstrMcp.Server.PublicView

/-!
What the API tells the server in confidence: the fields of a platform account that no tool uses, its
cookies among them, and the secrets of a squid's delivery settings. Every tool is the same program when
the API leaves them out of its answers, so nothing of them can reach a caller, whatever it asks for.
-/

namespace LobstrMcp
open Interaction

/-! ### Rules -/

/-- A request whose answer holds nothing in confidence. -/
def Call.Open (c : Call) : Prop :=
  match c with
  | .getAccount _ | .listAccounts _ _ _ _ | .getSquid _ | .createSquid _ _ | .updateSquid _ _ | .listSquids
  | .pageSquids _ _ _ => False
  | _ => True

theorem discreet_open {c : Call} (whole : c.Open) (ans : Answer c) : discreet c ans = ans := by
  cases c <;> first | rfl | exact whole.elim

section Rules
variable {α β : Type}

theorem blind_open {ε : Type} {p : Program Call Answer ε α} (uses : p.Uses Call.Open) : p.Blind discreet :=
  Program.blind_of_uses uses fun _ whole ans => discreet_open whole ans

theorem send_discreet {c : Call} {f : c.Resp → c.Resp} (filtered : ∀ ans, discreet c ans = ans.map f) :
    (Tool.send c).through discreet = Tool.send c >>= fun v => pure (f v) := by
  refine congrArg (Program.call c) (funext fun ans => ?_)
  rw [filtered ans]
  cases ans <;> rfl

/-- A read whose record the rest looks at in public only. -/
theorem blind_send {c : Call} {f : c.Resp → c.Resp} {g : c.Resp → Tool β} (filtered : ∀ ans, discreet c ans = ans.map f)
    (rest : ∀ v, (g (f v)).through discreet = g v) : (Tool.send c >>= g).Blind discreet :=
  Program.blind_bind_of (send_discreet filtered) rest

/-- A request of which only the failure is looked at. -/
theorem blind_request {c : Call} {f : c.Resp → c.Resp} {g : Answer c → Tool β}
    (filtered : ∀ ans, discreet c ans = ans.map f) (failed : ∀ e, (g (.error e)).Blind discreet)
    (rest : ∀ v, (g (.ok (f v))).through discreet = g (.ok v)) : (Tool.request c >>= g).Blind discreet := by
  refine Program.blind_ask_bind fun ans => ?_
  rw [filtered ans]
  cases ans with
  | error e => exact failed e
  | ok v => exact rest v

theorem blind_structured {verify : Option String} {body : Tool Fields} (blind : body.Blind discreet) :
    (structured verify body).Blind discreet :=
  Program.blind_bind (Program.blind_attempt blind) fun _ => Program.through_ofExcept _

end Rules

/-! ### Accounts -/

section Tools
variable {now : Int} {accountType : Json}

/-- The account that is found is a public one. -/
theorem pickOrExplain_discreet : (pickOrExplain now accountType).through discreet =
    pickOrExplain now accountType >>= fun found => pure (found.map publicAccount) := by
  unfold pickOrExplain findCandidates listAccounts Tool.send Tool.request
  simp only [Program.bind_assoc]
  refine congrArg (Program.call _) (funext fun ans => ?_)
  cases ans with
  | error e => rfl
  | ok payload =>
    have usable := usable_public accountType payload
    have unlocked := filter_public (fun a => !isLocked now a) (fun a => by rw [isLocked_public])
    have locked := filter_public (isLocked now) fun a => isLocked_public
    refine congrArg Program.pure ?_
    show explainPick accountType (List.filter _ (List.filterMap _ (rowsOf (onListing publicAccount payload))))
      (List.filter _ (List.filterMap _ (rowsOf (onListing publicAccount payload)))) = _
    rw [usable, unlocked, locked, explainPick_public]

theorem resolveAccount_discreet (accountId : String) : (resolveAccount accountId accountType).through discreet =
    resolveAccount accountId accountType >>= fun found => pure (found.map publicAccount) := by
  unfold resolveAccount Tool.request
  dsimp only
  rw [Program.through_ask_bind, Program.bind_assoc]
  refine congrArg (Program.ask _ >>= ·) (funext fun ans => ?_)
  cases ans with
  | error e => cases e <;> rfl
  | ok payload =>
    dsimp only [discreet, Except.map]
    rw [accountOf_public]
    cases accountOf payload with
    | obj account =>
      simp (disch := decide) only [onObject, get_publicAccount]
      split
      · rfl
      · split <;> rfl
    | _ => rfl

theorem item_public {account : Fields} {key : String} (used : key ∈ accountFields) :
    item (publicAccount account) key = item account key := by
  unfold item
  rw [get?_publicAccount key used]

theorem item_blind (d : Fields) (key : String) : (item d key).Blind discreet := by
  unfold item
  split <;> rfl

theorem findAttachment_blind (s : Session) (squidId : String) (accountId : Option String) (current : List String) :
    (findAttachment s squidId accountId accountType current).Blind discreet := by
  unfold findAttachment
  cases accountId with
  | none =>
    dsimp only
    split
    · rfl
    · refine Program.blind_bind_of pickOrExplain_discreet fun found => ?_
      cases found with
      | error e => rfl
      | ok account =>
        simp (disch := decide) only [Except.map, item_public, get_publicAccount]
        exact Program.blind_bind (item_blind _ _) fun _ => rfl
  | some accountId =>
    refine Program.blind_bind_of (resolveAccount_discreet accountId) fun found => ?_
    cases found with
    | error e => rfl
    | ok account =>
      simp (disch := decide) only [Except.map, get_publicAccount, accountHealthNote_public]
      rfl

theorem chooseAccount_blind (s : Session) (args : RunArgs) (target : Target) :
    (chooseAccount s args target).Blind discreet := by
  unfold chooseAccount
  dsimp only
  split
  · rfl
  split
  · split <;> rfl
  split
  · refine Program.blind_bind_of (resolveAccount_discreet _) fun found => ?_
    cases found with
    | error e => rfl
    | ok account =>
      simp (disch := decide) only [Except.map, item_public, accountHealthNote_public]
      exact Program.blind_bind (item_blind _ _) fun _ => rfl
  · split
    · refine Program.blind_bind_of pickOrExplain_discreet fun found => ?_
      cases found with
      | error e => rfl
      | ok account =>
        simp (disch := decide) only [Except.map, item_public]
        exact Program.blind_bind (item_blind _ _) fun _ => rfl
    · rfl

theorem getAccountImpl_blind (accountId : String) : (getAccountImpl now accountId).Blind discreet := by
  refine blind_structured (blind_send (f := onAccount) (fun _ => rfl) fun payload => ?_)
  refine congrArg Program.pure ?_
  unfold accountReply
  rw [accountOf_public]
  cases accountOf payload with
  | obj account =>
    have used : usedBy (publicAccount account) = usedBy account := by
      unfold usedBy
      rw [get_publicAccount _ (by decide)]
    simp only [onObject, Json.asObj?, Option.getD_some, used, accountView_public]
  | _ => rfl

end Tools

/-! ### Squids -/

section Squids
variable {lower : String → String}

theorem getMyScraperImpl_blind (squidId : String) : (getMyScraperImpl squidId).Blind discreet :=
  blind_structured (blind_send (f := publicSquid) (fun _ => rfl) fun _ => congrArg Program.pure squidView_public)

theorem listMyScrapersImpl_blind (name crawler : Option String) (page pageSize : Int) :
    (listMyScrapersImpl lower name crawler page pageSize).Blind discreet := by
  refine blind_structured ?_
  unfold listMyScrapers
  split
  · refine Program.blind_bind (blind_open (uses_resolveCrawlerId _ _ trivial)) fun crawlerId => ?_
    refine blind_send (f := List.map publicSquid) (fun _ => rfl) fun squids => ?_
    rw [matchedSquids_public]
    cases matchedSquids lower crawlerId _ name squids with
    | none => rfl
    | some matched =>
      simp only [Option.map_some, filteredPage_public, Program.through_ofExcept]
  · refine blind_send (f := onListing publicSquid) (fun _ => rfl) fun env => ?_
    rw [servedPage_public]
    cases servedPage env page <;> rfl

theorem verificationNoteOf_blind (squidId : String) : (verificationNoteOf squidId).Blind discreet := by
  refine blind_request (f := publicSquid) (fun _ => rfl) (fun _ => rfl) fun squid => ?_
  dsimp only
  rw [get_publicSquid "crawler" (by decide), get_publicSquid "auto_verify_emails" (by decide)]
  split
  · rfl
  · refine blind_open (Program.uses_bind ((uses_request (.getCrawler _)).mpr trivial) fun read => ?_)
    cases read <;> trivial

theorem accountLimitOut_blind (squidId : Json) : (accountLimitOut squidId).Blind discreet := by
  unfold accountLimitOut
  dsimp only
  split
  · refine blind_request (f := publicSquid) (fun _ => rfl) (fun e => ?_) fun squid => ?_
    · cases e <;> rfl
    · dsimp only
      rw [get_publicSquid _ (by decide)]
      rfl
  · rfl

theorem getRunImpl_blind (runId : String) (full : Bool) : (getRunImpl lower runId full).Blind discreet := by
  refine blind_structured ?_
  unfold getRunBody
  refine Program.blind_bind (blind_open ((uses_send _).mpr trivial)) fun stats => ?_
  refine Program.blind_bind (blind_open (uses_readDetail runId trivial)) fun detail => ?_
  have told (out : Fields) : (if full = true then creditsBreakdown runId (Dict.set out "stats" (.obj stats))
      else pure out).Blind discreet := by
    split
    · exact blind_open (uses_creditsBreakdown runId _ trivial)
    · rfl
  dsimp only
  split
  · exact Program.blind_bind (accountLimitOut_blind _) fun limit => told _
  · exact told _

theorem attachAccountImpl_blind (s : Session) (squidId : String) (accountId : Option String) :
    (attachAccountImpl s squidId accountId).Blind discreet := by
  refine blind_structured (blind_send (f := publicSquid) (fun _ => rfl) fun squid => ?_)
  have crawler : crawlerOf (publicSquid squid) = crawlerOf squid := by
    unfold crawlerOf
    rw [get_publicSquid _ (by decide)]
  rw [crawler, squidAccountIds_public]
  refine Program.blind_bind (blind_open (uses_crawlerOf _ fun _ => trivial)) fun crawler => ?_
  dsimp only
  split
  · rfl
  split
  · rfl
  · refine Program.blind_bind (findAttachment_blind s squidId accountId _) fun found => ?_
    split
    · rfl
    · exact blind_send (f := onObject publicSquid) (fun _ => rfl) fun _ => rfl

/-- The squid that is found is a public one. -/
theorem squidAndWireNames_discreet (squidId : String) : (squidAndWireNames squidId).through discreet =
    squidAndWireNames squidId >>= fun found => pure (found.1, publicSquid found.2) := by
  unfold squidAndWireNames Tool.request
  rw [Program.through_ask_bind, Program.bind_assoc]
  refine congrArg (Program.ask _ >>= ·) (funext fun ans => ?_)
  cases ans with
  | error e => rfl
  | ok squid =>
    dsimp only [discreet, Except.map]
    rw [get_publicSquid "crawler" (by decide)]
    split
    · rfl
    · have schema : (translatedSchema (Fields.get squid "crawler")).through discreet = translatedSchema
        (Fields.get squid "crawler") :=
        blind_open (uses_translatedSchema _ trivial trivial)
      rw [Program.through_bind, schema, Program.bind_assoc]
      refine congrArg (translatedSchema _ >>= ·) (funext fun found => ?_)
      cases found <;> rfl

theorem addTasksImpl_blind (squidId : String) (tasks : List Json) : (addTasksImpl squidId tasks).Blind discreet := by
  refine blind_structured ?_
  unfold addTasksBody
  split
  · rfl
  · refine Program.blind_bind_of (squidAndWireNames_discreet squidId) fun found => ?_
    exact blind_open (Program.uses_bind ((uses_send (.addTasks _ _)).mpr trivial) fun _ => trivial)

theorem updateScraperImpl_blind (squidId : String) (name : Option String) (config : Fields) (concurrency : Option Int) :
    (updateScraperImpl squidId name config concurrency).Blind discreet := by
  refine blind_structured ?_
  unfold updateScraper
  dsimp only
  split
  · rfl
  · refine Program.blind_bind_of (squidAndWireNames_discreet squidId) fun found => ?_
    have body : updateScraperBody squidId name (Dict.erase config "concurrency")
      (effectiveConcurrency concurrency config)
        found.1 (publicSquid found.2) = updateScraperBody squidId name (Dict.erase config "concurrency")
          (effectiveConcurrency concurrency config) found.1 found.2 := by
      unfold updateScraperBody
      rw [effectiveSettings_public, get_publicSquid "name" (by decide), get_publicSquid "crawler" (by decide)]
    obtain ⟨wireNames, squid⟩ := found
    dsimp only at body ⊢
    rw [body]
    refine blind_send (f := onObject publicSquid) (fun _ => rfl) fun updated => ?_
    cases updated with
    | obj updated =>
      simp (disch := decide) only [onObject, Json.asObj?, Option.getD_some, get?_publicSquid]
      rfl
    | _ => rfl

theorem saveConfig_blind (squidId crawlerId : Json) (body : Fields) :
    (saveConfig squidId crawlerId body).Blind discreet := by
  refine blind_request (f := onObject publicSquid) (fun _ => rfl) (fun e => ?_) fun _ => rfl
  cases e with
  | api rejection =>
    refine blind_open (Program.uses_bind ?_ fun _ => trivial)
    refine Program.uses_bind ((uses_request (.deleteSquid _)).mpr trivial) fun deleted => ?_
    cases deleted <;> trivial
  | _ => rfl

theorem createSquidImpl_blind (lower : String → String) (scraper : String) (name : Option String) (config : Fields)
    (concurrency : Option Int) :
    (createSquidImpl lower scraper name config concurrency).Blind discreet := by
  refine blind_structured ?_
  unfold createSquidBody
  refine Program.blind_bind (blind_open (uses_resolveCrawlerId _ _ trivial)) fun crawlerId => ?_
  refine Program.blind_bind (blind_open (uses_configCheck _ _ trivial trivial)) fun cfg => ?_
  refine blind_send (f := publicSquid) (fun _ => rfl) fun squid => ?_
  rw [get_publicSquid "id" (by decide), get_publicSquid "name" (by decide)]
  dsimp only
  split
  · rfl
  · exact Program.blind_bind (saveConfig_blind _ _ _) fun _ => Program.blind_pure _

end Squids
/-! ### run_scraper -/

def Target.inPublic (target : Target) : Target := { target with squid := publicSquid target.squid }

def RunPlan.inPublic (plan : RunPlan) : RunPlan := { plan with target := plan.target.inPublic }

section Plan
variable {s : Session} {plan : RunPlan}

theorem effective_inPublic : plan.inPublic.effective = plan.effective := effectiveSettings_public _

theorem estimate_inPublic : plan.inPublic.estimate = plan.estimate := by
  unfold RunPlan.estimate
  rw [effective_inPublic]
  rfl

theorem verificationNote_inPublic : plan.inPublic.verificationNote = plan.verificationNote := by
  have verifies : Fields.get plan.inPublic.target.squid "auto_verify_emails" =
      Fields.get plan.target.squid "auto_verify_emails" := get_publicSquid _ (by decide)
  unfold RunPlan.verificationNote
  rw [verifies]
  rfl

theorem updateBody_inPublic : plan.inPublic.updateBody = plan.updateBody := by
  have name : Fields.get plan.inPublic.target.squid "name" = Fields.get plan.target.squid "name" :=
    get_publicSquid _ (by decide)
  unfold RunPlan.updateBody
  rw [effective_inPublic, name]
  rfl

theorem confirmationReply_inPublic : confirmationReply s plan.inPublic = confirmationReply s plan := by
  unfold confirmationReply
  rw [estimate_inPublic, verificationNote_inPublic]
  rfl

theorem readFunds_inPublic : readFunds plan.inPublic = readFunds plan := by
  unfold readFunds
  rw [estimate_inPublic]
  rfl

theorem saveInput_inPublic (squidId : Json) (existing : Option Nat) :
    saveInput plan.inPublic squidId existing = saveInput plan squidId existing := by
  unfold saveInput
  rw [updateBody_inPublic]
  rfl

theorem replaceInput_inPublic (squidId : Json) : replaceInput plan.inPublic squidId = replaceInput plan squidId := by
  unfold replaceInput
  rw [updateBody_inPublic]
  rfl

theorem writeReused_inPublic : writeReused plan.inPublic = writeReused plan := by
  have id : item plan.inPublic.target.squid "id" = item plan.target.squid "id" := by
    unfold item
    rw [show Dict.get? plan.inPublic.target.squid "id" =
      Dict.get? plan.target.squid "id" from get?_publicSquid _ (by decide)]
  have add (squidId : Json) : addInput plan.inPublic squidId = addInput plan squidId := by
    unfold addInput
    simp only [saveInput_inPublic]
    rfl
  unfold writeReused
  simp only [id, add, replaceInput_inPublic]
  rfl

theorem writeNew_inPublic : writeNew plan.inPublic = writeNew plan := by
  unfold writeNew
  -- the type of an answer mentions the request, and so the plan: the two agree answer by answer
  refine congrArg _ (funext fun squid => congrArg _ (funext fun squidId => congrArg _ (funext fun saved => ?_)))
  cases saved with
  | error e => rfl
  | ok _ =>
    refine congrArg (Tool.request (.addTasks squidId [.obj plan.taskParams]) >>= ·) (funext fun added => ?_)
    cases added <;> rfl

theorem writeInput_inPublic : writeInput plan.inPublic = writeInput plan := by
  unfold writeInput
  rw [writeReused_inPublic, writeNew_inPublic]
  rfl

theorem startAndReport_inPublic (funds : Funds) (w : Written) :
    startAndReport plan.inPublic funds w = startAndReport plan funds w := by
  have facts : runFacts plan.inPublic w = runFacts plan w := by
    unfold runFacts
    rw [estimate_inPublic, verificationNote_inPublic]
    rfl
  have report (run : Fields) (runId : Json) :
      runReport plan.inPublic funds w run runId = runReport plan funds w run runId := by
    unfold runReport
    rw [estimate_inPublic, verificationNote_inPublic]
    rfl
  have failed (e : Exc) : startFailed plan.inPublic funds w e = startFailed plan funds w e := by
    unfold startFailed
    rw [facts]
    rfl
  unfold startAndReport
  refine congrArg (Tool.request (.startRun w.squidId) >>= ·) (funext fun started => ?_)
  unfold afterStart
  simp only [failed, report]
  rfl

/-- The second half makes of the squid what it makes of the public one. -/
theorem commitRun_inPublic : commitRun s plan.inPublic = commitRun s plan := by
  unfold commitRun
  simp only [confirmationReply_inPublic, readFunds_inPublic, writeInput_inPublic, startAndReport_inPublic,
    estimate_inPublic]
  rfl

/-! The reads and the writes. -/

theorem readTarget_discreet (s : Session) (args : RunArgs) :
    (readTarget s args).through discreet = readTarget s args >>= fun target => pure target.inPublic := by
  have squid : (readSquid args).through discreet = readSquid args >>= fun squid => pure (publicSquid squid) := by
    unfold readSquid
    split
    · exact send_discreet fun _ => rfl
    · rfl
  unfold readTarget
  rw [Program.through_bind, squid, Program.bind_assoc, Program.bind_assoc]
  refine congrArg (readSquid args >>= ·) (funext fun squid => ?_)
  rw [Program.pure_bind, get_publicSquid _ (by decide)]
  simp only [Program.bind_assoc, Program.pure_bind]
  refine blind_open (Program.uses_bind (uses_resolveCrawlerId _ _ trivial) fun scraper => ?_)
  refine Program.uses_bind ((uses_send (.getCrawler _)).mpr trivial) fun crawler => ?_
  exact Program.uses_bind (uses_readCrawlerParams _ trivial) fun _ => trivial

theorem chooseAccount_inPublic (args : RunArgs) (target : Target) :
    chooseAccount s args target.inPublic = chooseAccount s args target := by
  have attached : squidAccountIds target.inPublic.squid = squidAccountIds target.squid := squidAccountIds_public
  unfold chooseAccount
  rw [attached]
  rfl

theorem prepareRun_discreet (args : RunArgs) :
    (prepareRun s args).through discreet = prepareRun s args >>= fun plan => pure plan.inPublic := by
  unfold prepareRun
  split
  · rfl
  rw [Program.through_bind, readTarget_discreet, Program.bind_assoc, Program.bind_assoc]
  refine congrArg (readTarget s args >>= ·) (funext fun target => ?_)
  rw [Program.pure_bind]
  have errors : inputErrors args target.inPublic.translated = inputErrors args target.translated := rfl
  dsimp only
  rw [errors, chooseAccount_inPublic]
  split
  · rfl
  have looked (key : String) : (lookUpRun key).through discreet = lookUpRun key := blind_open
    (uses_lookUpRun key trivial)
  have rows : (readRows args).through discreet = readRows args := blind_open (uses_readRows args fun _ => trivial)
  have chosen : (chooseAccount s args target).through discreet = chooseAccount s args target :=
    chooseAccount_blind s args target
  simp only [Program.through_bind, looked, rows, chosen, Program.bind_assoc, Program.pure_bind, Program.through_pure]
  rfl

theorem saveInput_blind (squidId : Json) (existing : Option Nat) :
    (saveInput plan squidId existing).Blind discreet := by
  refine Program.blind_bind ?_ fun failure => ?_
  · refine blind_request (f := onObject publicSquid) (fun _ => rfl) (fun e => ?_) fun _ => ?_
    · exact blind_open (Program.uses_bind (uses_stepFailed e _) fun _ => trivial)
    · dsimp only
      split
      · rfl
      · refine blind_open (Program.uses_bind ((uses_request (.addTasks _ _)).mpr trivial) fun added => ?_)
        cases added with
        | error e => exact Program.uses_bind (uses_stepFailed e _) fun _ => trivial
        | ok _ => trivial
  · cases failure with
    | some failure => rfl
    | none => dsimp only; split <;> rfl

theorem replaceInput_blind (squidId : Json) : (replaceInput plan squidId).Blind discreet := by
  refine Program.blind_bind ?_ fun replaced => ?_
  · refine blind_request (f := onObject publicSquid) (fun _ => rfl) (fun e => ?_) fun _ => ?_
    · exact Program.blind_bind (by cases e <;> rfl) fun _ => Program.blind_pure _
    · exact blind_open (uses_swapRows trivial fun _ => trivial)
  · obtain ⟨failure, count⟩ := replaced
    cases failure <;> rfl

theorem writeReused_blind : (writeReused plan).Blind discreet := by
  unfold writeReused
  refine Program.blind_bind (item_blind _ _) fun squidId => ?_
  split
  · refine Program.blind_bind ?_ fun _ => Program.blind_pure _
    unfold saveAccounts
    split
    · rfl
    · exact blind_send (f := onObject publicSquid) (fun _ => rfl) fun _ => rfl
  split
  · exact replaceInput_blind squidId
  · unfold addInput
    split
    · split
      · rfl
      · exact saveInput_blind squidId none
    · split
      · rfl
      · exact saveInput_blind squidId _

theorem newSquidFailed_blind (squidId scraper : Json) (e : Exc) : (newSquidFailed squidId scraper e).Blind discreet :=
  blind_open (uses_newSquidFailed trivial)

theorem writeNew_blind : (writeNew plan).Blind discreet := by
  refine blind_send (f := publicSquid) (fun _ => rfl) fun squid => ?_
  rw [show item (publicSquid squid) "id" = item squid "id" by
    unfold item
    rw [get?_publicSquid _ (by decide)], get_publicSquid _ (by decide)]
  refine Program.blind_bind (item_blind _ _) fun squidId => ?_
  refine blind_request (f := onObject publicSquid) (fun _ => rfl) (newSquidFailed_blind squidId _) fun _ => ?_
  refine blind_open (Program.uses_bind ((uses_request (.addTasks _ _)).mpr trivial) fun added => ?_)
  cases added with
  | error e => exact uses_newSquidFailed trivial
  | ok _ => trivial

theorem commitRun_blind : (commitRun s plan).Blind discreet := by
  unfold commitRun
  split
  · rfl
  have funds : (readFunds plan).Uses Call.Open := Program.uses_bind
    ((uses_send .getBalance).mpr trivial) fun _ => trivial
  refine Program.blind_bind (blind_open funds) fun funds => ?_
  refine Program.blind_bind ?_ fun w => ?_
  · unfold writeInput
    split
    · exact writeReused_blind
    · exact writeNew_blind
  · refine blind_open (Program.uses_bind ((uses_request (.startRun _)).mpr trivial) fun started => ?_)
    exact uses_afterStart plan funds w started (fun _ => trivial) fun _ _ _ _ => trivial

theorem runScraperImpl_blind (args : RunArgs) : (runScraperImpl s args).Blind discreet := by
  refine blind_structured ?_
  unfold Program.Blind
  rw [Program.through_bind, prepareRun_discreet, Program.bind_assoc]
  refine congrArg (prepareRun s args >>= ·) (funext fun plan => ?_)
  rw [Program.pure_bind, commitRun_inPublic]
  exact commitRun_blind

end Plan
/-! ### The server -/

/-- What the server does whose answer holds nothing in confidence. -/
def ServerCall.Open (op : ServerCall) : Prop :=
  match op with
  | .call c => c.Open
  | .read (.pageAccounts _ _) => False
  | _ => True

theorem discreetly_open {op : ServerCall} (whole : op.Open) (ans : ServerCall.Ans op) : discreetly op ans = ans := by
  cases op with
  | call c => exact discreet_open whole ans
  | read r => cases r <;> first | rfl | exact whole.elim
  | _ => rfl

section Server
variable {ε α : Type} {lower : String → String}

theorem blind_served {p : Program ServerCall ServerCall.Ans ε α} (uses : p.Uses ServerCall.Open) : p.Blind discreetly :=
  Program.blind_of_uses uses fun _ whole ans => discreetly_open whole ans

theorem blind_onServer {p : Program Call Answer ε α} (blind : p.Blind discreet) : (onServer p).Blind discreetly :=
  (Program.through_handle (f := discreet) (fun _ => rfl) p).trans (congrArg onServer blind)

theorem blind_always {p : Program ServerCall ServerCall.Ans ε Fields} (blind : p.Blind discreetly) :
    (always p).Blind discreetly := Program.blind_bind blind fun _ => Program.blind_pure _

theorem blind_structured_served {verify : Option String} {body : Served Fields} (blind : body.Blind discreetly) :
    (structured verify body).Blind discreetly :=
  Program.blind_bind (Program.blind_attempt blind) fun _ => Program.through_ofExcept _

theorem listAccountsImpl_blind (now : Int) (platform : Option String) (limit page : Int) :
    (listAccountsImpl lower now platform limit page).Blind discreetly := by
  refine blind_structured_served ?_
  unfold pageAccounts Served.fetch
  rw [Program.bind_assoc]
  refine Program.blind_ask_bind fun ans => ?_
  cases ans with
  | error e => rfl
  | ok payload =>
    simp only [discreetly, Except.map, Program.pure_bind, accountsReply_public]
    cases accountsReply lower now platform payload <;> rfl

theorem estimateRunImpl_blind (squidId : String) : (estimateRunImpl squidId).Blind discreetly := by
  refine blind_structured_served ?_
  refine Program.blind_bind (blind_served ((uses_fetch _).mpr trivial)) fun est => ?_
  refine Program.blind_bind (blind_onServer (verificationNoteOf_blind squidId)) fun note => ?_
  cases note <;> rfl

section Body
variable {K : Type} [ScoreField K] (host : Host K)

omit [ScoreField K] in
theorem pollOnServer_blind (runId : String) (op : Polling) : (pollOnServer host runId op).Blind discreetly := by
  cases op with
  | poll => exact blind_onServer (Program.blind_attempt (getRunImpl_blind runId false))
  | _ => rfl

/-- Every tool does without what is left out. -/
theorem body_blind (s : Session) (granted : List String → Bool) (call : ToolCall) :
    (call.body host s granted).Blind discreetly := by
  cases call with
  | searchScrapers query full _ =>
    exact blind_always (blind_onServer (blind_open (uses_searchScrapersImpl query full trivial)))
  | getScraperDetails scraper full =>
    exact blind_always (blind_served (uses_getScraperDetailsImpl scraper full trivial
      (fun _ => trivial) fun _ => trivial))
  | listMyScrapers name crawler page pageSize _ =>
    exact blind_always (blind_onServer (listMyScrapersImpl_blind name crawler page pageSize))
  | getMyScraper squidId => exact blind_always (blind_onServer (getMyScraperImpl_blind squidId))
  | emptyScraper squidId =>
    refine blind_always (blind_onServer (blind_structured (blind_open ?_)))
    exact Program.uses_bind ((uses_send (.emptySquid _)).mpr trivial) fun _ => trivial
  | deactivateScraper squidId =>
    refine blind_always (blind_onServer (blind_structured (blind_open ?_)))
    exact Program.uses_bind ((uses_send (.setSquidActive _ _)).mpr trivial) fun _ => trivial
  | runScraper args => exact blind_always (blind_onServer (runScraperImpl_blind args))
  | getRun runId full _ => exact blind_always (blind_onServer (getRunImpl_blind runId full))
  | waitForRun runId timeoutSeconds _ => exact Program.blind_handle (pollOnServer_blind host runId) _
  | getResults args _ =>
    exact blind_always (blind_served (uses_getResultsImpl _ _ (fun _ => trivial) (fun _ _ => trivial)
      fun _ _ _ _ => trivial))
  | listRuns squidId limit _ => exact blind_always (blind_served (uses_listRunsImpl squidId limit trivial))
  | getResultsUrl runId format =>
    exact blind_always (blind_served (uses_getResultsUrlImpl runId format fun _ => trivial))
  | abortRun runId =>
    refine blind_always (blind_onServer (blind_structured (blind_open ?_)))
    exact Program.uses_bind ((uses_send (.abortRun _)).mpr trivial) fun _ => trivial
  | createSquid scraper name config concurrency =>
    exact blind_always (blind_onServer (createSquidImpl_blind host.lower scraper name config concurrency))
  | addTasks squidId tasks => exact blind_always (blind_onServer (addTasksImpl_blind squidId tasks))
  | updateScraper squidId name config concurrency =>
    exact blind_always (blind_onServer (updateScraperImpl_blind squidId name config concurrency))
  | estimateRun squidId _ => exact blind_always (estimateRunImpl_blind squidId)
  | checkCredits _ => exact blind_always (blind_onServer (blind_open (uses_checkCreditsImpl _ trivial)))
  | whoami => exact blind_always (blind_served (uses_whoamiImpl _ trivial))
  | listAccounts platform limit page _ => exact blind_always (listAccountsImpl_blind _ platform limit page)
  | getAccount accountId => exact blind_always (blind_onServer (getAccountImpl_blind accountId))
  | attachAccount squidId accountId => exact blind_always (blind_onServer (attachAccountImpl_blind s squidId accountId))

theorem serve_blind (now : Int) (access : Option AccessToken) (call : ToolCall) :
    (serve host now access call).Blind discreetly := by
  rcases serve_cases host now access call with ⟨e, refused⟩ | ⟨a, -, -, -, served⟩
  · rw [refused]
    rfl
  · rw [served]
    exact Program.blind_bind (Program.blind_mapError (body_blind host _ _ call) _) fun _ => Program.blind_pure _

/-- What the API tells in confidence stays with the server. Were it left out of the answers, every call
would end in the same way, make the same requests and leave the same behind. -/
theorem confidences_are_kept {σ : Type} (m : Machine ServerCall ServerCall.Ans σ) (st : σ) (now : Int)
    (access : Option AccessToken) (call : ToolCall) :
    (serve host now access call).run m st = (serve host now access call).run (m.through discreetly) st ∧
      ((serve host now access call).trace m st).map Event.op =
        ((serve host now access call).trace (m.through discreetly) st).map Event.op :=
  (serve_blind host now access call).run st

end Body
end Server
end LobstrMcp
