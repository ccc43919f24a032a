import LobstrMcp.Run.Writes

/-!
The plainest way through a call: a squid of the caller's that names its crawler and has its
account, every read answered. The plan it comes to is given in closed form, so that what a call
may do can be shown by following one.
-/

namespace LobstrMcp
open Interaction Tool

/-- A squid that names its crawler by id and has accounts. -/
structure Settled (record : Fields) (crawlerId : String) (accounts : List String) : Prop where
  crawler : Fields.get record "crawler" = .str crawlerId
  isId : isCrawlerId crawlerId = true
  ids : squidAccountIds record = some accounts
  attached : accounts ≠ []

/-- A call that reuses the squid `name` and leaves its crawler and account to the squid. -/
structure LeavesToSquid (args : RunArgs) (name : String) : Prop where
  squid : args.squidId = some name
  named : name ≠ ""
  scraper : args.scraper = none
  account : args.accountId = none

namespace LeavesToSquid
variable {args : RunArgs} {name : String}

theorem reused (h : LeavesToSquid args name) : args.reused = some name := by
  simp [RunArgs.reused, h.squid, h.named]

theorem reuse (h : LeavesToSquid args name) : args.reuse = true := by
  simp [RunArgs.reuse, h.reused]

/-- Nothing is filled in for a squid that has its own settings. -/
theorem finalInput (h : LeavesToSquid args name) (t : Translated) : LobstrMcp.finalInput args t = args.input := by
  simp [LobstrMcp.finalInput, h.reuse]

end LeavesToSquid

def attachedPlan (s : Session) (args : RunArgs) (record : Fields) (crawlerId : String)
    (crawler : Crawler) (t : Translated) (accounts : List String) (snapshot : Snapshot) : RunPlan :=
  let entry := idempotencyEntry s args (.str crawlerId) args.input
  { floats := s.floats
    args
    target := { squid := record, scraper := .str crawlerId, crawler, translated := t }
    input := args.input
    key := entry.1
    keyTtl := entry.2
    account := { current := accounts }
    snapshot }

theorem crawlerId_ne_empty {crawlerId : String} (isId : isCrawlerId crawlerId = true) :
    crawlerId ≠ "" := by
  rintro rfl
  simp [isCrawlerId] at isId

section Exec
variable {σ : Type} {W : World Call Answer σ} {u : σ} {args : RunArgs} {name crawlerId : String}
  {record : Fields} {accounts : List String} {crawler : Crawler} {s : Session}

def attachedTrace (u : σ) (s : Session) (args : RunArgs) (name crawlerId : String) (record : Fields)
    (crawler : Crawler) (params : Answer (.getCrawlerParams (.str crawlerId)))
    (rows : Answer (.listTasks (.str name))) : List (Event Call Answer σ) := [
  ⟨u, .getSquid (.str name), .ok record⟩,
  ⟨u, .getCrawler (.str crawlerId), .ok crawler⟩,
  ⟨u, .getCrawlerParams (.str crawlerId), params⟩,
  ⟨u, .idemGet (idempotencyEntry s args (.str crawlerId) args.input).1, .ok none⟩,
  ⟨u, .listTasks (.str name), rows⟩]

theorem listTasks_mem_attachedTrace {params : Answer (.getCrawlerParams (.str crawlerId))}
    {rows : Answer (.listTasks (.str name))} : (⟨u, .listTasks (.str name), rows⟩ : Event Call Answer σ) ∈
      attachedTrace u s args name crawlerId record crawler params rows := by
  simp [attachedTrace]

theorem exec_resolveCrawlerId (lower : String → String) (isId : isCrawlerId crawlerId = true) :
    Exec W (resolveCrawlerId lower (.str crawlerId)) u [] (.ok (.str crawlerId)) u := by
  unfold resolveCrawlerId matchesId
  refine exec_bind_ok.mpr ⟨true, u, [], [], rfl, ?_, ?_⟩
  · simp [isId, crawlerId_ne_empty isId]
  · exact exec_pure.mpr ⟨rfl, rfl, rfl⟩

theorem exec_chooseAccount {target : Target} (leaves : LeavesToSquid args name)
    (ids : squidAccountIds target.squid = some accounts) (attached : accounts ≠ []) :
    Exec W (chooseAccount s args target) u [] (.ok { current := accounts }) u := by
  unfold chooseAccount
  rw [leaves.reuse, if_pos rfl, ids, leaves.account]
  dsimp only
  split
  · exact exec_pure.mpr ⟨rfl, rfl, rfl⟩
  · split
    · rename_i none'
      exact absurd (by simpa using none') attached
    · exact exec_pure.mpr ⟨rfl, rfl, rfl⟩

theorem exec_readTarget_attached (leaves : LeavesToSquid args name)
    (settled : Settled record crawlerId accounts)
    (params : Answer (.getCrawlerParams (.str crawlerId)))
    (squidStep : W u (.getSquid (.str name)) (.ok record) u)
    (crawlerStep : W u (.getCrawler (.str crawlerId)) (.ok crawler) u)
    (paramsStep : W u (.getCrawlerParams (.str crawlerId)) params u) :
    Exec W (readTarget s args) u
      [⟨u, .getSquid (.str name), .ok record⟩, ⟨u, .getCrawler (.str crawlerId), .ok crawler⟩,
        ⟨u, .getCrawlerParams (.str crawlerId), params⟩]
      (.ok { squid := record, scraper := .str crawlerId, crawler,
             translated := translateInputSchema crawler (paramsOf params) }) u := by
  have squid : Exec W (readSquid args) u [⟨u, .getSquid (.str name), .ok record⟩] (.ok record) u := by
    unfold readSquid
    rw [leaves.reused]
    exact exec_send.mpr ⟨rfl, squidStep⟩
  have scraper : args.scraperJson.orElse (Fields.get record "crawler") = .str crawlerId := by
    rw [settled.crawler, RunArgs.scraperJson, leaves.scraper]
    rfl
  unfold readTarget
  refine exec_bind_ok.mpr ⟨record, u, [_], [_, _], rfl, squid, ?_⟩
  rw [scraper]
  refine exec_bind_ok.mpr ⟨_, u, [], [_, _], rfl, exec_resolveCrawlerId _ settled.isId, ?_⟩
  refine exec_bind_ok.mpr ⟨crawler, u, [_], [_], rfl, exec_send.mpr ⟨rfl, crawlerStep⟩, ?_⟩
  refine exec_bind_ok.mpr ⟨_, u, [_], [], rfl, exec_readCrawlerParams.mpr ⟨params, rfl, paramsStep, rfl⟩, ?_⟩
  exact exec_pure.mpr ⟨rfl, rfl, rfl⟩

/-- The first half, read by read: the squid, its crawler, the params, the key and the rows. -/
theorem exec_prepareRun_attached (leaves : LeavesToSquid args name)
    (settled : Settled record crawlerId accounts)
    (params : Answer (.getCrawlerParams (.str crawlerId))) (rows : Answer (.listTasks (.str name)))
    {snapshot : Snapshot}
    (valid : inputErrors args (translateInputSchema crawler (paramsOf params)) = [])
    (listed : snapshotOf rows = some snapshot)
    (squidStep : W u (.getSquid (.str name)) (.ok record) u)
    (crawlerStep : W u (.getCrawler (.str crawlerId)) (.ok crawler) u)
    (paramsStep : W u (.getCrawlerParams (.str crawlerId)) params u)
    (keyStep : W u (.idemGet (idempotencyEntry s args (.str crawlerId) args.input).1) (.ok none) u)
    (rowsStep : W u (.listTasks (.str name)) rows u) :
    Exec W (prepareRun s args) u (attachedTrace u s args name crawlerId record crawler params rows)
      (.ok (attachedPlan s args record crawlerId crawler
        (translateInputSchema crawler (paramsOf params)) accounts snapshot)) u := by
  have target := exec_readTarget_attached (s := s) leaves settled params squidStep crawlerStep paramsStep
  have key : Exec W (lookUpRun (idempotencyEntry s args (.str crawlerId) args.input).1) u
      [⟨u, .idemGet (idempotencyEntry s args (.str crawlerId) args.input).1, .ok none⟩] (.ok ()) u := by
    unfold lookUpRun
    exact exec_bind_ok.mpr ⟨none, u, [_], [], rfl, exec_send.mpr ⟨rfl, keyStep⟩,
      exec_pure.mpr ⟨rfl, rfl, rfl⟩⟩
  have listing : Exec W (readRows args) u [⟨u, .listTasks (.str name), rows⟩] (.ok snapshot) u := by
    unfold readRows
    rw [leaves.reused]
    exact exec_snapshotTasks.mpr ⟨rows, rfl, rowsStep, listed⟩
  unfold prepareRun
  rw [leaves.reuse, Bool.not_true, Bool.and_false, if_neg Bool.false_ne_true]
  refine exec_bind_ok.mpr ⟨_, u, [_, _, _], [_, _], rfl, target, ?_⟩
  dsimp only
  rw [valid, leaves.finalInput]
  refine exec_bind_ok.mpr ⟨(), u, [_], [_], rfl, key, ?_⟩
  refine exec_bind_ok.mpr ⟨_, u, [], [_], rfl,
    exec_chooseAccount leaves settled.ids settled.attached, ?_⟩
  exact exec_bind_ok.mpr ⟨snapshot, u, [_], [], rfl, listing, exec_pure.mpr ⟨rfl, rfl, rfl⟩⟩

/-- Such a call whose key has a run answers with it. -/
theorem exec_prepareRun_served (leaves : LeavesToSquid args name)
    (settled : Settled record crawlerId accounts)
    (params : Answer (.getCrawlerParams (.str crawlerId))) {runId : Json} (truthy : runId.truthy = true)
    (valid : inputErrors args (translateInputSchema crawler (paramsOf params)) = [])
    (squidStep : W u (.getSquid (.str name)) (.ok record) u)
    (crawlerStep : W u (.getCrawler (.str crawlerId)) (.ok crawler) u)
    (paramsStep : W u (.getCrawlerParams (.str crawlerId)) params u)
    (keyStep : W u (.idemGet (idempotencyEntry s args (.str crawlerId) args.input).1) (.ok (some runId)) u) :
    Exec W (prepareRun s args) u
      [⟨u, .getSquid (.str name), .ok record⟩, ⟨u, .getCrawler (.str crawlerId), .ok crawler⟩,
        ⟨u, .getCrawlerParams (.str crawlerId), params⟩,
        ⟨u, .idemGet (idempotencyEntry s args (.str crawlerId) args.input).1, .ok (some runId)⟩]
      (.error (.returned (alreadySubmitted runId))) u := by
  have target := exec_readTarget_attached (s := s) leaves settled params squidStep crawlerStep paramsStep
  unfold prepareRun
  rw [leaves.reuse, Bool.not_true, Bool.and_false, if_neg Bool.false_ne_true]
  refine exec_bind.mpr (.inr ⟨_, u, [_, _, _], [_], rfl, target, ?_⟩)
  dsimp only
  rw [valid, leaves.finalInput]
  refine exec_bind.mpr (.inl ⟨_, rfl, ?_⟩)
  unfold lookUpRun
  refine exec_bind.mpr (.inr ⟨some runId, u, [_], [], rfl, exec_send.mpr ⟨rfl, keyStep⟩, ?_⟩)
  dsimp only
  rw [truthy, if_pos rfl]
  exact exec_returned.mpr ⟨rfl, rfl, rfl⟩

end Exec

/-! ### Following a run -/

section Follow
variable {σ α β : Type} {W : World Call Answer σ} {u v : σ}
  {Q : List (Event Call Answer σ) → Except Exit β → σ → Prop}

theorem may_request {c : Call} {f : Answer c → Tool β} (ans : Answer c) (step : W u c ans v)
    (rest : May W (f ans) v fun tail => Q (⟨u, c, ans⟩ :: tail)) : May W (request c >>= f) u Q :=
  may_bind_of_exec (exec_request.mpr ⟨rfl, step⟩) rest

theorem may_send {c : Call} {f : c.Resp → Tool β} (payload : c.Resp) (step : W u c (.ok payload) v)
    (rest : May W (f payload) v fun tail => Q (⟨u, c, .ok payload⟩ :: tail)) : May W (send c >>= f) u Q :=
  may_bind_of_exec (exec_send.mpr ⟨rfl, step⟩) rest

theorem may_structured {verify : Option String} {body : Tool Fields}
    {Q : List (Event Call Answer σ) → Except Exc Fields → σ → Prop}
    (h : May W body u fun tr outcome t => Q tr (settle verify outcome) t) :
    May W (structured verify body) u Q := by
  obtain ⟨tr, outcome, t, run, met⟩ := h
  exact ⟨tr, _, t, exec_structured.mpr ⟨outcome, run, rfl⟩, met⟩

end Follow

/-! ### Equations of the second half -/

section Equations
variable {s : Session} {plan : RunPlan} {squidId : Json}

theorem commitRun_confirmed (confirm : plan.args.confirm = true) :
    commitRun s plan = readFunds plan >>= fun funds =>
      writeInput plan >>= fun w => startAndReport plan funds w := by
  unfold commitRun
  rw [confirm, Bool.not_true, Bool.false_and, if_neg Bool.false_ne_true]

theorem writeReused_eq (reuse : plan.args.reuse = true)
    (id : Dict.get? plan.target.squid "id" = some squidId) :
    writeInput plan =
      if plan.input.isEmpty then do
        saveAccounts plan.account.toSave squidId
        pure { squidId, action := .unchanged,
               taskCount := plan.snapshot.rows.map fun _ => plan.snapshot.totalSeen }
      else if plan.args.replaceTasks then replaceInput plan squidId
      else addInput plan squidId := by
  unfold writeInput writeReused item
  rw [if_pos reuse, id]
  rfl

theorem writeInput_replace (reuse : plan.args.reuse = true)
    (id : Dict.get? plan.target.squid "id" = some squidId) (present : plan.input ≠ [])
    (replace : plan.args.replaceTasks = true) : writeInput plan = replaceInput plan squidId := by
  rw [writeReused_eq reuse id, if_neg (by simpa using present), if_pos replace]

end Equations

section Commit
variable {σ α : Type} {W : World Call Answer σ} {st u : σ} {s : Session} {args : RunArgs} {plan : RunPlan}

/-- A planned call that the gate lets through, on a balance that says nothing, comes to its writes. -/
theorem may_commit {planning : List (Event Call Answer σ)}
    {Q : List (Event Call Answer σ) → Except Exc Fields → σ → Prop}
    (planned : Exec W (prepareRun s args) st planning (.ok plan) u)
    (free : (!plan.args.confirm && needsWord s plan.estimate) = false) (balance : W u .getBalance (.ok []) u)
    (rest : ∀ funds, May W (writeInput plan >>= fun w => startAndReport plan funds w) u fun tail r v =>
      Q (planning ++ (⟨u, .getBalance, .ok []⟩ :: tail)) (settle (some runScraperVerify) r) v) :
    May W (runScraperImpl s args) st Q := by
  unfold runScraperImpl
  refine may_structured (may_bind_of_exec planned ?_)
  unfold commitRun
  rw [free, if_neg Bool.false_ne_true]
  have funded := exec_send.mpr ⟨(rfl : [(⟨u, .getBalance, .ok []⟩ : Event Call Answer σ)] = _), balance⟩
  exact may_bind_of_exec (exec_bind_ok.mpr ⟨[], u, [_], [], rfl, funded, exec_pure.mpr ⟨rfl, rfl, rfl⟩⟩) (rest _)

/-- A replacement all of whose writes come through. -/
theorem may_replace {squidId : Json} {u₁ u₂ u₃ : σ} {f : Written → Tool α}
    {Q : List (Event Call Answer σ) → Except Exit α → σ → Prop} (reuse : plan.args.reuse = true)
    (id : Dict.get? plan.target.squid "id" = some squidId) (present : plan.input ≠ [])
    (replace : plan.args.replaceTasks = true) (saved : W u (.updateSquid squidId plan.updateBody) (.ok Json.null) u₁)
    (emptied : W u₁ (.emptySquid squidId) (.ok Json.null) u₂)
    (added : W u₂ (.addTasks squidId [.obj plan.taskParams]) (.ok Json.null) u₃)
    (rest : May W (f { squidId, action := .replaced, taskCount := some 1, replacedCount := plan.snapshot.totalSeen }) u₃
      fun tail => Q (⟨u, .updateSquid squidId plan.updateBody, .ok Json.null⟩ ::
        ⟨u₁, .emptySquid squidId, .ok Json.null⟩ ::
        ⟨u₂, .addTasks squidId [.obj plan.taskParams], .ok Json.null⟩ :: tail)) :
    May W (writeInput plan >>= f) u Q := by
  rw [writeInput_replace reuse id present replace]
  refine may_bind ?_
  unfold replaceInput
  refine may_bind ?_
  unfold replaceSquidInput
  refine may_request (.ok Json.null) saved ?_
  unfold swapRows
  refine may_request (.ok Json.null) emptied ?_
  refine may_request (.ok Json.null) added ?_
  exact may_pure.mpr (may_pure.mpr rest)

end Commit

/-! ### A squid to follow it on -/

def oneSquid (name : String) (squid : Squid) : Upstream where
  squids := fun id => if id = .str name then some squid else none

@[simp] theorem oneSquid_held (name : String) (squid : Squid) :
    (oneSquid name squid).squids (.str name) = some squid := by
  simp [oneSquid]

def plainCrawlerId : String := "00000000000000000000000000000000"

/-- The record of a squid that has its account, with the saved params given. -/
def plainRecord (name : String) (params : Json) : Fields :=
  [("id", .str name), ("crawler", .str plainCrawlerId), ("accounts", .arr [.str "account"]),
   ("params", params)]

theorem settled_plainRecord (name : String) (params : Json) :
    Settled (plainRecord name params) plainCrawlerId ["account"] where
  crawler := rfl
  isId := by decide
  ids := rfl
  attached := by simp

/-- A hash that keeps nothing apart, for runs in which no two keys meet. -/
def flatHash : Sha256 where
  hexdigest _ := String.ofList (List.replicate 64 '0')
  length_hexdigest _ := by rw [String.length_ofList, List.length_replicate]
  hex_hexdigest _ c member := by
    rw [String.toList_ofList] at member
    rw [List.eq_of_mem_replicate member]
    decide

def plainSession : Session where
  settings := { runConfirmThreshold := 100 }
  hash := flatHash
  lower := String.toLower
  floats := .exact
  authorization := "Token t"
  now := 0

/-- The crawler reads answer with this crawler, and with a `/params` payload that is null where
it could not be read. -/
def describes (crawler : Crawler) (params : Json) (c : Call) (ans : Answer c) : Prop :=
  match c, ans with
  | .getCrawler _, .ok found => found = crawler
  | .getCrawlerParams _, ans => paramsOf ans = params
  | _, _ => True

/-- The plan of a call that leaves crawler and account to such a squid. -/
def plainPlan (s : Session) (args : RunArgs) (name : String) (saved : Json) (crawler : Crawler)
    (params : Json) (snapshot : Snapshot) : RunPlan :=
  attachedPlan s args (plainRecord name saved) plainCrawlerId crawler
    (translateInputSchema crawler params) ["account"] snapshot

theorem exec_prepareRun_plain (reports : List Json → Json → Prop) (s : Session) {args : RunArgs}
    {name : String} (leaves : LeavesToSquid args name) {crawler : Crawler} {params : Json}
    (saved : Json) (rows : List Json) (listing : Answer (.listTasks (.str name))) {snapshot : Snapshot}
    (valid : inputErrors args (translateInputSchema crawler params) = [])
    (reported : ∀ payload, listing = .ok payload → reports rows payload)
    (read : snapshotOf listing = some snapshot) :
    Exec ((Upstream.world reports).given (describes crawler params)) (prepareRun s args)
      (oneSquid name ⟨plainRecord name saved, rows⟩)
      (attachedTrace (oneSquid name ⟨plainRecord name saved, rows⟩) s args name plainCrawlerId
        (plainRecord name saved) crawler (.ok params) listing)
      (.ok (plainPlan s args name saved crawler params snapshot))
      (oneSquid name ⟨plainRecord name saved, rows⟩) := by
  refine exec_prepareRun_attached leaves (settled_plainRecord name saved) (.ok params) listing valid read
    ⟨trivial, rfl, _, oneSquid_held _ _, rfl, rfl⟩ ⟨rfl, rfl, trivial⟩ ⟨rfl, rfl, trivial⟩
    ⟨trivial, rfl, trivial⟩ ⟨trivial, rfl, ?_⟩
  cases listing with
  | ok payload => exact ⟨_, oneSquid_held _ _, reported payload rfl⟩
  | error e => trivial

end LobstrMcp
