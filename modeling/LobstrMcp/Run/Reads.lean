import LobstrMcp.World.Upstream
import LobstrMcp.Model.SingleWrites

/-!
The first half of a `run_scraper` call: it only reads, and a plan it comes to is accounted for,
field by field, by what was read.
-/

namespace LobstrMcp
open Interaction Tool

variable {σ : Type} {W : World Call Answer σ} {st mid : σ} {tr : List (Event Call Answer σ)}

/-! ### Requests -/

theorem exec_request {c : Call} {ans : Answer c} :
    Exec W (request c) st tr (.ok ans) mid ↔ tr = [⟨st, c, ans⟩] ∧ W st c ans mid := by
  unfold request
  rw [exec_ask]
  constructor
  · rintro ⟨ans', same, rfl, step⟩
    cases same
    exact ⟨rfl, step⟩
  · rintro ⟨rfl, step⟩
    exact ⟨ans, rfl, rfl, step⟩

theorem exec_request_bind {c : Call} {α : Type} {f : Answer c → Tool α} {r : Except Exit α} :
    Exec W (request c >>= f) st tr r mid ↔
      ∃ ans next rest, W st c ans next ∧ tr = ⟨st, c, ans⟩ :: rest ∧ Exec W (f ans) next rest r mid :=
  exec_call

theorem exec_send {c : Call} {v : c.Resp} :
    Exec W (send c) st tr (.ok v) mid ↔ tr = [⟨st, c, .ok v⟩] ∧ W st c (.ok v) mid := by
  unfold send
  rw [exec_bind_ok]
  constructor
  · rintro ⟨ans, mid', first, rest, rfl, asked, tail⟩
    obtain ⟨rfl, step⟩ := exec_request.mp asked
    cases ans with
    | ok w =>
      obtain ⟨rfl, same, rfl⟩ := exec_pure.mp tail
      cases same
      exact ⟨rfl, step⟩
    | error e =>
      obtain ⟨_, absurd, _⟩ := exec_raise.mp tail
      cases absurd
  · rintro ⟨rfl, step⟩
    exact ⟨.ok v, mid, [⟨st, c, .ok v⟩], [], rfl, exec_request.mpr ⟨rfl, step⟩, exec_pure.mpr ⟨rfl, rfl, rfl⟩⟩

theorem exec_returned {α : Type} {reply : Fields} {r : Except Exit α} :
    Exec W (returned reply) st tr r mid ↔ tr = [] ∧ r = .error (.returned reply) ∧ mid = st :=
  exec_raise

theorem exec_raised {α : Type} {e : Exc} {r : Except Exit α} :
    Exec W (raised e) st tr r mid ↔ tr = [] ∧ r = .error (.raised e) ∧ mid = st :=
  exec_raise

theorem not_exec_returned {α : Type} {reply : Fields} {a : α} :
    ¬ Exec W (returned reply) st tr (.ok a) mid := by
  rw [exec_returned]
  rintro ⟨_, absurd, _⟩
  cases absurd

theorem not_exec_raised {α : Type} {e : Exc} {a : α} :
    ¬ Exec W (raised e) st tr (.ok a) mid := by
  rw [exec_raised]
  rintro ⟨_, absurd, _⟩
  cases absurd

/-! ### The first half only reads -/

section Uses

theorem fetches_getSquid (squid : Json) : (Call.getSquid squid).Fetches := ⟨rfl, trivial⟩
theorem fetches_listCrawlers : Call.listCrawlers.Fetches := ⟨rfl, trivial⟩
theorem fetches_getCrawler (crawler : Json) : (Call.getCrawler crawler).Fetches := ⟨rfl, trivial⟩
theorem fetches_getCrawlerParams (crawler : Json) : (Call.getCrawlerParams crawler).Fetches := ⟨rfl, trivial⟩
theorem fetches_getAccount (account : String) : (Call.getAccount account).Fetches := ⟨rfl, trivial⟩
theorem fetches_listAccounts (limit page : Nat) (type : Json) (status : Nat) :
    (Call.listAccounts limit page type status).Fetches := ⟨rfl, trivial⟩
theorem fetches_listTasks (squid : Json) : (Call.listTasks squid).Fetches := ⟨rfl, trivial⟩
theorem fetches_getBalance : Call.getBalance.Fetches := ⟨rfl, trivial⟩
theorem reads_idemGet (key : String) : (Call.idemGet key).Reads := ⟨rfl, by simp⟩

theorem uses_snapshotTasks {allowed : Call → Prop} (squid : Json) (permitted : allowed (.listTasks squid)) :
    (snapshotTasks squid).Uses allowed := by
  refine Program.uses_bind ((uses_request _).mpr permitted) ?_
  intro answer
  rcases answer with e | payload
  · cases e <;> trivial
  · cases payload <;> trivial

theorem uses_readCrawlerParams {allowed : Call → Prop} (crawler : Json)
    (permitted : allowed (.getCrawlerParams crawler)) : (readCrawlerParams crawler).Uses allowed := by
  refine Program.uses_bind ((uses_request _).mpr permitted) ?_
  intro answer
  cases answer <;> trivial

theorem uses_targetReads {allowed : Call → Prop} (s : Session) (args : RunArgs) (squid : ∀ id, allowed (.getSquid id))
    (catalog : allowed .listCrawlers) (crawler : ∀ id, allowed (.getCrawler id))
    (params : ∀ id, allowed (.getCrawlerParams id)) : (readTarget s args).Uses allowed := by
  unfold readTarget
  refine Program.uses_bind ?_ fun record => ?_
  · unfold readSquid
    split
    · exact (uses_send _).mpr (squid _)
    · trivial
  refine Program.uses_bind (uses_resolveCrawlerId _ _ catalog) fun scraper => ?_
  refine Program.uses_bind ((uses_send _).mpr (crawler _)) fun found => ?_
  exact Program.uses_bind (uses_readCrawlerParams _ (params _)) fun _ => trivial

theorem uses_readTarget (s : Session) (args : RunArgs) : (readTarget s args).Uses Call.Fetches :=
  uses_targetReads s args fetches_getSquid fetches_listCrawlers fetches_getCrawler fetches_getCrawlerParams

theorem uses_lookUpRun {allowed : Call → Prop} (key : String) (permitted : allowed (.idemGet key)) :
    (lookUpRun key).Uses allowed := by
  refine Program.uses_bind ((uses_send _).mpr permitted) ?_
  intro found
  cases found with
  | none => trivial
  | some runId => simp only; split <;> trivial

theorem uses_chooseAccount {allowed : Call → Prop} (s : Session) (args : RunArgs) (target : Target)
    (given : ∀ account, allowed (.getAccount account))
    (listed : ∀ limit page type status, allowed (.listAccounts limit page type status)) :
    (chooseAccount s args target).Uses allowed := by
  unfold chooseAccount
  dsimp only
  split
  · trivial
  split
  · split <;> trivial
  split
  · unfold chooseGiven
    refine Program.uses_bind (uses_resolveAccount _ _ (given _)) ?_
    intro answer
    cases answer with
    | error e => trivial
    | ok account => exact Program.uses_bind (uses_item _ _) fun _ => trivial
  · split
    · unfold choosePicked
      refine Program.uses_bind (uses_pickOrExplain _ _ (listed _ _ _ _)) ?_
      intro answer
      cases answer with
      | error e => trivial
      | ok account => exact Program.uses_bind (uses_item _ _) fun _ => trivial
    · trivial

theorem fetches_chooseAccount (s : Session) (args : RunArgs) (target : Target) :
    (chooseAccount s args target).Uses Call.Fetches :=
  uses_chooseAccount s args target fetches_getAccount fetches_listAccounts

theorem uses_readRows {allowed : Call → Prop} (args : RunArgs) (permitted : ∀ squid, allowed (.listTasks squid)) :
    (readRows args).Uses allowed := by
  unfold readRows
  split
  · exact uses_snapshotTasks _ (permitted _)
  · trivial

/-- Up to the estimate, a call only reads. -/
theorem uses_prepareRun (s : Session) (args : RunArgs) : (prepareRun s args).Uses Call.Reads := by
  unfold prepareRun
  split
  · trivial
  refine Program.uses_bind ((uses_readTarget s args).mono fun _ => Call.Fetches.reads) fun target => ?_
  dsimp only
  split
  · trivial
  refine Program.uses_bind (uses_lookUpRun _ (reads_idemGet _)) fun _ => ?_
  refine Program.uses_bind ((fetches_chooseAccount s args target).mono fun _ => Call.Fetches.reads) fun _ => ?_
  exact Program.uses_bind ((uses_readRows args fetches_listTasks).mono fun _ => Call.Fetches.reads) fun _ => trivial

theorem uses_readFunds (plan : RunPlan) : (readFunds plan).Uses Call.Fetches :=
  Program.uses_bind ((uses_send _).mpr fetches_getBalance) fun _ => trivial

theorem inert_of_reads {reports : List Json → Json → Prop} {W : World Call Answer Upstream} {α : Type}
    {p : Tool α} {u v : Upstream} {tr : List (Event Call Answer Upstream)} {r : Except Exit α}
    (within : W.Within (Upstream.world reports)) (uses : p.Uses Call.Reads) (run : Exec W p u tr r v) :
    v = u ∧ ∀ e ∈ tr, e.before = u ∧ e.op.Reads :=
  Ensures.unchanged uses (fun {_ _ _ _} (reads : Call.Reads _) step =>
    Upstream.world_keeps reads.1 (within _ _ _ _ step)) tr r v run

end Uses

/-! ### What a plan rests on -/

/-- What a listing gives of a squid's rows; none where its failure is no upstream one. -/
def snapshotOf (ans : Except Exc Json) : Option Snapshot :=
  match ans with
  | .ok (.arr tasks) => some { rows := some (tasks.filterMap taskRow), totalSeen := tasks.length }
  | .ok _ => some {}
  | .error (.api _) => some {}
  | .error (.transport _) => some {}
  | .error _ => none

/-- The payload of a `/params` read, null when it failed. -/
def paramsOf {crawler : Json} (ans : Answer (.getCrawlerParams crawler)) : Json :=
  match ans with
  | .ok payload => payload
  | .error _ => .null

theorem exec_snapshotTasks {squid : Json} {snapshot : Snapshot} :
    Exec W (snapshotTasks squid) st tr (.ok snapshot) mid ↔
      ∃ ans, tr = [⟨st, .listTasks squid, ans⟩] ∧ W st (.listTasks squid) ans mid ∧
        snapshotOf ans = some snapshot := by
  unfold snapshotTasks
  rw [exec_bind_ok]
  constructor
  · rintro ⟨ans, mid', first, rest, rfl, asked, tail⟩
    obtain ⟨rfl, step⟩ := exec_request.mp asked
    refine ⟨ans, ?_⟩
    rcases ans with e | payload
    · cases e <;> first
        | (obtain ⟨rfl, same, rfl⟩ := exec_pure.mp tail; cases same; exact ⟨rfl, step, rfl⟩)
        | exact absurd tail not_exec_raised
    · cases payload <;>
        (obtain ⟨rfl, same, rfl⟩ := exec_pure.mp tail; cases same; exact ⟨rfl, step, rfl⟩)
  · rintro ⟨ans, rfl, step, read⟩
    refine ⟨ans, mid, [⟨st, .listTasks squid, ans⟩], [], rfl, exec_request.mpr ⟨rfl, step⟩, ?_⟩
    rcases ans with e | payload
    · cases e <;> first
        | (cases read; exact exec_pure.mpr ⟨rfl, rfl, rfl⟩)
        | cases read
    · cases payload <;> (cases read; exact exec_pure.mpr ⟨rfl, rfl, rfl⟩)

theorem exec_readCrawlerParams {crawler params : Json} :
    Exec W (readCrawlerParams crawler) st tr (.ok params) mid ↔
      ∃ ans, tr = [⟨st, .getCrawlerParams crawler, ans⟩] ∧ W st (.getCrawlerParams crawler) ans mid ∧
        paramsOf ans = params := by
  unfold readCrawlerParams
  rw [exec_bind_ok]
  constructor
  · rintro ⟨ans, mid', first, rest, rfl, asked, tail⟩
    obtain ⟨rfl, step⟩ := exec_request.mp asked
    refine ⟨ans, ?_⟩
    cases ans <;>
      (obtain ⟨rfl, same, rfl⟩ := exec_pure.mp tail; cases same; exact ⟨rfl, step, rfl⟩)
  · rintro ⟨ans, rfl, step, read⟩
    refine ⟨ans, mid, [⟨st, .getCrawlerParams crawler, ans⟩], [], rfl, exec_request.mpr ⟨rfl, step⟩, ?_⟩
    cases ans <;> (cases read; exact exec_pure.mpr ⟨rfl, rfl, rfl⟩)

/-- What is known of a target, and the reads it rests on. -/
structure TargetRead (args : RunArgs) (tr : List (Event Call Answer σ)) (target : Target) : Prop where
  squid : ∀ squid, args.reused = some squid → ∃ b, ⟨b, .getSquid (.str squid), .ok target.squid⟩ ∈ tr
  noSquid : args.reused = none → target.squid = []
  crawler : ∃ b, ⟨b, .getCrawler target.scraper, .ok target.crawler⟩ ∈ tr
  translated : ∃ b ans, ⟨b, .getCrawlerParams target.scraper, ans⟩ ∈ tr ∧
    target.translated = translateInputSchema target.crawler (paramsOf ans)

theorem TargetRead.of_exec {s : Session} {args : RunArgs} {target : Target}
    (run : Exec W (readTarget s args) st tr (.ok target) mid) : TargetRead args tr target := by
  unfold readTarget at run
  obtain ⟨squid, m₁, r₁, r₂, rfl, atSquid, run⟩ := exec_bind_ok.mp run
  obtain ⟨scraper, m₂, r₃, r₄, rfl, _, run⟩ := exec_bind_ok.mp run
  obtain ⟨crawler, m₃, r₅, r₆, rfl, atCrawler, run⟩ := exec_bind_ok.mp run
  obtain ⟨params, m₄, r₇, r₈, rfl, atParams, run⟩ := exec_bind_ok.mp run
  obtain ⟨rfl, same, rfl⟩ := exec_pure.mp run
  cases same
  obtain ⟨rfl, _⟩ := exec_send.mp atCrawler
  obtain ⟨ans, rfl, _, read⟩ := exec_readCrawlerParams.mp atParams
  constructor
  · intro name reused
    unfold readSquid at atSquid
    rw [reused] at atSquid
    obtain ⟨rfl, _⟩ := exec_send.mp atSquid
    exact ⟨st, by simp⟩
  · intro none'
    unfold readSquid at atSquid
    rw [none'] at atSquid
    obtain ⟨_, same, _⟩ := exec_pure.mp atSquid
    cases same
    rfl
  · exact ⟨m₂, by simp⟩
  · exact ⟨m₃, ans, by simp, by rw [read]⟩

theorem TargetRead.mono {args : RunArgs} {target : Target} {tr' : List (Event Call Answer σ)}
    (read : TargetRead args tr target) (sub : ∀ e ∈ tr, e ∈ tr') : TargetRead args tr' target where
  squid := fun name reused => (read.squid name reused).imp fun _ => sub _
  noSquid := read.noSquid
  crawler := read.crawler.imp fun _ => sub _
  translated := read.translated.imp fun _ => Exists.imp fun _ => And.imp_left (sub _)

/-- A plan, the arguments it is for and the reads it rests on. -/
structure Prepared (s : Session) (args : RunArgs) (tr : List (Event Call Answer σ)) (plan : RunPlan) :
    Prop extends TargetRead args tr plan.target where
  floats_eq : plan.floats = s.floats
  args_eq : plan.args = args
  valid : inputErrors args plan.target.translated = []
  input_eq : plan.input = finalInput args plan.target.translated
  entry_eq : (plan.key, plan.keyTtl) = idempotencyEntry s args plan.target.scraper plan.input
  rows : ∀ squid, args.reused = some squid →
    ∃ b ans, ⟨b, .listTasks (.str squid), ans⟩ ∈ tr ∧ snapshotOf ans = some plan.snapshot

theorem Prepared.of_exec {s : Session} {args : RunArgs} {plan : RunPlan}
    (run : Exec W (prepareRun s args) st tr (.ok plan) mid) : Prepared s args tr plan := by
  unfold prepareRun at run
  split at run
  · exact absurd run not_exec_returned
  obtain ⟨target, mid₁, tr₁, tr₂, rfl, atTarget, run⟩ := exec_bind_ok.mp run
  simp only at run
  split at run
  · exact absurd run not_exec_returned
  rename_i passed
  obtain ⟨_, mid₂, tr₃, tr₄, rfl, atKey, run⟩ := exec_bind_ok.mp run
  obtain ⟨account, mid₃, tr₅, tr₆, rfl, atAccount, run⟩ := exec_bind_ok.mp run
  obtain ⟨snapshot, mid₄, tr₇, tr₈, rfl, atRows, run⟩ := exec_bind_ok.mp run
  obtain ⟨rfl, same, rfl⟩ := exec_pure.mp run
  cases same
  refine ⟨(TargetRead.of_exec atTarget).mono fun _ => List.mem_append_left _, rfl, rfl,
    by simpa using passed, rfl, rfl, ?_⟩
  intro name reused
  unfold readRows at atRows
  rw [reused] at atRows
  obtain ⟨ans, rfl, _, read⟩ := exec_snapshotTasks.mp atRows
  exact ⟨mid₃, ans, by simp, read⟩

/-- The one key that a call looks up is the one of its target and its input. -/
theorem key_of_lookUp {s : Session} {args : RunArgs} {r : Except Exit RunPlan} {e : Event Call Answer σ}
    {key : String} (run : Exec W (prepareRun s args) st tr r mid) (member : e ∈ tr)
    (looks : e.op = .idemGet key) : ∃ target, TargetRead args tr target ∧
      key = (idempotencyEntry s args target.scraper (finalInput args target.translated)).1 := by
  unfold prepareRun at run
  split at run
  · obtain ⟨rfl, _⟩ := exec_returned.mp run
    cases member
  rcases exec_bind.mp run with ⟨x, rfl, head⟩ | ⟨target, mid₁, first, rest, rfl, head, tail⟩
  · have fetches := head.uses (uses_readTarget s args) e member
    rw [looks] at fetches
    exact fetches.2.elim
  refine ⟨target, (TargetRead.of_exec head).mono fun _ => List.mem_append_left _, ?_⟩
  rcases List.mem_append.mp member with member | member
  · have fetches := head.uses (uses_readTarget s args) e member
    rw [looks] at fetches
    exact fetches.2.elim
  dsimp only at tail
  split at tail
  · obtain ⟨rfl, _⟩ := exec_returned.mp tail
    cases member
  have apart {c : Call} (fetches : c.Fetches) : c = .idemGet key → False := by
    rintro rfl
    exact fetches.2
  refine tail.uses (show Program.Uses (fun c => c = .idemGet key →
    key = (idempotencyEntry s args target.scraper (finalInput args target.translated)).1) _ from ?_)
    e member looks
  · refine Program.uses_bind ?_ fun _ => ?_
    · refine Program.uses_bind ((uses_send _).mpr fun same => by cases same; rfl) ?_
      intro found
      cases found with
      | none => trivial
      | some runId => simp only; split <;> trivial
    refine Program.uses_bind ((fetches_chooseAccount s args target).mono
      fun c fetches same => (apart fetches same).elim) fun _ => ?_
    exact Program.uses_bind ((uses_readRows args fetches_listTasks).mono fun c fetches same => (apart fetches same).elim)
      fun _ => trivial

end LobstrMcp
