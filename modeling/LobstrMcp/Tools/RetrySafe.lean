import LobstrMcp.Tools.RetryRuns

/-!
What a tool says of a failure, against what its call did upstream. A reply that calls a retry safe is
right in every run, but for those of `run_scraper` that slip: a write that was never sent is told of as
if it had been the first.
-/

namespace LobstrMcp
open Interaction Tool

/-! ### Every writing tool -/

/-- The tools that write, with their arguments. -/
inductive WritingTool where
  | runScraper (s : Session) (args : RunArgs)
  | createSquid (lower : String → String) (scraper : String) (name : Option String) (config : Fields)
      (concurrency : Option Int)
  | addTasks (squidId : String) (tasks : List Json)
  | updateScraper (squidId : String) (name : Option String) (config : Fields) (concurrency : Option Int)
  | attachAccount (s : Session) (squidId : String) (accountId : Option String)
  | emptyScraper (squidId : String)
  | deactivateScraper (squidId : String)
  | abortRun (lower : String → String) (runId : String)

namespace WritingTool

def program : WritingTool → Program Call Answer Exc Fields
  | runScraper s args => runScraperImpl s args
  | createSquid lower scraper name config concurrency => createSquidImpl lower scraper name config concurrency
  | addTasks squidId tasks => addTasksImpl squidId tasks
  | updateScraper squidId name config concurrency => updateScraperImpl squidId name config concurrency
  | attachAccount s squidId accountId => attachAccountImpl s squidId accountId
  | emptyScraper squidId => emptyScraperImpl squidId
  | deactivateScraper squidId => deactivateScraperImpl squidId
  | abortRun lower runId => abortRunImpl lower runId

/-- The one tool that can fail after a write of its own. -/
def IsRunScraper : WritingTool → Prop
  | runScraper _ _ => True
  | _ => False

theorem follows (tool : WritingTool) : tool.program.Follows writeNext (retryEnds tool.IsRunScraper) .fresh := by
  cases tool with
  | runScraper s args => exact runScraperImpl_retry_follows s args
  | createSquid lower scraper name config concurrency =>
    exact createSquidImpl_follows lower scraper name config concurrency
  | addTasks squidId tasks => exact addTasksImpl_follows squidId tasks
  | updateScraper squidId name config concurrency =>
    exact updateScraperImpl_follows squidId name config concurrency
  | attachAccount s squidId accountId => exact attachAccountImpl_follows s squidId accountId
  | emptyScraper squidId => exact emptyScraperImpl_follows squidId
  | deactivateScraper squidId => exact deactivateScraperImpl_follows squidId
  | abortRun lower runId => exact abortRunImpl_follows lower runId

end WritingTool

/-! ### Where the message slips -/

/-- Every write so far was answered with success. -/
def AllAnswered (past : List (Event Call Answer Upstream)) : Prop :=
  ∀ e ∈ past, e.op.writes = true → ∃ payload, e.ans = .ok payload

/-- A write that is never sent, after writes that were all answered with success: any, if one of them made a
squid; the start of the run otherwise. -/
structure SlipsAt (past : List (Event Call Answer Upstream)) (e : Event Call Answer Upstream) : Prop where
  writes : e.op.writes = true
  unsent : ∃ failure : TransportError, e.ans = .error (.transport failure) ∧ failure.kind.neverSent = true
  answered : AllAnswered past
  late : (∃ before ∈ past, before.op.creates = true) ∨
    (e.op.starts = true ∧ ∃ before ∈ past, before.op.writes = true)

/-- There is such a write among the requests of the call. -/
def Slips (tr : List (Event Call Answer Upstream)) : Prop :=
  ∃ past e rest, tr = past ++ e :: rest ∧ SlipsAt past e

section Slips
variable {past : List (Event Call Answer Upstream)} {e : Event Call Answer Upstream}

theorem creates_writes {c : Call} (creates : c.creates = true) : c.writes = true := by
  cases c <;> first | rfl | cases creates

theorem allAnswered_append : AllAnswered (past ++ [e]) ↔
    AllAnswered past ∧ (e.op.writes = true → ∃ payload, e.ans = .ok payload) := by
  unfold AllAnswered
  constructor
  · intro all
    exact ⟨fun b member => all b (List.mem_append_left _ member), all e (List.mem_append_right _ List.mem_cons_self)⟩
  · rintro ⟨all, last⟩ b member
    rcases List.mem_append.mp member with member | member
    · exact all b member
    · rw [List.mem_singleton.mp member]
      exact last

theorem slips_append : Slips (past ++ [e]) ↔ Slips past ∨ SlipsAt past e := by
  constructor
  · rintro ⟨first, b, rest, split, at'⟩
    rcases List.eq_nil_or_concat rest with rfl | ⟨rest, last, rfl⟩
    · obtain ⟨rfl, same⟩ := List.append_inj' split rfl
      cases same
      exact .inr at'
    · rw [List.concat_eq_append, ← List.cons_append, ← List.append_assoc] at split
      obtain ⟨rfl, -⟩ := List.append_inj' split rfl
      exact .inl ⟨first, b, rest, rfl, at'⟩
  · rintro (⟨first, b, rest, rfl, at'⟩ | at')
    · exact ⟨first, b, rest ++ [e], by simp, at'⟩
    · exact ⟨past, e, [], rfl, at'⟩

/-- Where every write is answered with success, nothing slips. -/
theorem AllAnswered.not_slips (all : AllAnswered past) : ¬ Slips past := by
  rintro ⟨first, b, rest, rfl, at'⟩
  obtain ⟨payload, ok⟩ := all b (List.mem_append_right _ List.mem_cons_self) at'.writes
  obtain ⟨failure, failed, -⟩ := at'.unsent
  rw [ok] at failed
  cases failed

/-- Nor after a write that was not. -/
theorem not_slips_later (failed : ¬ AllAnswered past) (none' : ¬ Slips past) : ¬ Slips (past ++ [e]) := by
  rw [slips_append]
  rintro (slips | at')
  · exact none' slips
  · exact failed at'.answered

theorem not_allAnswered_later (failed : ¬ AllAnswered past) : ¬ AllAnswered (past ++ [e]) :=
  fun all => failed (allAnswered_append.mp all).1

/-- Nor where no write is answered with success. -/
theorem not_slips_of_failed (failed : ∀ e ∈ past, e.op.writes = true → ∃ failure, e.ans = .error failure) :
    ¬ Slips past := by
  rintro ⟨first, e, rest, rfl, at'⟩
  obtain ⟨b, member, wrote⟩ : ∃ b ∈ first, b.op.writes = true := by
    rcases at'.late with ⟨b, member, creates⟩ | ⟨-, wrote⟩
    · exact ⟨b, member, creates_writes creates⟩
    · exact wrote
  obtain ⟨payload, ok⟩ := at'.answered b member wrote
  obtain ⟨failure, wrong⟩ := failed b (List.mem_append_left _ member) wrote
  rw [ok] at wrong
  cases wrong

end Slips

/-! ### Every run -/

/-- What has taken effect upstream, phase by phase. -/
def Effects (u : Upstream) (past : List (Event Call Answer Upstream)) (q : WritePhase) (s : Upstream) : Prop :=
  match q with
  | .fresh => AllAnswered past ∧ (∀ e ∈ past, e.op.writes = false) ∧ s.applied = u.applied
  | .missed => ¬ AllAnswered past ∧ ¬ Slips past ∧ s.applied = u.applied
  | .got => AllAnswered past ∧ (∃ e ∈ past, e.op.writes = true) ∧ (∀ e ∈ past, e.op.creates = false) ∧
      u.applied.length < s.applied.length
  | .created => AllAnswered past ∧ (∃ e ∈ past, e.op.creates = true) ∧ u.applied.length < s.applied.length
  | .slipped => Slips past ∧ u.applied.length < s.applied.length
  | .unsure => ¬ AllAnswered past ∧ ¬ Slips past
  | .off => False

section Effects
variable {reports : List Json → Json → Prop} {u s t : Upstream} {past : List (Event Call Answer Upstream)}
  {q q' : WritePhase} {c : Call} {ans : Answer c}

theorem Upstream.Takes.length_lt {made : Fields} (takes : s.Takes c made t) :
    s.applied.length < t.applied.length := by
  rw [takes.2]
  exact Nat.lt_succ_self _

/-- A read has no effect. -/
theorem Effects.read (effects : Effects u past q s) (reads : c.writes = false) :
    Effects u (past ++ [⟨s, c, ans⟩]) q s := by
  have all : AllAnswered (past ++ [⟨s, c, ans⟩]) ↔ AllAnswered past := by
    simp [allAnswered_append, reads]
  have slips : Slips (past ++ [⟨s, c, ans⟩]) ↔ Slips past := by
    rw [slips_append, or_iff_left]
    intro at'
    have writes : c.writes = true := at'.writes
    rw [reads] at writes
    cases writes
  have plain : c.creates = false := by
    rw [← Bool.not_eq_true]
    intro creates
    rw [creates_writes creates] at reads
    cases reads
  cases q with
  | off => exact effects
  | _ => simpa [Effects, all, slips, reads, plain, or_imp, forall_and] using effects

/-- A write that is answered with success. -/
theorem Effects.answer (effects : Effects u past q s) (writes : c.writes = true) {payload : c.Resp}
    (grows : s.applied.length < t.applied.length) : Effects u (past ++ [⟨s, c, .ok payload⟩]) (q.answered c) t := by
  have all (before : AllAnswered past) : AllAnswered (past ++ [⟨s, c, .ok payload⟩]) :=
    allAnswered_append.mpr ⟨before, fun _ => ⟨payload, rfl⟩⟩
  have first (before : AllAnswered past) (plain : ∀ e ∈ past, e.op.creates = false)
      (more : u.applied.length < t.applied.length) :
      Effects u (past ++ [⟨s, c, .ok payload⟩]) (if c.creates then .created else .got) t := by
    split
    · rename_i creates
      exact ⟨all before, ⟨_, List.mem_append_right _ List.mem_cons_self, creates⟩, more⟩
    · rename_i other
      refine ⟨all before, ⟨_, List.mem_append_right _ List.mem_cons_self, writes⟩, fun e member => ?_, more⟩
      rcases List.mem_append.mp member with member | member
      · exact plain e member
      · rw [List.mem_singleton.mp member]
        simpa using other
  cases q with
  | fresh =>
    obtain ⟨before, none', same⟩ := effects
    refine first before (fun e member => ?_) (by rw [← same]; exact grows)
    rw [← Bool.not_eq_true]
    intro creates
    have silent := none' e member
    rw [creates_writes creates] at silent
    cases silent
  | got => exact first effects.1 effects.2.2.1 (effects.2.2.2.trans grows)
  | created =>
    obtain ⟨before, ⟨e, member, creates⟩, more⟩ := effects
    exact ⟨all before, ⟨e, List.mem_append_left _ member, creates⟩, more.trans grows⟩
  | missed => exact ⟨not_allAnswered_later effects.1, not_slips_later effects.1 effects.2.1⟩
  | unsure => exact ⟨not_allAnswered_later effects.1, not_slips_later effects.1 effects.2⟩
  | slipped => exact ⟨slips_append.mpr (.inl effects.1), effects.2.trans grows⟩
  | off => exact effects

/-- A write that fails where nothing slips. -/
theorem Effects.fail (effects : Effects u past q s) (writes : c.writes = true) {e : Exc}
    (even : ¬ SlipsAt past ⟨s, c, .error e⟩) (grows : s.applied.length ≤ t.applied.length) :
    Effects u (past ++ [⟨s, c, .error e⟩]) q.lost t := by
  have failed : ¬ AllAnswered (past ++ [⟨s, c, .error e⟩]) := fun all => by
    obtain ⟨payload, absurd⟩ := (allAnswered_append.mp all).2 writes
    cases absurd
  have none' (before : ¬ Slips past) : ¬ Slips (past ++ [⟨s, c, .error e⟩]) := by
    rw [slips_append]
    exact fun slips => slips.elim before even
  cases q with
  | fresh => exact ⟨failed, none' effects.1.not_slips⟩
  | got => exact ⟨failed, none' effects.1.not_slips⟩
  | created => exact ⟨failed, none' effects.1.not_slips⟩
  | missed => exact ⟨failed, none' effects.2.1⟩
  | unsure => exact ⟨failed, none' effects.2⟩
  | slipped => exact ⟨slips_append.mpr (.inl effects.1), effects.2.trans_le grows⟩
  | off => exact effects

/-- One that fails without effect, where nothing slips. -/
theorem Effects.reject (effects : Effects u past q s) (writes : c.writes = true) {e : Exc}
    (even : ¬ SlipsAt past ⟨s, c, .error e⟩) : Effects u (past ++ [⟨s, c, .error e⟩]) q.rejected s := by
  have lost := effects.fail writes even le_rfl
  cases q with
  | fresh => exact ⟨lost.1, lost.2, effects.2.2⟩
  | missed => exact ⟨lost.1, lost.2, effects.2.2⟩
  | _ => exact lost

/-- One that is never sent. -/
theorem Effects.miss (effects : Effects u past q s) (writes : c.writes = true) {failure : TransportError}
    (unsent : failure.kind.neverSent = true) :
    Effects u (past ++ [⟨s, c, .error (.transport failure)⟩]) (q.unsent c) s := by
  have slips (answered : AllAnswered past) (more : u.applied.length < s.applied.length)
      (late : (∃ before ∈ past, before.op.creates = true) ∨
        (c.starts = true ∧ ∃ before ∈ past, before.op.writes = true)) :
      Effects u (past ++ [⟨s, c, .error (.transport failure)⟩]) .slipped s :=
    ⟨slips_append.mpr (.inr ⟨writes, ⟨failure, rfl, unsent⟩, answered, late⟩), more⟩
  cases q with
  | fresh =>
    refine effects.reject writes fun at' => ?_
    rcases at'.late with ⟨b, member, creates⟩ | ⟨-, b, member, wrote⟩
    · have silent := effects.2.1 b member
      rw [creates_writes creates] at silent
      cases silent
    · rw [effects.2.1 b member] at wrote
      cases wrote
  | created =>
    obtain ⟨answered, made, more⟩ := effects
    exact slips answered more (.inl made)
  | got =>
    obtain ⟨answered, wrote, plain, more⟩ := id effects
    show Effects u _ (if c.starts then .slipped else .unsure) s
    split
    · rename_i starts
      exact slips answered more (.inr ⟨starts, wrote⟩)
    · rename_i other
      refine effects.reject writes fun at' => ?_
      rcases at'.late with ⟨b, member, creates⟩ | ⟨starts, -⟩
      · rw [plain b member] at creates
        cases creates
      · exact other starts
  | missed => exact effects.reject writes fun at' => effects.1 at'.answered
  | unsure => exact effects.reject writes fun at' => effects.1 at'.answered
  | slipped => exact ⟨slips_append.mpr (.inl effects.1), effects.2⟩
  | off => exact effects

theorem Effects.step (effects : Effects u past q s) (led : writeNext q c ans q')
    (step : (Upstream.world reports).given storeFails s c ans t) : Effects u (past ++ [⟨s, c, ans⟩]) q' t := by
  obtain ⟨documented, step⟩ := step
  rw [show q' = q.after c ans from led]
  cases writes : c.writes with
  | false =>
    have stays : q.after c ans = q := by
      unfold WritePhase.after
      rw [if_neg (by simp [writes])]
      split
      · exact documented.elim
      · exact documented.elim
      · rfl
    rw [stays, Upstream.world_keeps writes step]
    exact effects.read writes
  | true =>
    simp only [WritePhase.after, writes, if_true]
    cases ans with
    | ok payload => exact effects.answer writes ((Upstream.world_write writes).mp step).length_lt
    | error e =>
      have even (sent : ∀ failure, e = .transport failure → failure.kind.neverSent = false) :
          ¬ SlipsAt past ⟨s, c, .error e⟩ := by
        intro at'
        obtain ⟨failure, same, unsent⟩ := at'.unsent
        rw [sent failure (Except.error.inj same)] at unsent
        cases unsent
      rcases Upstream.world_error writes step with ⟨rejection, rfl, rfl⟩ | ⟨failure, rfl, effect⟩
      · exact effects.reject writes (even fun _ absurd => by cases absurd)
      · show Effects u _ (if failure.kind.neverSent = true then q.unsent c else q.lost) t
        split
        · rename_i unsent
          rcases effect with rfl | ⟨sent, -⟩
          · exact effects.miss writes unsent
          · rw [unsent] at sent
            cases sent
        · rename_i sent
          refine effects.fail writes (even ?_) ?_
          · rintro _ ⟨⟩
            simpa using sent
          · rcases effect with rfl | ⟨-, made, takes⟩
            · exact le_rfl
            · exact takes.length_lt.le

end Effects

/-- A reply that calls a retry safe is right, that is no write took effect, in exactly the runs that do not slip:
every run of a tool with one write to make, and every run of `run_scraper` but those in which a write that was
never sent follows others that were answered. -/
theorem retry_safe_iff {reports : List Json → Json → Prop} {tool : WritingTool} {u v : Upstream}
    {tr : List (Event Call Answer Upstream)} {r : Except Exc Fields}
    (run : Exec ((Upstream.world reports).given storeFails) tool.program u tr r v) :
    (∀ reply, r = .ok reply → CallsRetrySafe reply → v.applied = u.applied) ↔ ¬ (tool.IsRunScraper ∧ Slips tr) := by
  have first : Effects u [] .fresh u :=
    ⟨fun _ absurd => (by cases absurd), fun _ absurd => (by cases absurd), rfl⟩
  obtain ⟨q, effects, ends⟩ := run.follows tool.follows first fun effects led step => effects.step led step
  rw [List.nil_append] at effects
  have silent (quiet : ¬ Promises r) : ∀ reply, r = .ok reply → CallsRetrySafe reply → v.applied = u.applied :=
    fun reply same safe => absurd ⟨reply, same, safe⟩ quiet
  cases q with
  | fresh => exact iff_of_true (fun _ _ _ => effects.2.2) fun slips => effects.1.not_slips slips.2
  | missed => exact iff_of_true (fun _ _ _ => effects.2.2) fun slips => effects.2.1 slips.2
  | got => exact iff_of_true (silent ends) fun slips => effects.1.not_slips slips.2
  | created => exact iff_of_true (silent ends) fun slips => effects.1.not_slips slips.2
  | unsure => exact iff_of_true (silent ends) fun slips => effects.2 slips.2
  | slipped =>
    have promises : Promises r ↔ tool.IsRunScraper := ends
    by_cases runs : tool.IsRunScraper
    · obtain ⟨reply, same, safe⟩ := promises.mpr runs
      refine iff_of_false (fun right => ?_) fun fine => fine ⟨runs, effects.1⟩
      have grown := effects.2
      rw [right reply same safe] at grown
      exact lt_irrefl _ grown
    · exact iff_of_true (silent fun promised => runs (promises.mp promised)) fun slips => runs slips.1
  | off => exact effects.elim

/-! ### A squid that is created and left behind -/

def newCall : RunArgs where
  scraper := some plainCrawlerId
  confirm := true

def noSquids : Upstream where
  squids := fun _ => none

def unreachable : Exc := .transport { kind := .connectError, text := "" }

def newPlan : RunPlan where
  args := newCall
  target := { squid := [], scraper := .str plainCrawlerId, crawler := { input := [] },
              translated := translateInputSchema { input := [] } .null }
  input := []
  floats := plainSession.floats
  key := (idempotencyEntry plainSession newCall (.str plainCrawlerId) []).1
  keyTtl := some derivedIdempotencyTtl
  account := {}
  snapshot := {}

abbrev plainWorld : World Call Answer Upstream := (Upstream.world Upstream.listsAny).given storeFails

theorem exec_prepare_new (u : Upstream) : ∃ tr, (∀ e ∈ tr, e.op.writes = false) ∧
    Exec plainWorld (prepareRun plainSession newCall) u tr (.ok newPlan) u := by
  refine ⟨[⟨u, .getCrawler (.str plainCrawlerId), .ok { input := [] }⟩,
    ⟨u, .getCrawlerParams (.str plainCrawlerId), .ok .null⟩, ⟨u, .idemGet newPlan.key, .ok none⟩], ?_, ?_⟩
  · intro e member
    simp only [List.mem_cons, List.not_mem_nil, or_false] at member
    rcases member with rfl | rfl | rfl <;> rfl
  unfold prepareRun
  rw [if_neg (by decide)]
  refine exec_bind_ok.mpr ⟨newPlan.target, u, [_, _], [_], rfl, ?_, ?_⟩
  · unfold readTarget
    refine exec_bind_ok.mpr ⟨[], u, [], [_, _], rfl, exec_pure.mpr ⟨rfl, rfl, rfl⟩, ?_⟩
    refine exec_bind_ok.mpr ⟨_, u, [], [_, _], rfl, exec_resolveCrawlerId _ (by decide), ?_⟩
    refine exec_bind_ok.mpr ⟨_, u, [_], [_], rfl, exec_send.mpr ⟨rfl, trivial, rfl, trivial⟩, ?_⟩
    refine exec_bind_ok.mpr
      ⟨_, u, [_], [], rfl, exec_readCrawlerParams.mpr ⟨.ok .null, rfl, ⟨trivial, rfl, trivial⟩, rfl⟩, ?_⟩
    exact exec_pure.mpr ⟨rfl, rfl, rfl⟩
  · dsimp only
    rw [if_neg (by decide)]
    refine exec_bind_ok.mpr ⟨(), u, [_], [], rfl, ?_, ?_⟩
    · unfold lookUpRun
      exact exec_bind_ok.mpr ⟨none, u, [_], [], rfl, exec_send.mpr ⟨rfl, trivial, rfl, trivial⟩,
        exec_pure.mpr ⟨rfl, rfl, rfl⟩⟩
    refine exec_bind_ok.mpr ⟨{}, u, [], [], rfl, exec_pure.mpr ⟨rfl, rfl, rfl⟩, ?_⟩
    exact exec_bind_ok.mpr ⟨{}, u, [], [], rfl, exec_pure.mpr ⟨rfl, rfl, rfl⟩, exec_pure.mpr ⟨rfl, rfl, rfl⟩⟩

/-- The squid is created, its configuration is never sent, and the reply calls a retry safe. -/
theorem a_created_squid_is_called_not_sent :
    May plainWorld (WritingTool.runScraper plainSession newCall).program noSquids fun _ r v =>
      ∃ reply, r = .ok reply ∧ CallsRetrySafe reply ∧ v.applied = [.createSquid (.str plainCrawlerId) none] := by
  show May _ (runScraperImpl plainSession newCall) _ _
  obtain ⟨tr, _, prepared⟩ := exec_prepare_new noSquids
  refine may_commit prepared rfl ⟨trivial, rfl, trivial⟩ fun funds => ?_
  refine may_bind ?_
  unfold writeInput
  rw [if_neg (by decide)]
  unfold writeNew
  refine may_send [("id", .str "squid")] ⟨trivial, rfl, rfl⟩ ?_
  refine may_bind_of_exec (exec_pure.mpr ⟨rfl, rfl, rfl⟩) ?_
  refine may_request (.error unreachable) ⟨trivial, .inl rfl⟩ (may_raise.mpr ?_)
  refine ⟨_, rfl, ?_, rfl⟩
  rw [callsRetrySafe_update (by simp [Dict.keys]), callsRetrySafe_transport]
  rfl

/-- A squid that was never created: nothing took effect. -/
theorem a_squid_never_created_is_safe :
    May plainWorld (WritingTool.runScraper plainSession newCall).program noSquids fun _ r v =>
      ∃ reply, r = .ok reply ∧ CallsRetrySafe reply ∧ v.applied = noSquids.applied := by
  obtain ⟨tr, read, prepared⟩ := exec_prepare_new noSquids
  suffices followed : May plainWorld (WritingTool.runScraper plainSession newCall).program noSquids
      fun tr r _ => (∀ e ∈ tr, e.op.writes = true → ∃ failure, e.ans = .error failure) ∧
        ∃ reply, r = .ok reply ∧ CallsRetrySafe reply by
    obtain ⟨tr, _, v, run, failed, reply, rfl, safe⟩ := followed
    refine ⟨tr, _, v, run, reply, rfl, safe, (retry_safe_iff run).mpr (fun slips => ?_) reply rfl safe⟩
    exact not_slips_of_failed failed slips.2
  show May _ (runScraperImpl plainSession newCall) _ _
  refine may_commit prepared rfl ⟨trivial, rfl, trivial⟩ fun funds => ?_
  refine may_bind ?_
  unfold writeInput
  rw [if_neg (by decide)]
  unfold writeNew createSquid send
  rw [Program.bind_assoc]
  refine may_request (.error unreachable) ⟨trivial, .inl rfl⟩ (may_raise.mpr ⟨?_, _, rfl, rfl⟩)
  intro e member writes
  simp only [List.mem_append, List.mem_cons, List.not_mem_nil, or_false] at member
  rcases member with member | rfl | rfl
  · rw [read e member] at writes
    cases writes
  · cases writes
  · exact ⟨_, rfl⟩

end LobstrMcp
