import LobstrMcp.Run.Gate
import LobstrMcp.Run.Replies

/-!
Where a `run_scraper` call may write: every refusal of its own stands in front of the first write,
and the start of the run behind the last, but for rows that are put back.
-/

namespace LobstrMcp
open Interaction Tool

/-- A refusal of the tool's own. Upstream rejects with a `validation_error` too, but without `errors`,
and a run may have any `status`. -/
def LocalRefusal (reply : Fields) : Prop :=
  (∃ code ∈ refusalCodes, Fields.get reply "error_code" = .str code) ∨
  (Fields.get reply "error_code" = .str "validation_error" ∧ Dict.contains reply "errors" = true) ∨
  (Fields.get reply "status" = .str "already_submitted" ∧ Fields.get reply "idempotent" = .bool true) ∨
  Fields.get reply "needs_confirmation" = .bool true

/-- The keys that tell a refusal. -/
def refusalKeys : List String := ["error_code", "errors", "status", "idempotent", "needs_confirmation"]

def Call.Starts (c : Call) : Prop := ∃ squid, c = .startRun squid

section Order
variable {σ : Type} {W : World Call Answer σ} {st mid : σ} {tr : List (Event Call Answer σ)}

/-- What is put back after a start that failed: rows of a listing the call itself had made. -/
def PutsBack (tr : List (Event Call Answer σ)) (start : Event Call Answer σ) (c : Call) : Prop :=
  ∃ b squid error, start = ⟨b, .startRun squid, .error error⟩ ∧
    ∃ b' name ans rows total, ⟨b', .listTasks (.str name), ans⟩ ∈ tr ∧
      snapshotOf ans = some { rows := some rows, totalSeen := total } ∧ c = .addTasks squid (rows.map .obj)

/-- A run is started at most once, and nothing else is written after it, but rows that are put back. -/
structure StartedLast (tr : List (Event Call Answer σ)) : Prop where
  once : tr.Pairwise fun e x => e.op.Starts → ¬ x.op.Starts
  last : tr.Pairwise fun e x => e.op.Starts → x.op.writes = true → PutsBack tr e x.op

theorem PutsBack.not_starts {start : Event Call Answer σ} {c : Call} (back : PutsBack tr start c) :
    ¬ c.Starts := by
  rintro ⟨squid, same⟩
  obtain ⟨_, _, _, _, _, _, _, _, _, _, _, put⟩ := back
  rw [same] at put
  cases put

theorem StartedLast.of_last
    (last : tr.Pairwise fun e x => e.op.Starts → x.op.writes = true → PutsBack tr e x.op) : StartedLast tr := by
  refine ⟨last.imp fun {e x} puts starts again => ?_, last⟩
  have writes : x.op.writes = true := by
    obtain ⟨squid, same⟩ := again
    rw [same]
    rfl
  exact (puts starts writes).not_starts again

theorem not_starts_of_reads {c : Call} (reads : c.Reads) : ¬ c.Starts := by
  rintro ⟨squid, rfl⟩
  cases reads.1

theorem not_starts_of_mayWrite {plan : RunPlan} {c : Call} (may : plan.MayWrite c) : ¬ c.Starts := by
  rintro ⟨squid, rfl⟩
  exact may

theorem StartedLast.of_unstarted (unstarted : ∀ e ∈ tr, ¬ e.op.Starts) : StartedLast tr :=
  .of_last (List.pairwise_of_forall_mem_list fun e member _ _ starts => absurd starts (unstarted e member))

/-- Around one start: nothing before it starts a run, and what is written after it is put back. -/
theorem StartedLast.around {before after : List (Event Call Answer σ)} {start : Event Call Answer σ}
    (first : ∀ e ∈ before, ¬ e.op.Starts)
    (rest : ∀ x ∈ after, x.op.writes = true → PutsBack (before ++ start :: after) start x.op) :
    StartedLast (before ++ start :: after) := by
  have later : ∀ x ∈ after, ¬ x.op.Starts := by
    rintro x member ⟨squid, same⟩
    have writes : x.op.writes = true := by
      rw [same]
      rfl
    exact (rest x member writes).not_starts ⟨squid, same⟩
  apply StartedLast.of_last
  rw [List.pairwise_append, List.pairwise_cons]
  refine ⟨?_, ⟨?_, ?_⟩, ?_⟩
  · exact List.pairwise_of_forall_mem_list fun e member _ _ starts => absurd starts (first e member)
  · exact fun x member _ => rest x member
  · exact List.pairwise_of_forall_mem_list fun e member _ _ starts => absurd starts (later e member)
  · exact fun e member _ _ starts => absurd starts (first e member)

end Order

/-! ### What upstream answers is no refusal -/

theorem localRefusal_congr {a b : Fields} (same : ∀ key ∈ refusalKeys, Dict.get? a key = Dict.get? b key) :
    LocalRefusal a ↔ LocalRefusal b := by
  simp only [refusalKeys, List.forall_mem_cons] at same
  obtain ⟨code, errors, status, idempotent, confirmation, _⟩ := same
  simp only [LocalRefusal, Fields.get, Dict.contains, code, errors, status, idempotent, confirmation]

theorem errorCode_not_refusal (e : ApiError) : errorCode e ∉ refusalCodes := by
  have ofType : ∀ entry ∈ typeCodes, entry.2.1 ∉ refusalCodes := by decide
  have ofStatus : ∀ entry ∈ statusCodes, entry.2 ∉ refusalCodes := by decide
  unfold errorCode
  split
  · rename_i code hint found
    exact ofType _ (Dict.mem_of_get? found)
  · cases found : Dict.get? statusCodes e.status with
    | some code => exact ofStatus _ (Dict.mem_of_get? found)
    | none =>
      rw [Option.getD_none]
      split <;> decide

theorem toErrorDict_code (e : ApiError) : Fields.get (toErrorDict e) "error_code" = .str (errorCode e) := by
  unfold toErrorDict
  cases e.errorType with
  | none => cases Dict.get? typeCodes (none.getD "") <;> simp
  | some type => by_cases empty : type = "" <;> cases Dict.get? typeCodes ((some type).getD "") <;> simp [empty]

theorem not_localRefusal_of_code {reply : Fields} {code : String}
    (read : Fields.get reply "error_code" = .str code) (other : code ∉ refusalCodes)
    (errors : Dict.get? reply "errors" = none) (idempotent : Dict.get? reply "idempotent" = none)
    (confirmation : Dict.get? reply "needs_confirmation" = none) : ¬ LocalRefusal reply := by
  rintro (⟨refusal, member, same⟩ | ⟨_, carried⟩ | ⟨_, served⟩ | asked)
  · rw [read] at same
    cases same
    exact other member
  · rw [Dict.contains, errors] at carried
    cases carried
  · rw [Fields.get, idempotent] at served
    cases served
  · rw [Fields.get, confirmation] at asked
    cases asked

theorem refusal_fromUpstream : FromUpstream fun reply => ¬ LocalRefusal reply where
  set {reply key} v base added := by
    rwa [localRefusal_congr (b := reply)]
    intro mark member
    refine Dict.get?_set_other _ _ ?_
    rintro rfl
    have apart : ∀ key ∈ addedKeys, key ∉ refusalKeys := by decide
    exact apart _ added member
  rejected rejection := by
    refine not_localRefusal_of_code (toErrorDict_code rejection) (errorCode_not_refusal rejection) ?_ ?_ ?_
    · exact toErrorDict_get_absent rejection (by decide)
    · exact toErrorDict_get_absent rejection (by decide)
    · exact toErrorDict_get_absent rejection (by decide)
  lost lost verify := not_localRefusal_of_code rfl (by decide) rfl rfl rfl
  unavailable rest added := by
    have unread {key : String} (other : key ∉ addedKeys) (code : "error_code" ≠ key) :
        Dict.get? (("error_code", Json.str "upstream_unavailable") :: rest) key = none := by
      rw [Dict.get?_cons, if_neg code]
      exact Dict.get?_of_not_mem fun member => other (added member)
    refine not_localRefusal_of_code rfl (by decide) (unread ?_ ?_) (unread ?_ ?_) (unread ?_ ?_) <;> decide

theorem runReport_not_refusal (plan : RunPlan) (funds : Funds) (w : Written) (run : Fields) (runId : Json) :
    ¬ LocalRefusal (runReport plan funds w run runId) := by
  unfold LocalRefusal
  simp [runReport_get, startedFacts]

/-! ### The early returns are refusals -/

theorem localRefusal_cons {code : String} {rest : Fields} (member : code ∈ refusalCodes) :
    LocalRefusal (("error_code", .str code) :: rest) :=
  .inl ⟨code, member, rfl⟩

theorem addInput_refuses {plan : RunPlan} (refused : plan.Refused) (squidId : Json) :
    ∃ reply, addInput plan squidId = returned reply ∧ LocalRefusal reply := by
  rcases addInput_refused refused squidId with same | same
  · exact ⟨_, same, localRefusal_cons (by decide)⟩
  · exact ⟨_, same, localRefusal_cons (by decide)⟩

/-! ### Every path -/

section Paths
variable {σ : Type} {W : World Call Answer σ} {st mid : σ} {tr : List (Event Call Answer σ)} {plan : RunPlan}

/-- The two refusals among the writes: nothing was written yet. -/
theorem exec_writeInput_refused {e : Exit} (refused : plan.Refused)
    (exec : Exec W (writeInput plan) st tr (.error e) mid) : tr = [] := by
  obtain ⟨reuse, keep, _, _⟩ := id refused
  cases id : Dict.get? plan.target.squid "id" with
  | none =>
    unfold writeInput writeReused item at exec
    rw [if_pos reuse, id] at exec
    exact (exec_raised.mp exec).1
  | some squidId =>
    obtain ⟨reply, same, _⟩ := addInput_refuses refused squidId
    rw [writeReused_eq reuse id, if_neg refused.present, keep, if_neg Bool.false_ne_true, same] at exec
    exact (exec_returned.mp exec).1

/-- Past these two, no reply of the writes is a refusal. -/
theorem writeInput_answers (open' : ¬ plan.Refused) :
    (writeInput plan).Ends (Answers (fun reply => ¬ LocalRefusal reply) fun _ => True) := by
  refine answers_writeInput refusal_fromUpstream plan fun reuse present keep squidId => ?_
  exact answers_addInput refusal_fromUpstream plan squidId fun row rows => (open' ⟨reuse, keep, row, rows⟩).elim

theorem Commits.reads_of_refusal {s : Session} {r : Except Exit Fields} {verify : Option String}
    {reply : Fields} (commits : Commits W s plan st tr r mid) (settled : settle verify r = .ok reply)
    (refusal : LocalRefusal reply) : ∀ e ∈ tr, e.op.Reads := by
  have funding : (readFunds plan).Uses Call.Reads := (uses_readFunds plan).mono fun _ => Call.Fetches.reads
  cases commits with
  | asks => simp
  | unread read => exact read.uses funding
  | @unwritten funds first second e m _ read wrote =>
    by_cases refused : plan.Refused
    · rw [exec_writeInput_refused refused wrote, List.append_nil]
      exact read.uses funding
    · have answers : Answers (fun reply => ¬ LocalRefusal reply) (fun reply => ¬ LocalRefusal reply)
          (.error e : Except Exit Fields) := by
        have ends := Ensures.of_ends (writeInput_answers refused) _ _ _ wrote
        cases e <;> exact ends
      exact (answers_settle refusal_fromUpstream answers settled refusal).elim
  | @starts funds first second w ans rest _ m b next _ read wrote step after =>
    have answers := answers_afterStart refusal_fromUpstream plan funds w ans (runReport_not_refusal plan funds w)
    have ends := Ensures.of_ends answers _ _ _ after
    exact (answers_settle refusal_fromUpstream ends settled refusal).elim

end Paths

/-- A refusal of the tool's own writes nothing, upstream or to the store, whatever the reads answer;
and the run is started once at most, after every other write but rows that are put back. -/
theorem refusals_write_nothing {σ : Type} (W : World Call Answer σ) (s : Session) (args : RunArgs) (st : σ) :
    Ensures W (runScraperImpl s args) st fun tr r _ =>
      (∀ reply, r = .ok reply → LocalRefusal reply → ∀ e ∈ tr, e.op.Reads) ∧ StartedLast tr := by
  intro tr r mid run
  obtain ⟨outcome, body, rfl⟩ := exec_structured.mp run
  rcases exec_bind.mp body with ⟨e, rfl, head⟩ | ⟨plan, m, first, rest, rfl, head, tail⟩
  · have reads := head.uses (uses_prepareRun s args)
    exact ⟨fun _ _ _ => reads, .of_unstarted fun e member => not_starts_of_reads (reads e member)⟩
  have reads := head.uses (uses_prepareRun s args)
  have commits := Commits.of_exec tail
  constructor
  · intro reply settled refusal e member
    rcases List.mem_append.mp member with member | member
    · exact reads e member
    · exact commits.reads_of_refusal settled refusal e member
  have early : ∀ e ∈ first, ¬ e.op.Starts := fun e member => not_starts_of_reads (reads e member)
  have funding {u v : σ} {part : List (Event Call Answer σ)} {o : Except Exit Funds}
      (read : Exec W (readFunds plan) u part o v) : ∀ e ∈ part, ¬ e.op.Starts := fun e member =>
    not_starts_of_reads (read.uses (uses_readFunds plan) e member).reads
  have writing {u v : σ} {part : List (Event Call Answer σ)} {o : Except Exit Written}
      (wrote : Exec W (writeInput plan) u part o v) : ∀ e ∈ part, ¬ e.op.Starts := fun e member =>
    not_starts_of_mayWrite (wrote.uses (uses_writeInput plan) e member)
  cases commits with
  | asks => exact .of_unstarted (by simpa using early)
  | unread read => exact .of_unstarted (List.forall_mem_append.mpr ⟨early, funding read⟩)
  | unwritten read wrote =>
    refine .of_unstarted (List.forall_mem_append.mpr ⟨early, ?_⟩)
    exact List.forall_mem_append.mpr ⟨funding read, writing wrote⟩
  | @starts funds second third w ans rest _ _ b next _ read wrote step after =>
    rw [← List.append_assoc, ← List.append_assoc]
    refine .around ?_ fun x member writes => ?_
    · refine List.forall_mem_append.mpr ⟨List.forall_mem_append.mpr ⟨early, funding read⟩, writing wrote⟩
    -- what is written after the start is a restore's
    have restores : (afterStart plan funds w ans).Uses fun c => c.writes = true → w.action = .replaced ∧
        ∃ error rows, ans = .error error ∧ plan.snapshot.rows = some rows ∧
          c = .addTasks w.squidId (rows.map .obj) := by
      refine uses_afterStart plan funds w ans (fun _ absurd => by cases absurd) ?_
      rintro replaced rows present ⟨error, failed⟩ _
      exact ⟨replaced, error, rows, failed, present, rfl⟩
    obtain ⟨replaced, error, rows, rfl, present, put⟩ := after.uses restores x member writes
    have prepared := Prepared.of_exec head
    obtain ⟨reuse, _⟩ := Ensures.of_ends (ends_writeInput plan) _ _ _ wrote w rfl replaced
    rw [prepared.args_eq, RunArgs.reuse] at reuse
    obtain ⟨name, reused⟩ := Option.isSome_iff_exists.mp reuse
    obtain ⟨b', listed, made, snapshot⟩ := prepared.rows name reused
    refine ⟨b, w.squidId, error, rfl, b', name, listed, rows, plan.snapshot.totalSeen, ?_, ?_, put⟩
    · simp [made]
    · rw [snapshot, ← present]

end LobstrMcp
