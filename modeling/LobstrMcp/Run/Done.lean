import LobstrMcp.Model.Scrapers
import LobstrMcp.Run.Crawler
import LobstrMcp.Run.Waiting

/-!
When a run is reported as done. Of its two reads the detail is optional: what only the detail shows,
a verification or an export that goes on, is taken for finished where the API rejects that read.
-/

namespace LobstrMcp
open Interaction Tool Polling

/-- What the API holds of a run: what its stats and its detail answer. -/
structure RunRecord where
  stats : Fields
  detail : Fields

section Lower
variable (lower : String → String)

/-- The run is finished, so is its verification if it has one, and its export is not pending. -/
structure RunRecord.FullyDone (run : RunRecord) : Prop where
  finished : (Fields.get run.stats "is_done").truthy = true
  status : lower (runStatusOf run.stats run.detail).text ∉ ["pending", "running", "uploading"]
  verified : ∀ verification, Fields.get run.detail "email_verification" = .obj verification →
    (Fields.get verification "is_done").truthy = true
  exported : Fields.get run.detail "export_done" ≠ .bool false

/-- The stats on their own say that the run is finished. -/
def statsSayDone (stats : Fields) : Prop :=
  (Fields.get stats "is_done").truthy = true ∧ lower (runStatusOf stats []).text ∉ unfinishedRunStates

/-- What `get_run_impl` says of a run whose detail it saw so. -/
def seenDone (stats detail : Fields) : Bool :=
  fullyDone lower (Fields.get stats "is_done") (verificationOut detail) (Fields.get detail "export_done")
    (runStatusOf stats detail)

theorem seenDone_iff (run : RunRecord) : seenDone lower run.stats run.detail = true ↔ run.FullyDone lower := by
  have verification : (verificationOut run.detail).any (fun v => !verified v) = false ↔
      ∀ v, Fields.get run.detail "email_verification" = .obj v → (Fields.get v "is_done").truthy = true := by
    unfold verificationOut
    split
    · rename_i v held
      simp [verified, held]
    · rename_i other
      simp only [Option.any_none, true_iff]
      intro v held
      exact absurd held (other v)
  unfold seenDone fullyDone
  constructor
  · intro done
    split at done
    · cases done
    rename_i finished
    split at done
    · cases done
    rename_i verified
    simp only [Bool.or_eq_true, Bool.not_eq_true', decide_eq_true_eq, not_or, Bool.not_eq_false] at finished
    exact ⟨finished.1, finished.2, verification.mp (by simpa using verified), by simpa using done⟩
  · rintro ⟨finished, status, verified, exported⟩
    rw [verification.mpr verified]
    have ended : lower (runStatusOf run.stats run.detail).text ∉ unfinishedRunStates := status
    simp [finished, ended, exported]

theorem seenDone_nil (stats : Fields) : seenDone lower stats [] = true ↔ statsSayDone lower stats := by
  rw [show seenDone lower stats [] = seenDone lower (RunRecord.mk stats []).stats
    (RunRecord.mk stats []).detail from rfl,
    seenDone_iff]
  constructor
  · rintro ⟨finished, status, -, -⟩
    exact ⟨finished, status⟩
  · rintro ⟨finished, status⟩
    refine ⟨finished, status, fun v held => ?_, fun pending => ?_⟩
    · cases held
    · cases pending

/-! ### One poll -/

/-- The rest of `get_run_impl`, once it has made its two reads. -/
def runReply (runId : String) (full : Bool) (stats detail : Fields) : Tool Fields := do
  let out := runSummary lower runId stats detail
  let doneCode := Fields.get detail "done_reason"
  let out := if doneCode.truthy then Dict.set out "done_reason_code" doneCode else out
  let out ← if doneCode = .str "limit_exceeded" then do
      let limit ← accountLimitOut (Fields.get detail "squid")
      pure (Dict.set out "account_limit" (.obj limit))
    else pure out
  let out := runExtras lower stats detail out
  if full then creditsBreakdown runId (Dict.set out "stats" (.obj stats)) else pure out

theorem getRunBody_eq (runId : String) (full : Bool) :
    getRunBody lower runId full = (do
      let stats ← getRunStats (.str runId)
      let detail ← readDetail runId
      runReply lower runId full stats detail) := rfl

theorem get_runSummary (runId : String) (stats detail : Fields) :
    Fields.get (runSummary lower runId stats detail) "is_done" = .bool (seenDone lower stats detail) := by
  simp [runSummary, seenDone]

theorem get_runExtras (stats detail out : Fields) :
    Fields.get (runExtras lower stats detail out) "is_done" = Fields.get out "is_done" := by
  unfold runExtras
  dsimp only
  repeat' split
  all_goals simp

/-- The body ends with a reply that says this of the run, or with an exception. -/
def Tells (done : Bool) : Except Exit Fields → Prop
  | .ok reply => Fields.get reply "is_done" = .bool done
  | .error (.raised _) => True
  | .error (.returned _) => False

theorem tells_creditsBreakdown (runId : String) {out : Fields} {done : Bool}
    (held : Fields.get out "is_done" = .bool done) :
    (creditsBreakdown runId out).Ends (Tells done) := by
  unfold creditsBreakdown
  intro answer
  cases answer with
  | ok credits =>
    dsimp only [Program.bind]
    split
    · exact (Fields.get_set _ _ _ _).trans held
    · trivial
  | error e =>
    cases e with
    | api rejection => exact held
    | _ => trivial

/-- Whatever becomes of the squid's read, the reply goes on from an account limit or an exception. -/
theorem tells_accountLimitOut (squidId : Json) {done : Bool} {rest : Fields → Tool Fields}
    (tells : ∀ limit, (rest limit).Ends (Tells done)) : (accountLimitOut squidId >>= rest).Ends (Tells done) := by
  unfold accountLimitOut
  split
  · intro answer
    rcases answer with e | squid
    · cases e with
      | api rejection => exact tells _
      | transport lost => exact tells _
      | _ => trivial
    · exact tells _
  · exact tells _

/-- A reply says what the two reads came to. -/
theorem tells_runReply (runId : String) (full : Bool) (stats detail : Fields) :
    (runReply lower runId full stats detail).Ends (Tells (seenDone lower stats detail)) := by
  have coded : ∀ code : Json, Fields.get (if code.truthy = true then
      Dict.set (runSummary lower runId stats detail) "done_reason_code" code
      else runSummary lower runId stats detail) "is_done" = .bool (seenDone lower stats detail) := by
    intro code
    split <;> simp [get_runSummary]
  have last : ∀ out : Fields, Fields.get out "is_done" = .bool (seenDone lower stats detail) →
      (if full = true then creditsBreakdown runId (Dict.set (runExtras lower stats detail out) "stats" (.obj stats))
        else pure (runExtras lower stats detail out) : Tool Fields).Ends (Tells (seenDone lower stats detail)) := by
    intro out held
    split
    · exact tells_creditsBreakdown runId (by simp [get_runExtras, held])
    · exact (get_runExtras lower stats detail out).trans held
  unfold runReply
  dsimp only
  split
  · exact tells_accountLimitOut _ fun limit => last _ (by simp [coded])
  · exact last _ (coded _)

/-- The call reports the run as done. -/
def ReportsDone (outcome : Except Exc Fields) : Prop :=
  ∃ reply, outcome = .ok reply ∧ Fields.get reply "is_done" = .bool true

theorem get_toErrorDict (e : ApiError) : Fields.get (toErrorDict e) "is_done" = .null := by
  rw [Fields.get, toErrorDict_get_absent e (by decide)]
  rfl

/-- No error says that a run is done. -/
theorem reportsDone_settle {outcome : Except Exit Fields} {done : Bool} (tells : Tells done outcome)
    (reports : ReportsDone (settle none outcome)) : done = true := by
  obtain ⟨reply, settled, reported⟩ := reports
  cases outcome with
  | ok reply' =>
    cases settled
    rw [show Fields.get reply "is_done" = .bool done from tells] at reported
    cases reported
    rfl
  | error exit =>
    cases exit with
    | returned reply' => exact tells.elim
    | raised e =>
      cases e with
      | api rejection =>
        cases settled
        rw [get_toErrorDict] at reported
        cases reported
      | transport lost =>
        cases settled
        cases reported
      | _ => cases settled

section Poll
variable {σ : Type} {m : Machine Call Answer σ} {st : σ} {runId : String} {full : Bool} {run : RunRecord}

/-- The state in which the detail is read. -/
def afterStats (m : Machine Call Answer σ) (runId : String) (st : σ) : σ := (m st (.getRunStats (.str runId))).2

def detailAnswer (m : Machine Call Answer σ) (runId : String) (st : σ) : Answer (.getRun (.str runId)) :=
  (m (afterStats m runId st) (.getRun (.str runId))).1

/-- The state after both reads. -/
def afterDetail (m : Machine Call Answer σ) (runId : String) (st : σ) : σ :=
  (m (afterStats m runId st) (.getRun (.str runId))).2

/-- In this state the run is held so, its stats can be read, and its detail can be or is refused. -/
structure Held (m : Machine Call Answer σ) (runId : String) (st : σ) (run : RunRecord) : Prop where
  stats : (m st (.getRunStats (.str runId))).1 = .ok run.stats
  detail : detailAnswer m runId st = .ok run.detail ∨ ∃ rejection, detailAnswer m runId st = .error (.api rejection)

theorem run_getRunBody {detail : Fields} (stats : (m st (.getRunStats (.str runId))).1 = .ok run.stats)
    (read : (readDetail runId).run m (afterStats m runId st) = (.ok detail, afterDetail m runId st)) :
    (getRunBody lower runId full).run m st = (runReply lower runId full run.stats detail).run m
      (afterDetail m runId st) := by
  rw [getRunBody_eq]
  unfold getRunStats
  rw [Program.run_bind_ok (run_send stats)]
  show ((readDetail runId >>= fun detail => runReply lower runId full run.stats detail).run m
    (afterStats m runId st)) = _
  rw [Program.run_bind_ok read]

theorem run_readDetail_ok {detail : Fields} (answered : detailAnswer m runId st = .ok detail) :
    (readDetail runId).run m (afterStats m runId st) = (.ok detail, afterDetail m runId st) := by
  unfold readDetail request
  rw [Program.run_ask_bind, ← detailAnswer, answered]
  rfl

theorem run_readDetail_rejected {rejection : ApiError} (refused : detailAnswer m runId st = .error (.api rejection)) :
    (readDetail runId).run m (afterStats m runId st) = (.ok [], afterDetail m runId st) := by
  unfold readDetail request
  rw [Program.run_ask_bind, ← detailAnswer, refused]
  rfl

/-- What the call reports is what it saw. -/
theorem reported_seen {detail : Fields} (stats : (m st (.getRunStats (.str runId))).1 = .ok run.stats)
    (read : (readDetail runId).run m (afterStats m runId st) = (.ok detail, afterDetail m runId st))
    (reports : ReportsDone ((getRunImpl lower runId full).run m st).1) : seenDone lower run.stats detail = true := by
  rw [getRunImpl, structured_run, run_getRunBody lower stats read] at reports
  exact reportsDone_settle ((tells_runReply lower runId full run.stats detail).run _) reports

/-- The credits of the run are told, or the API says that it has none. -/
def CreditsTold (answer : Except Exc Json) : Prop :=
  match answer with
  | .ok credits => credits.truthy = false ∨ credits.asObj?.isSome = true
  | .error (.api _) => True
  | .error _ => False

theorem reports_creditsBreakdown {out : Fields} (held : Fields.get out "is_done" = .bool true) (st : σ) :
    ReportsDone (settle none ((creditsBreakdown runId out).run m st).1) ↔
      CreditsTold (m st (.getRunCredits (.str runId))).1 := by
  unfold creditsBreakdown request
  rw [Program.run_ask_bind]
  cases (m st (.getRunCredits (.str runId))).1 with
  | error e =>
    cases e with
    | api rejection => exact iff_of_true ⟨out, rfl, held⟩ trivial
    | transport lost =>
      refine iff_of_false ?_ id
      rintro ⟨reply, ⟨⟩, done⟩
      cases done
    | _ =>
      refine iff_of_false ?_ id
      rintro ⟨reply, absurd, -⟩
      cases absurd
  | ok credits =>
    dsimp only
    split
    · rename_i fields seen
      refine iff_of_true ⟨_, rfl, (Fields.get_set _ _ _ _).trans held⟩ ?_
      by_cases given : credits.truthy = true
      · rw [if_pos given] at seen
        subst seen
        exact .inr rfl
      · exact .inl (by simpa using given)
    · rename_i other
      refine iff_of_false ?_ ?_
      · rintro ⟨reply, absurd, -⟩
        cases absurd
      · rintro (empty | object)
        · exact other [] (by simp [empty])
        · cases credits with
          | obj fields =>
            by_cases given : (Json.obj fields).truthy = true
            · exact other fields (if_pos given)
            · exact other [] (if_neg given)
          | _ => cases object

/-- With its detail refused, a run is reported as its stats have it. -/
theorem reports_refused_iff {rejection : ApiError} (stats : (m st (.getRunStats (.str runId))).1 = .ok run.stats)
    (refused : detailAnswer m runId st = .error (.api rejection)) :
    ReportsDone ((getRunImpl lower runId full).run m st).1 ↔
      statsSayDone lower run.stats ∧
        (full = true → CreditsTold (m (afterDetail m runId st) (.getRunCredits (.str runId))).1) := by
  have read := run_readDetail_rejected refused
  have finished : statsSayDone lower run.stats → ∀ extra : Fields → Fields,
      (∀ out, Fields.get (extra out) "is_done" = Fields.get out "is_done") →
      Fields.get (extra (runExtras lower run.stats [] (runSummary lower runId run.stats []))) "is_done" =
        .bool true := by
    intro done extra keeps
    rw [keeps, get_runExtras, get_runSummary, (seenDone_nil lower run.stats).mpr done]
  have reply : (runReply lower runId full run.stats []).run m (afterDetail m runId st) =
      (if full = true then creditsBreakdown runId (Dict.set (runExtras lower run.stats []
        (runSummary lower runId run.stats [])) "stats" (.obj run.stats))
        else pure (runExtras lower run.stats [] (runSummary lower runId run.stats [])) : Tool Fields).run m
          (afterDetail m runId st) := rfl
  constructor
  · intro reports
    have done := (seenDone_nil lower run.stats).mp (reported_seen lower stats read reports)
    refine ⟨done, fun asked => ?_⟩
    rw [getRunImpl, structured_run, run_getRunBody lower stats read, reply, if_pos asked] at reports
    exact (reports_creditsBreakdown (finished done (Dict.set · "stats" _) fun out => by simp) _).mp reports
  · rintro ⟨done, told⟩
    rw [getRunImpl, structured_run, run_getRunBody lower stats read, reply]
    by_cases asked : full = true
    · rw [if_pos asked]
      exact (reports_creditsBreakdown (finished done (Dict.set · "stats" _) fun out => by simp) _).mpr (told asked)
    · rw [if_neg asked]
      exact ⟨_, rfl, finished done id fun _ => rfl⟩

/-- What a report can be trusted for: the detail is read, or what only it shows is finished too, or
nothing is reported without it. -/
def Trusted (m : Machine Call Answer σ) (runId : String) (full : Bool) (st : σ) (run : RunRecord) : Prop :=
  detailAnswer m runId st = .ok run.detail ∨ ¬ statsSayDone lower run.stats ∨ run.FullyDone lower ∨
    (full = true ∧ ¬ CreditsTold (m (afterDetail m runId st) (.getRunCredits (.str runId))).1)

theorem done_iff_trusted (held : Held m runId st run) :
    (ReportsDone ((getRunImpl lower runId full).run m st).1 → run.FullyDone lower) ↔
      Trusted lower m runId full st run := by
  rcases held.detail with answered | ⟨rejection, refused⟩
  · refine iff_of_true (fun reports => ?_) (.inl answered)
    exact (seenDone_iff lower run).mp (reported_seen lower held.stats (run_readDetail_ok answered) reports)
  · have unread : detailAnswer m runId st ≠ .ok run.detail := by
      rw [refused]
      exact fun absurd => by cases absurd
    rw [reports_refused_iff lower held.stats refused]
    unfold Trusted
    tauto

end Poll
end Lower

/-! ### Waiting -/

/-- An API beside a clock, and what sleeping does to it. -/
structure TimedApi (σ : Type) where
  api : Machine Call Answer σ
  read : σ → Rat × σ
  sleep : σ → Rat → σ

/-- The looks of `wait_for_run_impl` are calls of `get_run_impl`. -/
def TimedApi.polling {σ : Type} (lower : String → String) (w : TimedApi σ) (runId : String) :
    Machine Polling (Polling.Ans Exc Fields) σ
  | st, .poll => (getRunImpl lower runId false).run w.api st
  | st, .now => w.read st
  | st, .sleep seconds => ((), w.sleep st seconds)

section Wait
variable {σ : Type} {m : Machine Polling (Polling.Ans Exc Fields) σ} {st : σ} {runId : String} {timeout : Rat}
  {rounds : Nat} {reply out : Fields}

theorem waitReply_done (done : Fields.get (waitReply runId timeout out) "is_done" = .bool true) :
    waitReply runId timeout out = out := by
  cases settled : waitSettled out with
  | true => exact waitReply_settled settled
  | false =>
    have kept : Dict.get? (waitReply runId timeout out) "is_done" = Dict.get? out "is_done" :=
      (waitReply_waiting settled).2.2 _ (by decide)
    have reported : Fields.get out "is_done" = .bool true := by
      rw [← done, Fields.get, Fields.get, kept]
    rw [waitSettled, reported] at settled
    cases settled

theorem settle_raised_done {e : Exc} (ended : (settle none (.error (.raised e))).map some = .ok (some reply))
    (done : Fields.get reply "is_done" = .bool true) : False := by
  cases e with
  | api rejection =>
    cases ended
    rw [get_toErrorDict] at done
    cases done
  | transport lost =>
    cases ended
    cases done
  | _ => cases ended

/-- A wait that reports the run as done repeats one of its polls. -/
theorem waited_done (ended : ((waitForRunImpl rounds runId timeout).run m st).1 = .ok (some reply))
    (done : Fields.get reply "is_done" = .bool true) :
    ∃ asked, (⟨asked, .poll, .ok reply⟩ : Event Polling (Polling.Ans Exc Fields) σ) ∈
      (waitForRunImpl rounds runId timeout).trace m st := by
  rw [run_waitForRunImpl] at ended
  rw [trace_waitForRunImpl]
  unfold waitForRun look at ended ⊢
  dsimp only at ended ⊢
  rw [Program.run_ask_bind, Program.bind_assoc, Program.run_ask_bind] at ended
  rw [Program.trace_ask_bind, Program.bind_assoc, Program.trace_ask_bind]
  cases first : (m (m st .now).2 .poll).1 with
  | error e =>
    rw [first] at ended
    exact (settle_raised_done ended done).elim
  | ok out =>
    rw [first] at ended
    replace ended := (congrArg settleWait (Program.run_map _ _ _).symm).trans ended
    suffices within : ∃ asked, (⟨asked, .poll, .ok reply⟩ : Event Polling (Polling.Ans Exc Fields) σ) ∈
        ⟨(m st .now).2, .poll, .ok out⟩ :: (pollUntil Exit.raised waitSettled waitPollIntervalSeconds
          ((m st .now).1 + clampTimeout timeout) rounds out).trace m (m (m st .now).2 .poll).2 by
      obtain ⟨asked, member⟩ := within
      refine ⟨asked, List.mem_cons_of_mem _ ?_⟩
      rcases List.mem_cons.mp member with same | member
      · exact List.mem_cons.mpr (.inl same)
      · exact List.mem_cons_of_mem _ ((congrArg (_ ∈ ·) (Program.trace_map _ _ _)).mpr member)
    rcases @pollUntil_cases Exc Exit Fields σ Exit.raised waitSettled waitPollIntervalSeconds
      ((m st .now).1 + clampTimeout timeout) m rounds out (m (m st .now).2 .poll).2 with
      ⟨seen, came, place⟩ | short | ⟨e, raised⟩
    · rw [came] at ended
      cases ended
      rw [waitReply_done done]
      rcases place with rfl | ⟨asked, member⟩
      · exact ⟨_, List.mem_cons_self⟩
      · exact ⟨asked, List.mem_cons_of_mem _ member⟩
    · rw [short] at ended
      cases ended
    · rw [raised] at ended
      exact (settle_raised_done ended done).elim

end Wait

/-- A run reported as done is fully done exactly where the report can be trusted, and a wait reports
what one of its polls did. -/
theorem done_means_fully_done_iff (lower : String → String) {σ : Type} :
    (∀ (m : Machine Call Answer σ) (st : σ) (runId : String) (full : Bool) (run : RunRecord), Held m runId st run →
      ((ReportsDone ((getRunImpl lower runId full).run m st).1 → run.FullyDone lower) ↔
        Trusted lower m runId full st run)) ∧
    ∀ (w : TimedApi σ) (st : σ) (runId : String) (timeout : Rat) (rounds : Nat) (reply : Fields),
      ((waitForRunImpl rounds runId timeout).run (w.polling lower runId) st).1 = .ok (some reply) →
        Fields.get reply "is_done" = .bool true →
          ∃ asked, (⟨asked, .poll, .ok reply⟩ : Event Polling (Polling.Ans Exc Fields) σ) ∈
              (waitForRunImpl rounds runId timeout).trace (w.polling lower runId) st ∧
            ∀ run, Held w.api runId asked run → Trusted lower w.api runId false asked run → run.FullyDone lower := by
  constructor
  · intro m st runId full run held
    exact done_iff_trusted lower held
  · intro w st runId timeout rounds reply ended done
    obtain ⟨asked, member⟩ := waited_done ended done
    refine ⟨asked, member, fun run held trusted => (done_iff_trusted lower held).mpr trusted ⟨reply, ?_, done⟩⟩
    exact (Program.trace_answers _ _ _ member).symm

/-- A run that is over, and whose e-mails are still being verified. -/
def verifyingRun : RunRecord where
  stats := [("id", .str "run"), ("is_done", .bool true)]
  detail := [("id", .str "run"), ("status", .str "DONE"), ("email_verification", .obj [("is_done", .bool false)])]

/-- An API that serves the stats of a run, and answers its detail so. -/
def runApi (run : RunRecord) (detail : Except Exc Fields) : Machine Call Answer Unit
  | _, .getRunStats _ => (.ok run.stats, ())
  | _, .getRun _ => (detail, ())
  | _, _ => (.error (.api (.make 404 none none)), ())

/-- With its detail refused, it is reported as done. -/
theorem refused_detail_reports_done :
    Held (runApi verifyingRun (.error (.api (.make 503 none none)))) "run" () verifyingRun ∧
      ReportsDone ((getRunImpl asciiLower "run" false).run
        (runApi verifyingRun (.error (.api (.make 503 none none)))) ()).1 ∧
      ¬ verifyingRun.FullyDone asciiLower := by
  refine ⟨⟨rfl, .inr ⟨_, rfl⟩⟩, ⟨_, rfl, rfl⟩, fun done => ?_⟩
  have verified := done.verified _ rfl
  cases verified

/-- A run that is over, with its e-mails verified. -/
def verifiedRun : RunRecord where
  stats := [("id", .str "run"), ("is_done", .bool true)]
  detail := [("id", .str "run"), ("status", .str "DONE"), ("email_verification", .obj [("is_done", .bool true)])]

/-- With its detail read, a run that is reported as done is. -/
theorem read_detail_is_trusted :
    ReportsDone ((getRunImpl asciiLower "run" false).run (runApi verifiedRun (.ok verifiedRun.detail)) ()).1 ∧
      verifiedRun.FullyDone asciiLower := by
  have reports : ReportsDone
      ((getRunImpl asciiLower "run" false).run (runApi verifiedRun (.ok verifiedRun.detail)) ()).1 := ⟨_, rfl, rfl⟩
  have held : Held (runApi verifiedRun (.ok verifiedRun.detail)) "run" () verifiedRun := ⟨rfl, .inl rfl⟩
  exact ⟨reports, ((done_means_fully_done_iff asciiLower).1 _ _ _ _ _ held).mpr (.inl rfl) reports⟩

end LobstrMcp
