import LobstrMcp.Tools.Attaching

/-!
An account that the caller names. Both tools that attach one look it up and refuse the same answers; but a list
in the answer is taken for its first record, whoever that is, and what is attached is the id of the record in one
tool and the id that was passed in the other.
-/

namespace LobstrMcp
open Interaction Tool

/-- The record in an answer of `get_account`: the payload itself, or the first of its list. -/
def recordIn (answer : Except Exc Json) : Option Fields :=
  match answer with
  | .ok payload => (accountOf payload).asObj?
  | .error _ => none

/-- `resolve_account` takes the record of the answer for an account of the type. -/
structure Accepts (type : Json) (answer : Except Exc Json) (account : Fields) : Prop where
  record : recordIn answer = some account
  named : (Fields.get account "id").truthy = true
  typed : Fields.get account "type" = type

/-- The record of the answer is the account that was asked for, if it is an account at all. -/
def NamesItself (accountId : String) (answer : Except Exc Json) : Prop :=
  ∀ account, recordIn answer = some account → (Fields.get account "id").truthy = true →
    Fields.get account "type" ≠ .null → Fields.get account "id" = .str accountId

/-! ### The look-up -/

section LookUp
variable {σ : Type} {m : Machine Call Answer σ} {st : σ} {s : Session} {accountId : String} {type : Json}
  {answer : Except Exc Json} {account : Fields}

theorem asObj?_eq_some {v : Json} {fields : Fields} (held : v.asObj? = some fields) : v = .obj fields := by
  cases v <;> cases held
  rfl

theorem item_id (named : (Fields.get account "id").truthy = true) :
    item account "id" = pure (Fields.get account "id") := by
  unfold Fields.get item at *
  cases held : Dict.get? account "id" with
  | none =>
    rw [held] at named
    cases named
  | some id => rfl

theorem run_resolveAccount_accepts (answered : (m st (.getAccount accountId)).1 = answer)
    (accepts : Accepts type answer account) :
    ∃ w, (resolveAccount accountId type).run m st = (.ok (.ok account), w) := by
  refine ⟨(m st (.getAccount accountId)).2, ?_⟩
  obtain ⟨record, named, typed⟩ := accepts
  cases answer with
  | error e => cases record
  | ok payload =>
    unfold resolveAccount request
    rw [Program.run_ask_bind, answered]
    dsimp only
    rw [asObj?_eq_some record]
    simp [named, typed]

theorem run_resolveAccount_refuses (answered : (m st (.getAccount accountId)).1 = answer)
    (refuses : ∀ account, ¬ Accepts type answer account) :
    (∃ error w, (resolveAccount accountId type).run m st = (.ok (.error error), w)) ∨
      ∃ e w, (resolveAccount accountId type).run m st = (.error e, w) := by
  unfold resolveAccount request
  rw [Program.run_ask_bind, answered]
  cases answer with
  | error e =>
    cases e with
    | api rejection => exact .inl ⟨_, _, rfl⟩
    | _ => exact .inr ⟨_, _, rfl⟩
  | ok payload =>
    refine .inl ?_
    dsimp only
    cases found : accountOf payload with
    | obj account =>
      dsimp only
      split
      · exact ⟨_, _, rfl⟩
      rename_i named
      split
      · exact ⟨_, _, rfl⟩
      · rename_i typed
        refine (refuses account ⟨?_, by simpa using named, not_not.mp typed⟩).elim
        rw [recordIn, found]
        rfl
    | _ => exact ⟨_, _, rfl⟩

theorem run_chooseGiven_accepts (answered : (m st (.getAccount accountId)).1 = answer)
    (accepts : Accepts type answer account) (current : List String) : ∃ choice w,
      (chooseGiven s accountId type current).run m st = (.ok choice, w) ∧
        choice.resolvedId = some (Fields.get account "id") := by
  obtain ⟨w, found⟩ := run_resolveAccount_accepts answered accepts
  unfold chooseGiven
  rw [Program.run_bind_ok found]
  dsimp only
  rw [item_id accepts.named]
  exact ⟨_, _, rfl, rfl⟩

theorem run_chooseGiven_refuses (answered : (m st (.getAccount accountId)).1 = answer)
    (refuses : ∀ account, ¬ Accepts type answer account) (current : List String) :
    ∃ e w, (chooseGiven s accountId type current).run m st = (.error e, w) := by
  unfold chooseGiven
  rcases run_resolveAccount_refuses answered refuses with ⟨error, w, found⟩ | ⟨e, w, found⟩
  · rw [Program.run_bind_ok found]
    exact ⟨_, _, rfl⟩
  · rw [Program.run_bind, found]
    exact ⟨_, _, rfl⟩

theorem run_findAttachment_accepts (answered : (m st (.getAccount accountId)).1 = answer)
    (accepts : Accepts type answer account) (squidId : String) (current : List String) : ∃ found w,
      (findAttachment s squidId (some accountId) type current).run m st = (.ok found, w) ∧
        found.accountId = .str accountId := by
  obtain ⟨w, found⟩ := run_resolveAccount_accepts answered accepts
  unfold findAttachment
  dsimp only
  rw [Program.run_bind_ok found]
  exact ⟨_, _, rfl, rfl⟩

theorem run_findAttachment_refuses (answered : (m st (.getAccount accountId)).1 = answer)
    (refuses : ∀ account, ¬ Accepts type answer account) (squidId : String) (current : List String) :
    ∃ e w, (findAttachment s squidId (some accountId) type current).run m st = (.error e, w) := by
  unfold findAttachment
  dsimp only
  rcases run_resolveAccount_refuses answered refuses with ⟨error, w, found⟩ | ⟨e, w, found⟩
  · rw [Program.run_bind_ok found]
    exact ⟨_, _, rfl⟩
  · rw [Program.run_bind, found]
    exact ⟨_, _, rfl⟩

end LookUp

/-! ### What the two tools make of it -/

/-- Both refuse, or both take the record that is in the answer, and it is the one that was asked for. -/
def SameRecord (accountId : String) (answer : Except Exc Json) (attached : Except Exit Fields)
    (chosen : Except Exit AccountChoice) : Prop :=
  (∃ e e', attached = .error e ∧ chosen = .error e') ∨
    ∃ reply choice account, attached = .ok reply ∧ chosen = .ok choice ∧ recordIn answer = some account ∧
      Fields.get account "id" = .str accountId ∧ Fields.get reply "account_id" = Fields.get account "id" ∧
      choice.resolvedId = some (Fields.get account "id")

/-- The API holds the squid and its crawler, answers so for the account, and takes what is written. -/
structure AnswersFor {σ : Type} (m : Machine Call Answer σ) (squidId accountId : String) (squid : Fields)
    (crawler : Crawler) (answer : Except Exc Json) : Prop where
  read : ∀ st, (m st (.getSquid (.str squidId))).1 = .ok squid
  crawled : ∀ st, ((crawlerOf squid).run m st).1 = .ok crawler
  answered : ∀ st, (m st (.getAccount accountId)).1 = answer
  saves : ∀ st settings, ∃ saved, (m st (.updateSquid (.str squidId) settings)).1 = .ok saved

section Tools
variable {σ : Type} {m : Machine Call Answer σ} {s : Session} {args : RunArgs} {squidId accountId : String}
  {target : Target} {answer : Except Exc Json} {account squid : Fields} {crawler : Crawler} {current : List String}

theorem AnswersFor.reads (answers : AnswersFor m squidId accountId squid crawler answer) (st : σ) : ∃ v w,
    (getSquid (.str squidId)).run m st = (.ok squid, v) ∧ (crawlerOf squid).run m v = (.ok crawler, w) := by
  refine ⟨(m st (.getSquid (.str squidId))).2, _, ?_, Prod.ext (answers.crawled _) rfl⟩
  exact run_send (answers.read st)

/-- Where `attach_account` comes to look at the account. -/
theorem AnswersFor.attach (answers : AnswersFor m squidId accountId squid crawler answer)
    (needs : crawlerAccountType crawler ≠ .null) (readable : squidAccountIds squid = some current) (st : σ) : ∃ w,
      (∀ e v, (findAttachment s squidId (some accountId) (crawlerAccountType crawler) current).run m w = (.error e, v) →
        ((attachAccount s squidId (some accountId)).run m st).1 = .error e) ∧
      ∀ found v, (findAttachment s squidId (some accountId) (crawlerAccountType crawler) current).run m w =
        (.ok found, v) → ∃ reply, ((attachAccount s squidId (some accountId)).run m st).1 = .ok reply ∧
          Fields.get reply "account_id" = found.accountId := by
  obtain ⟨v, w, read, crawled⟩ := answers.reads st
  refine ⟨w, ?_, ?_⟩
  · intro e v failed
    unfold attachAccount
    rw [Program.run_bind_ok read, Program.run_bind_ok crawled]
    dsimp only
    rw [if_neg needs, readable]
    dsimp only
    rw [Program.run_bind, failed]
  · intro found v ran
    unfold attachAccount
    rw [Program.run_bind_ok read, Program.run_bind_ok crawled]
    dsimp only
    rw [if_neg needs, readable]
    dsimp only
    rw [Program.run_bind_ok ran]
    obtain ⟨saved, written⟩ := answers.saves v [("accounts", .arr (current.map .str ++ [found.accountId]))]
    split
    · refine ⟨_, rfl, ?_⟩
      cases found.warning <;> simp [Dict.update_cons, Dict.update_nil]
    · unfold updateSquid
      rw [Program.run_bind_ok (run_send written)]
      refine ⟨_, rfl, ?_⟩
      cases found.warning <;> simp [Dict.update_cons, Dict.update_nil]

/-- What `run_scraper` makes of a named account is what `chooseGiven` does, once the squid is read. -/
theorem chooseAccount_given (reused : args.reused = some squidId) (given : args.accountId = some accountId)
    (needs : crawlerAccountType target.crawler ≠ .null) (readable : squidAccountIds target.squid = some current) :
    chooseAccount s args target = chooseGiven s accountId (crawlerAccountType target.crawler) current := by
  have reuse : args.reuse = true := by
    rw [RunArgs.reuse, reused]
    rfl
  unfold chooseAccount
  dsimp only
  rw [reuse, if_pos rfl, readable]
  dsimp only
  rw [if_neg needs, given]

/-- Neither goes on with an account where the scraper needs none, or where those of the squid cannot be read. -/
theorem AnswersFor.both_refuse (answers : AnswersFor m squidId accountId target.squid target.crawler answer)
    (reused : args.reused = some squidId) (given : args.accountId = some accountId)
    (not : crawlerAccountType target.crawler = .null ∨ squidAccountIds target.squid = none) (st st' : σ) :
    ∃ e e', ((attachAccount s squidId (some accountId)).run m st).1 = .error e ∧
      ((chooseAccount s args target).run m st').1 = .error e' := by
  have reuse : args.reuse = true := by
    rw [RunArgs.reuse, reused]
    rfl
  obtain ⟨v, w, read, crawled⟩ := answers.reads st
  unfold attachAccount chooseAccount
  rw [Program.run_bind_ok read, Program.run_bind_ok crawled, reuse, if_pos rfl]
  dsimp only
  cases readable : squidAccountIds target.squid with
  | none =>
    dsimp only
    split <;> exact ⟨_, _, rfl, rfl⟩
  | some current =>
    have needs : crawlerAccountType target.crawler = .null := not.resolve_right (by simp [readable])
    dsimp only
    rw [if_pos needs, if_pos needs, given]
    exact ⟨_, _, rfl, rfl⟩

/-- On a squid with the same ids, both paths make the same of an answer that names the account. -/
theorem AnswersFor.sameRecord (answers : AnswersFor m squidId accountId target.squid target.crawler answer)
    (reused : args.reused = some squidId) (given : args.accountId = some accountId)
    (names : NamesItself accountId answer) (st st' : σ) : SameRecord accountId answer
      ((attachAccount s squidId (some accountId)).run m st).1 ((chooseAccount s args target).run m st').1 := by
  by_cases needs : crawlerAccountType target.crawler = .null
  · exact .inl (answers.both_refuse reused given (.inl needs) st st')
  cases readable : squidAccountIds target.squid with
  | none => exact .inl (answers.both_refuse reused given (.inr readable) st st')
  | some current =>
    obtain ⟨w, refuses, accepts⟩ := AnswersFor.attach (s := s) answers needs readable st
    rw [chooseAccount_given reused given needs readable]
    by_cases accepted : ∃ account, Accepts (crawlerAccountType target.crawler) answer account
    · obtain ⟨account, accepted⟩ := accepted
      have itself := names account accepted.record accepted.named (accepted.typed ▸ needs)
      obtain ⟨found, v, ran, id⟩ := run_findAttachment_accepts (s := s) (answers.answered w) accepted squidId current
      obtain ⟨reply, replied, shown⟩ := accepts found v ran
      obtain ⟨choice, v', chosen, resolved⟩ := run_chooseGiven_accepts (s := s) (answers.answered st') accepted current
      refine .inr ⟨reply, choice, account, replied, by rw [chosen], accepted.record, itself, ?_, resolved⟩
      rw [shown, id, itself]
    · have refused := not_exists.mp accepted
      obtain ⟨e, v, ran⟩ := run_findAttachment_refuses (s := s) (answers.answered w) refused squidId current
      obtain ⟨e', v', chosen⟩ := run_chooseGiven_refuses (s := s) (answers.answered st') refused current
      exact .inl ⟨e, e', refuses e v ran, by rw [chosen]⟩

end Tools

/-! ### What is written -/

/-- The account that a call names. -/
def AttachingTool.given : AttachingTool → Option String
  | .runScraper _ args => args.accountId
  | .attachAccount _ _ accountId => accountId

section Writes
variable {σ : Type} {W : World Call Answer σ} {u v : σ} {tr : List (Event Call Answer σ)} {s : Session} {args : RunArgs}
  {squidId accountId : String} {type : Json} {account : Fields}

/-- The account was looked up in the run, and this record was accepted for it. -/
def LookedUpIn (tr : List (Event Call Answer σ)) (accountId : String) (account : Fields) : Prop :=
  ∃ b answer type, (⟨b, .getAccount accountId, answer⟩ : Event Call Answer σ) ∈ tr ∧ type ≠ .null ∧
    Accepts type answer account

theorem LookedUpIn.mono {tr' : List (Event Call Answer σ)} (looked : LookedUpIn tr accountId account)
    (within : ∀ e ∈ tr, e ∈ tr') : LookedUpIn tr' accountId account := by
  obtain ⟨b, answer, type, member, needs, accepts⟩ := looked
  exact ⟨b, answer, type, within _ member, needs, accepts⟩

theorem lookedUp_of_exec (needs : type ≠ .null)
    (run : Exec W (resolveAccount accountId type) u tr (.ok (.ok account)) v) : LookedUpIn tr accountId account := by
  unfold resolveAccount at run
  obtain ⟨answer, mid, rest, step, same, after⟩ := exec_request_bind.mp run
  subst same
  refine ⟨u, answer, type, List.mem_cons_self, needs, ?_⟩
  cases answer with
  | error e => cases e <;> cases after
  | ok payload =>
    dsimp only at after
    cases found : accountOf payload with
    | obj record =>
      rw [found] at after
      dsimp only at after
      split at after
      · cases after
      rename_i named
      split at after
      · cases after
      rename_i typed
      cases after
      refine ⟨?_, by simpa using named, not_not.mp typed⟩
      rw [recordIn, found]
      rfl
    | _ =>
      rw [found] at after
      cases after

/-- Nothing is written before the second half of a sequence, where the first one writes no accounts. -/
theorem written_after {α β : Type} {p : Tool α} {f : α → Tool β} {r : Except Exit β} {e : Event Call Answer σ}
    {accounts : Json} (silent : p.Uses fun c => accountsWritten c = none) (run : Exec W (p >>= f) u tr r v)
    (member : e ∈ tr) (written : accountsWritten e.op = some accounts) : ∃ a mid first rest, tr = first ++ rest ∧
      Exec W p u first (.ok a) mid ∧ Exec W (f a) mid rest r v ∧ e ∈ rest := by
  have quiet {before : List (Event Call Answer σ)} {x : Except Exit α} {t : σ} (head : Exec W p u before x t)
      (there : e ∈ before) : False := by
    rw [head.uses silent e there] at written
    cases written
  rcases exec_bind.mp run with ⟨x, rfl, head⟩ | ⟨a, mid, first, rest, rfl, head, tail⟩
  · exact (quiet head member).elim
  · exact ⟨a, mid, first, rest, rfl, head, tail, (List.mem_append.mp member).resolve_left (quiet head)⟩

theorem accountsWritten_of_reads {c : Call} (reads : c.writes = false) : accountsWritten c = none := by
  cases c <;> first | rfl | cases reads

/-- `attach_account` writes the id that it was given. -/
theorem attachAccount_writes {r : Except Exit Fields} (run : Exec W (attachAccount s squidId (some accountId)) u tr r v)
    {e : Event Call Answer σ} (member : e ∈ tr) {accounts : Json} (written : accountsWritten e.op = some accounts) :
    ∃ front account, LookedUpIn tr accountId account ∧ accounts = .arr (front ++ [.str accountId]) := by
  unfold attachAccount at run
  obtain ⟨squid, _, _, _, rfl, _, onward, later⟩ := written_after ((uses_send _).mpr rfl) run member written
  obtain ⟨crawler, _, _, _, rfl, _, run, member⟩ := written_after (uses_crawlerOf _ fun _ => rfl) onward later written
  dsimp only at run
  split at run
  · obtain ⟨rfl, _⟩ := exec_returned.mp run
    cases member
  rename_i needs
  cases readable : squidAccountIds squid with
  | none =>
    rw [readable] at run
    obtain ⟨rfl, _⟩ := exec_returned.mp run
    cases member
  | some current =>
    rw [readable] at run
    dsimp only at run
    obtain ⟨found, _, first, _, rfl, looked, attaches, there⟩ :=
      written_after (uses_findAttachment _ _ _ _ _ (fun _ => rfl) fun _ _ _ _ => rfl) run member written
    -- the look-up, and the id that goes with it
    unfold findAttachment at looked
    obtain ⟨answer, _, _, _, rfl, resolved, looked⟩ := exec_bind_ok.mp looked
    cases answer with
    | error error => exact absurd looked not_exec_returned
    | ok account =>
      obtain ⟨rfl, same, rfl⟩ := exec_pure.mp looked
      cases same
      split at attaches
      · obtain ⟨rfl, _⟩ := exec_pure.mp attaches
        cases there
      · refine ⟨current.map .str, account, (lookedUp_of_exec needs resolved).mono fun e there => by simp [there], ?_⟩
        have saves : (updateSquid (.str squidId) [("accounts", .arr (current.map .str ++ [.str accountId]))]).Uses
            fun c => ∀ accounts, accountsWritten c = some accounts →
              accounts = .arr (current.map .str ++ [.str accountId]) := by
          refine (uses_send _).mpr fun accounts held => ?_
          cases held
          rfl
        exact attaches.uses (Program.uses_bind saves fun _ => trivial) e there accounts written

/-- `run_scraper` writes the id of the record it found. -/
theorem chooseAccount_given_saves {target : Target} {choice : AccountChoice} (given : args.accountId = some accountId)
    (run : Exec W (chooseAccount s args target) u tr (.ok choice) v) : ∃ account, LookedUpIn tr accountId account ∧
      (choice.toSave ≠ [] → ∃ front, choice.toSave = front ++ [Fields.get account "id"]) := by
  unfold chooseAccount at run
  dsimp only at run
  split at run
  · exact absurd run not_exec_returned
  split at run
  · rw [given] at run
    exact absurd run not_exec_returned
  rename_i current _ needs
  rw [given] at run
  unfold chooseGiven at run
  obtain ⟨answer, _, _, _, rfl, resolved, run⟩ := exec_bind_ok.mp run
  cases answer with
  | error error => exact absurd run not_exec_returned
  | ok account =>
    have looked := lookedUp_of_exec needs resolved
    obtain ⟨_, _, _, accepts⟩ := id looked
    dsimp only at run
    rw [item_id accepts.2.2.named] at run
    obtain ⟨rfl, same, rfl⟩ := exec_pure.mp run
    cases same
    refine ⟨account, looked.mono fun e there => by simp [there], fun some' => ?_⟩
    dsimp only at some' ⊢
    split
    · rename_i attached
      rw [if_pos attached] at some'
      exact (some' rfl).elim
    · exact ⟨_, rfl⟩

/-- The account that a run is planned with was looked up. -/
theorem prepareRun_given_saves {plan : RunPlan} (given : args.accountId = some accountId)
    (run : Exec W (prepareRun s args) u tr (.ok plan) v) : ∃ account, LookedUpIn tr accountId account ∧
      (plan.account.toSave ≠ [] → ∃ front, plan.account.toSave = front ++ [Fields.get account "id"]) := by
  unfold prepareRun at run
  split at run
  · exact absurd run not_exec_returned
  obtain ⟨target, _, _, _, rfl, _, run⟩ := exec_bind_ok.mp run
  dsimp only at run
  split at run
  · exact absurd run not_exec_returned
  obtain ⟨_, _, _, _, rfl, _, run⟩ := exec_bind_ok.mp run
  obtain ⟨choice, _, _, _, rfl, chosen, run⟩ := exec_bind_ok.mp run
  obtain ⟨_, _, _, _, rfl, _, run⟩ := exec_bind_ok.mp run
  obtain ⟨rfl, same, rfl⟩ := exec_pure.mp run
  cases same
  obtain ⟨account, looked, ends⟩ := chooseAccount_given_saves given chosen
  exact ⟨account, looked.mono fun e there => by simp [there], ends⟩

/-- What is committed writes the list of the plan, or none. -/
theorem commitRun_writes {plan : RunPlan} {r : Except Exit Fields} (run : Exec W (commitRun s plan) u tr r v)
    {e : Event Call Answer σ} (member : e ∈ tr) {accounts : Json} (written : accountsWritten e.op = some accounts) :
    accounts = .arr plan.account.toSave ∧ plan.account.toSave ≠ [] := by
  have saves := run.uses (uses_commitRun_saves plan) e member
  cases op : e.op with
  | updateSquid squid settings =>
    rw [op] at saves written
    have held : Dict.get? settings "accounts" =
      if plan.account.toSave.isEmpty then none else some (.arr plan.account.toSave) := saves
    have written : Dict.get? settings "accounts" = some accounts := written
    rw [written] at held
    split at held
    · cases held
    · rename_i some'
      cases held
      exact ⟨rfl, by simpa using some'⟩
  | _ =>
    rw [op] at written
    cases written

/-- A list that is written ends with the id that was passed, or with the one of the record found for it. -/
theorem AttachingTool.writes_lookedUp {tool : AttachingTool} {r : Except Exc Fields}
    (run : Exec W tool.program u tr r v) (given : tool.given = some accountId) {e : Event Call Answer σ}
    (member : e ∈ tr) {accounts : Json} (written : accountsWritten e.op = some accounts) :
    ∃ front account id, LookedUpIn tr accountId account ∧ accounts = .arr (front ++ [id]) ∧
      (id = .str accountId ∨ id = Fields.get account "id") := by
  cases tool with
  | attachAccount s squidId named =>
    obtain rfl : named = some accountId := given
    obtain ⟨outcome, body, -⟩ := exec_structured.mp run
    obtain ⟨front, account, looked, same⟩ := attachAccount_writes body member written
    exact ⟨front, account, _, looked, same, .inl rfl⟩
  | runScraper s args =>
    obtain ⟨outcome, body, -⟩ := exec_structured.mp run
    obtain ⟨plan, _, first, _, rfl, prepared, commits, there⟩ := written_after
      ((uses_prepareRun s args).mono fun _ reads => accountsWritten_of_reads reads.1) body member written
    obtain ⟨same, some'⟩ := commitRun_writes commits there written
    obtain ⟨account, looked, ends⟩ := prepareRun_given_saves given prepared
    obtain ⟨front, ends⟩ := ends some'
    refine ⟨front, account, _, looked.mono fun e there => by simp [there], ?_, .inr rfl⟩
    rw [same, ends]

end Writes

/-- An account that is passed is attached as the one that was looked up, the same way on both paths: both refuse
the answer or take a record with the id that was passed, and a list that is written is what is attached to the
squid and the id of that record. -/
structure LinksLookedUp (accountId : String) (answer : Except Exc Json) : Prop where
  resolves : ∀ (σ : Type) (m : Machine Call Answer σ) (st st' : σ) (s : Session) (args : RunArgs) (squidId : String)
    (target : Target), AnswersFor m squidId accountId target.squid target.crawler answer →
    args.reused = some squidId → args.accountId = some accountId → SameRecord accountId answer
      ((attachAccount s squidId (some accountId)).run m st).1 ((chooseAccount s args target).run m st').1
  writes : ∀ (σ : Type) (W : World Call Answer σ) (tool : AttachingTool) (u t : σ) (tr : List (Event Call Answer σ))
    (r : Except Exc Fields), Exec W tool.program u tr r t → (tool.squid = none → MadeBare tr) →
    tool.given = some accountId →
    (∀ b ans, (⟨b, .getAccount accountId, ans⟩ : Event Call Answer σ) ∈ tr → ans = answer) →
    ∀ e ∈ tr, ∀ accounts, accountsWritten e.op = some accounts → ∃ ids account, Attached tool.squid tr ids ∧
      recordIn answer = some account ∧ Fields.get account "id" = .str accountId ∧
      accounts = .arr (ids.map .str ++ [Fields.get account "id"])

theorem linksLookedUp_of_names {accountId : String} {answer : Except Exc Json} (names : NamesItself accountId answer) :
    LinksLookedUp accountId answer := by
  refine ⟨fun σ m st st' s args squidId target answers reused given => answers.sameRecord reused given names st st', ?_⟩
  intro σ W tool u t tr r run bare given answered e member accounts written
  obtain ⟨front, account, id, ⟨b, ans, type, looked, needs, accepts⟩, last, which⟩ :=
    AttachingTool.writes_lookedUp run given member written
  obtain rfl := answered b ans looked
  have itself := names account accepts.record accepts.named (accepts.typed ▸ needs)
  obtain rfl : id = Fields.get account "id" := which.elim (fun same => same.trans itself.symm) fun same => same
  obtain ⟨ids, added, attached, extended⟩ := AttachingTool.writes_extend run bare e member accounts written
  refine ⟨ids, account, attached, accepts.record, itself, ?_⟩
  rw [extended] at last ⊢
  obtain ⟨-, same⟩ := List.append_inj' (Json.arr.inj last) rfl
  cases same
  rfl

/-! ### One squid -/

/-- A crawler that needs an account of a type. -/
def crawlerNeeding (type : Json) : Crawler := { input := [], fields := [("account", .obj [("type", type)])] }

/-- A squid of such a crawler; the API answers so when it is asked for an account. -/
def lookupApi (type : Json) (answer : Except Exc Json) : Machine Call Answer Unit := fun st c =>
  match c with
  | .getAccount _ => (answer, ())
  | c => steadyApi (plainRecord "squid" .null) (.ok []) (fun _ => crawlerNeeding type) st c

def naming (accountId : String) : RunArgs := { squidId := some "squid", accountId := some accountId, confirm := true }

def lookupTarget (type : Json) : Target where
  squid := plainRecord "squid" .null
  scraper := .str plainCrawlerId
  crawler := crawlerNeeding type
  translated := translateInputSchema (crawlerNeeding type) .null

theorem answersFor_lookupApi (type : Json) (accountId : String) (answer : Except Exc Json) :
    AnswersFor (lookupApi type answer) "squid" accountId (lookupTarget type).squid
      (lookupTarget type).crawler answer where
  read _ := rfl
  crawled _ := rfl
  answered _ := rfl
  saves _ _ := ⟨.null, rfl⟩

/-- A record with another id is enough: both paths take it. -/
theorem names_of_linksLookedUp {accountId : String} {answer : Except Exc Json}
    (links : LinksLookedUp accountId answer) :
    NamesItself accountId answer := by
  intro account record named needs
  have accepts : Accepts (Fields.get account "type") answer account := ⟨record, named, rfl⟩
  have answers := answersFor_lookupApi (Fields.get account "type") accountId answer
  have same := links.resolves Unit _ () () plainSession (naming accountId) "squid" _ answers rfl rfl
  rcases same with ⟨_, e, _, refused⟩ | ⟨_, _, found, _, _, read, itself, _⟩
  · have needs' : crawlerAccountType (lookupTarget (Fields.get account "type")).crawler ≠ .null := needs
    have readable : squidAccountIds (lookupTarget (Fields.get account "type")).squid = some ["account"] := rfl
    rw [chooseAccount_given (show (naming accountId).reused = some "squid" from rfl) rfl needs' readable] at refused
    obtain ⟨choice, w, chosen, _⟩ :=
      run_chooseGiven_accepts (s := plainSession) (answers.answered ()) accepts ["account"]
    rw [show crawlerAccountType (lookupTarget (Fields.get account "type")).crawler = Fields.get account "type" from rfl,
      chosen] at refused
    cases refused
  · rw [record] at read
    cases read
    exact itself

/-- A named account is attached as the one that was looked up exactly when the record in the answer, if it has an
id and a type, has the id that was passed. -/
theorem explicit_account_iff (accountId : String) (answer : Except Exc Json) :
    LinksLookedUp accountId answer ↔ NamesItself accountId answer :=
  ⟨names_of_linksLookedUp, linksLookedUp_of_names⟩

/-- The list of all accounts: what is found under `/accounts/` and no id. -/
def accountList : Except Exc Json :=
  .ok (.obj [("data", .arr [.obj [("id", .str "one"), ("type", .str "linkedin-sync"), ("status", .str "200")]])])

/-- The lists of accounts that a run writes. -/
def listsWritten {σ : Type} (tr : List (Event Call Answer σ)) : List Json :=
  tr.filterMap fun e => accountsWritten e.op

/-- For an empty id one tool attaches the first account there is, the other the empty id. -/
theorem empty_id_is_attached :
    listsWritten ((attachAccountImpl plainSession "squid" (some "")).trace
      (lookupApi (.str "linkedin-sync") accountList) ()) =
        [.arr [.str "account", .str ""]] ∧
      listsWritten ((runScraperImpl plainSession (naming "")).trace (lookupApi (.str "linkedin-sync") accountList) ()) =
        [.arr [.str "account", .str "one"]] ∧
      ¬ LinksLookedUp "" accountList := by
  refine ⟨by decide +kernel, by decide +kernel, fun links => ?_⟩
  have itself := names_of_linksLookedUp links [("id", .str "one"), ("type", .str "linkedin-sync"),
    ("status", .str "200")]
    rfl rfl (by decide)
  exact absurd itself (by decide)

end LobstrMcp
