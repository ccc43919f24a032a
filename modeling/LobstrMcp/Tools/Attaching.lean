import LobstrMcp.Run.Crawler
import LobstrMcp.Tools.Orphans

/-!
The accounts of a squid. The API replaces the whole list, so a call that writes it writes what it
read, and one id more; to a squid that it has made itself, which has none yet, it writes one id. A call
goes through phases: its squid is to be made or has been, or is to be read or has been; what may be
written as `accounts` depends on the phase.
-/

namespace LobstrMcp
open Interaction Tool

/-- The id of one entry of `accounts`: the entry itself, or its `id`. -/
def entryId : Json → Option String
  | .str id => some id
  | .obj account => (Fields.get account "id").asStr?
  | _ => none

/-- The ids that the field holds, none where one of them cannot be read. -/
def attachedIds (field : Json) : Option (List String) :=
  match field with
  | .null => some []
  | .arr entries => entries.mapM entryId
  | _ => none

/-- What a call knows of the accounts of its squid. -/
inductive AccountsPhase where
  /-- The call has yet to make its squid. -/
  | unmade
  | made
  | unread
  | read (field : Json)

/-- The ids that a call takes to be attached, as far as the phase knows. -/
def AccountsPhase.ids : AccountsPhase → Option (List String)
  | .unmade => some []
  | .made => some []
  | .unread => none
  | .read field => attachedIds field

def AccountsPhase.afterCreate : AccountsPhase → AccountsPhase
  | .unmade => .made
  | q => q

/-- The squid of the call is one that it makes. -/
def AccountsPhase.MakesSquid (q : AccountsPhase) : Prop := q = .unmade ∨ q = .made

/-- A list with every id that is attached, in order, and one more. -/
def Extends (ids : Option (List String)) (accounts : Json) : Prop :=
  ∃ known id, ids = some known ∧ accounts = .arr (known.map .str ++ [id])

/-- The record of the squid is read once, or the squid is made, and the field is written from what it holds. -/
def accountsNext (squid : String) : Protocol Call Answer AccountsPhase := fun q c ans q' =>
  match c, ans with
  | .getSquid id, .ok record => id = .str squid ∧ q = .unread ∧ q' = .read (Fields.get record "accounts")
  | .createSquid _ _, .ok _ => q' = q.afterCreate
  | .updateSquid _ body, _ => (∀ accounts, Dict.get? body "accounts" = some accounts →
      q ≠ .unmade ∧ Extends q.ids accounts) ∧ q' = q
  | _, _ => q' = q

theorem mapM_eq_of_mapM {α β : Type} {f g : α → Option β} {items : List α} {values : List β}
    (read : items.mapM f = some values) (agree : ∀ a b, f a = some b → g a = some b) : items.mapM g = some values := by
  induction items generalizing values with
  | nil => exact read
  | cons a items ih =>
    rw [List.mapM_cons] at read ⊢
    obtain ⟨b, head, read⟩ := Option.bind_eq_some_iff.mp read
    obtain ⟨rest, tail, read⟩ := Option.bind_eq_some_iff.mp read
    have tail := ih tail
    simp only [agree a b head, tail]
    exact read

/-- What the code reads is what the field holds. -/
theorem attachedIds_of_squidAccountIds {squid : Fields} {ids : List String}
    (read : squidAccountIds squid = some ids) : attachedIds (Fields.get squid "accounts") = some ids := by
  unfold squidAccountIds at read
  unfold attachedIds
  cases field : Fields.get squid "accounts" with
  | null => simpa [field] using read
  | arr entries =>
    rw [field] at read
    dsimp only at read ⊢
    cases strings : entries.mapM Json.asStr? with
    | some found =>
      rw [strings] at read
      cases read
      refine mapM_eq_of_mapM strings fun a b plain => ?_
      cases a <;> cases plain
      rfl
    | none =>
      rw [strings] at read
      refine mapM_eq_of_mapM read fun a b named => ?_
      cases a <;> first | cases named | exact named
  | _ =>
    rw [field] at read
    cases read

section Follow
variable {squid : String} {q : AccountsPhase} {c : Call} {α β : Type}

/-- No squid is made, the record of none is read, and no list of accounts written. -/
def Call.LeavesAccounts (c : Call) : Prop :=
  match c with
  | .getSquid _ => False
  | .createSquid _ _ => False
  | .updateSquid _ body => Dict.get? body "accounts" = none
  | _ => True

/-- A list of accounts is written only as it is to be saved. -/
def Call.Saves (accounts : List Json) (c : Call) : Prop :=
  match c with
  | .getSquid _ => False
  | .updateSquid _ body => Dict.get? body "accounts" = if accounts.isEmpty then none else some (.arr accounts)
  | _ => True

theorem accountsNext_of_saves {accounts : List Json} (saves : c.Saves accounts)
    (extends' : accounts ≠ [] → q ≠ .unmade ∧ Extends q.ids (.arr accounts))
    (made : ∀ scraper name, c = .createSquid scraper name → q ≠ .unmade) (ans : Answer c) :
    accountsNext squid q c ans q := by
  cases c with
  | getSquid _ => exact saves.elim
  | createSquid scraper name =>
    cases ans with
    | error e => rfl
    | ok _ =>
      cases q with
      | unmade => exact (made scraper name rfl rfl).elim
      | _ => rfl
  | updateSquid id body =>
    refine ⟨fun written carries => ?_, rfl⟩
    have saved : Dict.get? body "accounts" = if accounts.isEmpty then none else some (.arr accounts) := saves
    rw [saved] at carries
    split at carries
    · cases carries
    · rename_i some'
      cases carries
      exact extends' (by simpa using some')
  | _ => rfl

theorem Call.LeavesAccounts.saves (leaves : c.LeavesAccounts) : c.Saves [] := by
  cases c with
  | createSquid _ _ => exact leaves.elim
  | _ => exact leaves

theorem accountsNext_of_leaves (leaves : c.LeavesAccounts) (ans : Answer c) : accountsNext squid q c ans q := by
  refine accountsNext_of_saves leaves.saves (fun absurd => (absurd rfl).elim) ?_ ans
  rintro scraper name rfl
  exact leaves.elim

theorem follows_leaves_bind {good : AccountsPhase → Except Exit β → Prop} {p : Tool α} {f : α → Tool β}
    (leaves : p.Uses Call.LeavesAccounts) (stops : ∀ e, good q (.error e))
    (rest : ∀ a, (f a).Follows (accountsNext squid) good q) : (p >>= f).Follows (accountsNext squid) good q := by
  refine Program.follows_bind.mpr (Program.follows_of_uses leaves
    (fun c same ans => accountsNext_of_leaves same ans) (Program.ends_of_forall (fun r => ?_) p))
  cases r with
  | error e => exact stops e
  | ok a => exact rest a

/-- The record of the squid is read. -/
theorem follows_getSquid_bind {good : AccountsPhase → Except Exit β → Prop} {f : Fields → Tool β}
    (stops : ∀ e, good .unread (.error e))
    (rest : ∀ record, (f record).Follows (accountsNext squid) good (.read (Fields.get record "accounts"))) :
    (getSquid (.str squid) >>= f).Follows (accountsNext squid) good .unread := by
  intro ans
  cases ans with
  | ok record => exact ⟨_, ⟨rfl, rfl, rfl⟩, rest record⟩
  | error e => exact ⟨.unread, rfl, stops _⟩

end Follow

/-! ### run_scraper -/

section RunScraper
variable {s : Session} {args : RunArgs}

/-- Where the squid of a call stands before it is read. -/
def RunArgs.accountsPhase (args : RunArgs) : AccountsPhase := if args.reuse then .unread else .unmade

/-- The name a call reads its squid by. -/
def RunArgs.squidName (args : RunArgs) : String := args.reused.getD ""

/-- What is to be saved is what is known, and one more. -/
def AccountChoice.Adds (q : AccountsPhase) (choice : AccountChoice) : Prop :=
  choice.toSave ≠ [] → Extends q.ids (.arr choice.toSave)

theorem ends_chooseAccount {target : Target} {q : AccountsPhase}
    (known : ∀ ids, (if args.reuse then squidAccountIds target.squid else some []) = some ids → q.ids = some ids) :
    (chooseAccount s args target).Ends fun r => ∀ choice, r = .ok choice → choice.Adds q := by
  have nothing {current : List String} : (pure { current } : Tool AccountChoice).Ends
      fun r => ∀ choice, r = .ok choice → choice.Adds q := by
    rintro choice ⟨⟩ absurd
    exact (absurd rfl).elim
  unfold chooseAccount
  dsimp only
  cases read : if args.reuse then squidAccountIds target.squid else some [] with
  | none => exact fun _ absurd => by cases absurd
  | some current =>
    have ids := known current read
    dsimp only
    split
    · split
      · exact fun _ absurd => by cases absurd
      · exact nothing
    split
    · unfold chooseGiven
      refine Program.ends_bind_value fun found => ?_
      cases found with
      | error error => exact fun _ absurd => by cases absurd
      | ok account =>
        refine Program.ends_bind_value fun id => ?_
        rintro choice ⟨⟩
        intro saved
        dsimp only at saved ⊢
        split
        · rename_i attached
          rw [if_pos attached] at saved
          exact (saved rfl).elim
        · exact ⟨current, id, ids, rfl⟩
    · split
      · rename_i none'
        unfold choosePicked
        refine Program.ends_bind_value fun found => ?_
        cases found with
        | error error => exact fun _ absurd => by cases absurd
        | ok account =>
          refine Program.ends_bind_value fun id => ?_
          rintro choice ⟨⟩ _
          obtain rfl : current = [] := by simpa using none'
          exact ⟨[], id, ids, rfl⟩
      · exact nothing

theorem get?_withAccounts {accounts : List Json} {body : Fields} (silent : Dict.get? body "accounts" = none) :
    Dict.get? (withAccounts accounts body) "accounts" = if accounts.isEmpty then none else some (.arr accounts) := by
  unfold withAccounts
  split
  · exact silent
  · simp

theorem uses_writeNew_saves (plan : RunPlan) : (writeNew plan).Uses (Call.Saves plan.account.toSave) := by
  unfold writeNew
  refine Program.uses_bind ((uses_send _).mpr trivial) fun squid => ?_
  refine Program.uses_bind (uses_item _ _) fun squidId => ?_
  refine Program.uses_bind ((uses_request _).mpr (get?_withAccounts rfl)) fun updated => ?_
  cases updated with
  | error e => exact uses_newSquidFailed trivial
  | ok _ =>
    refine Program.uses_bind ((uses_request _).mpr trivial) fun added => ?_
    cases added with
    | error e => exact uses_newSquidFailed trivial
    | ok _ => trivial

theorem uses_writeInput_saves (plan : RunPlan) : (writeInput plan).Uses (Call.Saves plan.account.toSave) := by
  have updateBody (squid : Json) : (Call.updateSquid squid plan.updateBody).Saves plan.account.toSave :=
    get?_withAccounts rfl
  unfold writeInput
  split
  · unfold writeReused
    refine Program.uses_bind (uses_item _ _) fun squidId => ?_
    split
    · refine Program.uses_bind ?_ fun _ => trivial
      unfold saveAccounts
      split
      · trivial
      · rename_i some'
        refine Program.uses_bind ((uses_send _).mpr ?_) fun _ => trivial
        show Dict.get? _ _ = _
        rw [if_neg some']
        rfl
    split
    · unfold replaceInput
      refine Program.uses_bind (uses_replaceSquidInput (updateBody squidId) trivial fun _ => trivial) ?_
      rintro ⟨failure, replaced⟩
      cases failure <;> trivial
    · have save (existing : Option Nat) : (saveInput plan squidId existing).Uses (Call.Saves plan.account.toSave) := by
        unfold saveInput
        refine Program.uses_bind (uses_saveSquidInput (updateBody squidId) fun _ _ => trivial) fun failure => ?_
        cases failure with
        | some failure => trivial
        | none => dsimp only; split <;> trivial
      unfold addInput
      split
      · split
        · trivial
        · exact save _
      · split
        · trivial
        · exact save _
  · exact uses_writeNew_saves plan

theorem uses_commitRun_saves (plan : RunPlan) : (commitRun s plan).Uses (Call.Saves plan.account.toSave) := by
  unfold commitRun
  split
  · trivial
  refine Program.uses_bind (Program.uses_bind ((uses_send _).mpr trivial) fun _ => trivial) fun funds => ?_
  refine Program.uses_bind (uses_writeInput_saves plan) fun w => ?_
  refine Program.uses_bind ((uses_request _).mpr trivial) fun started => ?_
  exact uses_afterStart plan funds w started (fun _ => trivial) fun _ _ _ _ => trivial

/-- What a phase knows once the squid has been read, if there is one. -/
structure AccountsPhase.Knows (q : AccountsPhase) (args : RunArgs) (squid : Fields) : Prop where
  ids : ∀ ids, (if args.reuse then squidAccountIds squid else some []) = some ids → q.ids = some ids
  reused : args.reuse = true → q ≠ .unmade
  new : args.reuse = false → q = .unmade

theorem readTarget_follows : (readTarget s args).Follows (accountsNext args.squidName)
    (fun q r => ∀ target, r = .ok target → q.Knows args target.squid) args.accountsPhase := by
  -- what follows the read of the squid leaves its accounts alone
  have rest (squid : Fields) (q : AccountsPhase) (known : q.Knows args squid) :
      (do
        let scraper ← resolveCrawlerId s.lower (args.scraperJson.orElse (Fields.get squid "crawler"))
        let crawler ← getCrawler scraper
        let params ← readCrawlerParams scraper
        pure { squid, scraper, crawler, translated := translateInputSchema crawler params } : Tool Target).Follows
        (accountsNext args.squidName) (fun q r => ∀ target, r = .ok target → q.Knows args target.squid) q := by
    refine follows_leaves_bind (uses_resolveCrawlerId _ _ trivial) (fun _ _ absurd => by cases absurd) fun scraper => ?_
    refine follows_leaves_bind ((uses_send _).mpr trivial) (fun _ _ absurd => by cases absurd) fun crawler => ?_
    refine follows_leaves_bind (uses_readCrawlerParams _ trivial) (fun _ _ absurd => by cases absurd) fun params => ?_
    rintro target ⟨⟩
    exact known
  unfold readTarget readSquid
  cases reused : args.reused with
  | none =>
    have new : args.reuse = false := by simp [RunArgs.reuse, reused]
    have phase : args.accountsPhase = .unmade := by simp [RunArgs.accountsPhase, new]
    rw [phase]
    refine rest [] .unmade ⟨?_, fun reuse => ?_, fun _ => rfl⟩
    · rw [new]
      exact fun _ same => same
    · rw [new] at reuse
      cases reuse
  | some name =>
    have reuse : args.reuse = true := by simp [RunArgs.reuse, reused]
    have phase : args.accountsPhase = .unread := by simp [RunArgs.accountsPhase, reuse]
    obtain rfl : args.squidName = name := by simp [RunArgs.squidName, reused]
    rw [phase]
    refine follows_getSquid_bind (fun _ _ absurd => by cases absurd) fun squid => rest squid _ ⟨?_, ?_, fun new => ?_⟩
    · rw [reuse]
      exact fun ids => attachedIds_of_squidAccountIds
    · exact fun _ absurd => by cases absurd
    · rw [reuse] at new
      cases new

/-- What is planned for the accounts, when the squid has been read, if there is one. -/
structure RunPlan.Attaches (q : AccountsPhase) (plan : RunPlan) : Prop where
  adds : plan.account.Adds q
  reused : plan.args.reuse = true → q ≠ .unmade
  new : plan.args.reuse = false → q = .unmade

theorem prepareRun_accounts_follows : (prepareRun s args).Follows (accountsNext args.squidName)
    (fun q r => ∀ plan, r = .ok plan → plan.Attaches q) args.accountsPhase := by
  unfold prepareRun
  split
  · exact fun _ absurd => by cases absurd
  refine Program.follows_bind.mpr (readTarget_follows.mono fun q r known => ?_)
  cases r with
  | error e => exact fun _ absurd => by cases absurd
  | ok target =>
    dsimp only
    split
    · exact fun _ absurd => by cases absurd
    refine follows_leaves_bind (uses_lookUpRun _ trivial) (fun _ _ absurd => by cases absurd) fun _ => ?_
    refine Program.follows_bind.mpr (Program.follows_of_uses
      (uses_chooseAccount s args target (fun _ => trivial) fun _ _ _ _ => trivial)
      (fun c same ans => accountsNext_of_leaves (c := c) same ans)
      ((ends_chooseAccount (known target rfl).ids).mono fun r adds => ?_))
    cases r with
    | error e => exact fun _ absurd => by cases absurd
    | ok choice =>
      refine follows_leaves_bind (uses_readRows args fun _ => trivial) (fun _ _ absurd => by cases absurd) fun _ => ?_
      rintro plan ⟨⟩
      exact ⟨adds choice rfl, (known target rfl).reused, (known target rfl).new⟩

/-- A call that makes its squid attaches to it after that. -/
theorem writeNew_accounts_follows {plan : RunPlan} (attaches : plan.Attaches .unmade) :
    (writeNew plan).Follows (accountsNext args.squidName) (fun q r => ∀ w, r = .ok w → q = .made) .unmade := by
  have adds : plan.account.toSave ≠ [] → AccountsPhase.made ≠ .unmade ∧ Extends AccountsPhase.made.ids
      (.arr plan.account.toSave) := fun some' => ⟨fun absurd => (by cases absurd), attaches.adds some'⟩
  unfold writeNew
  intro ans
  cases ans with
  | error e => exact ⟨_, rfl, fun _ absurd => by cases absurd⟩
  | ok squid =>
    refine ⟨.made, rfl, Program.follows_of_uses ((uses_writeNew_saves plan).2 (.ok squid))
      (fun c saves ans => accountsNext_of_saves saves adds (fun _ _ _ absurd => by cases absurd) ans)
      (Program.ends_of_forall (fun _ _ _ => rfl) _)⟩

theorem commitRun_accounts_follows {plan : RunPlan} {q : AccountsPhase} (attaches : plan.Attaches q) :
    (commitRun s plan).Follows (accountsNext args.squidName) (fun _ _ => True) q := by
  cases reuse : plan.args.reuse with
  | true =>
    have made := attaches.reused reuse
    exact Program.follows_of_uses (uses_commitRun_saves plan)
      (fun c saves ans =>
        accountsNext_of_saves saves (fun some' => ⟨made, attaches.adds some'⟩) (fun _ _ _ => made) ans)
      (Program.ends_of_forall (fun _ => trivial) _)
  | false =>
    obtain rfl := attaches.new reuse
    unfold commitRun
    split
    · trivial
    refine follows_leaves_bind (Program.uses_bind ((uses_send _).mpr trivial) fun _ => trivial) (fun _ => trivial)
      fun funds => ?_
    have new : writeInput plan = writeNew plan := by
      unfold writeInput
      rw [if_neg (by simp [reuse])]
    rw [new]
    refine Program.follows_bind.mpr ((writeNew_accounts_follows attaches).mono fun q r made => ?_)
    cases r with
    | error e => trivial
    | ok w =>
      have leaves : (startAndReport plan funds w).Uses Call.LeavesAccounts := by
        refine Program.uses_bind ((uses_request _).mpr trivial) fun started => ?_
        exact uses_afterStart plan funds w started (fun _ => trivial) fun _ _ _ _ => trivial
      exact Program.follows_of_uses leaves (fun c leaves => accountsNext_of_leaves leaves)
        (Program.ends_of_forall (fun _ => trivial) _)

theorem runScraperImpl_accounts_follows : (runScraperImpl s args).Follows (accountsNext args.squidName)
    (fun _ _ => True) args.accountsPhase := by
  refine Program.follows_bind.mpr (Program.follows_attempt.mpr (Program.follows_bind.mpr
    (prepareRun_accounts_follows.mono fun q r adds => ?_)))
  cases r with
  | error e => exact Program.follows_ofExcept.mpr trivial
  | ok plan =>
    refine (commitRun_accounts_follows (adds plan rfl)).mono fun _ _ _ => Program.follows_ofExcept.mpr trivial

end RunScraper

/-! ### attach_account -/

theorem attachAccount_follows (s : Session) (squidId : String) (accountId : Option String) :
    (attachAccount s squidId accountId).Follows (accountsNext squidId) (fun _ _ => True) .unread := by
  unfold attachAccount
  refine follows_getSquid_bind (fun _ => trivial) fun squid => ?_
  refine follows_leaves_bind (uses_crawlerOf _ fun _ => trivial) (fun _ => trivial) fun crawler => ?_
  dsimp only
  split
  · trivial
  cases read : squidAccountIds squid with
  | none => trivial
  | some current =>
    refine follows_leaves_bind (uses_findAttachment _ _ _ _ _ (fun _ => trivial) fun _ _ _ _ => trivial)
      (fun _ => trivial) fun found => ?_
    split
    · trivial
    · intro ans
      refine ⟨_, ⟨fun accounts carries => ?_, rfl⟩, ?_⟩
      · cases carries
        exact ⟨fun absurd => (by cases absurd), current, found.accountId, attachedIds_of_squidAccountIds read, rfl⟩
      · cases ans <;> trivial

theorem attachAccountImpl_accounts_follows (s : Session) (squidId : String) (accountId : Option String) :
    (attachAccountImpl s squidId accountId).Follows (accountsNext squidId) (fun _ _ => True) .unread :=
  Program.follows_bind.mpr (Program.follows_attempt.mpr ((attachAccount_follows s squidId accountId).mono
    fun _ _ _ => Program.follows_ofExcept.mpr trivial))

/-! ### Every run of a call that attaches -/

/-- The tools that write the accounts of a squid. -/
inductive AttachingTool where
  | runScraper (s : Session) (args : RunArgs)
  | attachAccount (s : Session) (squidId : String) (accountId : Option String)

namespace AttachingTool

def program : AttachingTool → Program Call Answer Exc Fields
  | .runScraper s args => runScraperImpl s args
  | .attachAccount s squidId accountId => attachAccountImpl s squidId accountId

/-- The squid a call was given, none when it makes one. -/
def squid : AttachingTool → Option String
  | .runScraper _ args => args.reused
  | .attachAccount _ squidId _ => some squidId

def phase (tool : AttachingTool) : AccountsPhase := if tool.squid.isSome then .unread else .unmade

theorem follows (tool : AttachingTool) :
    tool.program.Follows (accountsNext (tool.squid.getD "")) (fun _ _ => True) tool.phase := by
  cases tool with
  | runScraper s args => exact runScraperImpl_accounts_follows
  | attachAccount s squidId accountId => exact attachAccountImpl_accounts_follows s squidId accountId

end AttachingTool

section Run
variable {σ : Type} {W : World Call Answer σ} {u t : σ} {past tr : List (Event Call Answer σ)}
  {q q' : AccountsPhase} {c : Call} {ans : Answer c} {name : String}

/-- The record of the squid was read. -/
def ReadSquid (tr : List (Event Call Answer σ)) (name : String) (record : Fields) : Prop :=
  ∃ b, (⟨b, .getSquid (.str name), .ok record⟩ : Event Call Answer σ) ∈ tr

/-- A squid was made, with this record. -/
def MadeSquid (tr : List (Event Call Answer σ)) (record : Fields) : Prop :=
  ∃ b scraper name, (⟨b, .createSquid scraper name, .ok record⟩ : Event Call Answer σ) ∈ tr

/-- A squid that was just made has no accounts. -/
def MadeBare (tr : List (Event Call Answer σ)) : Prop :=
  ∀ record, MadeSquid tr record → attachedIds (Fields.get record "accounts") = some []

/-- The record that a call got of its squid: of one that it makes, or of one that it reads. -/
def GotSquid (squid : Option String) (tr : List (Event Call Answer σ)) (record : Fields) : Prop :=
  match squid with
  | none => MadeSquid tr record
  | some name => ReadSquid tr name record

/-- The ids attached to the squid of a call, by the record that it got. -/
def Attached (squid : Option String) (tr : List (Event Call Answer σ)) (ids : List String) : Prop :=
  (∃ record, GotSquid squid tr record) ∧
    ∀ record, GotSquid squid tr record → attachedIds (Fields.get record "accounts") = some ids

/-- The accounts that an operation writes. -/
def accountsWritten (c : Call) : Option Json :=
  match c with
  | .updateSquid _ body => Dict.get? body "accounts"
  | _ => none

/-- What the phases stand for, after the operations so far. -/
structure AccountsInv (name : String) (past : List (Event Call Answer σ)) (q : AccountsPhase) : Prop where
  reads : ∀ record, ReadSquid past name record → q = .read (Fields.get record "accounts")
  read : ∀ field, q = .read field → ∃ record, ReadSquid past name record ∧ field = Fields.get record "accounts"
  made : q = .made → ∃ record, MadeSquid past record
  writes : ∀ e ∈ past, ∀ accounts, accountsWritten e.op = some accounts → q ≠ .unmade ∧ Extends q.ids accounts

theorem readSquid_append {e : Event Call Answer σ} {record : Fields} :
    ReadSquid (past ++ [e]) name record ↔ ReadSquid past name record ∨ ReadSquid [e] name record := by
  simp [ReadSquid, exists_or]

theorem AccountsInv.quiet {e : Event Call Answer σ} (inv : AccountsInv name past q)
    (reads : ∀ record, ¬ ReadSquid [e] name record)
    (writes : ∀ accounts, accountsWritten e.op = some accounts → q ≠ .unmade ∧ Extends q.ids accounts) :
    AccountsInv name (past ++ [e]) q where
  reads record read := inv.reads record ((readSquid_append.mp read).resolve_right (reads record))
  read field same := by
    obtain ⟨record, read, here⟩ := inv.read field same
    exact ⟨record, readSquid_append.mpr (.inl read), here⟩
  made same := by
    obtain ⟨record, b, scraper, named, there⟩ := inv.made same
    exact ⟨record, b, scraper, named, List.mem_append_left _ there⟩
  writes f member accounts written := by
    rcases List.mem_append.mp member with before | now
    · exact inv.writes f before accounts written
    · rw [List.mem_singleton] at now
      subst now
      exact writes accounts written

theorem AccountsInv.step (inv : AccountsInv name past q) (led : accountsNext name q c ans q') :
    AccountsInv name (past ++ [⟨u, c, ans⟩]) q' := by
  have unread (other : ∀ id, c ≠ .getSquid id) (record : Fields) :
      ¬ ReadSquid [(⟨u, c, ans⟩ : Event Call Answer σ)] name record := by
    rintro ⟨b, member⟩
    rw [List.mem_singleton] at member
    exact other _ (congrArg Event.op member).symm
  cases c with
  | getSquid id =>
    cases ans with
    | ok record =>
      obtain ⟨rfl, rfl, rfl⟩ := led
      have new (found : Fields) (read : ReadSquid (past ++ [⟨u, .getSquid (.str name), .ok record⟩]) name found) :
          found = record := by
        rcases readSquid_append.mp read with before | ⟨b, now⟩
        · cases inv.reads found before
        · rw [List.mem_singleton] at now
          cases now
          rfl
      constructor
      · intro found read
        rw [new found read]
      · rintro field ⟨⟩
        exact ⟨record, ⟨u, List.mem_append_right _ (List.mem_singleton_self _)⟩, rfl⟩
      · exact fun absurd => by cases absurd
      · intro e member accounts written
        rcases List.mem_append.mp member with before | now
        · obtain ⟨_, _, _, absurd, _⟩ := inv.writes e before accounts written
          cases absurd
        · rw [List.mem_singleton] at now
          subst now
          cases written
    | error e =>
      obtain rfl : q' = q := led
      refine inv.quiet ?_ fun _ absurd => by cases absurd
      rintro record ⟨b, member⟩
      rw [List.mem_singleton] at member
      cases member
  | createSquid scraper named =>
    have quiet (r : AccountsPhase) (inv : AccountsInv name past r) :
        AccountsInv name (past ++ [⟨u, .createSquid scraper named, ans⟩]) r :=
      inv.quiet (unread fun _ absurd => by cases absurd) fun _ absurd => by cases absurd
    cases ans with
    | error e =>
      obtain rfl : q' = q := led
      exact quiet q' inv
    | ok record =>
      obtain rfl : q' = q.afterCreate := led
      cases q with
      | unmade =>
        refine ⟨fun found read => ?_, fun _ absurd => (by cases absurd), fun _ => ?_,
          fun e member accounts written => ?_⟩
        · cases (quiet .unmade inv).reads found read
        · exact ⟨record, u, scraper, named, List.mem_append_right _ (List.mem_singleton_self _)⟩
        · exact ((quiet .unmade inv).writes e member accounts written).1.elim rfl
      | _ => exact quiet _ inv
  | updateSquid id body =>
    obtain ⟨writes, rfl⟩ : (∀ accounts, Dict.get? body "accounts" = some accounts →
        q ≠ .unmade ∧ Extends q.ids accounts) ∧ q' = q := by
      cases ans <;> exact led
    exact inv.quiet (unread fun _ absurd => by cases absurd) writes
  | _ =>
    obtain rfl : q' = q := by cases ans <;> exact led
    exact inv.quiet (unread fun _ absurd => by cases absurd) fun _ absurd => by cases absurd

theorem AccountsPhase.makesSquid_stays {squid : String} (led : accountsNext squid q c ans q') :
    q.MakesSquid ↔ q'.MakesSquid := by
  cases c with
  | getSquid id =>
    cases ans with
    | ok record =>
      obtain ⟨_, rfl, rfl⟩ := led
      simp [AccountsPhase.MakesSquid]
    | error e =>
      obtain rfl : q' = q := led
      exact Iff.rfl
  | createSquid scraper name =>
    cases ans with
    | ok record =>
      obtain rfl : q' = q.afterCreate := led
      cases q <;> simp [AccountsPhase.MakesSquid, AccountsPhase.afterCreate]
    | error e =>
      obtain rfl : q' = q := led
      exact Iff.rfl
  | updateSquid id body =>
    obtain rfl : q' = q := by cases ans <;> exact led.2
    exact Iff.rfl
  | _ =>
    obtain rfl : q' = q := by cases ans <;> exact led
    exact Iff.rfl

/-- A list of accounts that is written holds what is attached to the squid, and one more. -/
theorem AttachingTool.writes_extend {tool : AttachingTool} {r : Except Exc Fields}
    (run : Exec W tool.program u tr r t) (bare : tool.squid = none → MadeBare tr) :
    ∀ e ∈ tr, ∀ accounts, accountsWritten e.op = some accounts →
      ∃ ids id, Attached tool.squid tr ids ∧ accounts = .arr (ids.map .str ++ [id]) := by
  have start : AccountsInv (tool.squid.getD "") ([] : List (Event Call Answer σ)) tool.phase := by
    constructor
    · rintro record ⟨_, member⟩
      cases member
    · intro field same
      unfold AttachingTool.phase at same
      split at same <;> cases same
    · intro same
      unfold AttachingTool.phase at same
      split at same <;> cases same
    · exact fun e member => by cases member
  have makes : tool.phase.MakesSquid ↔ tool.squid = none := by
    unfold AttachingTool.phase
    cases tool.squid <;> simp [AccountsPhase.MakesSquid]
  obtain ⟨q, ⟨inv, same⟩, -⟩ := run.follows
    (I := fun past q _ => AccountsInv (tool.squid.getD "") past q ∧ (q.MakesSquid ↔ tool.squid = none))
    tool.follows ⟨start, makes⟩
    fun kept led _ => ⟨kept.1.step led, (AccountsPhase.makesSquid_stays led).symm.trans kept.2⟩
  rw [List.nil_append] at inv
  intro e member accounts written
  obtain ⟨made, ids, id, known, extended⟩ := inv.writes e member accounts written
  refine ⟨ids, id, ?_, extended⟩
  cases q with
  | unmade => exact (made rfl).elim
  | made =>
    cases known
    have none' := same.mp (.inr rfl)
    rw [none']
    exact ⟨inv.made rfl, bare none'⟩
  | unread => cases known
  | read field =>
    cases given : tool.squid with
    | none => exact (same.mpr given).elim (fun absurd => by cases absurd) fun absurd => by cases absurd
    | some name =>
      rw [given] at inv
      obtain ⟨record, read, _⟩ := inv.read field rfl
      refine ⟨⟨record, read⟩, fun found again => ?_⟩
      cases inv.reads found again
      exact known

/-- Attaching never detaches: a list of accounts that is written holds every id attached to the squid, in
order, and one more; and where the field that was read holds an id that cannot be, none is written. Of the
API this asks that a squid has no accounts when it is made. -/
theorem attaching_never_detaches {tool : AttachingTool} {r : Except Exc Fields} (run : Exec W tool.program u tr r t)
    (bare : tool.squid = none → MadeBare tr) :
    (∀ e ∈ tr, ∀ accounts, accountsWritten e.op = some accounts →
      ∃ ids id, Attached tool.squid tr ids ∧ accounts = .arr (ids.map .str ++ [id])) ∧
    ∀ name record, tool.squid = some name → ReadSquid tr name record →
      attachedIds (Fields.get record "accounts") = none → ∀ e ∈ tr, accountsWritten e.op = none := by
  refine ⟨AttachingTool.writes_extend run bare, fun name record given read unreadable e member => ?_⟩
  cases written : accountsWritten e.op with
  | none => rfl
  | some accounts =>
    obtain ⟨ids, _, known, _⟩ := AttachingTool.writes_extend run bare e member accounts written
    rw [given] at known
    rw [known.2 record read] at unreadable
    cases unreadable

end Run

/-! ### A squid with one account -/

/-- An API with a squid that has the account "one", and an account "two" of the same type. -/
def linkedApi : Machine Call Answer Unit := fun _ c =>
  match c with
  | .getSquid _ => (.ok [("id", .str "squid"), ("crawler", .str plainCrawlerId),
      ("accounts", .arr [.obj [("id", .str "one")]])], ())
  | .getCrawler _ => (.ok { input := [], fields := [("account", .obj [("type", .str "linkedin-sync")])] }, ())
  | .getAccount _ => (.ok (.obj [("id", .str "two"), ("type", .str "linkedin-sync"), ("status", .str "200")]), ())
  | .getBalance => (.ok [], ())
  | .createSquid _ _ => (.ok [("id", .str "new")], ())
  | .updateSquid _ _ => (.ok .null, ())
  | .idemGet _ => (.ok none, ())
  | _ => (.error (.store ""), ())

def attachTwo : AttachingTool := .attachAccount plainSession "squid" (some "two")

def runWithTwo : AttachingTool :=
  .runScraper plainSession { scraper := some plainCrawlerId, accountId := some "two", confirm := true }

theorem exec_linkedApi (tool : AttachingTool) : Exec (fun _ _ _ _ => True) tool.program ()
    (tool.program.trace linkedApi ()) (tool.program.run linkedApi ()).1 (tool.program.run linkedApi ()).2 :=
  exec_of_run (fun _ _ => trivial) _ _

theorem madeBare_linkedApi (tool : AttachingTool) : MadeBare (tool.program.trace linkedApi ()) := by
  rintro record ⟨b, scraper, name, made⟩
  obtain rfl : record = [("id", .str "new")] :=
    Except.ok.inj (Program.trace_answers tool.program () _ made)
  rfl

/-- The second account is written beside the first, and alone to a squid that the call has made. -/
theorem a_second_account_joins_the_first :
    (∃ ids id, Attached (some "squid") (attachTwo.program.trace linkedApi ()) ids ∧
      Json.arr [.str "one", .str "two"] = .arr (ids.map .str ++ [id])) ∧
    ∃ ids id, Attached none (runWithTwo.program.trace linkedApi ()) ids ∧
      Json.arr [.str "two"] = .arr (ids.map .str ++ [id]) := by
  have beside : ((attachTwo.program.trace linkedApi ()).find? fun e => (accountsWritten e.op).isSome).map
      (fun e => accountsWritten e.op) = some (some (.arr [.str "one", .str "two"])) := by decide +kernel
  have alone : ((runWithTwo.program.trace linkedApi ()).find? fun e => (accountsWritten e.op).isSome).map
      (fun e => accountsWritten e.op) = some (some (.arr [.str "two"])) := by decide +kernel
  obtain ⟨e, found, beside⟩ := Option.map_eq_some_iff.mp beside
  obtain ⟨e', found', alone⟩ := Option.map_eq_some_iff.mp alone
  exact ⟨(attaching_never_detaches (exec_linkedApi attachTwo) fun _ => madeBare_linkedApi _).1 e
      (List.mem_of_find?_eq_some found) _ beside,
    (attaching_never_detaches (exec_linkedApi runWithTwo) fun _ => madeBare_linkedApi _).1 e'
      (List.mem_of_find?_eq_some found') _ alone⟩

end LobstrMcp
