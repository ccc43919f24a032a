import LobstrMcp.Interaction.Agreement
import LobstrMcp.Run.Crawler
import LobstrMcp.Run.Inventory

/-!
What a caller can learn of the connected accounts from `run_scraper`. Two calls with the same
arguments, whose requests are answered alike but for the listing of the accounts, keep step; when what
auto-pick finds on the first page of the listing is of the same kind, the two outcomes are equal.
Nothing else of the accounts shows, and that much does.
-/

namespace LobstrMcp
open Interaction Tool

/-! ### An API with connected accounts -/

/-- An API with this inventory: what it lists, when it answers, are the pages of the accounts it keeps. -/
def connected {σ : Type} (m : Machine Call Answer σ) (listing : AccountListing) (inventory : List Json) :
    Machine Call Answer σ := fun st c =>
  match c with
  | .listAccounts limit number type status =>
    ((m st (.listAccounts limit number type status)).1.map fun _ =>
      listing.envelope (Pages.page limit number (inventory.filter (listing.keeps type))),
     (m st (.listAccounts limit number type status)).2)
  | c => m st c

/-- Two bodies that are the same, but for the account they attach. -/
def AttachesAlike (body body' : Fields) : Prop :=
  body = body' ∨ ∃ rest id id', body = Dict.set rest "accounts" (.arr [id]) ∧
    body' = Dict.set rest "accounts" (.arr [id'])

/-- The same request, but for the account that a save attaches. -/
def Call.SameButAccount (c c' : Call) : Prop :=
  match c, c' with
  | .updateSquid squid body, .updateSquid squid' body' => squid = squid' ∧ AttachesAlike body body'
  | c, c' => c = c'

/-- The same answer, to requests that are the same but for an account. -/
def AnswersEqual : Likeness Call Answer := fun c c' ans ans' =>
  match c, c', ans, ans' with
  | .updateSquid _ _, .updateSquid _ _, ans, ans' => ans = ans'
  | c, c', ans, ans' => c = c' ∧ HEq ans ans'

/-- The API's other answers do not depend on the account that is attached, up to a relation of its
states that keeps what was attached aside. -/
def Indifferent {σ : Type} (m : Machine Call Answer σ) : Prop :=
  ∃ related : σ → σ → Prop, (∀ st, related st st) ∧ m.Alike Call.SameButAccount AnswersEqual related m

/-- What the call runs, if anything, requires an account of this type. -/
def Requires {σ : Type} (m : Machine Call Answer σ) (st : σ) (s : Session) (args : RunArgs) (accountType : Json) :
    Prop := ∀ target, targetOn m st s args = .ok target → crawlerAccountType target.crawler = accountType

/-! ### Requests and answers -/

/-- A request other than the listing of the accounts. -/
def Call.ListsNoAccounts (c : Call) : Prop :=
  match c with
  | .listAccounts _ _ _ _ => False
  | _ => True

/-- A listing of the accounts is that of the first page, for this type, when there is one. -/
def Call.ListsFirstPage (accountType : Json) (c : Call) : Prop :=
  match c with
  | .listAccounts limit number type _ => limit = 100 ∧ number = 1 ∧ type = accountType ∧ type ≠ .null
  | _ => True

/-- Two requests that two calls for this type issue at the same point. -/
def Call.Meets (accountType : Json) (c c' : Call) : Prop := c.SameButAccount c' ∧ c.ListsFirstPage accountType

/-- The answers to two requests are the same, but for the listing of the accounts, where the two
listings are alike to auto-pick. -/
def AnswersAlike (now : Int) : Likeness Call Answer := fun c c' ans ans' =>
  match c, c', ans, ans' with
  | .listAccounts _ _ type _, .listAccounts _ _ type' _, .ok rows, .ok rows' =>
    type = type' ∧ pickOf now type rows = pickOf now type rows'
  | .updateSquid _ _, .updateSquid _ _, ans, ans' => ans = ans'
  | c, c', ans, ans' => c = c' ∧ HEq ans ans'

section Requests
variable {now : Int} {accountType : Json}

theorem Call.meets_self (c : Call) (plain : c.ListsNoAccounts) : c.Meets accountType c := by
  cases c with
  | listAccounts _ _ _ _ => exact plain.elim
  | updateSquid _ _ => exact ⟨⟨rfl, .inl rfl⟩, trivial⟩
  | _ => exact ⟨rfl, trivial⟩

theorem same_of_alike (c : Call) (plain : c.ListsNoAccounts) (ans ans' : Answer c)
    (alike : AnswersAlike now c c ans ans') : ans = ans' := by
  cases c with
  | listAccounts _ _ _ _ => exact plain.elim
  | updateSquid _ _ => exact alike
  | _ => exact eq_of_heq alike.2

/-- Requests that are the same but for an account are the same, or two saves. -/
theorem Call.SameButAccount.cases {c c' : Call} (same : c.SameButAccount c') :
    c = c' ∨ ∃ squid body body', c = .updateSquid squid body ∧ c' = .updateSquid squid body' := by
  unfold Call.SameButAccount at same
  split at same
  · obtain ⟨rfl, _⟩ := same
    exact .inr ⟨_, _, _, rfl, rfl⟩
  · exact .inl same

theorem alike_of_equal {c c' : Call} (plain : c.ListsNoAccounts) (same : c.SameButAccount c') {ans : Answer c}
    {ans' : Answer c'} (equal : AnswersEqual c c' ans ans') : AnswersAlike now c c' ans ans' := by
  rcases same.cases with rfl | ⟨squid, body, body', rfl, rfl⟩
  · cases c with
    | listAccounts _ _ _ _ => exact plain.elim
    | _ => exact equal
  · exact equal

/-- Two inventories that are alike to auto-pick, behind one API that is indifferent otherwise. -/
theorem alike_connected {σ : Type} {m : Machine Call Answer σ} {related : σ → σ → Prop} {listing : AccountListing}
    {inventory inventory' : List Json} (indifferent : m.Alike Call.SameButAccount AnswersEqual related m)
    (same : accountType = .null ∨ pickOf now accountType (.arr (listing.firstPage accountType inventory)) =
      pickOf now accountType (.arr (listing.firstPage accountType inventory'))) :
    (connected m listing inventory).Alike (Call.Meets accountType) (AnswersAlike now) related
      (connected m listing inventory') := by
  rintro st st' c c' states ⟨met, first⟩
  obtain ⟨answers, after⟩ := indifferent st st' c c' states met
  by_cases plain : c.ListsNoAccounts
  · have here : connected m listing inventory st c = m st c := by
      cases c with
      | listAccounts _ _ _ _ => exact plain.elim
      | _ => rfl
    have there : connected m listing inventory' st' c' = m st' c' := by
      rcases met.cases with rfl | ⟨squid, body, body', rfl, rfl⟩
      · cases c with
        | listAccounts _ _ _ _ => exact plain.elim
        | _ => rfl
      · rfl
    rw [here, there]
    exact ⟨alike_of_equal plain met answers, after⟩
  · cases c with
    | listAccounts limit number type status =>
      obtain rfl : Call.listAccounts limit number type status = c' := met
      obtain ⟨rfl, rfl, rfl, needed⟩ := first
      refine ⟨?_, after⟩
      have equal : (m st (.listAccounts 100 1 type status)).1 = (m st' (.listAccounts 100 1 type status)).1 :=
        eq_of_heq answers.2
      show AnswersAlike now (.listAccounts 100 1 type status) (.listAccounts 100 1 type status)
        ((m st (.listAccounts 100 1 type status)).1.map _) ((m st' (.listAccounts 100 1 type status)).1.map _)
      rw [equal]
      cases (m st' (.listAccounts 100 1 type status)).1 with
      | error e => exact ⟨rfl, HEq.rfl⟩
      | ok payload => exact ⟨rfl, by rw [listing.pickOf_page, listing.pickOf_page, same.resolve_left needed]⟩
    | _ => exact (plain trivial).elim

end Requests

/-- Outcomes that are equal, but for values that stand in a relation. -/
def EndsAlike {α : Type} (same : α → α → Prop) (r r' : Except Exit α) : Prop :=
  match r, r' with
  | .ok a, .ok b => same a b
  | .error e, .error e' => e = e'
  | _, _ => False

section Rules
variable {now : Int} {accountType : Json} {α β : Type} {same : β → β → Prop}

theorem endsAlike_self {r : Except Exit β} (refl : ∀ b, same b b) : EndsAlike same r r := by
  cases r with
  | ok b => exact refl b
  | error e => rfl

theorem eq_of_endsAlike {r r' : Except Exit β} (alike : EndsAlike Eq r r') : r = r' := by
  rcases r with e | b <;> rcases r' with e' | b'
  · exact congrArg Except.error alike
  · exact alike.elim
  · exact alike.elim
  · exact congrArg Except.ok alike

/-- Two sequences, alike in their first halves and, from there, in their second ones. -/
theorem agrees_sequence {before : α → α → Prop} {p p' : Tool α} {f f' : α → Tool β}
    (first : p.Agrees (Call.Meets accountType) (AnswersAlike now) (EndsAlike before) p')
    (rest : ∀ a b, before a b → (f a).Agrees (Call.Meets accountType) (AnswersAlike now) (EndsAlike same) (f' b)) :
    (p >>= f).Agrees (Call.Meets accountType) (AnswersAlike now) (EndsAlike same) (p' >>= f') := by
  refine Program.agrees_bind (first.mono fun r r' alike => ?_)
  rcases r with e | a <;> rcases r' with e' | b
  · exact alike
  · exact alike
  · exact alike
  · exact rest a b alike

/-- Two sequences with the same first half. -/
theorem agrees_after {p : Tool α} {f f' : α → Tool β} (plain : p.Uses Call.ListsNoAccounts)
    (rest : ∀ a, (f a).Agrees (Call.Meets accountType) (AnswersAlike now) (EndsAlike same) (f' a)) :
    (p >>= f).Agrees (Call.Meets accountType) (AnswersAlike now) (EndsAlike same) (p >>= f') := by
  refine Program.agrees_bind
    (Program.agrees_self plain Call.meets_self same_of_alike (Program.ends_of_forall (fun r => ?_) p))
  cases r with
  | ok a => exact rest a
  | error e => rfl

end Rules

/-! ### The account -/

/-- Two choices of an account that a reply cannot tell apart, when no account was asked for. -/
structure AccountChoice.ToldAlike (choice choice' : AccountChoice) : Prop where
  current : choice.current = choice'.current
  warning : choice.warning = choice'.warning
  toSave : choice.toSave = choice'.toSave ∨ ∃ id id', choice.toSave = [id] ∧ choice'.toSave = [id']

theorem AccountChoice.toldAlike_self (choice : AccountChoice) : choice.ToldAlike choice := ⟨rfl, rfl, .inl rfl⟩

theorem AccountChoice.ToldAlike.saves {choice choice' : AccountChoice} (told : choice.ToldAlike choice') :
    choice'.toSave.isEmpty = choice.toSave.isEmpty := by
  rcases told.toSave with same | ⟨id, id', one, one'⟩
  · rw [same]
  · rw [one, one']
    rfl

theorem AccountChoice.ToldAlike.attaches {choice choice' : AccountChoice} (told : choice.ToldAlike choice')
    (body : Fields) : AttachesAlike (withAccounts choice.toSave body) (withAccounts choice'.toSave body) := by
  rcases told.toSave with same | ⟨id, id', one, one'⟩
  · exact .inl (by rw [same])
  · exact .inr ⟨body, id, id', by rw [one]; rfl, by rw [one']; rfl⟩

/-- What becomes of a pick and its explanation. -/
def afterPick (found : Except Fields Fields) : Tool AccountChoice :=
  match found with
  | .error error => returned (redactAccountError error)
  | .ok account => do
    let id ← item account "id"
    pure { resolvedId := some id, toSave := [id] }

theorem choosePicked_eq (s : Session) (accountType : Json) : choosePicked s accountType = (do
    let rows ← listAccounts 100 1 accountType 1
    afterPick (explainPick accountType (unlockedAccounts s.now accountType rows)
      (lockedAccounts s.now accountType rows))) := by
  unfold choosePicked pickOrExplain findCandidates
  rw [Program.bind_assoc, Program.bind_assoc]
  rfl

/-- How a call goes on after an auto-pick. -/
def Pick.settled (accountType id : Json) (pick : Pick) : Tool AccountChoice :=
  match pick with
  | .absent => afterPick (explainPick accountType [] [])
  | .locked => returned (redactAccountError
      [("error_code", .str "account_locked"), ("required_type", accountType)])
  | .several => returned (redactAccountError
      [("error_code", .str "multiple_accounts_available"), ("required_type", accountType)])
  | .unnamed => raised (.keyError "id")
  | .one => pure { resolvedId := some id, toSave := [id] }

/-- What auto-pick finds decides how the call goes on, but for the id of the account. -/
theorem afterPick_eq (now : Int) (accountType rows : Json) :
    ∃ id, afterPick (explainPick accountType (unlockedAccounts now accountType rows)
      (lockedAccounts now accountType rows)) = (pickOf now accountType rows).settled accountType id := by
  unfold pickOf
  rcases unlockedAccounts now accountType rows with _ | ⟨a, _ | ⟨b, more⟩⟩
  · cases lockedAccounts now accountType rows with
    | nil => exact ⟨.null, rfl⟩
    | cons c rest => exact ⟨.null, rfl⟩
  · show ∃ id, (item a "id" >>= fun id => _ : Tool AccountChoice) =
      Pick.settled accountType id (if (Dict.get? a "id").isSome then .one else .unnamed)
    unfold item
    cases Dict.get? a "id" with
    | none => exact ⟨.null, rfl⟩
    | some id => exact ⟨id, rfl⟩
  · exact ⟨.null, rfl⟩

theorem choosePicked_agrees (s : Session) {accountType : Json} (needed : accountType ≠ .null) :
    (choosePicked s accountType).Agrees (Call.Meets accountType) (AnswersAlike s.now)
      (EndsAlike AccountChoice.ToldAlike) (choosePicked s accountType) := by
  rw [choosePicked_eq]
  refine ⟨⟨rfl, rfl, rfl, rfl, needed⟩, fun ans ans' alike => ?_⟩
  rcases ans with e | rows <;> rcases ans' with e' | rows'
  · cases eq_of_heq alike.2
    rfl
  · cases eq_of_heq alike.2
  · cases eq_of_heq alike.2
  · have same : pickOf s.now accountType rows = pickOf s.now accountType rows' := alike.2
    show (afterPick _).Agrees _ _ _ (afterPick _)
    obtain ⟨id, settled⟩ := afterPick_eq s.now accountType rows
    obtain ⟨id', settled'⟩ := afterPick_eq s.now accountType rows'
    rw [settled, settled', ← same]
    cases pickOf s.now accountType rows with
    | one => exact ⟨rfl, rfl, .inr ⟨id, id', rfl, rfl⟩⟩
    | _ => rfl

theorem chooseAccount_agrees {s : Session} {args : RunArgs} (unnamed : args.accountId = none) (target : Target) :
    (chooseAccount s args target).Agrees (Call.Meets (crawlerAccountType target.crawler)) (AnswersAlike s.now)
      (EndsAlike AccountChoice.ToldAlike) (chooseAccount s args target) := by
  unfold chooseAccount
  rw [unnamed]
  cases (if args.reuse then squidAccountIds target.squid else some []) with
  | none => rfl
  | some current =>
    dsimp only
    split
    · exact AccountChoice.toldAlike_self _
    · rename_i needed
      split
      · exact choosePicked_agrees s needed
      · exact AccountChoice.toldAlike_self _

/-! ### The plan -/

/-- The plan with another account. -/
def RunPlan.choosing (plan : RunPlan) (choice : AccountChoice) : RunPlan := { plan with account := choice }

/-- Two plans that differ in the account that was picked, if at all. -/
def RunPlan.PlannedAlike (plan plan' : RunPlan) : Prop :=
  ∃ choice, plan' = plan.choosing choice ∧ plan.account.ToldAlike choice ∧ plan.args.accountId = none

theorem prepareFrom_agrees {s : Session} {args : RunArgs} (unnamed : args.accountId = none) (target : Target) :
    (prepareFrom s args target).Agrees (Call.Meets (crawlerAccountType target.crawler)) (AnswersAlike s.now)
      (EndsAlike RunPlan.PlannedAlike) (prepareFrom s args target) := by
  unfold prepareFrom
  dsimp only
  split
  · rfl
  refine agrees_after (uses_lookUpRun _ trivial) fun _ => ?_
  refine agrees_sequence (chooseAccount_agrees unnamed target) fun choice choice' told => ?_
  refine agrees_after (uses_readRows args fun _ => trivial) fun snapshot => ?_
  exact ⟨choice', rfl, told, unnamed⟩

/-! ### The writes and the report -/

section Commit
variable {s : Session} {plan : RunPlan} {choice : AccountChoice} {now : Int} {accountType : Json}

theorem agrees_plain {β : Type} {p : Tool β} (plain : p.Uses Call.ListsNoAccounts) :
    p.Agrees (Call.Meets accountType) (AnswersAlike now) (EndsAlike Eq) p :=
  Program.agrees_self plain Call.meets_self same_of_alike
    (Program.ends_of_forall (fun _ => endsAlike_self fun _ => rfl) p)

/-- Two sequences, alike in their first halves, with the same second half. -/
theorem agrees_before {α β : Type} {p p' : Tool α} {f : α → Tool β}
    (first : p.Agrees (Call.Meets accountType) (AnswersAlike now) (EndsAlike Eq) p')
    (plain : ∀ a, (f a).Uses Call.ListsNoAccounts) :
    (p >>= f).Agrees (Call.Meets accountType) (AnswersAlike now) (EndsAlike Eq) (p' >>= f) := by
  refine agrees_sequence first ?_
  rintro a _ rfl
  exact agrees_plain (plain a)

/-- Two programs that save first, and go on in the same way. -/
theorem agrees_save {β : Type} {squid : Json} {body body' : Fields} {next : Answer (.updateSquid squid body) → Tool β}
    {next' : Answer (.updateSquid squid body') → Tool β} (attaches : AttachesAlike body body')
    (plain : (Program.call (.updateSquid squid body) next).Uses Call.ListsNoAccounts)
    (same : ∀ ans : Except Exc Json, next ans = next' ans) :
    (Program.call (.updateSquid squid body) next).Agrees (Call.Meets accountType) (AnswersAlike now) (EndsAlike Eq)
      (.call (.updateSquid squid body') next') := by
  refine ⟨⟨⟨rfl, attaches⟩, trivial⟩, ?_⟩
  rintro ans _ rfl
  show (next ans).Agrees _ _ _ (next' ans)
  rw [← same ans]
  exact agrees_plain (plain.2 ans)

theorem saveAccounts_agrees {choice choice' : AccountChoice} (told : choice.ToldAlike choice') (squidId : Json) :
    (saveAccounts choice.toSave squidId).Agrees (Call.Meets accountType) (AnswersAlike now) (EndsAlike Eq)
      (saveAccounts choice'.toSave squidId) := by
  have attaches := told.attaches []
  unfold withAccounts at attaches
  unfold saveAccounts
  rw [told.saves] at attaches ⊢
  cases empty : choice.toSave.isEmpty with
  | true => rfl
  | false =>
    rw [empty] at attaches
    simp only [Bool.false_eq_true, if_false] at attaches ⊢
    refine agrees_save attaches ⟨trivial, fun ans => ?_⟩ fun ans => ?_
    · cases ans <;> trivial
    · cases ans <;> rfl

theorem saveInput_agrees (told : plan.account.ToldAlike choice) (squidId : Json) (existing : Option Nat) :
    (saveInput plan squidId existing).Agrees (Call.Meets accountType) (AnswersAlike now) (EndsAlike Eq)
      (saveInput (plan.choosing choice) squidId existing) := by
  have plain : (saveInput plan squidId existing).Uses Call.ListsNoAccounts := by
    unfold saveInput
    refine Program.uses_bind (uses_saveSquidInput trivial fun _ _ => trivial) fun failure => ?_
    cases failure with
    | some failure => trivial
    | none => dsimp only; split <;> trivial
  refine agrees_save (told.attaches _) plain fun ans => ?_
  cases ans <;> rfl

theorem replaceInput_agrees (told : plan.account.ToldAlike choice) (squidId : Json) :
    (replaceInput plan squidId).Agrees (Call.Meets accountType) (AnswersAlike now) (EndsAlike Eq)
      (replaceInput (plan.choosing choice) squidId) := by
  have plain : (replaceInput plan squidId).Uses Call.ListsNoAccounts := by
    unfold replaceInput
    refine Program.uses_bind (uses_replaceSquidInput trivial trivial fun _ => trivial) ?_
    rintro ⟨failure, replaced⟩
    cases failure <;> trivial
  refine agrees_save (told.attaches _) plain fun ans => ?_
  cases ans <;> rfl

theorem writeReused_agrees (told : plan.account.ToldAlike choice) :
    (writeReused plan).Agrees (Call.Meets accountType) (AnswersAlike now) (EndsAlike Eq)
      (writeReused (plan.choosing choice)) := by
  unfold writeReused
  refine agrees_after (uses_item _ _) fun squidId => ?_
  show Program.Agrees _ _ _ _ (if plan.input.isEmpty then _ else if plan.args.replaceTasks then _ else _)
  split
  · exact agrees_before (saveAccounts_agrees told squidId) fun _ => trivial
  split
  · exact replaceInput_agrees told squidId
  · have rows : (plan.choosing choice).snapshot = plan.snapshot := rfl
    have row : (plan.choosing choice).taskParams = plan.taskParams := rfl
    have scraper : (plan.choosing choice).target = plan.target := rfl
    unfold addInput
    rw [rows, row, scraper]
    split
    · split
      · rfl
      · exact saveInput_agrees told squidId _
    · split
      · rfl
      · exact saveInput_agrees told squidId _

theorem writeNew_agrees (told : plan.account.ToldAlike choice) :
    (writeNew plan).Agrees (Call.Meets accountType) (AnswersAlike now) (EndsAlike Eq)
      (writeNew (plan.choosing choice)) := by
  unfold writeNew
  refine agrees_after ((uses_send _).mpr trivial) fun squid => ?_
  refine agrees_after (uses_item _ _) fun squidId => ?_
  refine agrees_save (told.attaches _) ⟨trivial, fun ans => ?_⟩ fun ans => ?_
  · cases ans with
    | error e => exact uses_newSquidFailed trivial
    | ok _ =>
      refine ⟨trivial, fun added => ?_⟩
      cases added with
      | error e => exact uses_newSquidFailed trivial
      | ok _ => trivial
  · cases ans with
    | error e => rfl
    | ok _ =>
      refine congrArg (Program.call (Call.addTasks squidId [.obj plan.taskParams])) (funext fun added => ?_)
      cases added <;> rfl

theorem writeInput_agrees (told : plan.account.ToldAlike choice) :
    (writeInput plan).Agrees (Call.Meets accountType) (AnswersAlike now) (EndsAlike Eq)
      (writeInput (plan.choosing choice)) := by
  unfold writeInput
  show Program.Agrees _ _ _ _ (if plan.args.reuse then _ else _)
  split
  · exact writeReused_agrees told
  · exact writeNew_agrees told

/-- The report says whether there is an account, and no more. -/
theorem runReport_choosing (told : plan.account.ToldAlike choice) (unnamed : plan.args.accountId = none) (funds : Funds)
    (w : Written) (run : Fields) (runId : Json) :
    runReport (plan.choosing choice) funds w run runId = runReport plan funds w run runId := by
  have attached : accountAttached (plan.choosing choice) = accountAttached plan := by
    have other : (plan.choosing choice).args.accountId = none := unnamed
    unfold accountAttached
    rw [other, unnamed, told.current, ← told.saves]
    rfl
  have warning : (plan.choosing choice).account.warning = plan.account.warning := told.warning.symm
  unfold runReport
  rw [attached, warning]
  rfl

theorem startAndReport_choosing (told : plan.account.ToldAlike choice) (unnamed : plan.args.accountId = none)
    (funds : Funds) (w : Written) : startAndReport (plan.choosing choice) funds w = startAndReport plan funds w := by
  have after : afterStart (plan.choosing choice) funds w = afterStart plan funds w := by
    funext started
    cases started with
    | error e => rfl
    | ok run =>
      unfold afterStart
      simp only [runReport_choosing told unnamed]
      rfl
  unfold startAndReport
  rw [after]

theorem commitRun_agrees (told : plan.account.ToldAlike choice) (unnamed : plan.args.accountId = none) :
    (commitRun s plan).Agrees (Call.Meets accountType) (AnswersAlike now) (EndsAlike Eq)
      (commitRun s (plan.choosing choice)) := by
  unfold commitRun
  show Program.Agrees _ _ _ _ (if (!plan.args.confirm && needsWord s plan.estimate) = true then _ else _)
  split
  · rfl
  refine agrees_after (p := readFunds plan) ?_ fun funds => ?_
  · exact Program.uses_bind ((uses_send _).mpr trivial) fun _ => trivial
  simp only [startAndReport_choosing told unnamed]
  refine agrees_before (writeInput_agrees told) fun w => ?_
  refine Program.uses_bind ((uses_request _).mpr trivial) fun started => ?_
  exact uses_afterStart plan funds w started (fun _ => trivial) fun _ _ _ _ => trivial

end Commit

/-! ### Two calls -/

section TwoCalls
variable {σ : Type} {m : Machine Call Answer σ} {st : σ} {s : Session} {args : RunArgs} {accountType : Json}
  {listing : AccountListing} {inventory inventory' : List Json}

/-- A listing of the accounts apart, an API with connected accounts is the API. -/
theorem run_connected {α : Type} {p : Tool α} (plain : p.Uses Call.ListsNoAccounts) (st : σ) :
    p.run (connected m listing inventory) st = p.run m st := by
  refine Program.run_congr plain (fun st c plain => ?_) st
  cases c with
  | listAccounts _ _ _ _ => exact plain.elim
  | _ => rfl

theorem plain_readTarget : (readTarget s args).Uses Call.ListsNoAccounts :=
  uses_targetReads s args (fun _ => trivial) trivial (fun _ => trivial) fun _ => trivial

/-- From the crawler on, two inventories that are alike to auto-pick end alike. -/
theorem runFrom_alike (unnamed : args.accountId = none) (indifferent : Indifferent m) (target : Target)
    (required : crawlerAccountType target.crawler = accountType)
    (same : accountType = .null ∨ pickOf s.now accountType (.arr (listing.firstPage accountType inventory)) =
      pickOf s.now accountType (.arr (listing.firstPage accountType inventory'))) (st : σ) :
    ((prepareFrom s args target >>= commitRun s).run (connected m listing inventory) st).1 =
      ((prepareFrom s args target >>= commitRun s).run (connected m listing inventory') st).1 := by
  subst required
  obtain ⟨related, refl, alike⟩ := indifferent
  have agrees : (prepareFrom s args target >>= commitRun s).Agrees (Call.Meets (crawlerAccountType target.crawler))
      (AnswersAlike s.now) (EndsAlike Eq) (prepareFrom s args target >>= commitRun s) := by
    refine agrees_sequence (prepareFrom_agrees unnamed target) ?_
    rintro plan _ ⟨choice, rfl, told, unnamed⟩
    exact commitRun_agrees told unnamed
  exact eq_of_endsAlike (agrees.run (alike_connected alike same) (refl st))

end TwoCalls

/-! ### Two inventories -/

section Main
variable {now : Int} {accountType : Json} {listing : AccountListing} {inventory inventory' : List Json}

/-- Up to the crawler, both calls are one. -/
theorem outcome_alike {σ : Type} {m : Machine Call Answer σ} {st : σ} {s : Session} {args : RunArgs}
    (unnamed : args.accountId = none) (indifferent : Indifferent m) (requires : Requires m st s args accountType)
    (same : accountType = .null ∨ pickOf s.now accountType (.arr (listing.firstPage accountType inventory)) =
      pickOf s.now accountType (.arr (listing.firstPage accountType inventory'))) :
    ((runScraperImpl s args).run (connected m listing inventory) st).1 =
      ((runScraperImpl s args).run (connected m listing inventory') st).1 := by
  unfold runScraperImpl
  rw [structured_run, structured_run]
  congr 1
  by_cases named : (!args.scraperJson.truthy && !args.reuse) = true
  · unfold prepareRun
    rw [if_pos named]
    rfl
  have body : prepareRun s args = readTarget s args >>= prepareFrom s args := by
    unfold prepareRun
    rw [if_neg named]
    rfl
  rw [body, Program.bind_assoc, Program.run_bind, Program.run_bind, run_connected plain_readTarget,
    run_connected plain_readTarget]
  cases ran : (readTarget s args).run m st with
  | mk outcome t =>
    cases outcome with
    | error e => rfl
    | ok target =>
      have found : targetOn m st s args = .ok target := congrArg Prod.fst ran
      exact runFrom_alike unnamed indifferent target (requires target found) same t

/-! What auto-pick finds shows in the reply. -/

/-- An API whose crawlers, unpriced, need an account of this type. -/
def needyApi (accountType : Json) : Machine Call Answer Unit :=
  steadyApi [("id", .str "squid")] (.ok [])
    (fun _ => { input := [], fields := [("account", .obj [("type", accountType)])] })

theorem indifferent_needyApi : Indifferent (needyApi accountType) := by
  refine ⟨fun _ _ => True, fun _ => trivial, fun _ _ c c' _ same => ⟨?_, trivial⟩⟩
  rcases same.cases with rfl | ⟨squid, body, body', rfl, rfl⟩
  · cases c with
    | updateSquid _ _ => rfl
    | _ => exact ⟨rfl, HEq.rfl⟩
  · rfl

def askedToRun : RunArgs := { scraper := some plainCrawlerId }

theorem requires_needyApi (s : Session) : Requires (needyApi accountType) () s askedToRun accountType := by
  intro target found
  cases found
  rfl

/-- What a reply says of the accounts: the code of its error. -/
def toldCode (outcome : Except Exc Fields) : Option Json :=
  outcome.toOption.map fun reply => Fields.get reply "error_code"

def Pick.code (pick : Pick) : Option Json :=
  match pick with
  | .absent => some (.str "no_account_available")
  | .locked => some (.str "account_locked")
  | .several => some (.str "multiple_accounts_available")
  | .unnamed => none
  | .one => some .null

theorem Pick.code_inj {pick pick' : Pick} (same : pick.code = pick'.code) : pick = pick' := by
  cases pick <;> cases pick' <;> simp_all [Pick.code]

/-- What a call comes to, when nothing but its account is in question. -/
theorem toldCode_needyApi (needed : accountType ≠ .null) (now : Int) (listing : AccountListing)
    (inventory : List Json) : toldCode ((runScraperImpl { plainSession with now } askedToRun).run
      (connected (needyApi accountType) listing inventory) ()).1 =
      (pickOf now accountType (.arr (listing.firstPage accountType inventory))).code := by
  obtain ⟨id, settled⟩ := afterPick_eq now accountType
    (listing.envelope (Pages.page 100 1 (inventory.filter (listing.keeps accountType))))
  have chosen : (choosePicked { plainSession with now } accountType).run
      (connected (needyApi accountType) listing inventory) () =
        ((pickOf now accountType (.arr (listing.firstPage accountType inventory))).settled accountType id).run
          (connected (needyApi accountType) listing inventory) () := by
    rw [choosePicked_eq, ← listing.pickOf_page, ← settled]
    rfl
  have account : ∀ target : Target, crawlerAccountType target.crawler = accountType →
      chooseAccount { plainSession with now } askedToRun target =
        choosePicked { plainSession with now } accountType := by
    rintro target rfl
    unfold chooseAccount
    exact if_neg needed
  unfold runScraperImpl
  rw [structured_run]
  show toldCode (settle _ (((chooseAccount { plainSession with now } askedToRun _ >>= _ : Tool RunPlan) >>= _ :
    Tool Fields).run (connected (needyApi accountType) listing inventory) ()).1) = _
  rw [account _ rfl, Program.bind_assoc, Program.run_bind, chosen]
  cases pickOf now accountType (.arr (listing.firstPage accountType inventory)) <;> rfl

/-- The account inventory does not leak, whatever else the API answers, exactly where what auto-pick
finds on the first page of the two is of one kind, or where no account is needed. -/
theorem account_inventory_does_not_leak_iff (now : Int) (accountType : Json) (listing : AccountListing)
    (inventory inventory' : List Json) :
    (∀ (σ : Type) (m : Machine Call Answer σ) (st : σ) (s : Session) (args : RunArgs), s.now = now →
      args.accountId = none → Indifferent m → Requires m st s args accountType →
      ((runScraperImpl s args).run (connected m listing inventory) st).1 =
        ((runScraperImpl s args).run (connected m listing inventory') st).1) ↔
      accountType = .null ∨ pickOf now accountType (.arr (listing.firstPage accountType inventory)) =
        pickOf now accountType (.arr (listing.firstPage accountType inventory')) := by
  constructor
  · intro same
    by_cases needed : accountType = .null
    · exact .inl needed
    have equal := same Unit (needyApi accountType) () { plainSession with now } askedToRun rfl rfl
      indifferent_needyApi (requires_needyApi _)
    have codes := congrArg toldCode equal
    rw [toldCode_needyApi needed, toldCode_needyApi needed] at codes
    exact .inr (Pick.code_inj codes)
  · rintro same σ m st s args rfl unnamed indifferent requires
    exact outcome_alike unnamed indifferent requires same

end Main

/-- Both hold two accounts to pick from, and only one of the replies says so. -/
theorem stale_accounts_show :
    SameInventory 0 (.str "linkedin-sync") longInventory freshInventory ∧
      ((runScraperImpl plainSession askedToRun).run
          (connected (needyApi (.str "linkedin-sync")) liveListing longInventory) ()).1 ≠
        ((runScraperImpl plainSession askedToRun).run
          (connected (needyApi (.str "linkedin-sync")) liveListing freshInventory) ()).1 := by
  refine ⟨⟨by decide +kernel, by decide +kernel⟩, fun same => ?_⟩
  have told := congrArg toldCode same
  rw [toldCode_needyApi (by decide), toldCode_needyApi (by decide)] at told
  have picked := Pick.code_inj told
  revert picked
  decide +kernel

end LobstrMcp
