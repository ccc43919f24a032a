import LobstrMcp.Interaction.Handler
import LobstrMcp.Run.Writes
import LobstrMcp.Tools.RetrySafe
import LobstrMcp.Tools.UpdateScraper

/-!
Which squids a writing tool writes to. A call may write to the squid it names, under the id its record
gives it, and to a squid it has made itself; it deletes only what it made, and empties only what it names.
-/

namespace LobstrMcp
open Interaction Tool

/-- The squids a call may write to: those it names, and those it made. -/
structure Own where
  named : List Json
  made : List Json := []

def Own.has (own : Own) (id : Json) : Prop := id ∈ own.named ∨ id ∈ own.made

/-- The record of a squid that is named tells its id; an answered creation makes the squid the call's own. -/
def ownNext : Protocol Call Answer Own := fun own c ans own' =>
  match c, ans with
  | .getSquid id, .ok record => own' = own ∨
      (id ∈ own.named ∧ own' = { own with named := (Dict.get? record "id").toList ++ own.named })
  | .createSquid _ _, .ok record => own' = { own with made := Fields.get record "id" :: own.made }
  | .deleteSquid id, _ => id ∈ own.made ∧ own' = own
  | .emptySquid id, _ => id ∈ own.named ∧ own' = own
  | .updateSquid id _, _ => own.has id ∧ own' = own
  | .addTasks id _, _ => own.has id ∧ own' = own
  | .startRun id, _ => own.has id ∧ own' = own
  | .setSquidActive id _, _ => own.has id ∧ own' = own
  | _, _ => own' = own

/-- A tool that issues these kinds of requests, and writes to its own squids only. -/
def keepsTo (kind : Call → Bool) : Protocol Call Answer Own := fun own c ans own' =>
  kind c = true ∧ ownNext own c ans own'

/-- A request of these kinds that leaves what the call owns as it is. -/
def Stays (kind : Call → Bool) (own : Own) (c : Call) : Prop := kind c = true ∧ ∀ ans, ownNext own c ans own

section Stays
variable {kind : Call → Bool} {own : Own} {ε α β : Type} {id : Json}

theorem stays_quiet {c : Call} (allowed : kind c = true) (silent : c.writes = false) : Stays kind own c := by
  refine ⟨allowed, fun ans => ?_⟩
  cases c with
  | getSquid id => cases ans with
    | ok record => exact .inl rfl
    | error e => rfl
  | createSquid _ _ => cases silent
  | deleteSquid _ => cases silent
  | emptySquid _ => cases silent
  | updateSquid _ _ => cases silent
  | addTasks _ _ => cases silent
  | startRun _ => cases silent
  | setSquidActive _ _ => cases silent
  | _ => rfl

theorem stays_update {settings : Fields} (allowed : kind (.updateSquid id settings) = true) (has : own.has id) :
    Stays kind own (.updateSquid id settings) := ⟨allowed, fun _ => ⟨has, rfl⟩⟩

theorem stays_add {tasks : List Json} (allowed : kind (.addTasks id tasks) = true) (has : own.has id) :
    Stays kind own (.addTasks id tasks) := ⟨allowed, fun _ => ⟨has, rfl⟩⟩

theorem stays_empty (allowed : kind (.emptySquid id) = true) (named : id ∈ own.named) :
    Stays kind own (.emptySquid id) := ⟨allowed, fun _ => ⟨named, rfl⟩⟩

theorem stays_delete (allowed : kind (.deleteSquid id) = true) (made : id ∈ own.made) :
    Stays kind own (.deleteSquid id) := ⟨allowed, fun _ => ⟨made, rfl⟩⟩

theorem stays_start (allowed : kind (.startRun id) = true) (has : own.has id) :
    Stays kind own (.startRun id) := ⟨allowed, fun _ => ⟨has, rfl⟩⟩

/-- A program whose requests leave what the call owns as it is. -/
theorem follows_stays {good : Own → Except ε α → Prop} {p : Program Call Answer ε α}
    (uses : p.Uses (Stays kind own)) (ends : p.Ends (good own)) : p.Follows (keepsTo kind) good own :=
  Program.follows_of_uses uses (fun _ stays ans => ⟨stays.1, stays.2 ans⟩) ends

theorem follows_stays_bind {good : Own → Except ε β → Prop} {p : Program Call Answer ε α}
    {f : α → Program Call Answer ε β}
    (uses : p.Uses (Stays kind own)) (stops : ∀ e, good own (.error e))
    (rest : ∀ a, (f a).Follows (keepsTo kind) good own) : (p >>= f).Follows (keepsTo kind) good own := by
  refine Program.follows_bind.mpr (follows_stays uses (Program.ends_of_forall (fun r => ?_) p))
  cases r with
  | error e => exact stops e
  | ok a => exact rest a

theorem follows_keepsTo_structured {verify : Option String} {body : Tool Fields}
    (follows : body.Follows (keepsTo kind) (fun _ _ => True) own) :
    (structured verify body).Follows (keepsTo kind) (fun _ _ => True) own := by
  unfold structured
  refine Program.follows_bind.mpr (Program.follows_attempt.mpr (follows.mono fun _ _ _ => ?_))
  exact Program.follows_ofExcept.mpr trivial

theorem follows_stays_structured {verify : Option String} {body : Tool Fields} (uses : body.Uses (Stays kind own)) :
    (structured verify body).Follows (keepsTo kind) (fun _ _ => True) own :=
  follows_keepsTo_structured (follows_stays uses (Program.ends_of_forall (fun _ => trivial) _))

/-- A creation: what follows is about a squid of the call's own. -/
theorem follows_made_bind {good : Own → Except Exit β → Prop} {crawler : Json} {name : Option String}
    {f : Fields → Tool β}
    (allowed : kind (.createSquid crawler name) = true) (stops : ∀ e, good own (.error e))
    (rest : ∀ record, (f record).Follows (keepsTo kind) good { own with made := Fields.get record "id" :: own.made }) :
    (createSquid crawler name >>= f).Follows (keepsTo kind) good own := by
  intro ans
  cases ans with
  | ok record => exact ⟨_, ⟨allowed, rfl⟩, rest record⟩
  | error e => exact ⟨own, ⟨allowed, rfl⟩, stops _⟩

end Stays

/-! ### run_scraper -/

/-- The kinds of requests a call of `run_scraper` makes. -/
def runKind (args : RunArgs) : Call → Bool
  | .listSquids | .pageSquids _ _ _ | .getRunStats _ | .getRun _ | .getRunCredits _ | .setSquidActive _ _
  | .abortRun _ => false
  | .emptySquid _ => args.reuse && args.replaceTasks && !args.input.isEmpty
  | .createSquid _ _ | .deleteSquid _ => !args.reuse
  | _ => true

/-- What a call of `run_scraper` owns from the start. -/
def RunArgs.own (args : RunArgs) : Own where
  named := (args.reused.map Json.str).toList

/-- What is read of the squid that a call reuses: its id is the call's own from then on. -/
def Told (args : RunArgs) (own : Own) (squid : Fields) : Prop :=
  args.reuse = true → ∀ id, Dict.get? squid "id" = some id → id ∈ own.named

/-- A plan is about the arguments of its call, and about the squid that the read of it told the id of. -/
def OwnPlan (args : RunArgs) (own : Own) (plan : RunPlan) : Prop :=
  plan.args = args ∧ (args.reuse = true → plan.input = args.input) ∧ Told args own plan.target.squid

section Run
variable {args : RunArgs} {own : Own} {plan : RunPlan} {s : Session} {id scraper : Json}

theorem runReads {c : Call} (allowed : runKind args c = true) (silent : c.writes = false) :
    Stays (runKind args) own c := stays_quiet allowed silent

theorem readSquid_owns (args : RunArgs) :
    (readSquid args).Follows (keepsTo (runKind args)) (fun own r => ∀ squid, r = .ok squid → Told args own squid)
      args.own := by
  unfold readSquid RunArgs.own
  cases reused : args.reused with
  | none =>
    rintro squid - reuse
    rw [RunArgs.reuse, reused] at reuse
    cases reuse
  | some name =>
    intro ans
    cases ans with
    | error e => exact ⟨_, ⟨rfl, rfl⟩, fun _ absurd => by cases absurd⟩
    | ok record =>
      refine ⟨_, ⟨rfl, .inr ⟨List.mem_singleton_self _, rfl⟩⟩, ?_⟩
      rintro squid ⟨⟩ - id told
      rw [told]
      exact List.mem_cons_self

theorem readTarget_owns (s : Session) (args : RunArgs) :
    (readTarget s args).Follows (keepsTo (runKind args))
      (fun own r => ∀ target, r = .ok target → Told args own target.squid)
      args.own := by
  unfold readTarget
  refine Program.follows_bind.mpr ((readSquid_owns args).mono fun own r told => ?_)
  cases r with
  | error e => exact fun _ absurd => by cases absurd
  | ok squid =>
    refine follows_stays_bind (uses_resolveCrawlerId _ _ (runReads rfl rfl)) (fun _ _ absurd => by cases absurd)
      fun scraper => ?_
    refine follows_stays_bind ((uses_send _).mpr (runReads rfl rfl)) (fun _ _ absurd => by cases absurd)
      fun crawler => ?_
    refine follows_stays_bind (uses_readCrawlerParams _ (runReads rfl rfl)) (fun _ _ absurd => by cases absurd)
      fun params => ?_
    rintro target ⟨⟩
    exact told squid rfl

/-- Everything up to the estimate reads, and ends with a plan about the squid that is named. -/
theorem prepareRun_owns (s : Session) (args : RunArgs) :
    (prepareRun s args).Follows (keepsTo (runKind args)) (fun own r => ∀ plan, r = .ok plan → OwnPlan args own plan)
      args.own := by
  unfold prepareRun
  split
  · exact fun _ absurd => by cases absurd
  refine Program.follows_bind.mpr ((readTarget_owns s args).mono fun own r told => ?_)
  cases r with
  | error e => exact fun _ absurd => by cases absurd
  | ok target =>
    dsimp only
    split
    · exact fun _ absurd => by cases absurd
    refine follows_stays_bind (uses_lookUpRun _ (runReads rfl rfl)) (fun _ _ absurd => by cases absurd) fun _ => ?_
    refine follows_stays_bind (uses_chooseAccount s args _ (fun _ => runReads rfl rfl) fun _ _ _ _ => runReads rfl rfl)
      (fun _ _ absurd => by cases absurd) fun account => ?_
    refine follows_stays_bind (uses_readRows args fun _ => runReads rfl rfl)
      (fun _ _ absurd => by cases absurd) fun snapshot => ?_
    rintro plan ⟨⟩
    exact ⟨rfl, fun reuse => by rw [finalInput, if_pos reuse], told target rfl⟩

/-- The squid of what was written is the call's own; rows were replaced only of one it names. -/
def ownWritten (own : Own) (r : Except Exit Written) : Prop := ∀ w, r = .ok w → own.has w.squidId

theorem saveInput_owns {squidId : Json} (mine : squidId ∈ own.named) (existing : Option Nat) :
    (saveInput plan squidId existing).Follows (keepsTo (runKind plan.args)) ownWritten own := by
  unfold saveInput
  refine follows_stays_bind (uses_saveSquidInput (stays_update rfl (.inl mine)) fun _ rows => stays_add rfl (.inl mine))
    (fun _ _ absurd => by cases absurd) ?_
  rintro (failure | _)
  · dsimp only
    split
    · rintro w ⟨⟩
      exact .inl mine
    · rintro w ⟨⟩
      exact .inl mine
  · exact fun _ absurd => by cases absurd

theorem addInput_owns {squidId : Json} (mine : squidId ∈ own.named) :
    (addInput plan squidId).Follows (keepsTo (runKind plan.args)) ownWritten own := by
  unfold addInput
  split
  · split
    · exact fun _ absurd => by cases absurd
    · exact saveInput_owns mine _
  · split
    · exact fun _ absurd => by cases absurd
    · exact saveInput_owns mine _

/-- Rows are emptied only for an input that takes their place. -/
theorem replaceInput_owns {squidId : Json} (mine : squidId ∈ own.named)
    (empties : runKind plan.args (.emptySquid squidId)) :
    (replaceInput plan squidId).Follows (keepsTo (runKind plan.args)) ownWritten own := by
  unfold replaceInput
  refine follows_stays_bind (uses_replaceSquidInput (stays_update rfl (.inl mine)) (stays_empty empties mine) fun rows =>
    stays_add rfl (.inl mine)) (fun _ _ absurd => by cases absurd) ?_
  rintro ⟨failure, replaced⟩
  cases failure with
  | some failure => exact fun _ absurd => by cases absurd
  | none =>
    rintro w ⟨⟩
    exact .inl mine

/-- The branch that reuses a squid writes to that squid. -/
theorem writeReused_owns (reuse : args.reuse = true) (planned : OwnPlan args own plan) :
    (writeReused plan).Follows (keepsTo (runKind args)) ownWritten own := by
  obtain ⟨rfl, input, told⟩ := planned
  unfold writeReused item
  cases named : Dict.get? plan.target.squid "id" with
  | none => exact fun _ absurd => by cases absurd
  | some squidId =>
    have mine : squidId ∈ own.named := told reuse squidId named
    simp only [Program.pure_bind]
    split
    · refine follows_stays_bind ?_ (fun _ _ absurd => by cases absurd) fun _ => ?_
      · unfold saveAccounts
        split
        · trivial
        · exact Program.uses_bind ((uses_send _).mpr (stays_update rfl (.inl mine))) fun _ => trivial
      · rintro w ⟨⟩
        exact .inl mine
    rename_i present
    split
    · rename_i replace
      refine replaceInput_owns mine ?_
      rw [input reuse] at present
      simp [runKind, reuse, replace, present]
    · exact addInput_owns mine

/-- The branch that creates the squid writes to what it created. -/
theorem writeNew_owns (new : args.reuse = false) (same : plan.args = args) :
    (writeNew plan).Follows (keepsTo (runKind args)) ownWritten own := by
  subst same
  have creates {crawler : Json} {name : Option String} : runKind plan.args (.createSquid crawler name) = true := by
    simp [runKind, new]
  unfold writeNew
  refine follows_made_bind creates (fun _ _ absurd => by cases absurd) fun record => ?_
  unfold item
  cases named : Dict.get? record "id" with
  | none => exact fun _ absurd => by cases absurd
  | some squidId =>
    rw [Fields.get_of_get? named]
    have mine : squidId ∈ squidId :: own.made := List.mem_cons_self
    have delete : Stays (runKind plan.args) { own with made := squidId :: own.made } (.deleteSquid squidId) :=
      stays_delete (by simp [runKind, new]) mine
    have failed (e : Exc) : (newSquidFailed squidId plan.target.scraper e).Follows (keepsTo (runKind plan.args))
        ownWritten { own with made := squidId :: own.made } := by
      refine follows_stays (uses_newSquidFailed delete) ?_
      cases e with
      | api rejection => exact Program.ends_bind_value fun _ _ absurd => by cases absurd
      | _ => exact fun _ absurd => by cases absurd
    simp only [Program.pure_bind]
    refine follows_stays_bind ((uses_request _).mpr (stays_update rfl (.inr mine))) (fun _ _ absurd => by cases absurd)
      fun updated => ?_
    cases updated with
    | error e => exact failed e
    | ok _ =>
      refine follows_stays_bind ((uses_request _).mpr (stays_add rfl (.inr mine))) (fun _ _ absurd => by cases absurd)
        fun added => ?_
      cases added with
      | error e => exact failed e
      | ok _ =>
        rintro w ⟨⟩
        exact .inr mine

theorem commitRun_owns (planned : OwnPlan args own plan) :
    (commitRun s plan).Follows (keepsTo (runKind args)) (fun _ _ => True) own := by
  have same : plan.args = args := planned.1
  have written : (writeInput plan).Follows (keepsTo (runKind args)) ownWritten own := by
    unfold writeInput
    rw [same]
    split
    · rename_i reuse
      exact writeReused_owns reuse planned
    · rename_i new
      exact writeNew_owns (by simpa using new) same
  unfold commitRun
  split
  · exact trivial
  refine follows_stays_bind (Program.uses_bind ((uses_send _).mpr (runReads rfl rfl)) fun _ => trivial)
    (fun _ => trivial) fun funds => ?_
  refine Program.follows_bind.mpr (written.mono fun own r mine => ?_)
  cases r with
  | error e => exact trivial
  | ok w =>
    have mine : own.has w.squidId := mine w rfl
    refine follows_stays_bind ((uses_request _).mpr (stays_start rfl mine)) (fun _ => trivial) fun started => ?_
    exact follows_stays (uses_afterStart plan funds w started (fun _ => runReads rfl rfl)
      fun _ _ _ _ => stays_add rfl mine) (Program.ends_of_forall (fun _ => trivial) _)

theorem runScraperImpl_owns (s : Session) (args : RunArgs) :
    (runScraperImpl s args).Follows (keepsTo (runKind args)) (fun _ _ => True) args.own := by
  refine follows_keepsTo_structured (Program.follows_bind.mpr
    ((prepareRun_owns s args).mono fun own r planned => ?_))
  cases r with
  | error e => exact trivial
  | ok plan => exact commitRun_owns (planned plan rfl)

end Run

/-! ### The other tools that write -/

/-- The reads of a crawler and of its parameters. -/
def readsCrawler : Call → Bool
  | .listCrawlers | .getCrawler _ | .getCrawlerParams _ => true
  | _ => false

def createKind : Call → Bool
  | .createSquid _ _ | .updateSquid _ _ | .deleteSquid _ => true
  | c => readsCrawler c

def addKind : Call → Bool
  | .getSquid _ | .addTasks _ _ => true
  | c => readsCrawler c

def updateKind : Call → Bool
  | .getSquid _ | .updateSquid _ _ => true
  | c => readsCrawler c

def attachKind : Call → Bool
  | .getSquid _ | .getCrawler _ | .getAccount _ | .listAccounts _ _ _ _ | .updateSquid _ _ => true
  | _ => false

def emptyKind : Call → Bool
  | .emptySquid _ => true
  | _ => false

def deactivateKind : Call → Bool
  | .setSquidActive _ _ => true
  | _ => false

def abortKind : Call → Bool
  | .abortRun _ => true
  | _ => false

section Uses
variable {allowed : Call → Prop} {kind : Call → Bool} {own : Own}

theorem uses_translatedSchema (crawlerId : Json) (crawler : allowed (.getCrawler crawlerId))
    (params : allowed (.getCrawlerParams crawlerId)) : (translatedSchema crawlerId).Uses allowed := by
  refine Program.uses_bind ((uses_request _).mpr crawler) fun ans => ?_
  cases ans with
  | error e => trivial
  | ok found => exact Program.uses_bind (uses_readCrawlerParams _ params) fun _ => trivial

theorem uses_configCheck (crawlerId : Json) (config : Fields) (crawler : allowed (.getCrawler crawlerId))
    (params : allowed (.getCrawlerParams crawlerId)) : (checkConfig crawlerId config).Uses allowed := by
  unfold checkConfig
  split
  · trivial
  refine Program.uses_bind (uses_translatedSchema crawlerId crawler params) fun found => ?_
  cases found with
  | none => trivial
  | some t =>
    dsimp only
    split
    · trivial
    · split <;> trivial

theorem uses_wireNames (squidId : String) (squid : allowed (.getSquid (.str squidId)))
    (crawler : ∀ id, allowed (.getCrawler id)) (params : ∀ id, allowed (.getCrawlerParams id)) :
    (squidAndWireNames squidId).Uses allowed := by
  refine Program.uses_bind ((uses_request _).mpr squid) fun ans => ?_
  cases ans with
  | error e => trivial
  | ok record =>
    dsimp only
    split
    · trivial
    · refine Program.uses_bind (uses_translatedSchema _ (crawler _) (params _)) fun found => ?_
      cases found <;> trivial

theorem uses_saveConfig {squidId crawlerId : Json} {body : Fields} (update : allowed (.updateSquid squidId body))
    (delete : allowed (.deleteSquid squidId)) : (saveConfig squidId crawlerId body).Uses allowed := by
  refine Program.uses_bind ((uses_request _).mpr update) fun answer => ?_
  cases answer with
  | ok _ => trivial
  | error e =>
    cases e with
    | api rejection =>
      refine Program.uses_bind ?_ fun _ => trivial
      unfold configRejected
      dsimp only
      refine Program.uses_bind ((uses_request _).mpr delete) fun deleted => ?_
      cases deleted <;> trivial
    | _ => trivial

end Uses

section Others
variable {squidId : String} {accountId : Option String} {config : Fields} {concurrency : Option Int} {name : Option String}

/-- What a call that names one squid owns from the start. -/
def ownSquid (squidId : String) : Own where
  named := [.str squidId]

theorem ownSquid_has (squidId : String) : (ownSquid squidId).has (.str squidId) := .inl (List.mem_singleton_self _)

theorem createSquidImpl_owns (lower : String → String) (scraper : String) (name : Option String) (config : Fields)
    (concurrency : Option Int) :
    (createSquidImpl lower scraper name config concurrency).Follows (keepsTo createKind) (fun _ _ => True) ⟨[], []⟩ := by
  refine follows_keepsTo_structured ?_
  unfold createSquidBody
  refine follows_stays_bind (uses_resolveCrawlerId _ _ (stays_quiet rfl rfl)) (fun _ => trivial) fun crawlerId => ?_
  refine follows_stays_bind (uses_configCheck _ _ (stays_quiet rfl rfl) (stays_quiet rfl rfl)) (fun _ => trivial)
    fun cfg => ?_
  refine follows_made_bind rfl (fun _ => trivial) fun record => ?_
  have mine : Fields.get record "id" ∈ [Fields.get record "id"] := List.mem_singleton_self _
  dsimp only
  split
  · trivial
  · refine follows_stays_bind (uses_saveConfig ?_ ?_) (fun _ => trivial) fun _ => trivial
    · exact stays_update rfl (.inr mine)
    · exact stays_delete rfl mine

theorem addTasksImpl_owns (squidId : String) (tasks : List Json) :
    (addTasksImpl squidId tasks).Follows (keepsTo addKind) (fun _ _ => True) (ownSquid squidId) := by
  refine follows_stays_structured ?_
  unfold addTasksBody
  split
  · trivial
  refine Program.uses_bind (uses_wireNames squidId (stays_quiet rfl rfl) (fun _ => stays_quiet rfl rfl)
    fun _ => stays_quiet rfl rfl) fun found => ?_
  exact Program.uses_bind ((uses_send _).mpr (stays_add rfl (ownSquid_has squidId))) fun _ => trivial

theorem updateScraperImpl_owns (squidId : String) (name : Option String) (config : Fields) (concurrency : Option Int) :
    (updateScraperImpl squidId name config concurrency).Follows (keepsTo updateKind) (fun _ _ => True)
      (ownSquid squidId) := by
  refine follows_stays_structured ?_
  unfold updateScraper
  dsimp only
  split
  · trivial
  refine Program.uses_bind (uses_wireNames squidId (stays_quiet rfl rfl) (fun _ => stays_quiet rfl rfl)
    fun _ => stays_quiet rfl rfl) fun found => ?_
  exact Program.uses_bind ((uses_send _).mpr (stays_update rfl (ownSquid_has squidId))) fun _ => trivial

theorem attachAccountImpl_owns (s : Session) (squidId : String) (accountId : Option String) :
    (attachAccountImpl s squidId accountId).Follows (keepsTo attachKind) (fun _ _ => True) (ownSquid squidId) := by
  refine follows_stays_structured ?_
  unfold attachAccount
  refine Program.uses_bind ((uses_send _).mpr (stays_quiet rfl rfl)) fun squid => ?_
  refine Program.uses_bind (uses_crawlerOf _ fun _ => stays_quiet rfl rfl) fun crawler => ?_
  dsimp only
  split
  · trivial
  split
  · trivial
  refine Program.uses_bind (uses_findAttachment s squidId accountId _ _ (fun _ => stays_quiet rfl rfl)
    fun _ _ _ _ => stays_quiet rfl rfl) fun found => ?_
  split
  · trivial
  · exact Program.uses_bind ((uses_send _).mpr (stays_update rfl (ownSquid_has squidId))) fun _ => trivial

theorem emptyScraperImpl_owns (squidId : String) :
    (emptyScraperImpl squidId).Follows (keepsTo emptyKind) (fun _ _ => True) (ownSquid squidId) := by
  refine follows_stays_structured ?_
  exact Program.uses_bind ((uses_send _).mpr (stays_empty rfl (List.mem_singleton_self _))) fun _ => trivial

theorem deactivateScraperImpl_owns (squidId : String) :
    (deactivateScraperImpl squidId).Follows (keepsTo deactivateKind) (fun _ _ => True) (ownSquid squidId) := by
  refine follows_stays_structured ?_
  exact Program.uses_bind ((uses_send _).mpr ⟨rfl, fun _ => ⟨ownSquid_has squidId, rfl⟩⟩) fun _ => trivial

theorem abortRunImpl_owns (lower : String → String) (runId : String) :
    (abortRunImpl lower runId).Follows (keepsTo abortKind) (fun _ _ => True) ⟨[], []⟩ := by
  refine follows_stays_structured ?_
  exact Program.uses_bind ((uses_send _).mpr ⟨rfl, fun _ => rfl⟩) fun _ => trivial

end Others
end LobstrMcp
