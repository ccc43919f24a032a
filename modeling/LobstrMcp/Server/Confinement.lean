import LobstrMcp.Interaction.Sharing
import LobstrMcp.Server.LeastPrivilege
import LobstrMcp.World.Upstream

/-!
Calls that overlap. However the requests of several served calls come in between each other, each call
writes under its own token and to its own squids; a squid that none of them names stays as it is, and
one that none of them empties keeps its rows.
-/

namespace LobstrMcp
open Interaction

/-- The API, as a server meets it. -/
def serverWorld (reports : List Json → Json → Prop) : World ServerCall ServerCall.Ans Upstream := fun u op ans t =>
  match op, ans with
  | .call c, ans => Upstream.world reports u c ans t
  | _, _ => t = u

/-! ### One request -/

section Step
variable {reports : List Json → Json → Prop} {u t : Upstream} {c : Call} {ans : Answer c} {own own' : Own} {id : Json}
  {q : Squid}

/-- A request leaves the API as it was, or is a write that takes effect. -/
theorem world_takes (step : Upstream.world reports u c ans t) :
    t = u ∨ (c.writes = true ∧ ∃ made, u.Takes c made t) := by
  cases writes : c.writes with
  | false => exact .inl (Upstream.world_keeps writes step)
  | true =>
    cases ans with
    | ok payload =>
      exact .inr ⟨rfl, _, (Upstream.world_write writes).mp step⟩
    | error e =>
      rcases Upstream.world_error writes step with ⟨_, rfl, rfl⟩ | ⟨_, rfl, rfl | ⟨_, made, takes⟩⟩
      · exact .inl rfl
      · exact .inl rfl
      · exact .inr ⟨rfl, made, takes⟩

/-- A change of one squid, as another sees it and as it sees it itself. -/
theorem edit_keeps {squid : Json} (change : Squid → Squid) (held : u.squids id = some q)
    (touched : id = squid → id ∈ own.named) (rows : (change q).rows = q.rows ∨ q.rows ⊆ (change q).rows) :
    ∃ q', u.edit squid change id = some q' ∧ (id ∉ own.named → q' = q) ∧ q.rows ⊆ q'.rows := by
  by_cases same : id = squid
  · subst same
    refine ⟨change q, by rw [Upstream.edit_same, held]; rfl, fun other => absurd (touched rfl) other, ?_⟩
    rcases rows with same | more
    · rw [same]
      exact List.Subset.refl _
    · exact more
  · exact ⟨q, by rw [Upstream.edit_other _ _ same, held], fun _ => rfl, List.Subset.refl _⟩

/-- What a request of a call does to a squid that is there and that the call has not made: nothing, where
the call does not name it, and no row is lost but by emptying it. -/
theorem ownNext_keeps (step : Upstream.world reports u c ans t) (next : ownNext own c ans own')
    (held : u.squids id = some q) (apart : id ∉ own.made) :
    ∃ q', t.squids id = some q' ∧ (id ∉ own.named → q' = q) ∧ (c ≠ .emptySquid id → q.rows ⊆ q'.rows) := by
  have asWas : ∃ q', u.squids id = some q' ∧ (id ∉ own.named → q' = q) ∧ (c ≠ .emptySquid id → q.rows ⊆ q'.rows) :=
    ⟨q, held, fun _ => rfl, fun _ => List.Subset.refl _⟩
  have named {squid : Json} (has : own.has squid) (same : id = squid) : id ∈ own.named := by
    subst same
    exact has.resolve_right apart
  rcases world_takes step with rfl | ⟨writes, made, fresh, rfl⟩
  · exact asWas
  cases c with
  | createSquid crawler name =>
    refine ⟨q, ?_, fun _ => rfl, fun _ => List.Subset.refl _⟩
    have other : id ≠ Fields.get made "id" := by
      rintro rfl
      rw [Upstream.Fresh, held] at fresh
      cases fresh
    simpa [Upstream.effect, other] using held
  | updateSquid squid settings =>
    obtain ⟨q', after, same, rows⟩ := edit_keeps (fun q => { q with record := Dict.update q.record settings }) held
      (named next.1) (.inl rfl)
    exact ⟨q', after, same, fun _ => rows⟩
  | addTasks squid tasks =>
    obtain ⟨q', after, same, rows⟩ := edit_keeps (fun q => { q with rows := addRows q.rows tasks }) held (named next.1)
      (.inr fun row member => (mem_addRows _ _ _).mpr (.inl member))
    exact ⟨q', after, same, fun _ => rows⟩
  | setSquidActive squid active =>
    obtain ⟨q', after, same, rows⟩ := edit_keeps
      (fun q => { q with record := Dict.set q.record "is_active" (.bool active) }) held (named next.1) (.inl rfl)
    exact ⟨q', after, same, fun _ => rows⟩
  | deleteSquid squid =>
    refine ⟨q, ?_, fun _ => rfl, fun _ => List.Subset.refl _⟩
    have other : id ≠ squid := by
      rintro rfl
      exact apart next.1
    simpa [Upstream.effect, other] using held
  | emptySquid squid =>
    by_cases same : id = squid
    · subst same
      refine ⟨{ q with rows := [] }, by simp [Upstream.effect, held], fun other => absurd next.1 other, fun other => ?_⟩
      exact (other rfl).elim
    · exact ⟨q, by simpa [Upstream.effect, Upstream.edit_other _ _ same] using held, fun _ => rfl,
        fun _ => List.Subset.refl _⟩
  | startRun squid => exact asWas
  | abortRun run => exact asWas
  | _ => cases writes

end Step

/-! ### Several calls -/

/-- The calls that take turns, each with its own schedule of requests. -/
abbrev Turns (ι : Type) : Type := Schedule ι ServerCall ServerCall.Ans Upstream

/-- The call names the squid as one to write to. -/
def ToolCall.names (call : ToolCall) (id : Json) : Prop := id ∈ call.own.named

/-- The call empties the squid: `empty_scraper`, and `run_scraper` where it replaces the rows. -/
def ToolCall.empties : ToolCall → Json → Prop
  | .emptyScraper squidId, id => id = .str squidId
  | .runScraper args, id => id ∈ args.own.named ∧ args.replaceTasks = true ∧ args.input.isEmpty = false
  | _, _ => False

/-- An earlier turn of call `i` created the squid. -/
def Made {ι : Type} (log : Turns ι) (i : ι) (id : Json) : Prop :=
  ∃ s crawler name, ∃ record : Fields, Fields.get record "id" = id ∧
    (i, ⟨s, .call (.createSquid crawler name), (.ok record : Answer (.createSquid crawler name))⟩) ∈ log

/-- A write goes to a squid that its call names or has made; only what it made is deleted, and only what
it is to empty is emptied. -/
def AtHome {ι : Type} (calls : ι → ToolCall) (before : Turns ι) (turn : ι × Event ServerCall ServerCall.Ans Upstream) :
    Prop :=
  match turn.2.op with
  | .call (.deleteSquid id) => Made before turn.1 id
  | .call (.emptySquid id) => (calls turn.1).empties id
  | .call (.updateSquid id _) | .call (.addTasks id _) | .call (.startRun id) | .call (.setSquidActive id _) =>
    (calls turn.1).names id ∨ Made before turn.1 id
  | _ => True

section Names
variable {call : ToolCall} {index : Bool} {id : Json}

/-- Only the calls that empty a squid may issue the request that does. -/
theorem empties_of_issues (issues : call.issues index (.call (.emptySquid id)) = true) (names : call.names id) :
    call.empties id := by
  cases call with
  | emptyScraper squidId => exact List.mem_singleton.mp names
  | runScraper args =>
    have kind : (args.reuse && args.replaceTasks && !args.input.isEmpty) = true := issues
    simp only [Bool.and_eq_true, Bool.not_eq_true'] at kind
    exact ⟨names, kind.1.2, kind.2⟩
  | _ => cases issues

end Names

/-- What holds of overlapping calls at any time: what they own is what they name and what they made
themselves, and the squids that were there are as their owners left them. -/
structure Confined {ι : Type} (u : Upstream) (calls : ι → ToolCall) (log : Turns ι) (owned : ι → Own) (s : Upstream) :
    Prop where
  named : ∀ i, ∀ id ∈ (owned i).named, (calls i).names id
  made : ∀ i, ∀ id ∈ (owned i).made, Made log i id
  fresh : ∀ i id, Made log i id → u.squids id = none
  kept : ∀ id q, u.squids id = some q → ∃ q', s.squids id = some q' ∧
    ((∀ i, ¬ (calls i).names id) → q' = q) ∧ ((∀ i, ¬ (calls i).empties id) → q.rows ⊆ q'.rows)
  home : log.Each (AtHome calls)

section Own
variable {reports : List Json → Json → Prop} {s t : Upstream} {c : Call} {ans : Answer c} {own own' : Own} {id : Json}
  {ι : Type} {log : Turns ι} {i : ι}

/-- A call names what it named at first: the record of a squid has the id it was read by. -/
theorem ownNext_named (step : Upstream.world reports s c ans t) (next : ownNext own c ans own') :
    own'.named ⊆ own.named := by
  cases c with
  | getSquid squid =>
    cases ans with
    | error e => exact next ▸ List.Subset.refl _
    | ok record =>
      rcases next with rfl | ⟨named, rfl⟩
      · exact List.Subset.refl _
      · obtain ⟨_, -, -, told⟩ := ((Upstream.world_read rfl).mp step).2
        rw [told]
        exact List.cons_subset.mpr ⟨named, List.Subset.refl _⟩
  | createSquid crawler name =>
    cases ans with
    | error e => exact next ▸ List.Subset.refl _
    | ok record => exact next ▸ List.Subset.refl _
  | deleteSquid _ => exact next.2 ▸ List.Subset.refl _
  | emptySquid _ => exact next.2 ▸ List.Subset.refl _
  | updateSquid _ _ => exact next.2 ▸ List.Subset.refl _
  | addTasks _ _ => exact next.2 ▸ List.Subset.refl _
  | startRun _ => exact next.2 ▸ List.Subset.refl _
  | setSquidActive _ _ => exact next.2 ▸ List.Subset.refl _
  | _ => exact next ▸ List.Subset.refl _

theorem Made.later (made : Made log i id) (turn : ι × Event ServerCall ServerCall.Ans Upstream) :
    Made (log ++ [turn]) i id := by
  obtain ⟨s, crawler, name, record, same, member⟩ := made
  exact ⟨s, crawler, name, record, same, List.mem_append_left _ member⟩

/-- What a call has made, it made before or by this request. -/
theorem ownNext_made (next : ownNext own c ans own') (before : ∀ id ∈ own.made, Made log i id) (mine : id ∈ own'.made) :
    Made (log ++ [(i, ⟨s, .call c, ans⟩)]) i id := by
  have unchanged (same : own'.made = own.made) : Made (log ++ [(i, ⟨s, .call c, ans⟩)]) i id :=
    (before id (same ▸ mine)).later _
  cases c with
  | getSquid squid =>
    cases ans with
    | error e => exact unchanged (next ▸ rfl)
    | ok record =>
      rcases next with rfl | ⟨-, rfl⟩
      · exact unchanged rfl
      · exact unchanged rfl
  | createSquid crawler name =>
    cases ans with
    | error e => exact unchanged (next ▸ rfl)
    | ok record =>
      subst next
      rcases List.mem_cons.mp mine with rfl | earlier
      · exact ⟨s, crawler, name, record, rfl, List.mem_append_right _ (List.mem_singleton_self _)⟩
      · exact (before id earlier).later _
  | deleteSquid _ => exact unchanged (next.2 ▸ rfl)
  | emptySquid _ => exact unchanged (next.2 ▸ rfl)
  | updateSquid _ _ => exact unchanged (next.2 ▸ rfl)
  | addTasks _ _ => exact unchanged (next.2 ▸ rfl)
  | startRun _ => exact unchanged (next.2 ▸ rfl)
  | setSquidActive _ _ => exact unchanged (next.2 ▸ rfl)
  | _ => exact unchanged (next ▸ rfl)

/-- What was made just now was not there. -/
theorem made_snoc {op : ServerCall} {ans : ServerCall.Ans op} {j : ι} (step : serverWorld reports s op ans t)
    (made : Made (log ++ [(i, ⟨s, op, ans⟩)]) j id) : Made log j id ∨ s.squids id = none := by
  obtain ⟨s', crawler, name, record, rfl, member⟩ := made
  rcases List.mem_append.mp member with member | member
  · exact .inl ⟨s', crawler, name, record, rfl, member⟩
  · cases List.mem_singleton.mp member
    have takes : s.Takes (.createSquid crawler name) record t := (Upstream.world_write rfl).mp step
    exact .inr takes.1

end Own

section Confined
variable {ι : Type} [DecidableEq ι] {reports : List Json → Json → Prop} {u s t : Upstream} {calls : ι → ToolCall}
  {log : Turns ι} {owned : ι → Own} {i : ι} {index : Bool}

omit [DecidableEq ι] in
theorem confined_start (u : Upstream) (calls : ι → ToolCall) : Confined u calls [] (fun i => (calls i).own) u where
  named _ _ names := names
  made _ _ absurd := by cases absurd
  fresh _ _ made := by
    obtain ⟨_, _, _, _, _, absurd⟩ := made
    cases absurd
  kept _ q held := ⟨q, held, fun _ => rfl, fun _ => List.Subset.refl _⟩
  home := Schedule.each_nil

omit [DecidableEq ι] in
theorem Confined.home_of_own (inv : Confined u calls log owned s) {id : Json} (has : (owned i).has id) :
    (calls i).names id ∨ Made log i id := has.imp (inv.named i id) (inv.made i id)

omit [DecidableEq ι] in
/-- The request of a turn goes where its call may write. -/
theorem Confined.atHome (inv : Confined u calls log owned s) {c : Call} {ans : Answer c} {own' : Own}
    (issues : (calls i).issues index (.call c) = true) (next : ownNext (owned i) c ans own') :
    AtHome calls log (i, ⟨s, .call c, ans⟩) := by
  cases c with
  | deleteSquid id => exact inv.made i id next.1
  | emptySquid id => exact empties_of_issues issues (inv.named i id next.1)
  | updateSquid id _ => exact inv.home_of_own next.1
  | addTasks id _ => exact inv.home_of_own next.1
  | startRun id => exact inv.home_of_own next.1
  | setSquidActive id _ => exact inv.home_of_own next.1
  | _ => trivial

omit [DecidableEq ι] in
/-- A squid that was there is not one that a call has made. -/
theorem Confined.apart (inv : Confined u calls log owned s) {id : Json} {q : Squid} (held : u.squids id = some q) :
    id ∉ (owned i).made := fun mine => by
  rw [inv.fresh i id (inv.made i id mine)] at held
  cases held

/-- A turn keeps the calls confined when its own call is. -/
theorem Confined.extend (inv : Confined u calls log owned s) {op : ServerCall} {ans : ServerCall.Ans op} {own' : Own}
    (step : serverWorld reports s op ans t) (named : own'.named ⊆ (owned i).named)
    (made : ∀ id ∈ own'.made, Made (log ++ [(i, ⟨s, op, ans⟩)]) i id) (home : AtHome calls log (i, ⟨s, op, ans⟩))
    (kept : ∀ id q, s.squids id = some q → id ∉ (owned i).made → ∃ q', t.squids id = some q' ∧
      (id ∉ (owned i).named → q' = q) ∧ ((∀ j, ¬ (calls j).empties id) → q.rows ⊆ q'.rows)) :
    Confined u calls (log ++ [(i, ⟨s, op, ans⟩)]) (Function.update owned i own') t where
  named j id member := by
    by_cases same : j = i
    · subst same
      rw [Function.update_self] at member
      exact inv.named j id (named member)
    · rw [Function.update_of_ne same] at member
      exact inv.named j id member
  made j id member := by
    by_cases same : j = i
    · subst same
      rw [Function.update_self] at member
      exact made id member
    · rw [Function.update_of_ne same] at member
      exact (inv.made j id member).later _
  fresh j id made := by
    rcases made_snoc step made with earlier | free
    · exact inv.fresh j id earlier
    · cases held : u.squids id with
      | none => rfl
      | some q =>
        obtain ⟨q', still, -⟩ := inv.kept id q held
        rw [free] at still
        cases still
  kept id q held := by
    obtain ⟨q₁, before, asWas, rows⟩ := inv.kept id q held
    obtain ⟨q₂, after, same, more⟩ := kept id q₁ before (inv.apart held)
    refine ⟨q₂, after, fun unnamed => ?_, fun unemptied => ?_⟩
    · rw [same fun named => unnamed i (inv.named i id named), asWas unnamed]
    · exact List.Subset.trans (rows unemptied) (more unemptied)
  home := Schedule.each_snoc inv.home home

/-- What a call keeps to keeps the calls confined. -/
theorem Confined.turn (inv : Confined u calls log owned s) {op : ServerCall} {ans : ServerCall.Ans op} {own' : Own}
    (keeps : serverKeeps ((calls i).issues index) (owned i) op ans own') (step : serverWorld reports s op ans t) :
    Confined u calls (log ++ [(i, ⟨s, op, ans⟩)]) (Function.update owned i own') t := by
  have quiet (same : own' = owned i) (still : t = s) (home : AtHome calls log (i, ⟨s, op, ans⟩)) :
      Confined u calls (log ++ [(i, ⟨s, op, ans⟩)]) (Function.update owned i own') t := by
    subst same still
    exact inv.extend step (List.Subset.refl _) (fun id mine => (inv.made i id mine).later _) home
      fun id q held _ => ⟨q, held, fun _ => rfl, fun _ => List.Subset.refl _⟩
  cases op with
  | read r => exact quiet keeps.2 step trivial
  | now => exact quiet keeps.2 step trivial
  | sleep seconds => exact quiet keeps.2 step trivial
  | call c =>
    refine inv.extend step (ownNext_named step keeps.2) (fun id => ownNext_made keeps.2 (inv.made i))
      (inv.atHome keeps.1 keeps.2) fun id q held apart => ?_
    obtain ⟨q', after, same, more⟩ := ownNext_keeps step keeps.2 held apart
    refine ⟨q', after, same, fun unemptied => more ?_⟩
    rintro rfl
    exact unemptied i (empties_of_issues keeps.1 (inv.named i id keeps.2.1))

end Confined

/-! ### Overlapping calls of a server -/

section Served
variable {K : Type} [ScoreField K] (host : Host K) {ι : Type}

/-- Calls that a server carries out side by side, each with the access token it came with. -/
def servedPool (u : Upstream) (now : ι → Int) (access : ι → Option AccessToken) (calls : ι → ToolCall) :
    Pool ι ServerCall ServerCall.Ans Upstream ToolError (Option Reply) where
  state := u
  programs i := serve host (now i) (access i) (calls i)

end Served

/-! ### A run of two calls -/

def oneRow (id : String) : Squid where
  record := [("id", .str id)]
  rows := [.obj [("query", .str "tea")]]

def plainSquids : Upstream where
  squids id := if id = .str "first" then some (oneRow "first") else if id = .str "second" then some (oneRow "second")
    else if id = .str "third" then some (oneRow "third") else none

/-- One call empties a squid, the other deactivates another one. -/
def overlappingCalls (empties : Bool) : ToolCall :=
    if empties then .emptyScraper "first" else .deactivateScraper "second"

def overlappingPool : Pool Bool ServerCall ServerCall.Ans Upstream ToolError (Option Reply) :=
  servedPool plainHost plainSquids (fun _ => 0) (fun _ => some (plainToken [runsExecute])) overlappingCalls

/-- What is left of the squids when both calls have made their request. -/
def afterOverlap : Upstream :=
  (plainSquids.effect (.emptySquid (.str "first")) []).effect (.setSquidActive (.str "second") false) []

theorem two_calls_overlap : ∃ log p,
    Pool.Runs (serverWorld Upstream.listsAny) (fun _ _ _ _ _ => True) overlappingPool log p ∧ log.length = 2 := by
  have empties : serverWorld Upstream.listsAny plainSquids (.call (.emptySquid (.str "first"))) (.ok .null)
      (plainSquids.effect (.emptySquid (.str "first")) []) := ⟨trivial, rfl⟩
  have deactivates : serverWorld Upstream.listsAny (plainSquids.effect (.emptySquid (.str "first")) [])
      (.call (.setSquidActive (.str "second") false)) (.ok .null) afterOverlap := ⟨trivial, rfl⟩
  have one : Pool.Runs (serverWorld Upstream.listsAny) (fun _ _ _ _ _ => True) overlappingPool _ _ :=
    .turn .start (i := true) rfl empties trivial
  exact ⟨_, _, one.turn (i := false) rfl deactivates trivial, rfl⟩

/-- Both calls read the first squid, under a token that may not execute. -/
def twoReadsPool : Pool Bool ServerCall ServerCall.Ans Upstream ToolError (Option Reply) :=
  servedPool plainHost plainSquids (fun _ => 0)
    (fun _ => some (plainToken [crawlersRead])) fun _ => .getMyScraper "first"

theorem two_reads_overlap : ∃ log p,
    Pool.Runs (serverWorld Upstream.listsAny) (fun _ _ _ _ _ => True) twoReadsPool log p ∧ log.length = 2 := by
  have reads : serverWorld Upstream.listsAny plainSquids (.call (.getSquid (.str "first")))
    (.ok (oneRow "first").record)
      plainSquids := ⟨rfl, oneRow "first", rfl, rfl, rfl⟩
  have one : Pool.Runs (serverWorld Upstream.listsAny) (fun _ _ _ _ _ => True) twoReadsPool _ _ :=
    .turn .start (i := true) rfl reads trivial
  exact ⟨_, _, one.turn (i := false) rfl reads trivial, rfl⟩

/-! ### What overlapping calls keep -/

section Served
variable {K : Type} [ScoreField K] {host : Host K} {ι : Type}
variable [DecidableEq ι] {reports : List Json → Json → Prop} {u : Upstream} {now : ι → Int}
  {access : ι → Option AccessToken} {calls : ι → ToolCall} {log : Turns ι}
  {may : Turn ι ServerCall ServerCall.Ans Upstream ToolError (Option Reply)}
  {p : Pool ι ServerCall ServerCall.Ans Upstream ToolError (Option Reply)} {id : Json} {q : Squid}

theorem served_confined (runs : Pool.Runs (serverWorld reports) may (servedPool host u now access calls) log p) :
    ∃ owned, Confined u calls log owned p.state := by
  obtain ⟨owned, inv, -⟩ := runs.keeps (I := Confined u calls) (fun i => serve_keeps host (now i) (access i) (calls i))
    (confined_start u calls) fun inv keeps step => inv.turn keeps step
  exact ⟨owned, inv⟩

/-- Writes are governed by one scope. -/
theorem executes_of_governed {a : AccessToken} {c : Call} (writes : c.writes = true)
    (held : ∃ scope ∈ (ServerCall.call c).governing, scope ∈ expandGranted a.scopes) : runsExecute ∈ a.scopes := by
  obtain ⟨scope, governs, granted⟩ := held
  rw [ServerCall.governing, writes_governed writes, List.mem_singleton] at governs
  rw [governs, mem_expandGranted] at granted
  exact granted.resolve_right fun implied => absurd implied.1 (by decide)

theorem served_scopes (runs : Pool.Runs (serverWorld reports) may (servedPool host u now access calls) log p) :
    ∀ turn ∈ log, ∃ a, access turn.1 = some a ∧ ∃ scope ∈ turn.2.op.governing, scope ∈ expandGranted a.scopes :=
  (runs.allowed fun i => serve_governed host (now i) (access i) (calls i)).1

/-- However served calls overlap, every write is made under a token that may execute, to a squid that its
call names or has made itself; a call deletes only what it made, and empties only what it is to empty. -/
theorem writes_stay_home (runs : Pool.Runs (serverWorld reports) may (servedPool host u now access calls) log p) :
    log.Each fun before turn => AtHome calls before turn ∧
      ∀ c, turn.2.op = .call c → c.writes = true → ∃ a, access turn.1 = some a ∧ runsExecute ∈ a.scopes := by
  obtain ⟨_, inv⟩ := served_confined runs
  intro first turn rest split
  refine ⟨inv.home first turn rest split, fun c issued writes => ?_⟩
  have member : turn ∈ log := by simp [split]
  obtain ⟨a, presented, held⟩ := served_scopes runs turn member
  rw [issued] at held
  exact ⟨a, presented, executes_of_governed writes held⟩

theorem two_calls_stay_home : ∃ log p,
    Pool.Runs (serverWorld Upstream.listsAny) (fun _ _ _ _ _ => True) overlappingPool log p ∧ log.length = 2 ∧
      log.Each fun before turn => AtHome overlappingCalls before turn ∧ ∀ c, turn.2.op = .call c → c.writes = true →
        ∃ a, some (plainToken [runsExecute]) = some a ∧ runsExecute ∈ a.scopes := by
  obtain ⟨log, p, runs, two⟩ := two_calls_overlap
  exact ⟨log, p, runs, two, writes_stay_home runs⟩

/-- A squid that no call names is as it was, however the calls overlap. -/
theorem unnamed_squids_stay (runs : Pool.Runs (serverWorld reports) may (servedPool host u now access calls) log p)
    (there : u.squids id = some q) (unnamed : ∀ i, ¬ (calls i).names id) : p.state.squids id = some q := by
  obtain ⟨_, inv⟩ := served_confined runs
  obtain ⟨q', held, same, -⟩ := inv.kept id q there
  rw [held, same unnamed]

theorem the_third_squid_stays : ∃ log p,
    Pool.Runs (serverWorld Upstream.listsAny) (fun _ _ _ _ _ => True) overlappingPool log p ∧ log.length = 2 ∧
      p.state.squids (.str "third") = some (oneRow "third") := by
  obtain ⟨log, p, runs, two⟩ := two_calls_overlap
  refine ⟨log, p, runs, two, unnamed_squids_stay runs rfl ?_⟩
  rintro (_ | _) named
  · exact absurd (List.mem_singleton.mp named) (by decide)
  · exact absurd (List.mem_singleton.mp named) (by decide)

/-- A squid that no call empties is never deleted and keeps every row, however the calls overlap. -/
theorem unemptied_rows_stay (runs : Pool.Runs (serverWorld reports) may (servedPool host u now access calls) log p)
    (there : u.squids id = some q) (unemptied : ∀ i, ¬ (calls i).empties id) :
    ∃ q', p.state.squids id = some q' ∧ q.rows ⊆ q'.rows := by
  obtain ⟨_, inv⟩ := served_confined runs
  obtain ⟨q', held, -, rows⟩ := inv.kept id q there
  exact ⟨q', held, rows unemptied⟩

theorem the_deactivated_squid_keeps_its_row : ∃ log p,
    Pool.Runs (serverWorld Upstream.listsAny) (fun _ _ _ _ _ => True) overlappingPool log p ∧ log.length = 2 ∧
      ∃ q', p.state.squids (.str "second") = some q' ∧ (oneRow "second").rows ⊆ q'.rows := by
  obtain ⟨log, p, runs, two⟩ := two_calls_overlap
  refine ⟨log, p, runs, two, unemptied_rows_stay runs rfl ?_⟩
  rintro (_ | _) empties
  · cases empties
  · have same : Json.str "second" = .str "first" := empties
    exact absurd same (by decide)

/-- Calls whose tokens may not execute leave the API as it was, whatever they are and however they overlap. -/
theorem readers_change_nothing (runs : Pool.Runs (serverWorld reports) may (servedPool host u now access calls) log p)
    (readers : ∀ i a, access i = some a → runsExecute ∉ a.scopes) : p.state = u := by
  refine runs.unchanged (fun s => s) (fun i => serve_governed host (now i) (access i) (calls i)) ?_
  intro i s op ans t ⟨a, presented, held⟩ step
  cases op with
  | call c =>
    cases writes : c.writes with
    | true => exact absurd (executes_of_governed writes held) (readers i a presented)
    | false => exact Upstream.world_keeps writes step
  | _ => exact step

theorem two_readers_change_nothing : ∃ log p,
    Pool.Runs (serverWorld Upstream.listsAny) (fun _ _ _ _ _ => True) twoReadsPool log p ∧ log.length = 2 ∧
      p.state = plainSquids := by
  obtain ⟨log, p, runs, two⟩ := two_reads_overlap
  refine ⟨log, p, runs, two, readers_change_nothing runs ?_⟩
  rintro _ _ ⟨⟩
  decide

end Served
end LobstrMcp
