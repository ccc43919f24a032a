import LobstrMcp.Data.DictKeys
import LobstrMcp.Interaction.Retrying
import LobstrMcp.Server.Confinement

/-!
The tools that are announced as idempotent: `empty_scraper`, `deactivate_scraper`, `attach_account` and
`abort_run`. A squid that a call of one of them has changed is left alone by the same call made again,
however its requests go and however often it is made.
-/

namespace LobstrMcp
open Interaction

/-- `idempotentHint`, as the tools are registered with it. -/
def ToolCall.idempotentHint : ToolCall → Bool
  | .emptyScraper _ | .deactivateScraper _ | .attachAccount .. | .abortRun _ => true
  | _ => false

/-- The account that a call attaches: the one it was given, which is not there, or one picked for a squid that
has none. -/
def Picks (given : Option String) (current : List String) (id : Json) : Prop :=
  match given with
  | none => current = []
  | some given => id = .str given ∧ given ∉ current

/-- What an idempotent tool requests; it knows the record that it has read last. -/
def attemptNext (call : ToolCall) : Protocol Call Answer (Option Fields) := fun q c ans q' =>
  match call, c, ans with
  | .emptyScraper squidId, .emptySquid id, _ => id = .str squidId ∧ q' = q
  | .deactivateScraper squidId, .setSquidActive id active, _ => id = .str squidId ∧ active = false ∧ q' = q
  | .attachAccount squidId _, .getSquid id, .ok record => id = .str squidId ∧ q' = some record
  | .attachAccount squidId given, .updateSquid id body, _ => id = .str squidId ∧ q' = none ∧
    ∃ record current picked, q = some record ∧ squidAccountIds record = some current ∧ Picks given current picked ∧
      body = [("accounts", .arr (current.map .str ++ [picked]))]
  | .abortRun _, .abortRun _, _ => q' = q
  | _, c, _ => c.writes = false ∧ q' = q

/-- What has been done to a squid that a call has taken effect on. -/
def TookEffect (call : ToolCall) (squid : Option Squid) : Prop :=
  ∃ q, squid = some q ∧
    match call with
    | .emptyScraper _ => q.rows = []
    | .deactivateScraper _ => ∃ record, q.record = Dict.set record "is_active" (.bool false)
    | .attachAccount _ none => squidAccountIds q.record ≠ some []
    | .attachAccount _ (some given) => ∀ ids, squidAccountIds q.record = some ids → given ∈ ids
    | _ => False

/-- The record that was read last is the one that is held. -/
def Knows (call : ToolCall) (q : Option Fields) (u : Upstream) : Prop :=
  match call, q with
  | .attachAccount squidId _, some record => ∃ squid, u.squids (.str squidId) = some squid ∧ squid.record = record
  | _, _ => True

/-! ### One request -/

section Step
variable {reports : List Json → Json → Prop} {call : ToolCall} {u t : Upstream} {q q' : Option Fields} {c : Call}
  {ans : Answer c} {id : Json}

/-- An edit of one squid, as each squid sees it. -/
theorem edit_settling {settled : Option Squid → Prop} {squid : Json} {change : Squid → Squid} {made : Fields}
    (effect : (u.effect c made).squids = u.edit squid change)
    (settles : ∀ q, u.squids squid = some q → ¬ settled (some q) → settled (some (change q)))
    (keeps : ∀ q, u.squids squid = some q → settled (some q) → change q = q) :
    Settling (fun u : Upstream => u.squids id) settled u (u.effect c made) := by
  unfold Settling
  dsimp only
  rw [effect]
  by_cases same : id = squid
  · subst same
    rw [Upstream.edit_same]
    cases held : u.squids id with
    | none => exact .inl rfl
    | some q =>
      by_cases done : settled (some q)
      · exact .inl (congrArg some (keeps q held done))
      · exact .inr ⟨done, settles q held done⟩
  · exact .inl (Upstream.edit_other _ _ same)

/-- The accounts of a record that they were written to. -/
theorem accounts_written (record : Fields) (entries : List Json) :
    Fields.get (Dict.update record [("accounts", .arr entries)]) "accounts" = .arr entries := by
  simp [Fields.get, Dict.update]

theorem mapM_asStr?_str (ids : List String) : (ids.map Json.str).mapM Json.asStr? = some ids := by
  induction ids with
  | nil => rfl
  | cons id rest ih => rw [List.map_cons, List.mapM_cons, ih]; rfl

/-- What is read of the accounts of a squid that one was attached to. -/
theorem picks_takes_effect {given : Option String} {current : List String} {picked : Json} {squidId : String}
    {squid : Squid}
    (picks : Picks given current picked) :
    TookEffect (.attachAccount squidId given) (some { squid with
      record := Dict.update squid.record [("accounts", .arr (current.map .str ++ [picked]))] }) := by
  refine ⟨_, rfl, ?_⟩
  cases given with
  | none =>
    obtain rfl : current = [] := picks
    intro none'
    unfold squidAccountIds at none'
    dsimp only at none'
    rw [accounts_written] at none'
    cases text : picked.asStr? <;> cases named : picked.asObj?.bind fun fields => (Fields.get fields "id").asStr? <;>
      simp [text, named] at none'
  | some given =>
    obtain ⟨rfl, -⟩ := picks
    intro ids read
    unfold squidAccountIds at read
    dsimp only at read
    rw [accounts_written, show current.map Json.str ++ [Json.str given] =
      (current ++ [given]).map Json.str by simp] at read
    dsimp only at read
    rw [mapM_asStr?_str] at read
    cases read
    exact List.mem_append_right _ (List.mem_singleton_self _)

/-- A call picks no account for a squid that it has taken effect on. -/
theorem not_picks_of_tookEffect {given : Option String} {current : List String} {picked : Json} {squidId : String}
    {squid : Squid} (read : squidAccountIds squid.record = some current)
    (took : TookEffect (.attachAccount squidId given) (some squid)) : ¬ Picks given current picked := by
  obtain ⟨_, ⟨⟩, done⟩ := took
  intro picks
  cases given with
  | none =>
    obtain rfl : current = [] := picks
    exact done read
  | some given => exact picks.2 (done current read)

/-- A call that a request leaves the API as it is for still knows the record it has read. -/
theorem knows_next (knows : Knows call q u) (next : attemptNext call q c ans q')
    (step : Upstream.world reports u c ans u) : Knows call q' u := by
  cases call with
  | attachAccount squidId given =>
    cases c with
    | getSquid id =>
      cases ans with
      | error e => exact next.2 ▸ knows
      | ok record =>
        obtain ⟨rfl, rfl⟩ := next
        obtain ⟨squid, held, same, -⟩ := ((Upstream.world_read rfl).mp step).2
        exact ⟨squid, held, same.symm⟩
    | updateSquid id body =>
      obtain ⟨-, rfl, -⟩ := next
      trivial
    | _ => exact next.2 ▸ knows
  | _ => trivial

theorem attempt_takes {made : Fields} (knows : Knows call q u) (next : attemptNext call q c ans q')
    (writes : c.writes = true) :
    Knows call q' (u.effect c made) ∧ Settling (fun u : Upstream => u.squids id) (TookEffect call) u
      (u.effect c made) := by
  cases call with
  | emptyScraper squidId =>
    refine ⟨trivial, ?_⟩
    cases c with
    | emptySquid squid =>
      refine edit_settling rfl (fun q _ _ => ⟨_, rfl, rfl⟩) fun q _ took => ?_
      obtain ⟨_, ⟨⟩, done⟩ := took
      cases q
      exact congrArg _ done.symm
    | _ => exact absurd (next.1.symm.trans writes) (by decide)
  | deactivateScraper squidId =>
    refine ⟨trivial, ?_⟩
    cases c with
    | setSquidActive squid active =>
      obtain ⟨-, rfl, -⟩ := next
      refine edit_settling rfl (fun q _ _ => ⟨_, rfl, _, rfl⟩) fun q _ took => ?_
      obtain ⟨_, ⟨⟩, record, done⟩ := took
      cases q
      subst done
      exact congrArg (Squid.mk · _) (Dict.set_set _ _ _ _)
    | _ => exact absurd (next.1.symm.trans writes) (by decide)
  | attachAccount squidId given =>
    cases c with
    | updateSquid squid body =>
      obtain ⟨rfl, rfl, record, current, picked, rfl, read, picks, rfl⟩ := next
      obtain ⟨held, here, rfl⟩ := knows
      refine ⟨trivial, edit_settling rfl (fun q _ _ => picks_takes_effect picks) fun q holds took => ?_⟩
      cases here.symm.trans holds
      exact absurd picks (not_picks_of_tookEffect read took)
    | getSquid squid => cases writes
    | _ => exact absurd (next.1.symm.trans writes) (by decide)
  | abortRun runId =>
    cases c with
    | abortRun run => exact ⟨trivial, .inl rfl⟩
    | _ => exact absurd (next.1.symm.trans writes) (by decide)
  | _ => exact absurd (next.1.symm.trans writes) (by decide)

/-- A request that is answered is one that the call takes effect by, or leaves the squids as they are. -/
theorem attempt_settles (knows : Knows call q u) (next : attemptNext call q c ans q')
    (step : Upstream.world reports u c ans t) :
    Knows call q' t ∧ Settling (fun u : Upstream => u.squids id) (TookEffect call) u t := by
  rcases world_takes step with rfl | ⟨writes, made, -, rfl⟩
  · exact ⟨knows_next knows next step, .refl _⟩
  · exact attempt_takes knows next writes

end Step

/-! ### The tools -/

section Tools
variable {call : ToolCall} {q : Option Fields} {ε α β : Type}

/-- A request that changes nothing, of a call that is not about to learn of its squid. -/
theorem attemptNext_quiet {c : Call} (silent : c.writes = false) (unread : ∀ id, c ≠ .getSquid id) (ans : Answer c) :
    attemptNext call q c ans q := by
  cases c with
  | getSquid id => exact absurd rfl (unread id)
  | emptySquid _ => cases silent
  | setSquidActive _ _ => cases silent
  | updateSquid _ _ => cases silent
  | abortRun _ => cases silent
  | _ => cases call <;> exact ⟨silent, rfl⟩

/-- The requests that change nothing, and read no squid. -/
def Aside (c : Call) : Prop := c.writes = false ∧ ∀ id, c ≠ .getSquid id

theorem follows_aside_bind {good : Option Fields → Except Exit β → Prop} {ends : Except Exit α → Prop} {p : Tool α}
    {f : α → Tool β} (aside : p.Uses Aside) (comes : p.Ends ends) (stops : ∀ e, good q (.error e))
    (rest : ∀ a, ends (.ok a) → (f a).Follows (attemptNext call) good q) :
    (p >>= f).Follows (attemptNext call) good q := by
  refine Program.follows_bind.mpr (Program.follows_of_uses aside
    (fun c quiet ans => attemptNext_quiet quiet.1 quiet.2 ans) (comes.mono fun r came => ?_))
  cases r with
  | error e => exact stops e
  | ok a => exact rest a came

theorem follows_squid_bind {good : Option Fields → Except Exit β → Prop} {squidId : String} {given : Option String}
    {f : Fields → Tool β} (stops : ∀ e, good q (.error e))
    (rest : ∀ squid, (f squid).Follows (attemptNext (.attachAccount squidId given)) good (some squid)) :
    (getSquid (.str squidId) >>= f).Follows (attemptNext (.attachAccount squidId given)) good q := by
  intro ans
  cases ans with
  | ok squid => exact ⟨some squid, ⟨rfl, rfl⟩, rest squid⟩
  | error e => exact ⟨q, ⟨rfl, rfl⟩, stops _⟩

/-- What is found to be attached, to a squid with these accounts. -/
theorem ends_findAttachment (s : Session) (squidId : String) (given : Option String) (accountType : Json)
    (current : List String) : (findAttachment s squidId given accountType current).Ends fun r =>
      ∀ found, r = .ok found → found.accountId ∉ current.map Json.str → Picks given current found.accountId := by
  unfold findAttachment
  cases given with
  | none =>
    dsimp only
    split
    · exact fun _ absurd => by cases absurd
    · rename_i none'
      refine Program.ends_of_forall (fun r found _ _ => ?_) _
      show current = []
      simpa using none'
  | some given =>
    refine Program.ends_bind_value fun answer => ?_
    cases answer with
    | error error => exact fun _ absurd => by cases absurd
    | ok account =>
      rintro found ⟨⟩ absent
      exact ⟨rfl, fun member => absent (List.mem_map_of_mem member)⟩

theorem attachAccount_attempts (s : Session) (squidId : String) (given : Option String) :
    (attachAccount s squidId given).Follows (attemptNext (.attachAccount squidId given)) (fun _ _ => True) none := by
  unfold attachAccount
  refine follows_squid_bind (fun _ => trivial) fun squid => ?_
  have any : (crawlerOf squid).Ends fun _ => True := Program.ends_of_forall (fun _ => trivial) _
  refine follows_aside_bind (uses_crawlerOf _ fun _ => ⟨rfl, fun _ => by rintro ⟨⟩⟩) any
    (fun _ => trivial) fun crawler _ => ?_
  dsimp only
  split
  · trivial
  cases read : squidAccountIds squid with
  | none => trivial
  | some current =>
    refine follows_aside_bind (uses_findAttachment _ _ _ _ _ (fun _ => ⟨rfl, fun _ => by rintro ⟨⟩⟩)
      fun _ _ _ _ => ⟨rfl, fun _ => by rintro ⟨⟩⟩) (ends_findAttachment s squidId given _ current) (fun _ => trivial)
      fun found picks => ?_
    split
    · trivial
    · rename_i absent
      intro ans
      refine ⟨none, ⟨rfl, rfl, squid, current, found.accountId, rfl, read, picks found rfl absent, rfl⟩, ?_⟩
      cases ans <;> trivial

theorem structured_attempts {verify : Option String} {body : Tool Fields}
    (follows : body.Follows (attemptNext call) (fun _ _ => True) q) :
    (structured verify body).Follows (attemptNext call) (fun _ _ => True) q :=
  Program.follows_bind.mpr (Program.follows_attempt.mpr (follows.mono fun _ _ _ =>
    Program.follows_ofExcept.mpr trivial))

theorem emptyScraper_attempts (squidId : String) :
    (emptyScraper squidId).Follows (attemptNext (.emptyScraper squidId)) (fun _ _ => True) q := by
  intro ans
  refine ⟨q, ⟨rfl, rfl⟩, ?_⟩
  cases ans <;> trivial

theorem deactivateScraper_attempts (squidId : String) :
    (deactivateScraper squidId).Follows (attemptNext (.deactivateScraper squidId)) (fun _ _ => True) q := by
  intro ans
  refine ⟨q, ⟨rfl, rfl, rfl⟩, ?_⟩
  cases ans <;> trivial

theorem abortRun_attempts (lower : String → String) (runId : String) :
    (abortRunBody lower runId).Follows (attemptNext (.abortRun runId)) (fun _ _ => True) q := by
  intro ans
  refine ⟨q, rfl, ?_⟩
  cases ans <;> trivial

end Tools

/-! ### On the server -/

section Server
variable {call : ToolCall} {ε α ρ : Type} {P : Protocol Call Answer ρ} {q : ρ}

/-- A protocol of requests, kept by a served tool. -/
def onCalls (P : Protocol Call Answer ρ) : Protocol ServerCall ServerCall.Ans ρ := fun q op ans q' =>
  match op, ans with
  | .call c, ans => P q c ans q'
  | _, _ => q' = q

theorem onServer_follows {p : Program Call Answer ε α} (follows : p.Follows P (fun _ _ => True) q) :
    (onServer p).Follows (onCalls P) (fun _ _ => True) q := by
  refine Program.follows_handle (R := Eq) follows rfl (fun {q q'} c keeps same led ans => ?_) fun _ _ => trivial
  subst same
  obtain ⟨r, step, rest⟩ := led ans
  exact ⟨r, step, ans, r, rfl, rest, rfl⟩

theorem always_follows {P : Protocol ServerCall ServerCall.Ans ρ} {p : Program ServerCall ServerCall.Ans ε Fields}
    (follows : p.Follows P (fun _ _ => True) q) : (always p).Follows P (fun _ _ => True) q := by
  refine Program.follows_bind.mpr (follows.mono fun q r _ => ?_)
  cases r <;> trivial

variable {K : Type} [ScoreField K] (host : Host K)

theorem body_attempts (s : Session) (granted : List String → Bool) (hint : call.idempotentHint = true) :
    (call.body host s granted).Follows (onCalls (attemptNext call)) (fun _ _ => True) none := by
  cases call with
  | emptyScraper squidId =>
    exact always_follows (onServer_follows (structured_attempts (emptyScraper_attempts squidId)))
  | deactivateScraper squidId =>
    exact always_follows (onServer_follows (structured_attempts (deactivateScraper_attempts squidId)))
  | attachAccount squidId given =>
    exact always_follows (onServer_follows (structured_attempts (attachAccount_attempts s squidId given)))
  | abortRun runId => exact always_follows (onServer_follows (structured_attempts (abortRun_attempts host.lower runId)))
  | _ => cases hint

theorem serve_attempts (now : Int) (access : Option AccessToken) (hint : call.idempotentHint = true) :
    (serve host now access call).Follows (onCalls (attemptNext call)) (fun _ _ => True) none := by
  rcases serve_cases host now access call with ⟨e, refused⟩ | ⟨a, rfl, -, -, served⟩
  · rw [refused]
    trivial
  · rw [served]
    refine Program.follows_bind.mpr (Program.follows_mapError ?_)
    refine (body_attempts host _ _ hint).mono fun q r _ => ?_
    cases r <;> trivial

variable {reports : List Json → Json → Prop} {u t v : Upstream} {id : Json} {tr : List (Event ServerCall ServerCall.Ans Upstream)}
  {r : Except ToolError (Option Reply)}

/-- A call of an idempotent tool leaves each squid as it is, or takes effect on it where it had not. -/
theorem serve_settles (hint : call.idempotentHint = true) {now : Int} {access : Option AccessToken}
    (run : Exec (serverWorld reports) (serve host now access call) u tr r t) :
    Settling (fun u : Upstream => u.squids id) (TookEffect call) u t := by
  have start : Knows call none u := by cases call <;> trivial
  refine run.settling (serve_attempts host now access hint) start fun {q q' s op ans t} knows next step => ?_
  cases op with
  | call c => exact attempt_settles knows next step
  | _ =>
    obtain rfl : t = s := step
    obtain rfl : q' = q := next
    exact ⟨knows, .refl _⟩

/-- Once a call of an idempotent tool has changed a squid, the same call changes it no more: any number of times,
under any token, whatever becomes of its requests, and whatever is done to other squids in between. -/
theorem retries_change_nothing (hint : call.idempotentHint = true) {now : Int} {access : Option AccessToken}
    (run : Exec (serverWorld reports) (serve host now access call) u tr r t) (changed : t.squids id ≠ u.squids id)
    (retries : Retries (serverWorld reports) (fun u : Upstream => u.squids id)
      (fun p => ∃ now access, p = serve host now access call) t v) : v.squids id = t.squids id := by
  have done : TookEffect call (t.squids id) := (serve_settles host hint run).done changed
  refine retries.unchanged ?_ done
  rintro p ⟨now, access, rfl⟩ s tr r t again
  exact serve_settles host hint again

end Server

/-- The first squid, emptied by a call that was never answered. -/
def onceEmptied : Upstream := plainSquids.effect (.emptySquid (.str "first")) []

/-- The answer was lost, so the call is made again. -/
theorem an_emptied_squid_stays_empty :
    (onceEmptied.effect (.emptySquid (.str "first")) []).squids (.str "first") = onceEmptied.squids (.str "first") := by
  have lost : serverWorld Upstream.listsAny plainSquids (.call (.emptySquid (.str "first")))
      (.error (.transport ⟨.readTimeout, ""⟩)) onceEmptied := .inr ⟨rfl, [], trivial, rfl⟩
  have answered : serverWorld Upstream.listsAny onceEmptied (.call (.emptySquid (.str "first"))) (.ok .null)
      (onceEmptied.effect (.emptySquid (.str "first")) []) := ⟨trivial, rfl⟩
  have first : ∃ tr r, Exec (serverWorld Upstream.listsAny)
      (serve plainHost 0 (some (plainToken [runsExecute])) (.emptyScraper "first")) plainSquids tr r onceEmptied :=
    ⟨_, _, .call lost .pure⟩
  have second : ∃ tr r, Exec (serverWorld Upstream.listsAny)
      (serve plainHost 0 (some (plainToken [runsExecute])) (.emptyScraper "first")) onceEmptied tr r
      (onceEmptied.effect (.emptySquid (.str "first")) []) := ⟨_, _, .call answered .pure⟩
  obtain ⟨_, _, run⟩ := first
  obtain ⟨_, _, again⟩ := second
  refine retries_change_nothing plainHost rfl run ?_ (.again rfl ⟨0, _, rfl⟩ again (.meanwhile rfl))
  intro same
  have rows := congrArg (Option.map Squid.rows) same
  cases rows

end LobstrMcp
