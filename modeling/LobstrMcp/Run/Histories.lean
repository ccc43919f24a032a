import LobstrMcp.Run.Concurrent
import LobstrMcp.Run.KeyHistory

/-!
Calls handled one after another on one store: whoever is told of a run is told of his own, for
the same request and within the entry's time, and an explicit key is good for one run in the
store's time.
-/

namespace LobstrMcp
open Interaction Tool

/-- A call that was handled: who made it, what it did, and what it answered. -/
structure Handled where
  session : Session
  args : RunArgs
  log : List (Event Call Answer Shared)
  result : Except Exc Fields

namespace Handled
variable (c d : Handled)

def scope : String := c.session.userScope

/-- The caller's own key, if there is one. -/
def explicitKey : Option String := c.args.idempotencyKey.filter (· ≠ "")

/-- What a call is about, as its reads have it: the squid or the resolved crawler, and the final
input. -/
def About (target : String) (input : Fields) : Prop :=
  ∃ read : Target, TargetRead c.args c.log read ∧ target = dedupeTarget c.args read.scraper ∧
    input = finalInput c.args read.translated

/-- The same request: the same explicit key, or no key of their own, one target, and one input up
to the order of its keys. -/
def Alike : Prop :=
  (∃ key, c.explicitKey = some key ∧ d.explicitKey = some key) ∨
    (c.explicitKey = none ∧ d.explicitKey = none ∧ ∃ target input input', c.About target input ∧
      d.About target input' ∧ Json.sortKeys (.obj input) = Json.sortKeys (.obj input'))

/-- How long an entry of the call lasts, 0 for ever. -/
def entryTtl (ttl : Int) : Int := if c.explicitKey.isSome then ttl else derivedIdempotencyTtl

/-- The call was handled from the one state to the other. -/
def Ran (hash : Sha256) (s t : Shared) : Prop :=
  c.session.hash = hash ∧
    Exec (Shared.world fun _ => True) (runScraperImpl c.session c.args) s c.log c.result t

end Handled

/-- Calls handled one after another, on a store that was empty at first. -/
inductive History (hash : Sha256) (ttl : Int) : List Handled → Shared → Prop
  | start (now : Rat) : History hash ttl [] { store := { ttl }, now }
  | handle {h st later c t} (before : History hash ttl h st) (waits : st.now ≤ later)
      (ran : c.Ran hash { st with now := later } t) : History hash ttl (h ++ [c]) t

/-- No two requests of the history that differ have one hash. -/
def CollisionFree (hash : Sha256) (h : List Handled) : Prop :=
  ∀ c ∈ h, ∀ d ∈ h, ∀ target input target' input', c.About target input → d.About target' input' →
    hash.hexdigest (idempotencyBlob c.scope target input) =
      hash.hexdigest (idempotencyBlob d.scope target' input') →
    idempotencyBlob c.scope target input = idempotencyBlob d.scope target' input'

/-! ### Keys -/

section Keys
variable {s s' : Session} {args args' : RunArgs} {scraper scraper' : Json} {input input' : Fields}

theorem length_userScope (s : Session) : s.userScope.toList.length = 32 := by
  have long : (s.hash.hexdigest s.authorization).toList.length = 64 := s.hash.length_hexdigest _
  rw [Session.userScope, String.toList_ofList, List.length_take, long]
  decide

theorem hex_userScope (s : Session) : ∀ c ∈ s.userScope.toList, isHexChar c = true := by
  intro c member
  rw [Session.userScope, String.toList_ofList] at member
  exact s.hash.hex_hexdigest _ c (List.mem_of_mem_take member)

/-- An explicit key starts with a scope, which no derived key does. -/
theorem explicit_ne_derived (s : Session) (key text : String) :
    s.userScope ++ ":" ++ key ≠ "derived:" ++ text := by
  intro same
  have chars := congrArg String.toList same
  simp only [String.toList_append] at chars
  have third := congrArg (fun l => l[2]?) chars
  have short : 2 < s.userScope.toList.length := by
    rw [length_userScope]
    decide
  rw [List.append_assoc] at third
  simp only [List.getElem?_append_left short] at third
  have r : s.userScope.toList[2]? = some 'r' := third
  have member := List.mem_of_getElem? r
  exact absurd (hex_userScope s _ member) (by decide)

theorem explicit_inj {key key' : String} (same : s.userScope ++ ":" ++ key = s'.userScope ++ ":" ++ key') :
    s.userScope = s'.userScope ∧ key = key' := by
  have chars := congrArg String.toList same
  simp only [String.toList_append, List.append_assoc] at chars
  have split := List.append_inj chars (by rw [length_userScope, length_userScope])
  refine ⟨String.toList_inj.mp split.1, String.toList_inj.mp ?_⟩
  exact List.append_cancel_left split.2

/-- A derived key is the hash of one scope, one target and one input up to the order of its keys. -/
theorem idempotencyBlob_inj {scope scope' target target' : String} (long : scope.toList.length = 32)
    (long' : scope'.toList.length = 32)
    (same : idempotencyBlob scope target input = idempotencyBlob scope' target' input') :
    scope = scope' ∧ target = target' ∧ Json.sortKeys (.obj input) = Json.sortKeys (.obj input') := by
  have chars := congrArg String.toList same
  have shape (u v : String) (w : Fields) : (idempotencyBlob u v w).toList =
      (u ++ "|" ++ v).toList ++ '|' :: Json.dumps (Json.sortKeys (.obj w)) := by
    simp [idempotencyBlob, Json.dumpsSorted]
  rw [shape, shape] at chars
  obtain ⟨front, sorted⟩ := Json.bar_dumps_inj chars
  simp only [String.toList_append, List.append_assoc] at front
  have split := List.append_inj front (by rw [long, long'])
  refine ⟨String.toList_inj.mp split.1, String.toList_inj.mp ?_, sorted⟩
  exact List.append_cancel_left split.2

/-- 32 hexadecimal characters, as a user scope has them. -/
structure IsScope (scope : String) : Prop where
  length : scope.toList.length = 32
  hex : ∀ c ∈ scope.toList, c.isHexDigit = true

theorem isScope_userScope (s : Session) : IsScope s.userScope where
  length := length_userScope s
  hex c member := by
    have digits : "0123456789abcdef".toList.all Char.isHexDigit = true := by decide
    exact List.all_eq_true.mp digits c (by simpa [isHexChar] using hex_userScope s c member)

/-- What is hashed for a derived key has its three parts in one way only, whatever bars, quotes or JSON
the target holds. -/
theorem idempotency_preimage_unambiguous {scope scope' target target' : String} {values values' : Fields}
    (own : IsScope scope) (own' : IsScope scope')
    (same : idempotencyBlob scope target values = idempotencyBlob scope' target' values') :
    scope = scope' ∧ target = target' ∧ Json.dumpsSorted (.obj values) = Json.dumpsSorted (.obj values') := by
  obtain ⟨scopes, targets, sorted⟩ := idempotencyBlob_inj own.length own'.length same
  refine ⟨scopes, targets, ?_⟩
  unfold Json.dumpsSorted
  rw [sorted]

/-- One input with its keys in two orders, for a target that looks like the end of another preimage. -/
theorem key_order_is_not_hashed : Json.dumpsSorted (.obj [("url", .str "a|b"), ("pages", .int 2)]) =
    Json.dumpsSorted (.obj [("pages", .int 2), ("url", .str "a|b")]) := by
  have scope : IsScope "0123456789abcdef0123456789abcdef" :=
    ⟨by decide, List.all_eq_true.mp (by decide)⟩
  have same : idempotencyBlob "0123456789abcdef0123456789abcdef" "maps|\x7b\"url\": \"a"
        [("url", .str "a|b"), ("pages", .int 2)] =
      idempotencyBlob "0123456789abcdef0123456789abcdef" "maps|\x7b\"url\": \"a"
        [("pages", .int 2), ("url", .str "a|b")] := by
    decide +kernel
  exact (idempotency_preimage_unambiguous scope scope same).2.2

end Keys

namespace Handled
variable {c d : Handled} {hash : Sha256} {s t : Shared} {key : String}

/-- The key a call comes to: its own, or one that is derived from what the call is about. -/
def Keyed (hash : Sha256) (c : Handled) (key : String) : Prop :=
  match c.explicitKey with
  | some own => key = c.scope ++ ":" ++ own
  | none => ∃ target input, c.About target input ∧
      key = "derived:" ++ hash.hexdigest (idempotencyBlob c.scope target input)

theorem length_scope (c : Handled) : c.scope.toList.length = 32 := length_userScope c.session

theorem Keyed.alike {h : List Handled} (free : CollisionFree hash h) (inC : c ∈ h) (inD : d ∈ h)
    (ofC : c.Keyed hash key) (ofD : d.Keyed hash key) : d.scope = c.scope ∧ d.Alike c := by
  unfold Keyed at ofC ofD
  cases keyC : c.explicitKey with
  | some own =>
    rw [keyC] at ofC
    cases keyD : d.explicitKey with
    | some own' =>
      rw [keyD] at ofD
      obtain ⟨scopes, rfl⟩ := explicit_inj (ofD.symm.trans ofC)
      exact ⟨scopes, .inl ⟨own', keyD, keyC⟩⟩
    | none =>
      rw [keyD] at ofD
      obtain ⟨target, input, _, derived⟩ := ofD
      exact absurd (ofC.symm.trans derived) (explicit_ne_derived _ _ _)
  | none =>
    rw [keyC] at ofC
    obtain ⟨target, input, about, derived⟩ := ofC
    cases keyD : d.explicitKey with
    | some own' =>
      rw [keyD] at ofD
      exact absurd (ofD.symm.trans derived) (explicit_ne_derived _ _ _)
    | none =>
      rw [keyD] at ofD
      obtain ⟨target', input', about', derived'⟩ := ofD
      have hashes := congrArg String.toList (derived'.symm.trans derived)
      rw [String.toList_append, String.toList_append] at hashes
      have one := String.toList_inj.mp (List.append_cancel_left hashes)
      have blobs := free d inD c inC target' input' target input about' about one
      obtain ⟨scopes, rfl, inputs⟩ := idempotencyBlob_inj (length_scope d) (length_scope c) blobs
      exact ⟨scopes, .inr ⟨keyD, keyC, target', input', input, about', about, inputs⟩⟩

theorem Ran.keyed (ran : c.Ran hash s t) {e : Event Call Answer Shared} (member : e ∈ c.log)
    (looks : e.op = .idemGet key) : c.Keyed hash key := by
  obtain ⟨same, run⟩ := ran
  obtain ⟨outcome, run, _⟩ := exec_structured.mp run
  have prepared : ∃ r mid tr, (∀ x ∈ tr, x ∈ c.log) ∧ e ∈ tr ∧
      Exec (Shared.world fun _ => True) (prepareRun c.session c.args) s tr r mid := by
    rcases exec_bind.mp run with ⟨x, _, head⟩ | ⟨plan, mid, first, rest, split, head, tail⟩
    · exact ⟨_, _, _, fun _ => id, member, head⟩
    · refine ⟨_, _, first, fun x inFirst => split ▸ List.mem_append_left _ inFirst, ?_, head⟩
      rcases List.mem_append.mp (split ▸ member) with inFirst | inRest
      · exact inFirst
      · have may := tail.uses (uses_commitRun c.session plan) e inRest
        rw [looks] at may
        exact may.elim
  obtain ⟨r, mid, tr, sub, inTr, prepared⟩ := prepared
  obtain ⟨target, read, rfl⟩ := key_of_lookUp prepared inTr looks
  have about : c.About (dedupeTarget c.args target.scraper) (finalInput c.args target.translated) :=
    ⟨target, read.mono sub, rfl, rfl⟩
  unfold Keyed explicitKey idempotencyEntry
  cases Option.filter (fun key => decide (key ≠ "")) c.args.idempotencyKey with
  | some own => rfl
  | none =>
    refine ⟨_, _, about, ?_⟩
    rw [computeIdempotencyKey, same]
    rfl

end Handled

/-! ### What a store holds -/

/-- The time `ttl` has passed since then, on a store that lets entries go at all. -/
def Lapsed (ttl : Int) (since now : Rat) : Prop := ttl ≠ 0 ∧ since + ttl ≤ now

/-- The key has a run, and keeps it for `ttl` from then on. -/
def Lasts (ttl : Int) (since : Rat) (key : String) (store : IdempotencyStore) : Prop :=
  ∃ runId expiresAt, Dict.get? store.entries key = some (runId, expiresAt) ∧ runId.truthy = true ∧
    ∀ now, IdempotencyStore.expired now expiresAt = true → Lapsed ttl since now

/-- A key that had a run then is still taken, or was for long enough. -/
def Taken (ttl : Int) (since : Rat) (key : String) (s : Shared) : Prop :=
  Lapsed ttl since s.now ∨ Lasts ttl since key s.store

section Taken
variable {ttl : Int} {since now : Rat} {key looked : String} {s t : Shared}

theorem Lapsed.later (lapsed : Lapsed ttl since now) {later : Rat} (waits : now ≤ later) :
    Lapsed ttl since later :=
  ⟨lapsed.1, lapsed.2.trans waits⟩

theorem Lasts.missed {store : IdempotencyStore} (lasts : Lasts ttl since key store)
    (missed : foundRun (store.get now key).1 = none) : Lapsed ttl since now := by
  obtain ⟨runId, expiresAt, held, truthy, long⟩ := lasts
  refine long now ?_
  by_contra live
  have served : (store.get now key).1 = some runId :=
    IdempotencyStore.get_eq_some.mpr ⟨expiresAt, held, by simpa using live⟩
  rw [served, foundRun, Option.filter_some, if_pos truthy] at missed
  cases missed

theorem Taken.missed (taken : Taken ttl since key s) (waits : s.now ≤ now)
    (missed : foundRun (s.store.get now key).1 = none) : Lapsed ttl since now := by
  rcases taken with lapsed | lasts
  · exact lapsed.later waits
  · exact lasts.missed missed

theorem Taken.waits (taken : Taken ttl since key s) (same : t.store = s.store) (waits : s.now ≤ t.now) :
    Taken ttl since key t := by
  rcases taken with lapsed | lasts
  · exact .inl (lapsed.later waits)
  · rw [← same] at lasts
    exact .inr lasts

/-- A look-up drops a run only when its time is over. -/
theorem Taken.lookUp (taken : Taken ttl since key s) (waits : s.now ≤ now)
    (store : t.store = (s.store.get now looked).2) (goes : now ≤ t.now) : Taken ttl since key t := by
  rcases taken with lapsed | ⟨runId, expiresAt, held, truthy, long⟩
  · exact .inl (lapsed.later (waits.trans goes))
  · by_cases dropped : looked = key ∧ IdempotencyStore.expired now expiresAt = true
    · exact .inl ((long now dropped.2).later goes)
    · refine .inr ⟨runId, expiresAt, ?_, truthy, long⟩
      rw [store, IdempotencyStore.get?_get]
      refine ⟨held, fun same => ?_⟩
      simpa [same] using dropped

end Taken

/-- Where an entry comes from: the call that started its run and stored it. -/
def Origin (hash : Sha256) (ttl : Int) (d : Handled) (key : String) (runId : Json)
    (expiresAt : Option Rat) : Prop :=
  d.Keyed hash key ∧ (∃ b ∈ d.log, Starts b runId) ∧ ∃ p ∈ d.log, (∃ l, Stores p key runId l) ∧
    expiresAt = if d.entryTtl ttl = 0 then none else some (p.before.now + d.entryTtl ttl)

/-- What holds of a history and the state it comes to. -/
structure HistoryInv (hash : Sha256) (ttl : Int) (h : List Handled) (s : Shared) : Prop where
  ttl_eq : s.store.ttl = ttl
  origin : ∀ key runId expiresAt, Dict.get? s.store.entries key = some (runId, expiresAt) →
    ∃ d ∈ h, Origin hash ttl d key runId expiresAt
  taken : ∀ d ∈ h, ∀ key, d.explicitKey = some key → ∀ b ∈ d.log, ∀ runId, Starts b runId →
    Taken ttl b.before.now (d.scope ++ ":" ++ key) s

section History
variable {hash : Sha256} {ttl : Int} {h : List Handled} {c d : Handled} {s t : Shared} {key : String}

theorem ttl_of_entry {l : Option Int} (entry : entriesOf c.session c.args key l) (ttl : Int) :
    l.getD ttl = c.entryTtl ttl := by
  obtain ⟨scraper, input, entry⟩ := entry
  unfold idempotencyEntry at entry
  unfold Handled.entryTtl Handled.explicitKey
  split at entry
  · rename_i own given
    cases entry
    rw [given]
    rfl
  · rename_i given
    cases entry
    rw [given]
    rfl

theorem Handled.Keyed.explicit {own : String} (keyed : c.Keyed hash key) (given : c.explicitKey = some own) :
    key = c.scope ++ ":" ++ own := by
  unfold Handled.Keyed at keyed
  rw [given] at keyed
  exact keyed

theorem HistoryInv.waits (inv : HistoryInv hash ttl h s) {later : Rat} (waits : s.now ≤ later) :
    HistoryInv hash ttl h { s with now := later } where
  ttl_eq := inv.ttl_eq
  origin := inv.origin
  taken := fun d member key given b inLog runId starts =>
    (inv.taken d member key given b inLog runId starts).waits rfl waits

/-- A call that neither starts nor stores a run, and at most looks one up. -/
theorem HistoryInv.idle (inv : HistoryInv hash ttl h s) (noRun : NoRun c.log)
    (store : t.store.ttl = s.store.ttl) (drops : ∀ key entry, Dict.get? t.store.entries key = some entry →
      Dict.get? s.store.entries key = some entry)
    (covers : ∀ since key, Taken ttl since key s → Taken ttl since key t) :
    HistoryInv hash ttl (h ++ [c]) t where
  ttl_eq := store.trans inv.ttl_eq
  origin := by
    intro key runId expiresAt held
    obtain ⟨d, member, origin⟩ := inv.origin key runId expiresAt (drops _ _ held)
    exact ⟨d, List.mem_append_left _ member, origin⟩
  taken := by
    intro d member key given b inLog runId starts
    rcases List.mem_append.mp member with member | member
    · exact covers _ _ (inv.taken d member key given b inLog runId starts)
    · rw [List.mem_singleton.mp member] at inLog
      exact absurd starts ((noRun b inLog).1 runId)

theorem HistoryInv.stores (inv : HistoryInv hash ttl h s) (ran : c.Ran hash s t) {l : Option Int}
    {runId : Json} {e b p : Event Call Answer Shared}
    (one : StartedOne (entriesOf c.session c.args) s c.log key l runId e b) (member : p ∈ c.log)
    (stored : Stores p key runId l) (after : b.before.now ≤ p.before.now)
    (store : t.store = ((s.store.get e.before.now key).2).put p.before.now key runId l)
    (time : p.before.now ≤ t.now) : HistoryInv hash ttl (h ++ [c]) t := by
  have keyed : c.Keyed hash key := ran.keyed one.lookedUp.member one.lookedUp.op
  have lasts : l.getD s.store.ttl = c.entryTtl ttl := by
    rw [inv.ttl_eq]
    exact ttl_of_entry one.lookedUp.entry ttl
  have expires : (s.store.get e.before.now key).2.expiry p.before.now l =
      if c.entryTtl ttl = 0 then none else some (p.before.now + c.entryTtl ttl) := by
    rw [IdempotencyStore.expiry, IdempotencyStore.ttl_get, lasts]
  have lookedThen : e.before.now ≤ t.now := (one.after.trans after).trans time
  refine ⟨?_, ?_, ?_⟩
  · rw [store, IdempotencyStore.ttl_put, IdempotencyStore.ttl_get]
    exact inv.ttl_eq
  · intro k r expiresAt held
    rw [store, IdempotencyStore.get?_put] at held
    split at held
    · rename_i same
      subst same
      cases held
      exact ⟨c, by simp, keyed, ⟨b, one.member, one.starts⟩, p, member, ⟨l, stored⟩, expires⟩
    · obtain ⟨d, member, origin⟩ := inv.origin k r expiresAt (IdempotencyStore.get?_get.mp held).1
      exact ⟨d, List.mem_append_left _ member, origin⟩
  · intro d inHistory own given b' inLog r starts
    rcases List.mem_append.mp inHistory with inHistory | inHistory
    · have taken := inv.taken d inHistory own given b' inLog r starts
      -- an earlier run under this key was missed, so its time is over; under another key nothing changes
      by_cases same : key = d.scope ++ ":" ++ own
      · subst same
        exact .inl ((taken.missed one.lookedUp.since one.missed).later lookedThen)
      · have looked := taken.lookUp (t := { s with store := (s.store.get e.before.now key).2, now := t.now })
          one.lookedUp.since rfl lookedThen
        refine looked.imp id ?_
        rintro ⟨r', expiresAt, held, truthy, long⟩
        refine ⟨r', expiresAt, ?_, truthy, long⟩
        rw [store, IdempotencyStore.get?_put, if_neg same]
        exact held
    · rw [List.mem_singleton.mp inHistory] at given inLog ⊢
      obtain rfl := one.only b' inLog r starts
      have explicit : c.entryTtl ttl = ttl := by
        rw [Handled.entryTtl, given]
        rfl
      rw [explicit] at expires
      refine .inr ⟨runId, if ttl = 0 then none else some (p.before.now + ttl), ?_, one.truthy, ?_⟩
      · rw [store, IdempotencyStore.get?_put, if_pos (keyed.explicit given), expires]
      · intro now late
        split at late
        · cases late
        · rename_i lets
          have late : p.before.now + ttl ≤ now := by simpa [IdempotencyStore.expired] using late
          exact ⟨lets, (by linarith)⟩

theorem HistoryInv.handle (inv : HistoryInv hash ttl h s) (ran : c.Ran hash s t) :
    HistoryInv hash ttl (h ++ [c]) t := by
  obtain ⟨q, account, ends⟩ := Account.of_exec ran.2
  have looks {looked : String} {now : Rat} (noRun : NoRun c.log) (since : s.now ≤ now)
      (store : t.store = (s.store.get now looked).2) (time : now ≤ t.now) :
      HistoryInv hash ttl (h ++ [c]) t := by
    refine inv.idle noRun ?_ ?_ fun since' key taken => taken.lookUp since store time
    · rw [store, IdempotencyStore.ttl_get]
    · intro key entry held
      rw [store] at held
      exact (IdempotencyStore.get?_get.mp held).1
  cases account with
  | waiting noRun store time =>
    refine inv.idle noRun (by rw [store]) ?_ fun since key taken => taken.waits store time
    intro key entry held
    rwa [store] at held
  | missed lookedUp noRun miss store time phase => exact looks noRun lookedUp.since store time
  | served lookedUp noRun hit store time => exact looks noRun lookedUp.since store time
  | started one unstored store time => exact ends.elim
  | stored one member stores after only store time => exact inv.stores ran one member stores after store time

theorem History.inv (history : History hash ttl h s) : HistoryInv hash ttl h s := by
  induction history with
  | start now => exact ⟨rfl, fun _ _ _ absurd => (by cases absurd), fun _ absurd => (by cases absurd)⟩
  | handle before waits ran ih => exact (ih.waits waits).handle ran

theorem History.at {h₁ h₂ : List Handled} (history : History hash ttl (h₁ ++ c :: h₂) s) :
    ∃ st later t, History hash ttl h₁ st ∧ st.now ≤ later ∧ c.Ran hash { st with now := later } t := by
  generalize whole : h₁ ++ c :: h₂ = h at history
  induction history generalizing h₂ with
  | start now => exact absurd whole (by simp)
  | @handle h st later d t before waits ran ih =>
    rcases List.eq_nil_or_concat h₂ with rfl | ⟨h₃, x, rfl⟩
    · obtain ⟨rfl, same⟩ := List.append_inj' whole rfl
      cases same
      exact ⟨st, later, t, before, waits, ran⟩
    · rw [List.concat_eq_append, ← List.cons_append, ← List.append_assoc] at whole
      exact ih (List.append_inj' whole rfl).1

/-- The call was told of a run that the other started, and while the other's entry lasted. -/
structure Handled.ServedBy (c d : Handled) (ttl : Int) (runId : Json) : Prop where
  user : d.scope = c.scope
  alike : d.Alike c
  started : ∃ b ∈ d.log, Starts b runId
  lasting : ∃ p ∈ d.log, ∃ key l, Stores p key runId l ∧ ∃ e ∈ c.log, e.op = .idemGet key ∧
    (d.entryTtl ttl = 0 ∨ e.before.now < p.before.now + d.entryTtl ttl)

/-- Whoever is told of a run was served by an earlier call. -/
theorem HistoryInv.serves {h' : List Handled} (inv : HistoryInv hash ttl h s) (ran : c.Ran hash s t)
    {runId : Json} (told : c.result = .ok (alreadySubmitted runId)) (free : CollisionFree hash h')
    (here : c ∈ h') (earlier : ∀ d ∈ h, d ∈ h') : ∃ d ∈ h, c.ServedBy d ttl runId := by
  obtain ⟨q, account, ends⟩ := Account.of_exec ran.2
  rw [told] at ends
  have unserved (idle : ∀ reply, (.ok (alreadySubmitted runId) : Except Exc Fields) = .ok reply →
      Unserved reply) : False := (idle _ rfl).ne runId rfl
  cases account with
  | waiting noRun store time => exact (unserved ends).elim
  | missed lookedUp noRun miss store time phase =>
    rcases phase with rfl | rfl
    · exact (unserved ends).elim
    · exact (unserved ends).elim
  | started one unstored store time => exact ends.elim
  | stored one member stores after only store time => exact (unserved ends).elim
  | @served _ key _ found e lookedUp noRun hit store time =>
    have same : found = runId := by
      have replies := Except.ok.inj ends
      have ids := congrArg (fun reply => Dict.get? reply "run_id") replies
      exact (Option.some.inj ids).symm
    subst same
    obtain ⟨expiresAt, held, live⟩ := IdempotencyStore.get_eq_some.mp hit
    obtain ⟨d, inHistory, keyed, started, p, inLog, ⟨l, stored⟩, expires⟩ := inv.origin _ _ _ held
    obtain ⟨user, alike⟩ := (ran.keyed lookedUp.member lookedUp.op).alike free here
      (earlier d inHistory) keyed
    refine ⟨d, inHistory, user, alike, started, p, inLog, key, l, stored, e, lookedUp.member, lookedUp.op, ?_⟩
    rw [expires] at live
    by_cases forever : d.entryTtl ttl = 0
    · exact .inl forever
    · rw [if_neg forever] at live
      exact .inr (by simpa [IdempotencyStore.expired] using live)

/-- A call that starts a run under its own key comes late enough for the runs before it. -/
theorem HistoryInv.apart (inv : HistoryInv hash ttl h s) (ran : d.Ran hash s t) (inHistory : c ∈ h)
    (users : c.scope = d.scope) (keyC : c.explicitKey = some key) (keyD : d.explicitKey = some key)
    {b b' : Event Call Answer Shared} (inC : b ∈ c.log) (inD : b' ∈ d.log) {runId runId' : Json}
    (starts : Starts b runId) (starts' : Starts b' runId') :
    Lapsed ttl b.before.now b'.before.now := by
  have taken := inv.taken c inHistory key keyC b inC runId starts
  rw [users] at taken
  have late {k : String} {l : Option Int} {r : Json} {e b₁ : Event Call Answer Shared}
      (one : StartedOne (entriesOf d.session d.args) s d.log k l r e b₁) :
      Lapsed ttl b.before.now b'.before.now := by
    obtain rfl := one.only b' inD runId' starts'
    have missed := one.missed
    rw [(ran.keyed one.lookedUp.member one.lookedUp.op).explicit keyD] at missed
    exact (taken.missed one.lookedUp.since missed).later one.after
  obtain ⟨q, account, ends⟩ := Account.of_exec ran.2
  cases account with
  | waiting noRun store time => exact absurd starts' ((noRun b' inD).1 runId')
  | missed lookedUp noRun miss store time phase => exact absurd starts' ((noRun b' inD).1 runId')
  | served lookedUp noRun hit store time => exact absurd starts' ((noRun b' inD).1 runId')
  | started one unstored store time => exact late one
  | stored one member stores after only store time => exact late one

/-- Over whole histories, a call that is told of a run is told of one that an earlier call of the
same user started for the same request, within its entry's time; and two runs under one explicit
key of one user start at least the store's time apart. -/
theorem idempotency_over_histories (history : History hash ttl h s) (free : CollisionFree hash h) :
    (∀ h₁ c h₂ runId, h = h₁ ++ c :: h₂ → c.result = .ok (alreadySubmitted runId) →
      ∃ d ∈ h₁, c.ServedBy d ttl runId) ∧
    ∀ h₁ c h₂ d h₃ key, h = h₁ ++ c :: h₂ ++ d :: h₃ → c.scope = d.scope → c.explicitKey = some key →
      d.explicitKey = some key → ∀ b ∈ c.log, ∀ b' ∈ d.log, ∀ runId runId', Starts b runId →
        Starts b' runId' → Lapsed ttl b.before.now b'.before.now := by
  constructor
  · rintro h₁ c h₂ runId rfl told
    obtain ⟨st, later, t, before, waits, ran⟩ := history.at
    exact (before.inv.waits waits).serves ran told free (by simp) fun d member => by simp [member]
  · rintro h₁ c h₂ d h₃ key rfl users keyC keyD b inC b' inD runId runId' starts starts'
    obtain ⟨st, later, t, before, waits, ran⟩ := history.at
    exact (before.inv.waits waits).apart ran (by simp) users keyC keyD inC inD starts starts'

end History

/-! ### Two calls, one after the other -/

def handledRetry (log : List (Event Call Answer Shared)) (reply : Fields) : Handled :=
  ⟨plainSession, retryCall, log, .ok reply⟩

def storedRetry : Shared := { store := emptyStore.store.put 0 retryKey (.str "one") none, now := 0 }

def firstRetry (reply : Fields) : Handled :=
  handledRetry (lookUpTrace emptyStore ++ retryTrace emptyStore "one") reply

def secondRetry : Handled := handledRetry (servedTrace storedRetry "one") (alreadySubmitted (.str "one"))

theorem collisionFree_retries (reply : Fields) :
    CollisionFree flatHash [firstRetry reply, secondRetry] := by
  have blob {c : Handled} {target : String} {input : Fields} (about : c.About target input)
      (retry : c.args = retryCall) : target = "squid" ∧ input = [] := by
    obtain ⟨read, _, rfl, rfl⟩ := about
    rw [retry]
    exact ⟨rfl, rfl⟩
  have retries {c : Handled} (member : c ∈ [firstRetry reply, secondRetry]) :
      c.args = retryCall ∧ c.session = plainSession := by
    simp only [List.mem_cons, List.not_mem_nil, or_false] at member
    rcases member with rfl | rfl <;> exact ⟨rfl, rfl⟩
  intro c inC d inD target input target' input' about about' _
  obtain ⟨rfl, rfl⟩ := blob about (retries inC).1
  obtain ⟨rfl, rfl⟩ := blob about' (retries inD).1
  rw [Handled.scope, Handled.scope, (retries inC).2, (retries inD).2]

/-- The first call starts a run, and the second is told of it. -/
theorem history_of_two_calls : ∃ reply,
    History flatHash defaultIdempotencyTtl [firstRetry reply, secondRetry] storedRetry ∧
      secondRetry.ServedBy (firstRetry reply) defaultIdempotencyTtl (.str "one") := by
  obtain ⟨reply, committed⟩ : ∃ reply, Exec (Shared.world fun _ => True)
      (structured (some runScraperVerify) (commitRun plainSession retryPlan)) emptyStore
      (retryTrace emptyStore "one") (.ok reply) storedRetry := exec_commit_retry trivial (by decide)
  have started : Exec (Shared.world fun _ => True) (runScraperImpl plainSession retryCall) emptyStore
      (lookUpTrace emptyStore ++ retryTrace emptyStore "one") (.ok reply) storedRetry := by
    unfold runScraperImpl
    rw [structured_bind]
    exact exec_bind_ok.mpr ⟨_, _, _, _, rfl, exec_attempt.mpr ⟨_, rfl, exec_prepare_retry trivial rfl⟩, committed⟩
  have held : storedRetry.store.get 0 retryKey = (some (.str "one"), storedRetry.store) := by
    have stored : Dict.get? storedRetry.store.entries retryKey = some (.str "one", some 86400) :=
      (IdempotencyStore.get?_put _ _ _).trans ((if_pos rfl).trans (by decide +kernel))
    exact (IdempotencyStore.get_held stored).trans (if_neg (by decide +kernel))
  have told : Exec (Shared.world fun _ => True) (runScraperImpl plainSession retryCall) storedRetry
      (servedTrace storedRetry "one") (.ok (alreadySubmitted (.str "one"))) storedRetry :=
    exec_served_retry trivial (by decide) held
  have before : History flatHash defaultIdempotencyTtl [firstRetry reply] storedRetry :=
    (History.start 0).handle (le_refl (0 : Rat)) ⟨rfl, started⟩
  have history : History flatHash defaultIdempotencyTtl [firstRetry reply, secondRetry] storedRetry :=
    before.handle (le_refl (0 : Rat)) ⟨rfl, told⟩
  refine ⟨reply, history, ?_⟩
  obtain ⟨d, member, served⟩ := (idempotency_over_histories history (collisionFree_retries reply)).1 [_] _ [] _
    rfl rfl
  rw [List.mem_singleton.mp member] at served
  exact served

end LobstrMcp
