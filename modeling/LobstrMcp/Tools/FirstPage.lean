import LobstrMcp.Run.Crawler
import LobstrMcp.Run.Inventory

/-!
What auto-pick makes of an inventory that is served in pages. It reads the first page of a hundred
accounts only; whether an account is the only one of its kind is a matter of all of them.
-/

namespace LobstrMcp
open Interaction Tool

/-- A pick that is no guess, and a refusal that is true of every account connected. -/
structure NeverGuesses (now : Int) (accountType : Json) (inventory : List Json)
    (found : Except Fields Fields) : Prop where
  picked : ∀ account, found = .ok account → unlockedAccounts now accountType (.arr inventory) = [account]
  locked : ∀ e, found = .error e → Fields.get e "error_code" = .str "account_locked" →
    unlockedAccounts now accountType (.arr inventory) = [] ∧ lockedAccounts now accountType (.arr inventory) ≠ []
  absent : ∀ e, found = .error e → Fields.get e "error_code" = .str "no_account_available" →
    unlockedAccounts now accountType (.arr inventory) = [] ∧ lockedAccounts now accountType (.arr inventory) = []

/-- The API lists the accounts that its filter keeps, in pages. The filter is a convenience: it may
keep more accounts than can be used, and keeps those that can. -/
structure Lists {σ : Type} (m : Machine Call Answer σ) (st : σ) (accountType : Json) (inventory : List Json)
    (keeps : Json → Bool) : Prop where
  pages : ∀ limit number, ∃ payload, (m st (.listAccounts limit number accountType 1)).1 = .ok payload ∧
    rowsOf payload = Pages.page limit number (inventory.filter keeps)
  usable : ∀ account ∈ inventory, (typeStatusOk accountType account).isSome → keeps account = true

/-- What decides lies on the first page: no unlocked account lies beyond it, unless the page has two,
and no locked one, unless the page has a usable account. -/
def FirstPageDecides (now : Int) (accountType : Json) (kept : List Json) : Prop :=
  2 ≤ (unlockedAccounts now accountType (.arr (kept.take 100))).length ∨
    (unlockedAccounts now accountType (.arr (kept.drop 100)) = [] ∧
      (unlockedAccounts now accountType (.arr (kept.take 100)) = [] →
        lockedAccounts now accountType (.arr (kept.take 100)) = [] →
          lockedAccounts now accountType (.arr (kept.drop 100)) = []))

section Pick
variable {now : Int} {accountType : Json} {inventory kept : List Json} {keeps : Json → Bool}

theorem unlockedAccounts_append (front back : List Json) :
    unlockedAccounts now accountType (.arr (front ++ back)) =
      unlockedAccounts now accountType (.arr front) ++ unlockedAccounts now accountType (.arr back) := by
  simp [unlockedAccounts, usableAccounts, rowsOf]

theorem lockedAccounts_append (front back : List Json) :
    lockedAccounts now accountType (.arr (front ++ back)) =
      lockedAccounts now accountType (.arr front) ++ lockedAccounts now accountType (.arr back) := by
  simp [lockedAccounts, usableAccounts, rowsOf]

theorem lists_unlocked (now : Int)
    (usable : ∀ account ∈ inventory, (typeStatusOk accountType account).isSome → keeps account = true) :
    unlockedAccounts now accountType (.arr inventory) =
      unlockedAccounts now accountType (.arr ((inventory.filter keeps).take 100)) ++
        unlockedAccounts now accountType (.arr ((inventory.filter keeps).drop 100)) := by
  rw [← unlockedAccounts_append, List.take_append_drop]
  unfold unlockedAccounts
  rw [usableAccounts_filter usable]

theorem lists_locked (now : Int)
    (usable : ∀ account ∈ inventory, (typeStatusOk accountType account).isSome → keeps account = true) :
    lockedAccounts now accountType (.arr inventory) =
      lockedAccounts now accountType (.arr ((inventory.filter keeps).take 100)) ++
        lockedAccounts now accountType (.arr ((inventory.filter keeps).drop 100)) := by
  rw [← lockedAccounts_append, List.take_append_drop]
  unfold lockedAccounts
  rw [usableAccounts_filter usable]

theorem neverGuesses_picked {account : Fields} : NeverGuesses now accountType inventory (.ok account) ↔
    unlockedAccounts now accountType (.arr inventory) = [account] := by
  constructor
  · intro true
    exact true.picked account rfl
  · intro only
    exact ⟨fun other same => by cases same; exact only, fun _ absurd => (by cases absurd),
      fun _ absurd => (by cases absurd)⟩

theorem neverGuesses_refused {e : Fields} {code : String} (told : Fields.get e "error_code" = .str code) :
    NeverGuesses now accountType inventory (.error e) ↔
      (code = "account_locked" → unlockedAccounts now accountType (.arr inventory) = [] ∧
        lockedAccounts now accountType (.arr inventory) ≠ []) ∧
      (code = "no_account_available" → unlockedAccounts now accountType (.arr inventory) = [] ∧
        lockedAccounts now accountType (.arr inventory) = []) := by
  constructor
  · intro true
    exact ⟨fun same => true.locked e rfl (told.trans (congrArg _ same)),
      fun same => true.absent e rfl (told.trans (congrArg _ same))⟩
  · rintro ⟨locked, absent⟩
    refine ⟨fun _ absurd => (by cases absurd), fun other same code' => ?_, fun other same code' => ?_⟩
    · cases same
      exact locked (Json.str.inj (told.symm.trans code'))
    · cases same
      exact absent (Json.str.inj (told.symm.trans code'))

/-- What is found on the first page holds of the whole inventory exactly where the page decides. -/
theorem neverGuesses_iff
    (usable : ∀ account ∈ inventory, (typeStatusOk accountType account).isSome → keeps account = true) :
    NeverGuesses now accountType inventory (explainPick accountType
        (unlockedAccounts now accountType (.arr ((inventory.filter keeps).take 100)))
        (lockedAccounts now accountType (.arr ((inventory.filter keeps).take 100)))) ↔
      FirstPageDecides now accountType (inventory.filter keeps) := by
  have unlocked := lists_unlocked now usable
  have locked := lists_locked now usable
  unfold FirstPageDecides
  generalize unlockedAccounts now accountType (.arr ((inventory.filter keeps).take 100)) = here at *
  generalize lockedAccounts now accountType (.arr ((inventory.filter keeps).take 100)) = shut at *
  generalize unlockedAccounts now accountType (.arr ((inventory.filter keeps).drop 100)) = beyond at *
  generalize lockedAccounts now accountType (.arr ((inventory.filter keeps).drop 100)) = shutBeyond at *
  rcases here with _ | ⟨a, _ | ⟨b, more⟩⟩
  · rw [List.nil_append] at unlocked
    cases shut with
    | nil =>
      obtain ⟨e, refused, told⟩ := explainPick_none accountType
      rw [refused, neverGuesses_refused told, unlocked, locked]
      simp
    | cons c rest =>
      obtain ⟨e, refused, told⟩ := explainPick_locked accountType c rest
      rw [refused, neverGuesses_refused told, unlocked, locked]
      simp
  · rw [show explainPick accountType [a] shut = .ok a from rfl, neverGuesses_picked, unlocked]
    simp
  · obtain ⟨e, refused, told⟩ := explainPick_many accountType a b more shut
    rw [refused, neverGuesses_refused told]
    simp

/-- Auto-pick asks for the first page. -/
theorem run_pickOrExplain {σ : Type} {m : Machine Call Answer σ} {st : σ} (now : Int)
    (lists : Lists m st accountType inventory keeps) :
    ((pickOrExplain now accountType).run m st).1 = .ok (explainPick accountType
      (unlockedAccounts now accountType (.arr ((inventory.filter keeps).take 100)))
      (lockedAccounts now accountType (.arr ((inventory.filter keeps).take 100)))) := by
  obtain ⟨payload, answered, rows⟩ := lists.pages 100 1
  rw [Pages.page_one] at rows
  unfold pickOrExplain findCandidates listAccounts
  rw [Program.bind_assoc, Program.run_bind_ok (run_send answered)]
  unfold unlockedAccounts lockedAccounts usableAccounts
  rw [show rowsOf (.arr ((inventory.filter keeps).take 100)) = rowsOf payload from rows.symm]
  rfl

end Pick

/-- Auto-pick never guesses, whatever the inventory, exactly where the first page decides. -/
theorem pick_never_guesses_iff {σ : Type} {m : Machine Call Answer σ} {st : σ} {accountType : Json}
    {inventory : List Json} {keeps : Json → Bool} (now : Int) (lists : Lists m st accountType inventory keeps) :
    (∀ found, ((pickOrExplain now accountType).run m st).1 = .ok found →
      NeverGuesses now accountType inventory found) ↔ FirstPageDecides now accountType (inventory.filter keeps) := by
  rw [run_pickOrExplain now lists, ← neverGuesses_iff lists.usable]
  constructor
  · intro true
    exact true _ rfl
  · rintro true found ⟨⟩
    exact true

/-- An API that serves the accounts it holds in pages, those of a type and status alone. -/
def pagedApi (inventory : List Json) (keeps : Json → Bool) : Machine Call Answer Unit
  | _, .listAccounts limit number _ _ => (.ok (.arr (Pages.page limit number (inventory.filter keeps))), ())
  | _, _ => (.error (.api (.make 404 none none)), ())

theorem lists_pagedApi (inventory : List Json) (accountType : Json) :
    Lists (pagedApi inventory (liveOfType accountType)) () accountType inventory (liveOfType accountType) where
  pages _ _ := ⟨_, rfl, rfl⟩
  usable account _ := usable_liveOfType accountType account

/-- One of the two is picked. -/
theorem long_inventory_is_guessed :
    ¬ ∀ found, ((pickOrExplain 0 (.str "linkedin-sync")).run
      (pagedApi longInventory (liveOfType (.str "linkedin-sync"))) ()).1 =
      .ok found → NeverGuesses 0 (.str "linkedin-sync") longInventory found := by
  intro never
  have lists := lists_pagedApi longInventory (.str "linkedin-sync")
  have decides := (neverGuesses_iff lists.usable).mp (never _ (run_pickOrExplain 0 lists))
  unfold FirstPageDecides at decides
  revert decides
  decide +kernel

/-- The first account, and one whose cookies have expired. -/
def shortInventory : List Json := [cookieAccount "first" "ok", cookieAccount "stale" "cookies_expired"]

/-- Picking the first is right there. -/
theorem short_inventory_is_not_guessed : ∃ account, Fields.get account "id" = .str "first" ∧
    ((pickOrExplain 0 (.str "linkedin-sync")).run (pagedApi shortInventory (liveOfType (.str "linkedin-sync"))) ()).1 =
      .ok (.ok account) ∧
    NeverGuesses 0 (.str "linkedin-sync") shortInventory (.ok account) := by
  have lists := lists_pagedApi shortInventory (.str "linkedin-sync")
  have decides : FirstPageDecides 0 (.str "linkedin-sync")
    (shortInventory.filter (liveOfType (.str "linkedin-sync"))) := by
    unfold FirstPageDecides
    decide +kernel
  have only : (unlockedAccounts 0 (.str "linkedin-sync")
      (.arr ((shortInventory.filter (liveOfType (.str "linkedin-sync"))).take 100))).map (Fields.get · "id") =
        [.str "first"] := by decide +kernel
  obtain ⟨account, unlocked, first⟩ := List.map_eq_singleton_iff.mp only
  have picked := run_pickOrExplain 0 lists
  rw [unlocked] at picked
  exact ⟨account, first, picked, (pick_never_guesses_iff 0 lists).mpr decides _ picked⟩

end LobstrMcp
