import LobstrMcp.Data.Pages
import LobstrMcp.Model.AccountLinking

/-!
The accounts that are connected, and what auto-pick makes of a listing of them. The API keeps those of
a type and status, and serves them in pages; auto-pick reads the first page of a hundred.
-/

namespace LobstrMcp

/-- How many there are, as far as auto-pick tells. -/
inductive HowMany where
  | none | one | several
  deriving DecidableEq

def howMany {α : Type} : List α → HowMany
  | [] => .none
  | [_] => .one
  | _ => .several

/-- The accounts of a listing that auto-pick could ever use. -/
def usableAccounts (accountType rows : Json) : List Fields := (rowsOf rows).filterMap (typeStatusOk accountType)

def unlockedAccounts (now : Int) (accountType rows : Json) : List Fields :=
  (usableAccounts accountType rows).filter fun a => !isLocked now a

def lockedAccounts (now : Int) (accountType rows : Json) : List Fields :=
  (usableAccounts accountType rows).filter (isLocked now)

/-- Two inventories that agree on how many usable accounts are unlocked, and on whether one is locked. -/
structure SameInventory (now : Int) (accountType : Json) (inventory inventory' : List Json) : Prop where
  unlocked : howMany (unlockedAccounts now accountType (.arr inventory)) =
    howMany (unlockedAccounts now accountType (.arr inventory'))
  locked : lockedAccounts now accountType (.arr inventory) = [] ↔ lockedAccounts now accountType (.arr inventory') = []

/-- What auto-pick finds in a listing. The one account it picks is of use when it has an id. -/
inductive Pick where
  | absent | locked | several | unnamed | one
  deriving DecidableEq

def pickOf (now : Int) (accountType rows : Json) : Pick :=
  match unlockedAccounts now accountType rows, lockedAccounts now accountType rows with
  | [], [] => .absent
  | [], _ :: _ => .locked
  | [account], _ => if (Dict.get? account "id").isSome then .one else .unnamed
  | _ :: _ :: _, _ => .several

theorem pickOf_congr {now : Int} {accountType rows rows' : Json} (same : rowsOf rows = rowsOf rows') :
    pickOf now accountType rows = pickOf now accountType rows' := by
  unfold pickOf unlockedAccounts lockedAccounts usableAccounts
  rw [same]

/-! The refusals of an auto-pick, by what is connected. -/

theorem explainPick_none (accountType : Json) : ∃ e, explainPick accountType [] [] = .error e ∧
    Fields.get e "error_code" = .str "no_account_available" := ⟨_, rfl, rfl⟩

theorem explainPick_locked (accountType : Json) (a : Fields) (more : List Fields) :
    ∃ e, explainPick accountType [] (a :: more) = .error e ∧ Fields.get e "error_code" = .str "account_locked" :=
  ⟨_, rfl, rfl⟩

theorem explainPick_many (accountType : Json) (a b : Fields) (more locked : List Fields) :
    ∃ e, explainPick accountType (a :: b :: more) locked = .error e ∧
      Fields.get e "error_code" = .str "multiple_accounts_available" := ⟨_, rfl, rfl⟩

/-! ### Pages -/

/-- How an API lists accounts: a filter by type and status, which keeps every account that can be
used, and an envelope around each page. -/
structure AccountListing where
  keeps : Json → Json → Bool
  envelope : List Json → Json
  opens : ∀ rows, rowsOf (envelope rows) = rows
  usable : ∀ accountType account, (typeStatusOk accountType account).isSome → keeps accountType account = true

/-- The first page of an inventory, as auto-pick asks for it. -/
def AccountListing.firstPage (listing : AccountListing) (accountType : Json) (inventory : List Json) : List Json :=
  (inventory.filter (listing.keeps accountType)).take 100

/-- The request for the first page is answered with it. -/
theorem AccountListing.pickOf_page (listing : AccountListing) (now : Int) (accountType : Json) (inventory : List Json) :
    pickOf now accountType (listing.envelope (Pages.page 100 1 (inventory.filter (listing.keeps accountType)))) =
      pickOf now accountType (.arr (listing.firstPage accountType inventory)) := by
  rw [Pages.page_one]
  exact pickOf_congr (listing.opens _)

/-! The filter loses no usable account, so that a short inventory is on its first page. -/

section Short
variable {now : Int} {accountType : Json} {inventory inventory' : List Json} {keeps : Json → Bool}

theorem usableAccounts_filter
    (usable : ∀ account ∈ inventory, (typeStatusOk accountType account).isSome → keeps account = true) :
    usableAccounts accountType (.arr (inventory.filter keeps)) = usableAccounts accountType (.arr inventory) := by
  unfold usableAccounts rowsOf
  induction inventory with
  | nil => rfl
  | cons account rest ih =>
    have tail := ih fun other held => usable other (List.mem_cons_of_mem _ held)
    have head := usable account List.mem_cons_self
    dsimp only at tail ⊢
    cases kept : keeps account with
    | true => rw [List.filter_cons_of_pos kept, List.filterMap_cons, List.filterMap_cons, tail]
    | false =>
      rw [List.filter_cons_of_neg (by simp [kept]), tail]
      cases found : typeStatusOk accountType account with
      | none => rw [List.filterMap_cons_none found]
      | some fields =>
        rw [head (by simp [found])] at kept
        cases kept

/-- The accounts of an inventory have ids. -/
def HaveIds (inventory : List Json) : Prop :=
  ∀ account, .obj account ∈ inventory → (Dict.get? account "id").isSome

theorem pickOf_firstPage {listing : AccountListing}
    (short : (inventory.filter (listing.keeps accountType)).length ≤ 100) :
    pickOf now accountType (.arr (listing.firstPage accountType inventory)) =
      pickOf now accountType (.arr inventory) := by
  unfold AccountListing.firstPage
  rw [List.take_of_length_le short]
  unfold pickOf unlockedAccounts lockedAccounts
  rw [usableAccounts_filter fun account _ => listing.usable accountType account]

theorem named_of_usable (ids : HaveIds inventory) {account : Fields}
    (usable : account ∈ usableAccounts accountType (.arr inventory)) : (Dict.get? account "id").isSome := by
  obtain ⟨row, listed, found⟩ := List.mem_filterMap.mp usable
  unfold typeStatusOk at found
  split at found
  · split at found
    · cases found
      exact ids _ listed
    · cases found
  · cases found

/-- Two inventories that agree as asked are of one kind to auto-pick. -/
theorem pickOf_same (ids : HaveIds inventory) (ids' : HaveIds inventory')
    (same : SameInventory now accountType inventory inventory') :
    pickOf now accountType (.arr inventory) = pickOf now accountType (.arr inventory') := by
  have named : ∀ {rows : List Json} {a : Fields}, HaveIds rows → unlockedAccounts now accountType (.arr rows) = [a] →
      (Dict.get? a "id").isSome = true := by
    intro rows a ids only
    have member : a ∈ unlockedAccounts now accountType (.arr rows) := by rw [only]; exact List.mem_singleton_self a
    exact named_of_usable ids (List.mem_of_mem_filter member)
  have count := same.unlocked
  have held := same.locked
  unfold pickOf
  rcases here : unlockedAccounts now accountType (.arr inventory) with _ | ⟨a, _ | ⟨b, more⟩⟩ <;>
    rcases there : unlockedAccounts now accountType (.arr inventory') with _ | ⟨a', _ | ⟨b', more'⟩⟩ <;>
    rw [here, there] at count <;> cases count
  · cases shut : lockedAccounts now accountType (.arr inventory) with
    | nil => rw [held.mp shut]
    | cons c rest =>
      cases shut' : lockedAccounts now accountType (.arr inventory') with
      | nil =>
        rw [held.mpr shut'] at shut
        cases shut
      | cons c' rest' => rfl
  · simp only [named ids here, named ids' there]

/-- Inventories of up to a hundred accounts of a type do not leak. -/
theorem short_inventories_alike {listing : AccountListing} (ids : HaveIds inventory) (ids' : HaveIds inventory')
    (short : (inventory.filter (listing.keeps accountType)).length ≤ 100)
    (short' : (inventory'.filter (listing.keeps accountType)).length ≤ 100)
    (same : SameInventory now accountType inventory inventory') :
    pickOf now accountType (.arr (listing.firstPage accountType inventory)) =
      pickOf now accountType (.arr (listing.firstPage accountType inventory')) := by
  rw [pickOf_firstPage short, pickOf_firstPage short', pickOf_same ids ids' same]

end Short

/-- An account of this id, whose cookies have expired or have not. -/
def cookieAccount (id info : String) : Json :=
  .obj [("id", .str id), ("type", .str "linkedin-sync"), ("status", .str "200"), ("status_code_info", .str info)]

/-- `type=…&status=1` -/
def liveOfType (accountType : Json) (account : Json) : Bool :=
  account.asObj?.any fun fields => Fields.get fields "type" = accountType ∧ accountStatus fields = "200"

theorem usable_liveOfType (accountType account : Json) (found : (typeStatusOk accountType account).isSome) :
    liveOfType accountType account = true := by
  unfold typeStatusOk at found
  split at found
  · split at found
    · rename_i fields all
      simp [liveOfType, all.1, all.2.1]
    · cases found
  · cases found

/-- The accounts of a type and status alone, in lists. -/
def liveListing : AccountListing where
  keeps := liveOfType
  envelope := .arr
  opens _ := rfl
  usable := usable_liveOfType

/-- An account that can be used, a hundred whose cookies have expired, and another that can be used. -/
def longInventory : List Json :=
  cookieAccount "first" "ok" ::
    (List.replicate 100 (cookieAccount "stale" "cookies_expired") ++ [cookieAccount "last" "ok"])

/-- The two that can be used. -/
def freshInventory : List Json := [cookieAccount "first" "ok", cookieAccount "last" "ok"]

end LobstrMcp
