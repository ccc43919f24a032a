import LobstrMcp.Data.IsoTime
import LobstrMcp.Model.LobstrClient

/-!
`account_linking.py`: which platform account a squid runs with. A write of `accounts` replaces
the whole list, so every path reads the squid's current ids first; an account is picked unasked
only where the choice is unambiguous.
-/

namespace LobstrMcp
open Interaction Tool

/-- `_rows` -/
def rowsOf (payload : Json) : List Json :=
  match payload with
  | .arr items => items
  | .obj fields =>
    (["data", "results", "records"].findSome? fun k => (Fields.get fields k).asArr?).getD []
  | _ => []

/-- `crawler_account_type`: null when the crawler needs no account. -/
def crawlerAccountType (crawler : Crawler) : Json :=
  match Fields.get crawler.fields "account" with
  | .obj account => Fields.get account "type"
  | _ => .null

/-- `squid_account_ids`, none where it raises `AccountsShapeError`. -/
def squidAccountIds (squid : Fields) : Option (List String) :=
  match Fields.get squid "accounts" with
  | .null => some []
  | .arr accounts =>
    match accounts.mapM Json.asStr? with
    | some ids => some ids
    | none => accounts.mapM fun a => a.asObj?.bind fun fields => (Fields.get fields "id").asStr?
  | _ => none

/-- `s.replace("Z", "+00:00")`, as characters. -/
def spellOutZulu (s : String) : List Char :=
  s.toList.flatMap fun c => if c = 'Z' then "+00:00".toList else [c]

/-- `_is_locked`, at the instant `now`. -/
def isLocked (now : Int) (account : Fields) : Bool :=
  let lockTime := Fields.get account "lock_time"
  if !lockTime.truthy then false else
  match IsoTime.fromIsoFormat (spellOutZulu lockTime.text) with
  | none => false
  | some t => now < t.instant

/-- `str(account.get("status") or "")` -/
def accountStatus (account : Fields) : String :=
  ((Fields.get account "status").orElse (.str "")).text

/-- `(account.get("status_code_info") or "") == "cookies_expired"` -/
def cookiesExpired (account : Fields) : Bool :=
  Fields.get account "status_code_info" = .str "cookies_expired"

def accountHealthNote (now : Int) (account : Fields) : Option String :=
  let status := accountStatus account
  if status ≠ "200" then
    let shown := if status = "" then "unknown" else status
    some s!"status is \"{shown}\", not the healthy \"200\""
  else if cookiesExpired account then
    some "its cookies have expired; it needs re-syncing before a run can use it"
  else if isLocked now account then
    let lockTime := Fields.get account "lock_time"
    let lockText := lockTime.text
    let ending := if lockTime.truthy then s!" until {lockText}" else ""
    some (s!"it is currently locked{ending} — " ++
      "routine on LinkedIn/Sales Navigator and usually clears on its own")
  else none

def accountSummary (a : Fields) : Fields :=
  let out := ["id", "username", "type", "status", "status_code_info"].map fun k => (k, Fields.get a k)
  if (Fields.get a "lock_time").truthy then Dict.set out "lock_time" (Fields.get a "lock_time") else out

/-- `_type_status_ok`: the account, when auto-pick could ever use it. -/
def typeStatusOk (accountType : Json) (account : Json) : Option Fields :=
  match account with
  | .obj fields =>
    if Fields.get fields "type" = accountType ∧ accountStatus fields = "200" ∧ ¬ cookiesExpired fields
    then some fields else none
  | _ => none

/-- `find_candidates`: the usable accounts of a type, those not locked and those locked. -/
def findCandidates (now : Int) (accountType : Json) : Tool (List Fields × List Fields) := do
  let payload ← listAccounts 100 1 accountType 1
  let candidates := (rowsOf payload).filterMap (typeStatusOk accountType)
  pure (candidates.filter fun a => !isLocked now a, candidates.filter (isLocked now))

/-- The account in a `get_account` payload, unwrapped from its envelope. -/
def accountOf (payload : Json) : Json :=
  match payload with
  | .obj fields =>
    match Fields.get fields "data" with
    | .arr (first :: _) => first
    | _ => payload
  | _ => payload

/-- `resolve_account`: the account, or the error to answer. -/
def resolveAccount (accountId : String) (accountType : Json) : Tool (Except Fields Fields) := do
  let type := accountType.text
  match ← request (.getAccount accountId) with
  | .error (.api _) => pure (.error [
      ("error_code", .str "account_not_found"),
      ("message", .str (s!"No account found for id '{accountId}'. It may be " ++
        "wrong, deleted, or belong to another user. Call " ++
        s!"list_accounts(platform=\"{type}\") to find a valid id.")),
      ("account_id", .str accountId)])
  | .error e => raised e
  | .ok payload =>
    let unknown : Fields := [
      ("error_code", .str "account_not_found"),
      ("message", .str (s!"No account found for id '{accountId}'. Call " ++
        s!"list_accounts(platform=\"{type}\") to find a valid id.")),
      ("account_id", .str accountId)]
    match accountOf payload with
    | .obj account =>
      if !(Fields.get account "id").truthy then pure (.error unknown) else
      if Fields.get account "type" ≠ accountType then
        let given := (Fields.get account "type").text
        pure (.error [
          ("error_code", .str "account_type_mismatch"),
          ("message", .str (s!"Account '{accountId}' is a '{given}' account; " ++
            s!"this scraper needs a '{type}' account — they are not " ++
            s!"interchangeable. Call list_accounts(platform=\"{type}\") " ++
            "to find a matching one.")),
          ("required_type", accountType), ("given_type", Fields.get account "type")])
      else pure (.ok account)
    | _ => pure (.error unknown)

/-- What `pick_or_explain` answers for the candidates found. -/
def explainPick (accountType : Json) (unlocked locked : List Fields) : Except Fields Fields :=
  let type := accountType.text
  match unlocked, locked with
  | [account], _ => .ok account
  | _ :: _ :: _, _ =>
    let n := unlocked.length
    .error [
      ("error_code", .str "multiple_accounts_available"),
      ("message", .str (s!"{n} healthy '{type}' accounts are connected; " ++
        "auto-pick won't guess between them. Pick one and pass its id as " ++
        "account_id.")),
      ("required_type", accountType),
      ("candidates", .arr (unlocked.map fun a => .obj (accountSummary a)))]
  | [], _ :: _ =>
    let n := locked.length
    .error [
      ("error_code", .str "account_locked"),
      ("message", .str (s!"{n} '{type}' account(s) are connected but " ++
        "currently locked — a routine, transient rate-limit on " ++
        "LinkedIn/Sales Navigator, not a broken account. Auto-pick skips a " ++
        "locked account, but you can still attach one explicitly: pass its " ++
        "id as account_id.")),
      ("required_type", accountType),
      ("candidates", .arr (locked.map fun a => .obj (accountSummary a)))]
  | [], [] => .error [
      ("error_code", .str "no_account_available"),
      ("message", .str (s!"No '{type}' account is connected and ready to use. Connect " ++
        "one from your Lobstr dashboard, or call list_accounts to check for one " ++
        "that just needs re-syncing, then retry.")),
      ("required_type", accountType)]

def pickOrExplain (now : Int) (accountType : Json) : Tool (Except Fields Fields) := do
  let (unlocked, locked) ← findCandidates now accountType
  pure (explainPick accountType unlocked locked)

section Uses
variable {allowed : Call → Prop}

theorem uses_resolveAccount (accountId : String) (accountType : Json)
    (permitted : allowed (.getAccount accountId)) :
    (resolveAccount accountId accountType).Uses allowed := by
  unfold resolveAccount
  refine Program.uses_bind ((uses_request _).mpr permitted) ?_
  intro answer
  rcases answer with e | payload
  · cases e <;> trivial
  · simp only
    split
    · split
      · trivial
      · split <;> trivial
    · trivial

theorem uses_pickOrExplain (now : Int) (accountType : Json)
    (permitted : allowed (.listAccounts 100 1 accountType 1)) :
    (pickOrExplain now accountType).Uses allowed := by
  unfold pickOrExplain findCandidates
  refine Program.uses_bind ?_ fun _ => trivial
  exact Program.uses_bind ((uses_send _).mpr permitted) fun _ => trivial

end Uses
end LobstrMcp
