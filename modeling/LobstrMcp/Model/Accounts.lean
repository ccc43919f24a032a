import LobstrMcp.Model.AccountLinking
import LobstrMcp.Model.ApiReads
import LobstrMcp.Model.Scrapers

/-!
`tools/accounts.py`: the platform accounts of the caller, as a listing and one by one. Every field of
a reply is picked by name. `now` is the instant accounts are judged at, `lower` is `str.lower`.
-/

namespace LobstrMcp
open Interaction Served

/-- `_rows` of this file; none where the payload has no such method. -/
def accountRows (payload : Json) : Option (List Json) := squidRows payload

/-- `if account.get(key): out[name] = account.get(key)` -/
def addIfSet (account : Fields) (out : Fields) (entry : String × String) : Fields :=
  if (Fields.get account entry.1).truthy then Dict.set out entry.2 (Fields.get account entry.1) else out

/-- `_summary` of this file. -/
def accountView (now : Int) (a : Fields) : Fields :=
  let note := accountHealthNote now a
  let out : Fields := [
    ("id", Fields.get a "id"),
    ("platform", Fields.get a "type"),
    ("username", Fields.get a "username"),
    ("status", (Fields.get a "status_code_description").orElse (Fields.get a "status_code_info")),
    ("last_sync", Fields.get a "last_synchronization_time"),
    ("usable_now", .bool note.isNone)]
  let out := match note with
    | some note => Dict.set out "health_note" (.str note)
    | none => out
  [("lock_time", "lock_time"), ("resets_in", "resets_in_seconds")].foldl (addIfSet a) out

section Lower
variable (lower : String → String)

/-- The names a platform goes by: Sales Navigator accounts are LinkedIn logins. -/
def platformTerms (platform : String) : List String :=
  if lower platform = "linkedin" then [lower platform, "sales-nav"] else [lower platform]

/-- Whether an account's type has one of these terms in it; none where the type is no text. -/
def hasTerm (terms : List String) (account : Fields) : Option Bool :=
  (loweredText lower (Fields.get account "type")).map fun type => terms.any (within · type)

/-- The rows of a platform; none where that raises. -/
def platformRows (platform : Option String) (rows : List Json) : Option (List Json) :=
  match platform.filter (· ≠ "") with
  | none => some rows
  | some platform => do
    let kept ← (rows.filterMap Json.asObj?).mapM fun a => (hasTerm lower (platformTerms lower platform) a).map (·, a)
    some ((kept.filter (·.1)).map fun e => .obj e.2)

/-- What `list_accounts_impl` says of a payload; none where that raises. -/
def accountsReply (now : Int) (platform : Option String) (payload : Json) : Option Fields := do
  let rows ← accountRows payload
  let rows ← platformRows lower platform rows
  some [("count", .int rows.length),
    ("accounts", .arr ((rows.filterMap Json.asObj?).map fun a => .obj (accountView now a)))]

def listAccountsImpl (now : Int) (platform : Option String) (limit page : Int) :
    Program ServerCall ServerCall.Ans Exc Fields :=
  structured none do
    let payload ← pageAccounts limit page
    match accountsReply lower now platform payload with
    | some reply => pure reply
    | none => Served.raised .attributeError

end Lower

/-- The scrapers that use an account. -/
def usedBy (data : Fields) : Option Json :=
  match Fields.get data "squids" with
  | .arr squids => some (.arr ((squids.filterMap Json.asObj?).map fun s =>
      .obj [("id", Fields.get s "id"), ("name", Fields.get s "name")]))
  | _ => none

/-- What `get_account_impl` says of a payload, which may wrap the account. -/
def accountReply (now : Int) (payload : Json) : Fields :=
  let data := ((accountOf payload).asObj?).getD []
  match usedBy data with
  | some used => Dict.set (accountView now data) "used_by" used
  | none => accountView now data

def getAccountImpl (now : Int) (accountId : String) : Program Call Answer Exc Fields :=
  structured none do
    let payload ← Tool.send (.getAccount accountId)
    pure (accountReply now payload)

end LobstrMcp
