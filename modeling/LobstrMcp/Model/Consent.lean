import LobstrMcp.Interaction.Machine
import LobstrMcp.Model.OAuthProvider

/-!
`complete_consent` of `auth/oauth_provider.py` as a worker thread runs it: each access to a table
that the threads share is a step of its own, and so are the redemption, the clock and the secret.
-/

namespace LobstrMcp
open Interaction

/-- What a thread does that others may see or that others decide. `get`, `del` and `pop` are those of the
table of pending requests; `setCode` and `setIdentity` write the two tables of the codes. -/
inductive ConsentCall where
  | time
  /-- The ids of the requests that expired before this second. -/
  | stale (now : Int)
  | del (requestId : String)
  | get (requestId : String)
  | redeem (grant : String)
  | pop (requestId : String)
  | random
  | setCode (made : AuthorizationCode)
  | setIdentity (code : String) (link : TokenLink)

/-- What it raises. -/
inductive ConsentError where
  | oauth (e : OAuthError)
  /-- Another thread had deleted the request first. -/
  | keyError (requestId : String)
  /-- Another thread changed the table while it was read. -/
  | changedSize
  deriving DecidableEq

/-- A deletion says whether there was something to delete. -/
abbrev ConsentCall.Answer : ConsentCall → Type
  | .time => Rat
  | .stale _ => Option (List String)
  | .del _ => Bool
  | .get _ => Option Pending
  | .redeem _ => Except String TokenLink
  | .pop _ => Unit
  | .random => ℕ
  | .setCode _ => Unit
  | .setIdentity _ _ => Unit

abbrev ConsentM := Program ConsentCall ConsentCall.Answer ConsentError

def ConsentCall.ask (c : ConsentCall) : ConsentM c.Answer := Program.ask c

namespace Threaded

/-- `for rid in stale: del self._pending[rid]` -/
def deleteAll : List String → ConsentM Unit
  | [] => return ()
  | rid :: rest => do
    let held : Bool ← ConsentCall.ask (.del rid)
    if held then deleteAll rest else .raise (.keyError rid)

def prunePending : ConsentM Unit := do
  let now : Rat ← ConsentCall.ask .time
  let stale : Option (List String) ← ConsentCall.ask (.stale (truncate now))
  match stale with
  | none => .raise .changedSize
  | some stale => deleteAll stale

/-- The look-up: the request, if it is known and has not expired. -/
def findRequest (requestId : String) : ConsentM (Option Pending) := do
  prunePending
  ConsentCall.ask (.get requestId)

/-- The consent once it is redeemed: the code, and the redirect that brings it to the client. -/
def createCode (secrets : Secrets) (requestId : String) (request : Pending) (link : TokenLink) :
    ConsentM (String × Redirect) := do
  let _ : Unit ← ConsentCall.ask (.pop requestId)
  match effectiveScopes request.params.scopes link.scopes with
  | .error e => .raise (.oauth e)
  | .ok scopes =>
  let drawn : ℕ ← ConsentCall.ask .random
  let code := secrets.urlsafe drawn
  let now : Rat ← ConsentCall.ask .time
  let _ : Unit ← ConsentCall.ask (.setCode (Provider.authorizationCode code scopes now request link))
  let _ : Unit ← ConsentCall.ask (.setIdentity code link)
  let state := request.params.state.toList.map (("state", ·))
  return (code, { uri := request.params.redirectUri, query := ("code", code) :: state })

/-- What follows the look-up. -/
def consentTo (secrets : Secrets) (requestId grant : String) : Option Pending → ConsentM (String × Redirect)
  | none => .raise (.oauth (.invalidGrant "unknown or expired consent request"))
  | some request => do
    let redeemed : Except String TokenLink ← ConsentCall.ask (.redeem grant)
    match redeemed with
    | .error text => .raise (.oauth (.delegation text))
    | .ok link => createCode secrets requestId request link

def completeConsent (secrets : Secrets) (requestId grant : String) : ConsentM (String × Redirect) := do
  let found ← findRequest requestId
  consentTo secrets requestId grant found

end Threaded
end LobstrMcp
