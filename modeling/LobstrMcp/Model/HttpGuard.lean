import LobstrMcp.Data.JsonReader
import LobstrMcp.Data.JsonText
import LobstrMcp.Interaction.Program

/-!
`auth/http_guard.py`: the middleware before the endpoints that the OAuth SDK mounts. An ASGI application is a program
that receives messages, sends messages and calls the application inside it; what those three raise goes through the
guard unchanged and is left out, as are the keys of a scope and of a message that the guard does not read.
-/

namespace LobstrMcp.HttpGuard
open Interaction JsonReader

abbrev Bytes := List UInt8

def bytes (s : String) : Bytes := s.toList.map fun c => c.toNat.toUInt8

/-- What `receive` yields: a part of the body, or the end of the connection. -/
inductive Received where
  | request (body : Option Bytes) (moreBody : Option Bool)
  | disconnect
  deriving DecidableEq

inductive Sent where
  | start (status : Nat) (headers : List (Bytes × Bytes))
  | body (body : Bytes)
  deriving DecidableEq

structure Scope where
  type : String
  path : String
  method : String
  headers : Option (List (Bytes × Bytes)) := none
  deriving DecidableEq

/-- The closure `replay`, with what it has bound. -/
structure Replay where
  body : Bytes
  sent : Bool
  deriving DecidableEq

def Replay.call (replay : Replay) : Received × Replay :=
  if !replay.sent then (.request (some replay.body) (some false), { replay with sent := true })
  else (.disconnect, replay)

/-- What the first `n` calls yield. -/
def Replay.reads (replay : Replay) : Nat → List Received
  | 0 => []
  | n + 1 => replay.call.1 :: replay.call.2.reads n

/-- What an application is given to receive from. -/
inductive Receive where
  | server
  | replay (replay : Replay)
  deriving DecidableEq

inductive Asgi where
  | receive
  | send (message : Sent)
  | app (scope : Scope) (receive : Receive)
  deriving DecidableEq

abbrev Asgi.Answer : Asgi → Type
  | .receive => Received
  | _ => Unit

/-- What the guard itself may raise. -/
inductive Uncaught where
  | recursionError
  deriving DecidableEq

abbrev GuardM := Program Asgi Asgi.Answer Uncaught

def receive : GuardM Received := Program.ask Asgi.receive

def send (message : Sent) : GuardM Unit := Program.ask (Asgi.send message)

def app (scope : Scope) (receive : Receive) : GuardM Unit := Program.ask (Asgi.app scope receive)

def authPaths : List String := ["/register", "/token", "/revoke"]

def jsonBodyPaths : List String := ["/register"]

structure AuthEndpointGuard where
  paths : List String := authPaths
  jsonPaths : List String := jsonBodyPaths

/-- `bytes.lower` -/
def lower (name : Bytes) : Bytes := name.map fun b => if 0x41 ≤ b ∧ b ≤ 0x5A then b + 0x20 else b

def rawKeys (scope : Scope) : List Bytes := (scope.headers.getD []).map fun header => lower header.1

/-- `_drain` in so many messages; none where the body is longer. -/
def drain : Nat → List Bytes → GuardM (Option (Bytes × Replay))
  | 0, _ => pure none
  | rounds + 1, chunks => do
    match ← receive with
    | .disconnect => pure (some (chunks.flatten, ⟨chunks.flatten, false⟩))
    | .request body moreBody =>
      let chunks := chunks ++ [body.getD []]
      if moreBody.getD false then drain rounds chunks
      else pure (some (chunks.flatten, ⟨chunks.flatten, false⟩))

def isWhitespace (b : UInt8) : Bool := b = 0x20 || (0x09 ≤ b && b ≤ 0x0D)

/-- `bytes.strip` -/
def strip (body : Bytes) : Bytes := ((body.dropWhile isWhitespace).reverse.dropWhile isWhitespace).reverse

/-- `_is_json_object`: a `ValueError` is an answer, a `RecursionError` is not. -/
def isJsonObject (limits : Limits) (body : Bytes) : Except Uncaught Bool :=
  if strip body = [] then .ok false
  else match loads limits body with
    | .ok kind => .ok (kind = .dict)
    | .error .value => .ok false
    | .error .recursion => .error .recursionError

def respond (status : Nat) (body : Bytes) (extra : List (Bytes × Bytes)) : GuardM Unit := do
  let headers := (bytes "content-length", bytes (toString body.length)) :: extra
  send (.start status headers)
  send (.body body)

def payload : Bytes :=
  (Json.dumps (.obj [("error", .str "invalid_client_metadata"),
    ("error_description", .str "request body must be a JSON object")])).map fun c => c.toNat.toUInt8

/-- `__call__`; none where the body has more messages than rounds. `str.upper` is `upper`. -/
def AuthEndpointGuard.call (guard : AuthEndpointGuard) (upper : String → String) (limits : Limits) (rounds : Nat)
    (scope : Scope) : GuardM (Option Unit) := do
  if scope.type ≠ "http" ∨ scope.path ∉ guard.paths then
    app scope .server
    return some ()
  let method := upper scope.method
  if method = "OPTIONS" ∧ bytes "access-control-request-method" ∉ rawKeys scope then
    respond 204 [] [(bytes "allow", bytes "POST, OPTIONS")]
    return some ()
  if method = "POST" ∧ scope.path ∈ guard.jsonPaths then
    let some (body, replay) ← drain rounds [] | return none
    if !(← Program.ofExcept (isJsonObject limits body)) then
      respond 400 payload [(bytes "content-type", bytes "application/json")]
      return some ()
    app scope (.replay replay)
    return some ()
  app scope .server
  return some ()

end LobstrMcp.HttpGuard
