import LobstrMcp.Model.Errors
import Mathlib.Data.List.Infix

/-!
`observability.py`: what becomes of an event before it is sent to Sentry. `lower` is `str.lower`.
-/

namespace LobstrMcp

def sensitiveHeaders : List String :=
  ["authorization", "proxy-authorization", "cookie", "set-cookie", "x-mcp-service-credential"]

def redacted : Json := .str "[Filtered]"

def noisyUvicornAsgiLog : String := "ASGI callable returned without completing response."

/-- `needle in v` -/
def inJson (needle : String) : Json → Except Exc Bool
  | .str text => .ok (needle.toList <:+: text.toList)
  | .arr items => .ok (.str needle ∈ items)
  | .obj fields => .ok (Dict.contains fields needle)
  | _ => .error .typeError

def isNoisyUvicornAsgiLog (event : Fields) : Except Exc Bool :=
  if Fields.get event "logger" ≠ .str "uvicorn.error" then .ok false else
  let logged := (((Fields.get event "logentry").asObj?).map (Fields.get · "message")).getD .null
  inJson noisyUvicornAsgiLog ((logged.orElse (Fields.get event "message")).orElse (.str ""))

section Lower
variable (lower : String → String)

/-- Every header of a sensitive name, whatever its case, keeps its place and loses its value. -/
def scrubHeaders (headers : Fields) : Fields :=
  headers.map fun header => (header.1, if lower header.1 ∈ sensitiveHeaders then redacted else header.2)

def redactHeaders (req : Fields) : Fields :=
  match Dict.get? req "headers" with
  | some (.obj headers) => Dict.set req "headers" (.obj (scrubHeaders lower headers))
  | _ => req

/-- Request bodies can carry a token or an OAuth grant. -/
def redactBody (req : Fields) : Fields := if Fields.get req "data" ≠ .null then Dict.set req "data" redacted else req

/-- What `_scrub` does to the request of an event. -/
def scrubRequest (req : Fields) : Fields := Dict.erase (redactBody (redactHeaders lower req)) "cookies"

/-- An event with the secrets of its request dropped. -/
def scrubEvent (event : Fields) : Fields :=
  match Fields.get event "request" with
  | .obj req => Dict.set event "request" (.obj (scrubRequest lower req))
  | _ => event

/-- `_scrub`: the event to send, or none to drop it. -/
def scrub (event : Fields) : Except Exc (Option Fields) := do
  let noisy ← isNoisyUvicornAsgiLog event
  pure (if noisy then none else some (scrubEvent lower event))

end Lower
end LobstrMcp
