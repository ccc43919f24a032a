import LobstrMcp.Data.Json
import LobstrMcp.Interaction.Program

/-!
`errors.py`: what can go wrong in a tool and how it is put to the model. An upstream answer
outside 2xx is an `ApiError`; no answer at all is a `TransportError`. Anything else a tool can
raise is its own bug or its store's failure, and no tool turns those into a reply.
-/

namespace LobstrMcp
open Interaction

/-- `c.isspace()` -/
def isSpace (c : Char) : Bool :=
  let n := c.toNat
  (9 ≤ n ∧ n ≤ 13) ∨ (28 ≤ n ∧ n ≤ 32) ∨ (8192 ≤ n ∧ n ≤ 8202) ∨
    n ∈ [133, 160, 5760, 8232, 8233, 8239, 8287, 12288]

/-- `s.strip()` -/
def strip (s : String) : String :=
  String.ofList (((s.toList.dropWhile isSpace).reverse.dropWhile isSpace).reverse)

/-- `LobstrAPIError`: a non-2xx with its error envelope parsed out. -/
structure ApiError where
  status : Int
  errorType : Option String
  message : String
  deriving DecidableEq

namespace ApiError

/-- `LobstrAPIError(status, error_type=…, message=…)`: an absent or empty message gets a text. -/
def make (status : Int) (errorType message : Option String) : ApiError where
  status := status
  errorType := errorType
  message := match message with
    | some m => if m = "" then s!"upstream returned HTTP {status}" else m
    | none => s!"upstream returned HTTP {status}"

/-- `str(exc)` -/
def text (e : ApiError) : String :=
  let type := e.errorType.getD ""
  strip s!"{e.status} {type}: {e.message}"

end ApiError

/-- The leaf classes of `httpx.TransportError`. -/
inductive TransportKind where
  | connectError | connectTimeout | poolTimeout | proxyError | unsupportedProtocol
  | localProtocolError | readTimeout | writeTimeout | readError | writeError | closeError
  | remoteProtocolError
  deriving DecidableEq

/-- `type(exc).__name__` -/
def TransportKind.name : TransportKind → String
  | .connectError => "ConnectError"
  | .connectTimeout => "ConnectTimeout"
  | .poolTimeout => "PoolTimeout"
  | .proxyError => "ProxyError"
  | .unsupportedProtocol => "UnsupportedProtocol"
  | .localProtocolError => "LocalProtocolError"
  | .readTimeout => "ReadTimeout"
  | .writeTimeout => "WriteTimeout"
  | .readError => "ReadError"
  | .writeError => "WriteError"
  | .closeError => "CloseError"
  | .remoteProtocolError => "RemoteProtocolError"

/-- `_NEVER_SENT`: the request provably never reached the API. -/
def TransportKind.neverSent : TransportKind → Bool
  | .connectError | .connectTimeout | .poolTimeout | .proxyError | .unsupportedProtocol
  | .localProtocolError => true
  | _ => false

/-- `httpx.TransportError`: no response came back. -/
structure TransportError where
  kind : TransportKind
  text : String
  deriving DecidableEq

/-- What a call or a tool can raise. -/
inductive Exc where
  | api (e : ApiError)
  | transport (e : TransportError)
  /-- The idempotency store's own failure, a Redis connection error say. -/
  | store (text : String)
  | keyError (key : String)
  | typeError
  | attributeError
  | zeroDivisionError
  deriving DecidableEq

/-- How the body of a tool is left early: by an exception, or by `return`. -/
inductive Exit where
  | raised (e : Exc)
  | returned (reply : Fields)

/-- `_TYPE_CODES`: upstream error types with a code and a hint of their own. -/
def typeCodes : Dict String (String × String) := [
  ("SquidNotReady", "scraper_not_ready",
    "The scraper configuration was not saved before starting the run."),
  ("SquidDoesNotExist", "scraper_not_found", "Check the scraper id."),
  ("HTTPNotFound", "not_found", "Check the id you passed."),
  ("InvalidGrant", "unauthorized", "Re-authorize the connection."),
  ("NotEnoughCredits", "insufficient_credits", "Top up credits and retry."),
  ("SlotsLimitExceeded", "slots_limit_exceeded",
    "The account's runs in progress use all of its plan's slots, and nothing " ++
    "is queued. Retry when a run finishes, or stop one by deactivating its " ++
    "scraper (deactivate_scraper keeps its config and results, unlike deleting)."),
  ("SquidsLimitExceeded", "squids_limit_exceeded",
    "The plan holds up to 100 scrapers per slot. Delete scrapers that are no " ++
    "longer needed, or upgrade the plan, then retry.")]

def statusCodes : Dict Int String := [
  (400, "upstream_rejected"), (401, "unauthorized"), (403, "forbidden"), (404, "not_found"),
  (409, "conflict"), (422, "validation_error"), (429, "rate_limited")]

/-- The stable code of an upstream failure: its type's, else its status', else the generic one. -/
def errorCode (e : ApiError) : String :=
  match Dict.get? typeCodes (e.errorType.getD "") with
  | some (code, _) => code
  | none => (Dict.get? statusCodes e.status).getD
      (if 500 ≤ e.status then "upstream_unavailable" else "upstream_error")

def toErrorDict (e : ApiError) : Fields :=
  let out : Fields := [("error_code", .str (errorCode e)), ("message", .str e.message),
    ("upstream_status", .int e.status)]
  let out := match e.errorType with
    | some type => if type = "" then out else Dict.set out "upstream_type" (.str type)
    | none => out
  match Dict.get? typeCodes (e.errorType.getD "") with
  | some (_, hint) => Dict.set out "hint" (.str hint)
  | none => out

def retryHint : String :=
  "Retry the same call once or twice. If it keeps failing this way the API is " ++
  "unreachable from this server, which no retry fixes — report that instead of " ++
  "retrying again."

/-- `f"{type(exc).__name__}: {exc}"`, without the colon when the exception has no text. -/
def TransportError.detail (e : TransportError) : String :=
  if e.text = "" then e.kind.name else e.kind.name ++ ": " ++ e.text

def transportMessage (e : TransportError) (verifyWith : Option String) : String :=
  let detail := e.detail
  if e.kind.neverSent then
    s!"Could not reach the Lobstr API ({detail}). The request never left this " ++
    "client, so nothing upstream was started, changed or charged. Retrying is safe."
  else match verifyWith with
    | some read =>
      s!"The request reached the Lobstr API but no response came back ({detail}) — " ++
      "whether it took effect is unknown, not rejected. Treating it as a failure " ++
      "and retrying can apply the same write twice, and where the call starts a " ++
      "run that means paying for it twice. Check what actually happened with " ++
      s!"{read}, then retry only if it did not take effect."
    | none =>
      s!"The request reached the Lobstr API but no response came back ({detail}) — " ++
      "whether it was served is unknown, not rejected. This call only reads, so " ++
      "nothing was changed or charged and retrying it is safe."

def transportHint (e : TransportError) (verifyWith : Option String) : String :=
  match e.kind.neverSent, verifyWith with
  | false, some read => s!"Do not retry blind. Check the current state first: {read}."
  | _, _ => retryHint

/-- `transport_error_dict`: `verify_with` is given by the tools that write. -/
def transportErrorDict (e : TransportError) (verifyWith : Option String) : Fields := [
  ("error_code", .str "upstream_unavailable"),
  ("message", .str (transportMessage e verifyWith)),
  ("upstream_status", .null),
  ("transport_error", .str e.detail),
  ("request_state", .str (if e.kind.neverSent then "not_sent" else "unknown")),
  ("retry_safe", .bool (e.kind.neverSent || verifyWith.isNone)),
  ("hint", .str (transportHint e verifyWith))]

/-- `str(exc) or type(exc).__name__`, for the two exceptions the handlers catch. -/
def Exc.detail : Exc → String
  | .api e => if e.text = "" then "LobstrAPIError" else e.text
  | .transport e => if e.text = "" then e.kind.name else e.text
  | .store text => text
  | .keyError key => Json.reprStr key
  | .typeError => "TypeError"
  | .attributeError => "AttributeError"
  | .zeroDivisionError => "ZeroDivisionError"

/-- What `@structured` makes of a tool's outcome: an upstream failure no inner handler took
becomes a reply; every other exception still escapes. -/
def settle (verifyWith : Option String) (outcome : Except Exit Fields) : Except Exc Fields :=
  match outcome with
  | .ok reply => .ok reply
  | .error (.returned reply) => .ok reply
  | .error (.raised (.api e)) => .ok (toErrorDict e)
  | .error (.raised (.transport e)) => .ok (transportErrorDict e verifyWith)
  | .error (.raised other) => .error other

/-- `@structured(verify_with=…)` -/
def structured {Op : Type} {Ans : Op → Type} (verifyWith : Option String)
    (body : Program Op Ans Exit Fields) : Program Op Ans Exc Fields := do
  let outcome ← body.attempt
  .ofExcept (settle verifyWith outcome)

theorem toErrorDict_get_absent (e : ApiError) {key : String}
    (absent : key ∉ ["error_code", "message", "upstream_status", "upstream_type", "hint"]) :
    Dict.get? (toErrorDict e) key = none := by
  simp only [List.mem_cons, List.not_mem_nil, or_false, not_or] at absent
  obtain ⟨code, message, status, type, hint⟩ := absent
  unfold toErrorDict
  cases e.errorType with
  | none =>
    simp only [Option.getD_none]
    cases Dict.get? typeCodes "" with
    | none => simp [Ne.symm code, Ne.symm message, Ne.symm status]
    | some entry => simp [Ne.symm code, Ne.symm message, Ne.symm status, Ne.symm hint]
  | some text =>
    simp only [Option.getD_some]
    by_cases empty : text = "" <;> cases Dict.get? typeCodes text <;>
      simp [empty, Ne.symm code, Ne.symm message, Ne.symm status, Ne.symm type, Ne.symm hint]

end LobstrMcp
