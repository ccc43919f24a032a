import LobstrMcp.Data.DictKeys
import LobstrMcp.Model.Observability
import LobstrMcp.Model.Scrapers

/-!
What can be told of a request's secrets from the event that is sent. Two events that differ in
secrets only are scrubbed to the same one exactly where no secret travels in what `_scrub` leaves alone:
the URL and the query string.
-/

namespace LobstrMcp

section Lower
variable (lower : String → String)

/-- Two values that differ in the grant that they carry, if they carry it. -/
def GrantAside (grant grant' : String) (v v' : Json) : Prop :=
  ∃ carrier : String → Json, v = carrier grant ∧ v' = carrier grant'

/-- The same header, but for the value of a sensitive one. -/
def HeaderAside (header header' : String × Json) : Prop :=
  header.1 = header'.1 ∧ (lower header.1 ∉ sensitiveHeaders → header.2 = header'.2)

/-- The same, of a header as a pair. -/
def PairAside (pair pair' : Json) : Prop :=
  pair = pair' ∨ ∃ name v v', lower name ∈ sensitiveHeaders ∧ pair = .arr [.str name, v] ∧ pair' = .arr [.str name, v']

/-- The same headers, as a dictionary or a list of pairs, but for the values of sensitive ones. -/
inductive HeadersAside : Json → Json → Prop
  | same {v : Json} : HeadersAside v v
  | dict {headers headers' : Fields} (each : List.Forall₂ (HeaderAside lower) headers headers') :
      HeadersAside (.obj headers) (.obj headers')
  | pairs {headers headers' : List Json} (each : List.Forall₂ (PairAside lower) headers headers') :
      HeadersAside (.arr headers) (.arr headers')

/-- The same request, but for its secrets: sensitive headers, the cookies, the body, and the grant in
the URL and the query string. -/
structure RequestAside (grant grant' : String) (req req' : Fields) : Prop where
  keys : Dict.keys req = Dict.keys req'
  distinct : (Dict.keys req).Nodup
  url : GrantAside grant grant' (Fields.get req "url") (Fields.get req' "url")
  query : GrantAside grant grant' (Fields.get req "query_string") (Fields.get req' "query_string")
  headers : HeadersAside lower (Fields.get req "headers") (Fields.get req' "headers")
  body : Fields.get req "data" = .null ↔ Fields.get req' "data" = .null
  rest : ∀ key, key ∉ ["url", "query_string", "headers", "data", "cookies"] →
    Fields.get req key = Fields.get req' key

/-- The same event, but for the secrets of its request. -/
structure EventAside (grant grant' : String) (event event' : Fields) : Prop where
  keys : Dict.keys event = Dict.keys event'
  distinct : (Dict.keys event).Nodup
  rest : ∀ key, key ≠ "request" → Fields.get event key = Fields.get event' key
  request : Fields.get event "request" = Fields.get event' "request" ∨
    ∃ req req', Fields.get event "request" = .obj req ∧ Fields.get event' "request" = .obj req' ∧
      RequestAside lower grant grant' req req'

/-- No secret travels in what is left alone: the two URLs are the same, and the two query strings, and
the headers, unless they are dictionaries. -/
structure NothingLeft (req req' : Fields) : Prop where
  url : Fields.get req "url" = Fields.get req' "url"
  query : Fields.get req "query_string" = Fields.get req' "query_string"
  headers : Fields.get req "headers" = Fields.get req' "headers" ∨
    ∃ headers headers', Fields.get req "headers" = .obj headers ∧ Fields.get req' "headers" = .obj headers'

/-! ### What is scrubbed -/

/-- What becomes of the headers. -/
def scrubbedHeaders : Json → Json
  | .obj headers => .obj (scrubHeaders lower headers)
  | v => v

theorem keys_redactHeaders (req : Fields) : Dict.keys (redactHeaders lower req) = Dict.keys req := by
  unfold redactHeaders
  split
  · rename_i headers held
    rw [Dict.keys_set, if_pos (Dict.mem_keys_of_get? held)]
  · rfl

theorem get_redactHeaders (req : Fields) (key : String) :
    Fields.get (redactHeaders lower req) key =
      if key = "headers" then scrubbedHeaders lower (Fields.get req "headers") else Fields.get req key := by
  unfold redactHeaders
  split
  · rename_i headers held
    rw [Fields.get_set, Fields.get_of_get? held]
    by_cases same : key = "headers"
    · rw [if_pos same.symm, if_pos same]
      rfl
    · rw [if_neg (Ne.symm same), if_neg same]
  · rename_i other
    by_cases same : key = "headers"
    · subst same
      rw [if_pos rfl, Fields.get]
      cases held : Dict.get? req "headers" with
      | none => rfl
      | some v =>
        cases v with
        | obj headers => exact absurd held (other headers)
        | _ => rfl
    · rw [if_neg same]

theorem keys_redactBody (req : Fields) : Dict.keys (redactBody req) = Dict.keys req := by
  unfold redactBody
  split
  · rename_i given
    have present : "data" ∈ Dict.keys req := by
      by_contra absent
      exact given (by rw [Fields.get, Dict.get?_of_not_mem absent]; rfl)
    rw [Dict.keys_set, if_pos present]
  · rfl

theorem get_redactBody (req : Fields) (key : String) :
    Fields.get (redactBody req) key =
      if key = "data" ∧ Fields.get req "data" ≠ .null then redacted else Fields.get req key := by
  unfold redactBody
  by_cases given : Fields.get req "data" = .null
  · simp [given]
  · by_cases same : key = "data"
    · simp [given, same]
    · simp [given, same, Ne.symm same]

theorem keys_scrubRequest (req : Fields) :
    Dict.keys (scrubRequest lower req) = (Dict.keys req).filter (· ≠ "cookies") := by
  have kept := (keys_redactBody (redactHeaders lower req)).trans (keys_redactHeaders lower req)
  unfold scrubRequest Dict.erase
  rw [← kept, Dict.keys, Dict.keys, List.filter_map]
  rfl

theorem get_scrubRequest (req : Fields) (key : String) :
    Fields.get (scrubRequest lower req) key =
      if key = "cookies" then .null
      else if key = "data" ∧ Fields.get req "data" ≠ .null then redacted
      else if key = "headers" then scrubbedHeaders lower (Fields.get req "headers")
      else Fields.get req key := by
  unfold scrubRequest
  rw [Fields.get, Dict.get?_erase]
  by_cases cookies : key = "cookies"
  · rw [if_pos cookies.symm, if_pos cookies]
    rfl
  · rw [if_neg (Ne.symm cookies), if_neg cookies, ← Fields.get, get_redactBody, get_redactHeaders, get_redactHeaders]
    rw [if_neg (by decide : ¬ "data" = "headers")]

/-- Two dictionaries with the same keys are the same where they read the same. -/
theorem eq_of_get {d e : Fields} (same : Dict.keys d = Dict.keys e) (distinct : (Dict.keys d).Nodup)
    (reads : ∀ key, Fields.get d key = Fields.get e key) : d = e := by
  refine Dict.ext_get? same distinct fun key => ?_
  by_cases held : key ∈ Dict.keys d
  · obtain ⟨v, first⟩ := Dict.exists_get?_of_mem_keys held
    obtain ⟨w, second⟩ := Dict.exists_get?_of_mem_keys (same ▸ held)
    have read := reads key
    rw [Fields.get_of_get? first, Fields.get_of_get? second] at read
    rw [first, second, read]
  · rw [Dict.get?_of_not_mem held, Dict.get?_of_not_mem (same ▸ held)]

/-! ### Two events -/

variable {lower} {grant grant' : String}

theorem scrubHeaders_aside {headers headers' : Fields} (each : List.Forall₂ (HeaderAside lower) headers headers') :
    scrubHeaders lower headers = scrubHeaders lower headers' := by
  induction each with
  | nil => rfl
  | @cons header header' rest rest' aside _ ih =>
    obtain ⟨name, v⟩ := header
    obtain ⟨name', v'⟩ := header'
    obtain ⟨rfl, plain⟩ : name = name' ∧ (lower name ∉ sensitiveHeaders → v = v') := aside
    unfold scrubHeaders at ih ⊢
    rw [List.map_cons, List.map_cons, ih]
    by_cases sensitive : lower name ∈ sensitiveHeaders
    · simp only [if_pos sensitive]
    · simp only [if_neg sensitive]
      rw [plain sensitive]

/-- Scrubbed headers are the same only where they were, or were dictionaries. -/
theorem scrubbedHeaders_iff {v v' : Json} (aside : HeadersAside lower v v') :
    scrubbedHeaders lower v = scrubbedHeaders lower v' ↔
      v = v' ∨ ∃ headers headers', v = .obj headers ∧ v' = .obj headers' := by
  cases aside with
  | same => exact iff_of_true rfl (.inl rfl)
  | dict each => exact iff_of_true (congrArg Json.obj (scrubHeaders_aside each)) (.inr ⟨_, _, rfl, rfl⟩)
  | pairs each =>
    constructor
    · intro same
      exact .inl same
    · rintro (same | ⟨headers, headers', absurd, -⟩)
      · exact congrArg _ same
      · cases absurd

theorem scrubRequest_iff {req req' : Fields} (aside : RequestAside lower grant grant' req req') :
    scrubRequest lower req = scrubRequest lower req' ↔ NothingLeft req req' := by
  constructor
  · intro same
    have read : ∀ key, Fields.get (scrubRequest lower req) key = Fields.get (scrubRequest lower req') key :=
      fun key => by rw [same]
    have url := read "url"
    have query := read "query_string"
    have headers := read "headers"
    simp only [get_scrubRequest] at url query headers
    exact ⟨by simpa using url, by simpa using query, (scrubbedHeaders_iff aside.headers).mp (by simpa using headers)⟩
  · intro left
    refine eq_of_get ?_ ?_ fun key => ?_
    · rw [keys_scrubRequest, keys_scrubRequest, aside.keys]
    · rw [keys_scrubRequest]
      exact aside.distinct.filter _
    · rw [get_scrubRequest, get_scrubRequest, (scrubbedHeaders_iff aside.headers).mpr left.headers]
      by_cases cookies : key = "cookies"
      · rw [if_pos cookies, if_pos cookies]
      rw [if_neg cookies, if_neg cookies]
      by_cases body : key = "data"
      · subst body
        by_cases none : Fields.get req "data" = .null
        · rw [none, aside.body.mp none]
        · rw [if_pos ⟨rfl, none⟩, if_pos ⟨rfl, fun absurd => none (aside.body.mpr absurd)⟩]
      simp only [body, false_and, if_false]
      by_cases inHeaders : key = "headers"
      · rw [if_pos inHeaders, if_pos inHeaders]
      rw [if_neg inHeaders, if_neg inHeaders]
      by_cases url : key = "url"
      · rw [url, left.url]
      by_cases query : key = "query_string"
      · rw [query, left.query]
      exact aside.rest key (by simp [url, query, inHeaders, body, cookies])

/-- Whether an event is noise does not depend on its request. -/
theorem noisy_aside {event event' : Fields} (aside : EventAside lower grant grant' event event') :
    isNoisyUvicornAsgiLog event = isNoisyUvicornAsgiLog event' := by
  unfold isNoisyUvicornAsgiLog
  rw [aside.rest "logger" (by decide), aside.rest "logentry" (by decide), aside.rest "message" (by decide)]

theorem scrubEvent_obj {event req : Fields} (held : Fields.get event "request" = .obj req) :
    scrubEvent lower event = Dict.set event "request" (.obj (scrubRequest lower req)) := by
  unfold scrubEvent
  rw [held]

theorem keys_set_request {event req : Fields} (held : Fields.get event "request" = .obj req) (v : Json) :
    Dict.keys (Dict.set event "request" v) = Dict.keys event := by
  have present : "request" ∈ Dict.keys event := by
    by_contra absent
    rw [Fields.get, Dict.get?_of_not_mem absent] at held
    cases held
  rw [Dict.keys_set, if_pos present]

/-- The events are sent the same exactly where nothing secret is left in their requests. -/
theorem scrubEvent_iff {event event' : Fields} (aside : EventAside lower grant grant' event event') :
    scrubEvent lower event = scrubEvent lower event' ↔ ∀ req req', Fields.get event "request" = .obj req →
      Fields.get event' "request" = .obj req' → NothingLeft req req' := by
  rcases aside.request with same | ⟨req, req', held, held', requests⟩
  · have equal : event = event' := by
      refine eq_of_get aside.keys aside.distinct fun key => ?_
      by_cases request : key = "request"
      · rw [request, same]
      · exact aside.rest key request
    subst equal
    refine iff_of_true rfl fun req req' held held' => ?_
    cases held.symm.trans held'
    exact ⟨rfl, rfl, .inl rfl⟩
  rw [scrubEvent_obj held, scrubEvent_obj held']
  constructor
  · intro sent req₁ req₂ first second
    cases held.symm.trans first
    cases held'.symm.trans second
    have request := congrArg (Fields.get · "request") sent
    simp only [Fields.get_set, if_true] at request
    exact (scrubRequest_iff requests).mp (Json.obj.inj request)
  · intro left
    have request := (scrubRequest_iff requests).mpr (left req req' held held')
    rw [request]
    refine eq_of_get ?_ ?_ fun key => ?_
    · rw [keys_set_request held, keys_set_request held', aside.keys]
    · rw [keys_set_request held]
      exact aside.distinct
    · rw [Fields.get_set, Fields.get_set]
      by_cases here : "request" = key
      · rw [if_pos here, if_pos here]
      · rw [if_neg here, if_neg here]
        exact aside.rest key (Ne.symm here)

end Lower

/-- Two events that differ in secrets only come to the same exactly where neither is sent, or nothing
secret is left in their requests. -/
theorem sent_events_tell_nothing_iff {lower : String → String} {grant grant' : String} {event event' : Fields}
    (aside : EventAside lower grant grant' event event') :
    scrub lower event = scrub lower event' ↔ isNoisyUvicornAsgiLog event ≠ .ok false ∨
      ∀ req req', Fields.get event "request" = .obj req → Fields.get event' "request" = .obj req' →
        NothingLeft req req' := by
  rw [← scrubEvent_iff aside]
  unfold scrub
  rw [← noisy_aside aside]
  cases isNoisyUvicornAsgiLog event with
  | error e => exact iff_of_true rfl (.inl fun absurd => by cases absurd)
  | ok noisy =>
    cases noisy with
    | true => exact iff_of_true rfl (.inl fun absurd => by cases absurd)
    | false =>
      constructor
      · intro same
        exact .inr (Option.some.inj (Except.ok.inj same))
      · rintro (absurd | same)
        · exact (absurd rfl).elim
        · exact congrArg (fun e => Except.ok (some e)) same

/-- A request of a client, with its token and a body. -/
def callEvent (token body : String) : Fields := [
  ("request", .obj [
    ("url", .str "/mcp"), ("query_string", .str ""),
    ("headers", .obj [("Authorization", .str token), ("user-agent", .str "client")]),
    ("data", .str body)])]

/-- The browser comes back with the grant in its query string. -/
def consentEvent (grant : String) : Fields := [
  ("request", .obj [
    ("url", .str "/lobstr/consent"), ("query_string", .str ("request_id=r&grant=" ++ grant)),
    ("headers", .obj [("user-agent", .str "browser")])])]

theorem aside_callEvent (token token' body body' : String) :
    EventAside asciiLower "" "" (callEvent token body) (callEvent token' body') where
  keys := rfl
  distinct := by simp [Dict.keys, callEvent]
  rest key other := by simp [callEvent, Ne.symm other]
  request := by
    refine .inr ⟨_, _, rfl, rfl, ⟨rfl, by simp [Dict.keys], ⟨fun _ => .str "/mcp", rfl, rfl⟩,
      ⟨fun _ => .str "", rfl, rfl⟩, ?_, ?_, fun key other => ?_⟩⟩
    · have secret : asciiLower "Authorization" ∈ sensitiveHeaders := by decide
      exact .dict (.cons ⟨rfl, fun plain => absurd secret plain⟩ (.cons ⟨rfl, fun _ => rfl⟩ .nil))
    · simp
    · simp only [List.mem_cons, List.not_mem_nil, or_false, not_or] at other
      obtain ⟨url, query, headers, data, -⟩ := other
      simp [Ne.symm url, Ne.symm query, Ne.symm headers, Ne.symm data]

theorem aside_consentEvent (grant grant' : String) :
    EventAside asciiLower grant grant' (consentEvent grant) (consentEvent grant') where
  keys := rfl
  distinct := by simp [Dict.keys, consentEvent]
  rest key other := by simp [consentEvent, Ne.symm other]
  request := by
    refine .inr ⟨_, _, rfl, rfl, ⟨rfl, by simp [Dict.keys], ⟨fun _ => .str "/lobstr/consent", rfl, rfl⟩,
      ⟨fun grant => .str ("request_id=r&grant=" ++ grant), rfl, rfl⟩, .same, by simp, fun key other => ?_⟩⟩
    simp only [List.mem_cons, List.not_mem_nil, or_false, not_or] at other
    obtain ⟨url, query, headers, -, -⟩ := other
    simp [Ne.symm url, Ne.symm query, Ne.symm headers]

theorem token_and_body_are_not_told :
    scrub asciiLower (callEvent "Bearer one" "code=1") = scrub asciiLower (callEvent "Bearer two" "code=2") := by
  refine (sent_events_tell_nothing_iff (aside_callEvent _ _ _ _)).mpr (.inr fun req req' held held' => ?_)
  cases held
  cases held'
  exact ⟨rfl, rfl, .inr ⟨_, _, rfl, rfl⟩⟩

/-- The grant is told. -/
theorem grant_is_told : EventAside asciiLower "one" "two" (consentEvent "one") (consentEvent "two") ∧
    scrub asciiLower (consentEvent "one") ≠ scrub asciiLower (consentEvent "two") := by
  refine ⟨aside_consentEvent "one" "two", fun same => ?_⟩
  have sent := Option.some.inj (Except.ok.inj same)
  have left := (scrubEvent_iff (aside_consentEvent "one" "two")).mp sent _ _ rfl rfl
  exact absurd left.query (by decide)

end LobstrMcp
