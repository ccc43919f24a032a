import LobstrMcp.Data.JsonGrammar
import LobstrMcp.Interaction.Machine
import LobstrMcp.Model.HttpGuard

/-!
Registration behind the guard. However the client splits the body it completes, the guard reads all of it and then
either hands it on in one piece or refuses it, as the body is a JSON object or not. A body whose nesting the
interpreter's stack does not hold is neither handed on nor refused; one whose integers are longer than `int` converts
is refused though it is an object.
-/

namespace LobstrMcp.HttpGuard
open Interaction JsonReader

def Scope.Registers (upper : String → String) (scope : Scope) : Prop :=
  scope.type = "http" ∧ scope.path = "/register" ∧ upper scope.method = "POST"

/-- All of the body: every message but the last announces more. -/
inductive Complete : List Received → Prop
  | last (body : Option Bytes) {moreBody : Option Bool} (ends : moreBody.getD false = false) :
      Complete [.request body moreBody]
  | more (body : Option Bytes) {rest : List Received} (complete : Complete rest) :
      Complete (.request body (some true) :: rest)

def Received.part : Received → Bytes
  | .request body _ => body.getD []
  | .disconnect => []

section
variable {σ : Type} (m : Machine Asgi Asgi.Answer σ)

/-- Asked again and again from this state on, the server yields these messages. -/
def Yields : σ → List Received → Prop
  | _, [] => True
  | st, message :: rest => (m st .receive).1 = message ∧ Yields (m st .receive).2 rest

def ops (p : GuardM (Option Unit)) (st : σ) : List Asgi := (p.trace m st).map Event.op

end

/-- The header and the body of a refusal. -/
def refusal : List Asgi :=
  [.send (.start 400 [(bytes "content-length", bytes (toString payload.length)),
    (bytes "content-type", bytes "application/json")]), .send (.body payload)]

/-- Registering with this body, in whatever messages: they are all received, and then the application inside is
called once if the body is a JSON object, to receive the body in one message and only disconnects after it, and else
the answer is 400. -/
def ChunkingInvisible (limits : Limits) (body : Bytes) : Prop :=
  ∀ {σ : Type} (m : Machine Asgi Asgi.Answer σ) (st : σ) (upper : String → String) (scope : Scope)
    (messages : List Received) (rounds : Nat),
    scope.Registers upper → Complete messages → messages.flatMap Received.part = body → Yields m st messages →
    messages.length ≤ rounds →
    let call := AuthEndpointGuard.call {} upper limits rounds scope
    (call.run m st).1 = .ok (some ()) ∧
    (IsJsonObject 0 body → ∃ replay : Replay,
      ops m call st = List.replicate messages.length .receive ++ [.app scope (.replay replay)] ∧
      ∀ n, replay.reads (n + 1) = .request (some body) (some false) :: List.replicate n .disconnect) ∧
    (¬ IsJsonObject 0 body → ops m call st = List.replicate messages.length .receive ++ refusal)

/-! ### Reading the body -/

section
variable {σ : Type} {m : Machine Asgi Asgi.Answer σ} {st : σ} {upper : String → String} {scope : Scope}
  {limits : Limits} {messages : List Received} {rounds : Nat} {body : Bytes}

/-- The loop ends with the last message, with what was read before it and all that came. -/
theorem drain_complete (complete : Complete messages) (yields : Yields m st messages)
    (enough : messages.length ≤ rounds) (chunks : List Bytes) :
    ∃ t, (drain rounds chunks).run m st =
        (.ok (some (chunks.flatten ++ messages.flatMap Received.part,
          ⟨chunks.flatten ++ messages.flatMap Received.part, false⟩)), t) ∧
      ((drain rounds chunks).trace m st).map Event.op = List.replicate messages.length .receive := by
  induction complete generalizing st rounds chunks with
  | @last body moreBody ends =>
    obtain ⟨rounds, rfl⟩ : ∃ fewer, rounds = fewer + 1 := ⟨rounds - 1, by simp at enough; omega⟩
    obtain ⟨first, -⟩ := yields
    refine ⟨(m st .receive).2, ?_, ?_⟩
    · simp [drain, receive, first, ends, Received.part]
    · simp only [drain, receive, Program.trace_ask_bind, first, ends, Bool.false_eq_true, if_false]
      rfl
  | @more body rest complete ih =>
    obtain ⟨rounds, rfl⟩ : ∃ fewer, rounds = fewer + 1 := ⟨rounds - 1, by simp at enough; omega⟩
    obtain ⟨first, later⟩ := yields
    obtain ⟨t, ran, traced⟩ := ih later (show rest.length ≤ rounds by simpa using enough) (chunks ++ [body.getD []])
    refine ⟨t, ?_, ?_⟩
    · simp [drain, receive, first, ran, Received.part]
    · simp [drain, receive, Program.trace_ask_bind, first, traced, List.replicate_succ]

/-! ### Handing it on -/

theorem reads_sent (body : Bytes) (n : Nat) : (Replay.mk body true).reads n = List.replicate n .disconnect := by
  induction n with
  | zero => rfl
  | succ n ih => exact congrArg (Received.disconnect :: ·) ih

theorem reads_fresh (body : Bytes) (n : Nat) :
    (Replay.mk body false).reads (n + 1) = .request (some body) (some false) :: List.replicate n .disconnect :=
  congrArg (Received.request (some body) (some false) :: ·) (reads_sent body n)

/-- What is left to do with the body once it is read. -/
def handle (limits : Limits) (scope : Scope) (body : Bytes) (replay : Replay) : GuardM (Option Unit) := do
  if !(← Program.ofExcept (isJsonObject limits body)) then
    respond 400 payload [(bytes "content-type", bytes "application/json")]
    return some ()
  app scope (.replay replay)
  return some ()

theorem call_registers (registers : scope.Registers upper) :
    AuthEndpointGuard.call {} upper limits rounds scope = drain rounds [] >>= fun read =>
      match read with
      | some (body, replay) => handle limits scope body replay
      | none => pure none := by
  obtain ⟨http, path, method⟩ := registers
  simp only [AuthEndpointGuard.call, http, path, method, authPaths, jsonBodyPaths, ne_eq, List.mem_cons,
    not_true_eq_false, or_self, if_false, true_and, String.reduceEq, false_and, List.not_mem_nil, or_false, if_true]
  congr 1
  funext read
  cases read <;> rfl

theorem call_complete (registers : scope.Registers upper) (complete : Complete messages)
    (whole : messages.flatMap Received.part = body) (yields : Yields m st messages)
    (enough : messages.length ≤ rounds) :
    ∃ t, (AuthEndpointGuard.call {} upper limits rounds scope).run m st =
        (handle limits scope body ⟨body, false⟩).run m t ∧
      ops m (AuthEndpointGuard.call {} upper limits rounds scope) st =
        List.replicate messages.length .receive ++ ops m (handle limits scope body ⟨body, false⟩) t := by
  obtain ⟨t, ran, traced⟩ := drain_complete complete yields enough []
  rw [List.flatten_nil, List.nil_append, whole] at ran
  refine ⟨t, ?_, ?_⟩
  · rw [call_registers registers, Program.run_bind_ok ran]
  · rw [call_registers registers, ops, Program.trace_bind_ok ran, List.map_append, traced]
    rfl

theorem handle_object (object : isJsonObject limits body = .ok true) (replay : Replay) (t : σ) :
    ((handle limits scope body replay).run m t).1 = .ok (some ()) ∧
      ops m (handle limits scope body replay) t = [.app scope (.replay replay)] := by
  rw [handle, object]
  exact ⟨rfl, rfl⟩

theorem handle_other (other : isJsonObject limits body = .ok false) (replay : Replay) (t : σ) :
    ((handle limits scope body replay).run m t).1 = .ok (some ()) ∧
      ops m (handle limits scope body replay) t = refusal := by
  rw [handle, other]
  exact ⟨rfl, rfl⟩

theorem handle_raises {e : Uncaught} (raises : isJsonObject limits body = .error e) (replay : Replay) (t : σ) :
    ((handle limits scope body replay).run m t).1 = .error e ∧ ops m (handle limits scope body replay) t = [] := by
  rw [handle, raises]
  exact ⟨rfl, rfl⟩

end

/-! ### Which bodies are objects -/

section
variable {limits : Limits} {body : Bytes} {digits : Nat}

theorem strip_eq_nil (blank : strip body = []) : ∀ b ∈ body, isWhitespace b = true := by
  simp only [strip, List.reverse_eq_nil_iff, List.dropWhile_eq_nil_iff, List.mem_reverse] at blank
  intro b member
  rw [← List.takeWhile_append_dropWhile (p := isWhitespace) (l := body)] at member
  rcases List.mem_append.mp member with taken | left
  · exact List.mem_takeWhile_imp taken
  · exact blank b left

theorem isWhitespace_bounds {b : UInt8} (space : isWhitespace b = true) : 0 < b.toNat ∧ b.toNat ≤ 0x20 := by
  simp only [isWhitespace, Bool.or_eq_true, Bool.and_eq_true, decide_eq_true_eq, UInt8.le_iff_toNat_le] at space
  rcases space with rfl | ⟨low, high⟩
  · decide
  · simp at low high
    omega

theorem blank_body (blank : strip body = []) : ¬ IsJsonObject digits body ∧ ¬ NestsTooDeep limits body := by
  have bounds : ∀ b ∈ body, 0 < b.toNat ∧ b.toNat ≤ 0x20 := by
    intro b member
    exact isWhitespace_bounds (strip_eq_nil blank b member)
  have decoded : decodeBytes body = some (body.map UInt8.toNat) := by
    refine decodeBytes_ascii fun b member => ?_
    obtain ⟨positive, small⟩ := bounds b member
    exact ⟨positive, by omega⟩
  have unopened : ∀ c ∈ body.map UInt8.toNat, c ≠ '{'.toNat ∧ c ≠ '['.toNat := by
    intro c member
    obtain ⟨b, byte, rfl⟩ := List.mem_map.mp member
    have small := (bounds b byte).2
    simp only [Char.reduceToNat]
    omega
  simp only [IsJsonObject, NestsTooDeep, decoded, Option.mem_def, Option.some.injEq, exists_eq_left']
  exact no_object_of_no_bracket unopened

theorem isJsonObject_true_iff :
    isJsonObject limits body = .ok true ↔ IsJsonObject limits.digits body ∧ ¬ NestsTooDeep limits body := by
  unfold isJsonObject
  split
  · next blank =>
    obtain ⟨other, -⟩ : ¬ IsJsonObject limits.digits body ∧ ¬ NestsTooDeep limits body := blank_body blank
    simp [other]
  · rw [← loads_dict_iff]
    split <;> simp_all

theorem isJsonObject_raises_iff :
    isJsonObject limits body = .error .recursionError ↔ NestsTooDeep limits body := by
  unfold isJsonObject
  split
  · next blank =>
    obtain ⟨-, shallow⟩ : ¬ IsJsonObject limits.digits body ∧ ¬ NestsTooDeep limits body := blank_body blank
    simp [shallow]
  · rw [← loads_recursion_iff]
    split <;> simp_all

theorem isJsonObject_false (other : ¬ IsJsonObject limits.digits body) (shallow : ¬ NestsTooDeep limits body) :
    isJsonObject limits body = .ok false := by
  match answer : isJsonObject limits body with
  | .ok true => exact absurd (isJsonObject_true_iff.mp answer).1 other
  | .ok false => rfl
  | .error .recursionError => exact absurd (isJsonObject_raises_iff.mp answer) shallow

end

/-! ### Chunking -/

def atOnce (body : Bytes) : Machine Asgi Asgi.Answer Unit
  | _, .receive => (.request (some body) none, ())
  | _, .send _ => ((), ())
  | _, .app _ _ => ((), ())

def postRegister : Scope where
  type := "http"
  path := "/register"
  method := "POST"

theorem call_atOnce (limits : Limits) (body : Bytes) :
    ((AuthEndpointGuard.call {} id limits 1 postRegister).run (atOnce body) ()).1 =
        ((handle limits postRegister body ⟨body, false⟩).run (atOnce body) ()).1 ∧
      ops (atOnce body) (AuthEndpointGuard.call {} id limits 1 postRegister) () =
        .receive :: ops (atOnce body) (handle limits postRegister body ⟨body, false⟩) () := by
  have whole : [Received.request (some body) none].flatMap Received.part = body := by simp [Received.part]
  obtain ⟨t, ran, traced⟩ := @call_complete _ (atOnce body) () id postRegister limits _ 1 body ⟨rfl, rfl, rfl⟩
    (.last (some body) rfl) whole ⟨rfl, trivial⟩ le_rfl
  exact ⟨by rw [ran], traced⟩

/-- A guard that hides the chunking has an answer to the body in one message. -/
theorem ChunkingInvisible.atOnce {limits : Limits} {body : Bytes} (invisible : ChunkingInvisible limits body) :
    ((handle limits postRegister body ⟨body, false⟩).run (atOnce body) ()).1 = .ok (some ()) ∧
    (IsJsonObject 0 body → ∃ replay : Replay,
      ops (HttpGuard.atOnce body) (handle limits postRegister body ⟨body, false⟩) () =
        [.app postRegister (.replay replay)]) := by
  obtain ⟨ran, traced⟩ := call_atOnce limits body
  have whole : [Received.request (some body) none].flatMap Received.part = body := by simp [Received.part]
  obtain ⟨ends, object, -⟩ := invisible (HttpGuard.atOnce body) () id postRegister _ 1 ⟨rfl, rfl, rfl⟩
    (.last (some body) rfl) whole ⟨rfl, trivial⟩ le_rfl
  refine ⟨ran ▸ ends, fun isObject => ?_⟩
  obtain ⟨replay, called, -⟩ := object isObject
  rw [traced] at called
  exact ⟨replay, (List.cons.inj called).2⟩

theorem not_invisible_of_deep {limits : Limits} {body : Bytes} (deep : NestsTooDeep limits body) :
    ¬ ChunkingInvisible limits body := by
  intro invisible
  have ends := invisible.atOnce.1
  rw [(handle_raises (isJsonObject_raises_iff.mpr deep) _ ()).1] at ends
  cases ends

/-- The guard does so exactly for the bodies whose nesting the stack holds, and whose integers `int` converts if they
are objects. -/
theorem chunking_is_invisible_iff (limits : Limits) (body : Bytes) :
    ChunkingInvisible limits body ↔
      ¬ NestsTooDeep limits body ∧ (IsJsonObject 0 body → IsJsonObject limits.digits body) := by
  constructor
  · intro invisible
    have shallow : ¬ NestsTooDeep limits body := fun deep => not_invisible_of_deep deep invisible
    refine ⟨shallow, fun isObject => ?_⟩
    by_contra other
    obtain ⟨replay, called⟩ := invisible.atOnce.2 isObject
    rw [(handle_other (isJsonObject_false other shallow) _ ()).2] at called
    cases called
  · rintro ⟨shallow, converts⟩ σ m st upper scope messages rounds registers complete whole yields enough
    obtain ⟨t, ran, traced⟩ := @call_complete _ _ _ _ _ limits _ _ _ registers complete whole yields enough
    by_cases isObject : IsJsonObject 0 body
    · have answer := isJsonObject_true_iff.mpr ⟨converts isObject, shallow⟩
      obtain ⟨ends, called⟩ := handle_object answer ⟨body, false⟩ t
      refine ⟨by rw [ran, ends], fun _ => ⟨⟨body, false⟩, by rw [traced, called], reads_fresh body⟩, ?_⟩
      exact fun other => absurd isObject other
    · have answer := isJsonObject_false (fun isObject' => isObject isObject'.unbounded) shallow
      obtain ⟨ends, refused⟩ := handle_other answer ⟨body, false⟩ t
      exact ⟨by rw [ran, ends], fun isObject' => absurd isObject' isObject, fun _ => by rw [traced, refused]⟩

def brackets (n : Nat) : Bytes := List.replicate n 0x5B

theorem nestsTooDeep_brackets {limits : Limits} {n : Nat} (more : limits.depth < n) :
    NestsTooDeep limits (brackets n) := by
  have decoded : decodeBytes (brackets n) = some (List.replicate n '['.toNat) := by
    rw [decodeBytes_ascii]
    · rw [brackets, List.map_replicate]
      rfl
    · intro b member
      rw [(List.mem_replicate.mp member).2]
      decide
  have opens : Opens limits.digits limits.depth (List.replicate n '['.toNat) := opens_brackets more
  refine ⟨_, decoded, ?_⟩
  rw [TooDeep, ((readsItem_value limits.digits limits.depth).deepSolid opens).skip]
  exact opens

/-- A hundred thousand brackets in one message: neither is the application called nor anything sent. -/
theorem brackets_escape :
    ((AuthEndpointGuard.call {} id ⟨10000, 4300⟩ 1 postRegister).run (atOnce (brackets 100000)) ()).1 =
        .error .recursionError ∧
      ops (atOnce (brackets 100000)) (AuthEndpointGuard.call {} id ⟨10000, 4300⟩ 1 postRegister) () = [.receive] ∧
      ¬ ChunkingInvisible ⟨10000, 4300⟩ (brackets 100000) := by
  have deep : NestsTooDeep ⟨10000, 4300⟩ (brackets 100000) := nestsTooDeep_brackets (by norm_num)
  obtain ⟨ran, traced⟩ := call_atOnce ⟨10000, 4300⟩ (brackets 100000)
  obtain ⟨raised, nothing⟩ := handle_raises (isJsonObject_raises_iff.mpr deep) _ ()
  exact ⟨ran.trans raised, by rw [traced, nothing], not_invisible_of_deep deep⟩

end LobstrMcp.HttpGuard
