import LobstrMcp.Data.DictKeys
import LobstrMcp.Interaction.Filtering
import LobstrMcp.Server.LeastPrivilege

/-!
Accounts and squids in public. Of a platform account the server uses a few fields, and of a squid's
delivery settings no secret; what the functions of the tools make of a record they make of its public
form.
-/

namespace LobstrMcp
open Interaction

/-! ### What is left out -/

/-- The fields of a platform account that the server uses. -/
def accountFields : List String := ["id", "type", "username", "status", "status_code_description", "status_code_info",
  "last_synchronization_time", "lock_time", "resets_in", "squids"]

/-- An account with the fields the server uses, and no others. -/
def publicAccount (account : Fields) : Fields := account.filter fun e => e.1 ∈ accountFields

/-- A squid with no secret in its delivery settings. -/
def publicSquid (squid : Fields) : Fields :=
  squid.map fun e => (e.1, if isDelivery e.1 then withoutSecrets e.2 else e.2)

/-- What is an object becomes another one. -/
def onObject (f : Fields → Fields) : Json → Json
  | .obj fields => .obj (f fields)
  | v => v

/-- The rows of a payload, each in its public form. -/
def onRows (f : Fields → Fields) : Json → Json
  | .arr rows => .arr (rows.map (onObject f))
  | v => v

/-- A listing, or the envelope of one. -/
def onListing (f : Fields → Fields) : Json → Json
  | .obj envelope => .obj (envelope.map fun e => (e.1, if e.1 ∈ squidListKeys then onRows f e.2 else e.2))
  | v => onRows f v

/-- An account, or the envelope of one. -/
def onAccount (payload : Json) : Json :=
  match payload with
  | .obj fields =>
    match Fields.get fields "data" with
    | .arr (first :: rest) => .obj [("data", onRows publicAccount (.arr (first :: rest)))]
    | _ => .obj (publicAccount fields)
  | v => v

/-- The answers of the API with no more in them than the server may disclose. -/
def discreet : Filter Call Answer
  | .getAccount _ => Except.map onAccount
  | .listAccounts _ _ _ _ => Except.map (onListing publicAccount)
  | .getSquid _ => Except.map publicSquid
  | .createSquid _ _ => Except.map publicSquid
  | .updateSquid _ _ => Except.map (onObject publicSquid)
  | .listSquids => Except.map (List.map publicSquid)
  | .pageSquids _ _ _ => Except.map (onListing publicSquid)
  | _ => id

def discreetly : Filter ServerCall ServerCall.Ans
  | .call c => discreet c
  | .read (.pageAccounts _ _) => Except.map (onListing publicAccount)
  | _ => id

example : onAccount (.obj [("data", .arr [.obj [("id", .str "a1"), ("cookies", .str "li_at=…")]])]) =
    .obj [("data", .arr [.obj [("id", .str "a1")]])] := by decide

example : publicSquid [("name", .str "Maps"), ("ftp_fields", .obj [("host", .str "h"), ("password", .str "p")])] =
    [("name", .str "Maps"), ("ftp_fields", .obj [("host", .str "h")])] := by decide

/-- A judgement on records that does not tell them from what a function makes of them. -/
theorem mapM_judged (judge : Fields → Option Bool) {f : Fields → Fields} (same : ∀ a, judge (f a) = judge a)
    (records : List Fields) : (records.map f).mapM (fun a => (judge a).map (·, a)) =
      (records.mapM fun a => (judge a).map (·, a)).map (List.map (Prod.map id f)) := by
  induction records with
  | nil => rfl
  | cons a rest ih =>
    rw [List.map_cons, List.mapM_cons, List.mapM_cons, ih, same]
    cases judge a with
    | none => rfl
    | some held => cases rest.mapM fun a => (judge a).map (·, a) <;> rfl

/-! ### Accounts -/

section Account
variable {account : Fields} {now : Int} {accountType : Json}

theorem get?_publicAccount (key : String) (used : key ∈ accountFields) :
    Dict.get? (publicAccount account) key = Dict.get? account key := by
  have kept := Dict.get?_filter account (fun k => decide (k ∈ accountFields)) key
  unfold publicAccount
  rw [kept, if_pos (by simpa using used)]

theorem get_publicAccount (key : String) (used : key ∈ accountFields) :
    Fields.get (publicAccount account) key = Fields.get account key :=
  congrArg (Option.getD · Json.null) (get?_publicAccount key used)

theorem accountStatus_public : accountStatus (publicAccount account) = accountStatus account := by
  unfold accountStatus
  rw [get_publicAccount _ (by decide)]

theorem cookiesExpired_public : cookiesExpired (publicAccount account) = cookiesExpired account := by
  unfold cookiesExpired
  rw [get_publicAccount _ (by decide)]

theorem isLocked_public : isLocked now (publicAccount account) = isLocked now account := by
  unfold isLocked
  rw [get_publicAccount _ (by decide)]

theorem accountHealthNote_public : accountHealthNote now (publicAccount account) = accountHealthNote now account := by
  unfold accountHealthNote
  rw [accountStatus_public, cookiesExpired_public, isLocked_public, get_publicAccount "lock_time" (by decide)]

theorem accountSummary_public : accountSummary (publicAccount account) = accountSummary account := by
  unfold accountSummary
  simp only [List.map_cons, List.map_nil]
  simp (disch := decide) only [get_publicAccount]

theorem accountView_public : accountView now (publicAccount account) = accountView now account := by
  unfold accountView addIfSet
  simp only [accountHealthNote_public, List.foldl_cons, List.foldl_nil]
  simp (disch := decide) only [get_publicAccount]

theorem typeStatusOk_public (row : Json) :
    typeStatusOk accountType (onObject publicAccount row) = (typeStatusOk accountType row).map publicAccount := by
  cases row with
  | obj fields =>
    unfold typeStatusOk onObject
    simp only [accountStatus_public, cookiesExpired_public, get_publicAccount "type" (by decide)]
    split <;> rfl
  | _ => rfl

/-! The rows of a listing. -/

theorem asArr?_onRows (f : Fields → Fields) (v : Json) : (onRows f v).asArr? = v.asArr?.map
    (List.map (onObject f)) := by
  cases v <;> rfl

theorem rows_onListing (f : Fields → Fields) (envelope : Fields) :
    (squidListKeys.findSome? fun k => (Fields.get (envelope.map fun e =>
      (e.1, if e.1 ∈ squidListKeys then onRows f e.2 else e.2)) k).asArr?) =
      (squidListKeys.findSome? fun k => (Fields.get envelope k).asArr?).map (List.map (onObject f)) := by
  have read : ∀ k ∈ squidListKeys, (Fields.get (envelope.map fun e =>
      (e.1, if e.1 ∈ squidListKeys then onRows f e.2 else e.2)) k).asArr? =
        (Fields.get envelope k).asArr?.map (List.map (onObject f)) := by
    intro k listed
    have mapped := Dict.get?_map envelope (fun key v => if key ∈ squidListKeys then onRows f v else v) k
    unfold Fields.get
    rw [mapped, ← asArr?_onRows]
    cases Dict.get? envelope k with
    | none => rfl
    | some v => simp [listed]
  have general : ∀ keys ⊆ squidListKeys, (keys.findSome? fun k => (Fields.get (envelope.map fun e =>
      (e.1, if e.1 ∈ squidListKeys then onRows f e.2 else e.2)) k).asArr?) =
      (keys.findSome? fun k => (Fields.get envelope k).asArr?).map (List.map (onObject f)) := by
    intro keys listed
    induction keys with
    | nil => rfl
    | cons k rest ih =>
      rw [List.findSome?_cons, List.findSome?_cons, read k (listed List.mem_cons_self),
        ih (List.subset_of_cons_subset listed)]
      cases (Fields.get envelope k).asArr? <;> rfl
  exact general _ (List.Subset.refl _)

theorem rowsOf_onListing (f : Fields → Fields) (payload : Json) :
    rowsOf (onListing f payload) = (rowsOf payload).map (onObject f) := by
  cases payload with
  | obj envelope =>
    have rows := rows_onListing f envelope
    unfold rowsOf onListing
    refine (congrArg (Option.getD · []) rows).trans ?_
    show _ = List.map _ ((squidListKeys.findSome? fun k => (Fields.get envelope k).asArr?).getD [])
    cases squidListKeys.findSome? fun k => (Fields.get envelope k).asArr? <;> rfl
  | _ => rfl

theorem squidRows_onListing (f : Fields → Fields) (payload : Json) :
    squidRows (onListing f payload) = (squidRows payload).map (List.map (onObject f)) := by
  cases payload with
  | obj envelope =>
    have rows := rows_onListing f envelope
    unfold squidRows onListing
    refine congrArg some ((congrArg (Option.getD · []) rows).trans ?_)
    cases squidListKeys.findSome? fun k => (Fields.get envelope k).asArr? <;> rfl
  | _ => rfl

theorem usable_public (accountType payload : Json) : (rowsOf (onListing publicAccount payload)).filterMap
    (typeStatusOk accountType) =
    ((rowsOf payload).filterMap (typeStatusOk accountType)).map publicAccount := by
  rw [rowsOf_onListing, List.filterMap_map, List.map_filterMap]
  exact congrArg (List.filterMap · _) (funext typeStatusOk_public)

theorem filter_public (p : Fields → Bool) (same : ∀ a, p (publicAccount a) = p a) (accounts : List Fields) :
    (accounts.map publicAccount).filter p = (accounts.filter p).map publicAccount := by
  rw [List.filter_map]
  exact congrArg (fun q => (accounts.filter q).map publicAccount) (funext same)

theorem explainPick_public (unlocked locked : List Fields) :
    explainPick accountType (unlocked.map publicAccount) (locked.map publicAccount) =
      (explainPick accountType unlocked locked).map publicAccount := by
  have told : ∀ accounts : List Fields, (accounts.map publicAccount).map (fun a => Json.obj (accountSummary a)) =
      accounts.map fun a => Json.obj (accountSummary a) := by
    intro accounts
    rw [List.map_map]
    exact List.map_congr_left fun a _ => congrArg Json.obj accountSummary_public
  rcases unlocked with _ | ⟨a, _ | ⟨b, more⟩⟩
  · cases locked with
    | nil => rfl
    | cons c rest =>
      have candidates := told (c :: rest)
      simp only [List.map_cons] at candidates
      simp only [explainPick, List.map_nil, List.map_cons, List.length_cons, List.length_map, Except.map, candidates]
  · rfl
  · have candidates := told (a :: b :: more)
    simp only [List.map_cons] at candidates
    simp only [explainPick, List.map_cons, List.length_cons, List.length_map, Except.map, candidates]

theorem accountOf_public (payload : Json) : accountOf (onAccount payload) = onObject publicAccount
    (accountOf payload) := by
  cases payload with
  | obj fields =>
    have bare : Fields.get (publicAccount fields) "data" = .null := by
      have kept := Dict.get?_filter fields (fun k => decide (k ∈ accountFields)) "data"
      unfold Fields.get publicAccount
      rw [kept]
      rfl
    have read : ∀ fields : Fields, accountOf (.obj fields) =
        match Fields.get fields "data" with
        | .arr (first :: _) => first
        | _ => .obj fields := fun _ => rfl
    have plain : accountOf (.obj (publicAccount fields)) = .obj (publicAccount fields) := by
      rw [read, bare]
    unfold onAccount
    dsimp only
    rw [read fields]
    cases Fields.get fields "data" with
    | arr items =>
      cases items with
      | nil => exact plain
      | cons first rest => rfl
    | _ => exact plain
  | _ => rfl

theorem asObj?_onObject (f : Fields → Fields) (rows : List Json) :
    (rows.map (onObject f)).filterMap Json.asObj? = (rows.filterMap Json.asObj?).map f := by
  rw [List.filterMap_map, List.map_filterMap]
  refine List.filterMap_congr fun row _ => ?_
  cases row <;> rfl

/-- What the platform filter keeps of the public accounts is what it keeps, in public. -/
theorem platformRows_public (lower : String → String) (platform : Option String) (rows : List Json) :
    platformRows lower platform (rows.map (onObject publicAccount)) =
      (platformRows lower platform rows).map (List.map (onObject publicAccount)) := by
  unfold platformRows
  cases platform.filter (· ≠ "") with
  | none => rfl
  | some platform =>
    have judged := mapM_judged (hasTerm lower (platformTerms lower platform)) (f := publicAccount) (fun a => by
      unfold hasTerm
      rw [get_publicAccount _ (by decide)]) (rows.filterMap Json.asObj?)
    dsimp only
    rw [asObj?_onObject, judged]
    cases (rows.filterMap Json.asObj?).mapM fun a => (hasTerm lower (platformTerms lower platform) a).map (·, a) with
    | none => rfl
    | some kept =>
      refine congrArg some ?_
      rw [List.filter_map, List.map_map, List.map_map]
      rfl

theorem accountsReply_public (lower : String → String) (platform : Option String) (payload : Json) :
    accountsReply lower now platform (onListing publicAccount payload) = accountsReply lower now platform payload := by
  unfold accountsReply accountRows
  rw [squidRows_onListing]
  cases squidRows payload with
  | none => rfl
  | some rows =>
    have shown := platformRows_public lower platform rows
    simp only [Option.map_some, Option.bind_eq_bind, Option.bind_some, shown]
    cases platformRows lower platform rows with
    | none => rfl
    | some rows =>
      simp only [Option.map_some, Option.bind_some, List.length_map, asObj?_onObject, List.map_map]
      have viewed : (rows.filterMap Json.asObj?).map ((fun a => Json.obj (accountView now a)) ∘ publicAccount) =
          (rows.filterMap Json.asObj?).map fun a => Json.obj (accountView now a) :=
        List.map_congr_left fun a _ => congrArg Json.obj accountView_public
      rw [viewed]

end Account

/-! ### Squids -/

section Squid
variable {squid : Fields} {lower : String → String}

theorem get?_publicSquid (key : String) (plain : isDelivery key = false) :
    Dict.get? (publicSquid squid) key = Dict.get? squid key := by
  have mapped := Dict.get?_map squid (fun k v => if isDelivery k then withoutSecrets v else v) key
  unfold publicSquid
  rw [mapped, plain]
  cases Dict.get? squid key <;> rfl

theorem get_publicSquid (key : String) (plain : isDelivery key = false) :
    Fields.get (publicSquid squid) key = Fields.get squid key :=
  congrArg (Option.getD · Json.null) (get?_publicSquid key plain)

theorem withoutSecrets_idem (v : Json) : withoutSecrets (withoutSecrets v) = withoutSecrets v := by
  cases v with
  | obj fields =>
    unfold withoutSecrets
    simp
  | _ => rfl

theorem squidView_public : squidView (publicSquid squid) = squidView squid := by
  unfold squidView publicSquid
  rw [List.filter_map, List.map_map]
  refine List.map_congr_left fun e _ => ?_
  dsimp only [Function.comp]
  split
  · rw [withoutSecrets_idem]
  · rfl

theorem squidSummary_public : squidSummary (publicSquid squid) = squidSummary squid := by
  unfold squidSummary
  simp only [List.foldl_cons, List.foldl_nil]
  simp (disch := decide) only [get_publicSquid]

theorem squidAccountIds_public : squidAccountIds (publicSquid squid) = squidAccountIds squid := by
  unfold squidAccountIds
  simp (disch := decide) only [get_publicSquid]

theorem effectiveSettings_public (params : Fields) :
    effectiveSettings (publicSquid squid) params = effectiveSettings squid params := by
  unfold effectiveSettings
  simp (disch := decide) only [get_publicSquid]

theorem keepSquid_public (crawlerId : Json) (needle : String) (name : Option String) :
    keepSquid lower crawlerId needle name (publicSquid squid) = keepSquid lower crawlerId needle name squid := by
  unfold keepSquid
  simp (disch := decide) only [get_publicSquid]

theorem squidPage_public (rows : List Json) (page total totalPages next : Json) :
    squidPage (rows.map (onObject publicSquid)) page total totalPages next =
      squidPage rows page total totalPages next := by
  have shown : (rows.map (onObject publicSquid)).filterMap (fun s => s.asObj?.map fun s => Json.obj (squidSummary s)) =
      rows.filterMap fun s => s.asObj?.map fun s => .obj (squidSummary s) := by
    rw [List.filterMap_map]
    refine List.filterMap_congr fun row _ => ?_
    cases row with
    | obj s => exact congrArg (fun view => some (Json.obj view)) squidSummary_public
    | _ => rfl
  unfold squidPage
  rw [List.length_map, shown]

/-- The squids that a filter keeps of the public ones are those it keeps, in public. -/
theorem matchedSquids_public (crawlerId : Json) (crawler : String) (name : Option String) (squids : List Fields) :
    matchedSquids lower crawlerId crawler name (squids.map publicSquid) =
      (matchedSquids lower crawlerId crawler name squids).map (List.map publicSquid) := by
  have judged := mapM_judged (keepSquid lower crawlerId (lower crawler) ((name.filter (· ≠ "")).map lower))
    (fun s => keepSquid_public crawlerId (lower crawler) _) squids
  unfold matchedSquids
  rw [judged]
  cases squids.mapM fun s => (keepSquid lower crawlerId (lower crawler)
    ((name.filter (· ≠ "")).map lower) s).map (·, s) with
  | none => rfl
  | some kept =>
    refine congrArg some ?_
    rw [List.filter_map, List.map_map, List.map_map]
    rfl

theorem filteredPage_public (matched : List Fields) (page pageSize : Int) :
    filteredPage (matched.map publicSquid) page pageSize = filteredPage matched page pageSize := by
  have cut : ∀ start stop, slice (matched.map publicSquid) start stop = (slice matched start stop).map publicSquid := by
    intro start stop
    unfold slice
    rw [List.length_map, List.map_drop, List.map_take]
  have objects : ∀ rows : List Fields, (rows.map publicSquid).map Json.obj = (rows.map Json.obj).map
    (onObject publicSquid) := by
    intro rows
    rw [List.map_map, List.map_map]
    rfl
  unfold filteredPage
  simp only [List.length_map, cut, objects, squidPage_public]

theorem servedPage_public (env : Json) (page : Int) :
    servedPage (onListing publicSquid env) page = servedPage env page := by
  have rows := squidRows_onListing publicSquid env
  unfold servedPage
  rw [rows]
  cases squidRows env with
  | none => rfl
  | some found =>
    cases env with
    | obj envelope =>
      have read : ∀ key, key ∉ squidListKeys → Dict.get? (envelope.map fun e =>
          (e.1, if e.1 ∈ squidListKeys then onRows publicSquid e.2 else e.2)) key = Dict.get? envelope key := by
        intro key other
        have mapped := Dict.get?_map envelope (fun k v => if k ∈ squidListKeys then onRows publicSquid v else v) key
        rw [mapped]
        cases Dict.get? envelope key with
        | none => rfl
        | some v => exact congrArg some (if_neg other)
      have told : ∀ key, key ∉ squidListKeys → Fields.get (envelope.map fun e =>
          (e.1, if e.1 ∈ squidListKeys then onRows publicSquid e.2 else e.2)) key = Fields.get envelope key :=
        fun key other => congrArg (Option.getD · Json.null) (read key other)
      refine congrArg some ((squidPage_public found _ _ _ _).trans ?_)
      rw [read "page" (by decide), told "total_results" (by decide), told "total_pages" (by decide),
        told "next" (by decide)]
    | _ =>
      refine congrArg some ((squidPage_public found _ _ _ _).trans ?_)
      rw [List.length_map]

end Squid

end LobstrMcp
