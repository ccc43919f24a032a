import LobstrMcp.Schema.Published

/-!
Two entries of one name in either order. The tables come out the same when exactly one of them is
required; on a tie the first one seen keeps the name, whatever its level.
-/

namespace LobstrMcp

/-- The tables with another entry for a name. -/
def Declared.holding (d : Declared) (name : String) (item : InputItem) : Declared :=
  { d with seen := Dict.set d.seen name item }

section Holding
variable {d : Declared} {name : String} (x : InputItem)

/-- An entry of another name leaves it in place. -/
theorem declare_holding (held : name ∈ Dict.keys d.seen) {item : InputItem} (other : item.name ≠ name) :
    declare (d.holding name x) item = (declare d item).holding name x := by
  have read : Dict.get? (d.holding name x).seen item.name = Dict.get? d.seen item.name :=
    Dict.get?_set_other _ _ (Ne.symm other)
  unfold declare
  rw [read]
  cases Dict.get? d.seen item.name with
  | none =>
    unfold Declared.holding
    dsimp only
    rw [Dict.set_comm held (Ne.symm other)]
  | some previous =>
    unfold Declared.holding
    dsimp only
    rw [Dict.set_comm held (Ne.symm other)]

theorem mem_keys_declare (held : name ∈ Dict.keys d.seen) (item : InputItem) : name ∈ Dict.keys (declare d item).seen := by
  cases read : Dict.get? d.seen item.name with
  | none =>
    rw [declare_unseen read]
    exact Dict.mem_keys_set.mpr (.inr held)
  | some previous =>
    obtain ⟨kept, dropped, -, declared⟩ := declare_seen read
    rw [declared]
    exact Dict.mem_keys_set.mpr (.inr held)

theorem foldl_declare_holding {items : List InputItem} (held : name ∈ Dict.keys d.seen)
    (others : ∀ item ∈ items, item.name ≠ name) :
    items.foldl declare (d.holding name x) = (items.foldl declare d).holding name x := by
  induction items generalizing d with
  | nil => rfl
  | cons item rest ih =>
    rw [List.foldl_cons, declare_holding x held (others item List.mem_cons_self),
      ih (mem_keys_declare held item) fun other member => others other (List.mem_cons_of_mem _ member)]
    rfl

end Holding

theorem outranks_of_differ {a b : InputItem} (differ : a.required.truthy ≠ b.required.truthy) :
    outranks b a = !outranks a b := by
  unfold outranks
  rw [if_pos differ, if_pos differ.symm]
  cases left : a.required.truthy <;> cases right : b.required.truthy <;> simp_all

/-- When exactly one of two entries is required, the order they come in makes no difference. -/
theorem declaredIn_swap {pre mid post : List InputItem} {a b : InputItem} (named : b.name = a.name)
    (alone : ∀ item ∈ pre ++ (mid ++ post), item.name ≠ a.name) (differ : a.required.truthy ≠ b.required.truthy) :
    declaredIn (pre ++ a :: (mid ++ b :: post)) = declaredIn (pre ++ b :: (mid ++ a :: post)) := by
  have before : ∀ item ∈ pre, item.name ≠ a.name := fun item member => alone item (List.mem_append_left _ member)
  have between : ∀ item ∈ mid, item.name ≠ a.name := fun item member =>
    alone item (List.mem_append_right _ (List.mem_append_left _ member))
  have unseen : Dict.get? (pre.foldl declare {}).seen a.name = none := by
    have none' : itemsNamed pre a.name = [] := List.filter_eq_nil_iff.mpr fun item member => by simpa using before item member
    rw [show pre.foldl declare {} = declaredIn pre from rfl, get?_seen, none']
    rfl
  obtain ⟨d, first⟩ : ∃ d, d = declare (pre.foldl declare {}) a := ⟨_, rfl⟩
  have made : d = (pre.foldl declare {}).holding a.name a := by rw [first, declare_unseen unseen]; rfl
  have held : a.name ∈ Dict.keys d.seen := by
    rw [made]
    exact Dict.mem_keys_set.mpr (.inl rfl)
  have again : ∀ x, d.holding a.name x = (pre.foldl declare {}).holding a.name x := by
    intro x
    rw [made]
    unfold Declared.holding
    dsimp only
    rw [Dict.set_set]
  have other : declare (pre.foldl declare {}) b = d.holding a.name b := by
    rw [declare_unseen (named ▸ unseen), again, named]
    rfl
  -- what comes between does not look at the name
  obtain ⟨e, rest⟩ : ∃ e, e = mid.foldl declare d := ⟨_, rfl⟩
  have reads : Dict.get? e.seen a.name = some a := by
    have kept : e.holding a.name a = e := by
      rw [rest, ← foldl_declare_holding a held between, again, ← made]
    rw [← kept]
    exact Dict.get?_set_self _ _ _
  have last : declare e b = declare (e.holding a.name b) a := by
    have reads' : Dict.get? (e.holding a.name b).seen a.name = some b := Dict.get?_set_self _ _ _
    unfold declare
    rw [named, reads, reads']
    dsimp only
    rw [outranks_of_differ differ]
    unfold Declared.holding
    cases outranks a b <;> simp [Dict.set_set]
  unfold declaredIn
  rw [List.foldl_append, List.foldl_append, List.foldl_cons, List.foldl_cons, List.foldl_append, List.foldl_append,
    List.foldl_cons, List.foldl_cons, other, ← first, foldl_declare_holding b held between, ← rest, last]

/-! ### Either order -/

/-- A crawler with two entries, the other ones around them. -/
def Crawler.withPair (crawler : Crawler) (pre mid post : List InputItem) (first second : InputItem) : Crawler :=
  { crawler with input := pre ++ first :: (mid ++ second :: post) }

/-- Two crawlers under which the same entry keeps a name, and the same levels, required names and wire names
are published. -/
structure SameEitherWay (one other : Crawler) (params : Json) (name : String) (keeper : InputItem) : Prop where
  kept : Dict.get? (declaredIn one.input).seen name = some keeper
  kept' : Dict.get? (declaredIn other.input).seen name = some keeper
  levels : ∀ key, Dict.get? (translateInputSchema one params).levels key =
    Dict.get? (translateInputSchema other params).levels key
  required : ∀ key, key ∈ (translateInputSchema one params).required ↔ key ∈ (translateInputSchema other params).required
  wireNames : ∀ key, Dict.get? (translateInputSchema one params).wireNames key =
    Dict.get? (translateInputSchema other params).wireNames key

/-- The required entry, when exactly one is; else the task-level one. -/
def keeperOf (task other : InputItem) : InputItem :=
  if other.required.truthy && !task.required.truthy then other else task

section Pair
variable {pre mid post : List InputItem} {a b : InputItem}

theorem itemsNamed_pair (named : b.name = a.name) (alone : ∀ item ∈ pre ++ (mid ++ post), item.name ≠ a.name) :
    itemsNamed (pre ++ a :: (mid ++ b :: post)) a.name = [a, b] := by
  have none' : ∀ items : List InputItem, (∀ item ∈ items, item.name ≠ a.name) → itemsNamed items a.name = [] :=
    fun items others => List.filter_eq_nil_iff.mpr fun item member => by simpa using others item member
  have before := none' pre fun item member => alone item (List.mem_append_left _ member)
  have between := none' mid fun item member => alone item (List.mem_append_right _ (List.mem_append_left _ member))
  have after := none' post fun item member => alone item (List.mem_append_right _ (List.mem_append_right _ member))
  unfold itemsNamed at before between after ⊢
  simp only [List.filter_append, List.filter_cons, before, between, after, named, decide_true, if_true, List.nil_append]

theorem keptOf_pair : keptOf [a, b] = some (if b.required.truthy && !a.required.truthy then b else a) := by
  unfold keptOf
  cases left : a.required.truthy <;> cases right : b.required.truthy <;> simp [left, right]

end Pair

/-- The order of two entries does not decide which keeps the name, when exactly one of them is required; on a
tie it does. -/
theorem same_either_way_iff {pre mid post : List InputItem} {task other : InputItem} (named : other.name = task.name)
    (alone : ∀ item ∈ pre ++ (mid ++ post), item.name ≠ task.name) (atTask : task.declaredLevel = "task")
    (apart : other.declaredLevel ≠ "task") (crawler : Crawler) (params : Json) :
    SameEitherWay (crawler.withPair pre mid post task other) (crawler.withPair pre mid post other task) params task.name
        (keeperOf task other) ↔ task.required.truthy ≠ other.required.truthy := by
  have first : Dict.get? (declaredIn (crawler.withPair pre mid post task other).input).seen task.name =
      some (if other.required.truthy && !task.required.truthy then other else task) := by
    rw [get?_seen, ← keptOf_pair]
    exact congrArg keptOf (itemsNamed_pair named alone)
  have second : Dict.get? (declaredIn (crawler.withPair pre mid post other task).input).seen task.name =
      some (if task.required.truthy && !other.required.truthy then task else other) := by
    rw [get?_seen, ← keptOf_pair, ← named]
    exact congrArg keptOf (itemsNamed_pair named.symm (named ▸ alone))
  constructor
  · rintro ⟨_, kept, _⟩ tie
    have same := Option.some.inj (second.symm.trans kept)
    unfold keeperOf at same
    rw [tie, Bool.and_not_self] at same
    exact apart (congrArg InputItem.declaredLevel same |>.trans atTask)
  · intro differ
    have whole : declaredIn (crawler.withPair pre mid post task other).input =
        declaredIn (crawler.withPair pre mid post other task).input := declaredIn_swap named alone differ
    have schemas : translateInputSchema (crawler.withPair pre mid post task other) params =
        translateInputSchema (crawler.withPair pre mid post other task) params := by
      unfold translateInputSchema
      unfold declaredIn at whole
      rw [whole]
    have kept : Dict.get? (declaredIn (crawler.withPair pre mid post task other).input).seen task.name =
        some (keeperOf task other) := first
    refine ⟨kept, whole ▸ kept, ?_, ?_, ?_⟩ <;> intro key <;> rw [schemas]

def squidCountry : InputItem := { name := "country", level := some (some "squid") }

def taskCountry : InputItem := { name := "country", level := some (some "task"), required := .bool true }

/-- The required country keeps its name on either side of the optional one. -/
theorem required_country_keeps_its_name :
    SameEitherWay (Crawler.withPair { input := [] } [] [] [] taskCountry squidCountry)
      (Crawler.withPair { input := [] } [] [] [] squidCountry taskCountry) .null "country" (keeperOf taskCountry squidCountry) :=
  (@same_either_way_iff [] [] [] taskCountry squidCountry rfl (fun _ absurd => by cases absurd) (by decide)
    (by decide) { input := [] } .null).mpr (by decide)

/-- Of two required ones, it is the first that keeps the name. -/
theorem first_of_a_tie_keeps_its_name :
    taskCountry.declaredLevel = "task" ∧ squidCountry.declaredLevel ≠ "task" ∧
      (translateInputSchema (Crawler.withPair { input := [] } [] [] [] taskCountry
        { squidCountry with required := .bool true }) .null).levelOf "country" = some "task" ∧
      (translateInputSchema (Crawler.withPair { input := [] } [] [] []
        { squidCountry with required := .bool true } taskCountry) .null).levelOf "country" = some "squid" ∧
      ¬ SameEitherWay (Crawler.withPair { input := [] } [] [] [] taskCountry { squidCountry with required := .bool true })
        (Crawler.withPair { input := [] } [] [] [] { squidCountry with required := .bool true } taskCountry) .null "country"
        (keeperOf taskCountry { squidCountry with required := .bool true }) := by
  have task : (translateInputSchema (Crawler.withPair { input := [] } [] [] [] taskCountry
      { squidCountry with required := .bool true }) .null).levelOf "country" = some "task" := by decide +kernel
  have squid : (translateInputSchema (Crawler.withPair { input := [] } [] [] []
      { squidCountry with required := .bool true } taskCountry) .null).levelOf "country" = some "squid" := by decide +kernel
  refine ⟨by decide, by decide, task, squid, fun same => ?_⟩
  have levels := congrArg Option.join (same.levels "country")
  unfold Translated.levelOf at task squid
  rw [task, squid] at levels
  exact absurd levels (by decide)

end LobstrMcp
