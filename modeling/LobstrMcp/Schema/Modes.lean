import LobstrMcp.Schema.Declared

/-!
The alternative input sets: what `_input_modes` collects of the entries that keep their names.
-/

namespace LobstrMcp

/-- A required entry outside the groups, with no default. -/
def alwaysAsked (item : InputItem) : Bool := item.required.truthy && item.groupName.isNone && item.default.isNone

/-- A required entry of a group. -/
def InputItem.AsksIn (item : InputItem) (group : String) : Prop :=
  item.required.truthy = true ∧ item.groupName = some group

/-- The names collected of a group. -/
def groupAt (groups : Dict String (List String)) (group : String) : List String := (Dict.get? groups group).getD []

/-- One round of the loop of `_input_modes`. -/
def collectRequired (acc : Dict String (List String) × List String) (item : InputItem) :
    Dict String (List String) × List String :=
  if !item.required.truthy then acc else
  match item.groupName with
  | some group => (Dict.set acc.1 group (groupAt acc.1 group ++ [item.name]), acc.2)
  | none => if item.default.isSome then acc else (acc.1, acc.2 ++ [item.name])

theorem requiredGroups_eq (items : List InputItem) : requiredGroups items = items.foldl collectRequired ([], []) := rfl

section Round
variable {acc : Dict String (List String) × List String} {item : InputItem} {group name : String}

theorem collectRequired_always : (collectRequired acc item).2 = acc.2 ++ if alwaysAsked item then [item.name] else [] := by
  unfold collectRequired alwaysAsked
  cases item.required.truthy with
  | false => simp
  | true =>
    cases item.groupName with
    | some group => simp
    | none => cases item.default <;> simp

theorem collectRequired_group (asks : item.AsksIn group) :
    collectRequired acc item = (Dict.set acc.1 group (groupAt acc.1 group ++ [item.name]), acc.2) := by
  unfold collectRequired
  rw [asks.1, asks.2]
  rfl

theorem collectRequired_other (asks : ∀ group, ¬ item.AsksIn group) : (collectRequired acc item).1 = acc.1 := by
  unfold collectRequired
  cases required : item.required.truthy with
  | false => rfl
  | true =>
    cases grouped : item.groupName with
    | some group => exact absurd ⟨required, grouped⟩ (asks group)
    | none => cases item.default <;> rfl

/-- An entry adds its name to its own group. -/
theorem mem_groupAt_collectRequired : name ∈ groupAt (collectRequired acc item).1 group ↔
    name ∈ groupAt acc.1 group ∨ (item.AsksIn group ∧ item.name = name) := by
  by_cases asks : ∃ own, item.AsksIn own
  · obtain ⟨own, asks⟩ := asks
    rw [collectRequired_group asks]
    by_cases same : own = group
    · subst same
      simp [groupAt, asks, eq_comm]
    · have other : ¬ item.AsksIn group := fun asks' => same (Option.some.inj (asks.2.symm.trans asks'.2))
      simp [groupAt, same, other]
  · rw [collectRequired_other (not_exists.mp asks)]
    have other := not_exists.mp asks group
    simp [other]

/-- Groups are distinct, and every one has a name. -/
structure GroupsSound (groups : Dict String (List String)) : Prop where
  distinct : (Dict.keys groups).Nodup
  nonempty : ∀ group ∈ Dict.keys groups, groupAt groups group ≠ []

theorem groupsSound_collectRequired (sound : GroupsSound acc.1) (item : InputItem) :
    GroupsSound (collectRequired acc item).1 := by
  by_cases asks : ∃ own, item.AsksIn own
  · obtain ⟨own, asks⟩ := asks
    rw [collectRequired_group asks]
    refine ⟨Dict.nodup_keys_set sound.distinct _ _, fun group held => ?_⟩
    by_cases same : own = group
    · subst same
      simp [groupAt]
    · have other : group ∈ Dict.keys acc.1 := (Dict.mem_keys_set.mp held).resolve_left (Ne.symm same)
      simpa [groupAt, same] using sound.nonempty group other
  · rw [collectRequired_other (not_exists.mp asks)]
    exact sound

end Round

section Loop
variable (items : List InputItem)

theorem foldl_collectRequired (acc : Dict String (List String) × List String) (sound : GroupsSound acc.1) :
    (items.foldl collectRequired acc).2 = acc.2 ++ (items.filter alwaysAsked).map InputItem.name ∧
    GroupsSound (items.foldl collectRequired acc).1 ∧
    ∀ group name, name ∈ groupAt (items.foldl collectRequired acc).1 group ↔
      name ∈ groupAt acc.1 group ∨ ∃ item ∈ items, item.AsksIn group ∧ item.name = name := by
  induction items generalizing acc with
  | nil => exact ⟨by simp, sound, fun _ _ => by simp⟩
  | cons item rest ih =>
    obtain ⟨always, sound', members⟩ := ih _ (groupsSound_collectRequired sound item)
    refine ⟨?_, sound', fun group name => ?_⟩
    · rw [List.foldl_cons, always, collectRequired_always]
      cases asked : alwaysAsked item <;> simp [asked]
    · rw [List.foldl_cons, members, mem_groupAt_collectRequired]
      simp only [List.mem_cons, exists_eq_or_imp, or_assoc]

theorem groupsSound_nil : GroupsSound [] := ⟨List.nodup_nil, fun _ absurd => by cases absurd⟩

theorem requiredGroups_always : (requiredGroups items).2 = (items.filter alwaysAsked).map InputItem.name :=
  (foldl_collectRequired items ([], []) groupsSound_nil).1

theorem requiredGroups_sound : GroupsSound (requiredGroups items).1 :=
  (foldl_collectRequired items ([], []) groupsSound_nil).2.1

theorem mem_requiredGroups {group name : String} : name ∈ groupAt (requiredGroups items).1 group ↔
    ∃ item ∈ items, item.AsksIn group ∧ item.name = name := by
  rw [requiredGroups_eq, (foldl_collectRequired items ([], []) groupsSound_nil).2.2]
  simp [groupAt]

/-- The groups are those that a required entry is in. -/
theorem mem_keys_requiredGroups {group : String} : group ∈ Dict.keys (requiredGroups items).1 ↔
    ∃ item ∈ items, item.AsksIn group := by
  constructor
  · intro held
    obtain ⟨name, member⟩ := List.exists_mem_of_ne_nil _ ((requiredGroups_sound items).nonempty group held)
    obtain ⟨item, listed, asks, _⟩ := (mem_requiredGroups items).mp member
    exact ⟨item, listed, asks⟩
  · rintro ⟨item, listed, asks⟩
    have member := (mem_requiredGroups items).mpr ⟨item, listed, asks, rfl⟩
    by_contra absent
    unfold groupAt at member
    rw [Dict.get?_of_not_mem absent] at member
    cases member

end Loop

/-! ### The modes -/

section Modes
variable {items : List InputItem}

theorem either_eq : ((requiredGroups items).1.map Prod.snd).filter (!·.isEmpty) = (requiredGroups items).1.map Prod.snd := by
  refine List.filter_eq_self.mpr fun names listed => ?_
  obtain ⟨⟨group, names⟩, member, rfl⟩ := List.mem_map.mp listed
  have read := Dict.mem_get? (requiredGroups_sound items).distinct member
  have nonempty := (requiredGroups_sound items).nonempty group (Dict.mem_keys_of_mem member)
  unfold groupAt at nonempty
  rw [read] at nonempty
  simpa using nonempty

/-- There are modes when there are two groups; each is the required names of one. -/
theorem inputModes_some {modes : InputModes} (some' : inputModes items = some modes) :
    2 ≤ (Dict.keys (requiredGroups items).1).length ∧ modes.either = (requiredGroups items).1.map Prod.snd ∧
      modes.always = (items.filter alwaysAsked).map InputItem.name := by
  unfold inputModes at some'
  dsimp only at some'
  rw [either_eq, requiredGroups_always] at some'
  split at some'
  · cases some'
  · rename_i several
    cases some'
    have count : (Dict.keys (requiredGroups items).1).length = (requiredGroups items).1.length := List.length_map _
    refine ⟨?_, rfl, rfl⟩
    rw [count]
    simp only [List.length_map] at several
    omega

/-- A mode is the required names of a group. -/
theorem mem_either {modes : InputModes} (some' : inputModes items = some modes) {names : List String}
    (listed : names ∈ modes.either) : ∃ group, (∃ item ∈ items, item.AsksIn group) ∧
      ∀ name, name ∈ names ↔ ∃ item ∈ items, item.AsksIn group ∧ item.name = name := by
  rw [(inputModes_some some').2.1] at listed
  obtain ⟨⟨group, names⟩, member, rfl⟩ := List.mem_map.mp listed
  have read := Dict.mem_get? (requiredGroups_sound items).distinct member
  refine ⟨group, (mem_keys_requiredGroups items).mp (Dict.mem_keys_of_mem member), fun name => ?_⟩
  rw [← mem_requiredGroups]
  unfold groupAt
  rw [read]
  rfl

end Modes
end LobstrMcp
