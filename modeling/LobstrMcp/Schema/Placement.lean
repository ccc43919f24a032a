import LobstrMcp.Schema.Routing

/-!
Whether the published levels are those of `/params`. A name declared once follows its sections; where an
entry has a twin, the kept one stays at its own level and the shadowed one takes what is left.
-/

namespace LobstrMcp

/-- Every published key goes to a section that lists its wire name, where any does. -/
structure FollowsParams (t : Translated) (params : Json) : Prop where
  listed : ∀ key ∈ Dict.keys t.levels, (∃ level, ListedIn params (t.wireName key) level) →
    ListedIn params (t.wireName key) (normalizedLevel (t.levelOf key))
  /-- What is listed at squid level under `functions` only is not sent flat. -/
  nested : ∀ key ∈ Dict.keys t.levels, ListedIn params (t.wireName key) "function" →
    ¬ ListedIn params (t.wireName key) "squid" → ∀ wire, t.fieldOf key ≠ .param wire

/-- The level of a shadowed entry that `/params` does not decide. -/
def InputItem.fallbackLevel (item : InputItem) : String :=
  normalizedLevel (some ((item.levelOrNone.filter (· ≠ "")).getD "squid"))

/-- `/params` lists a name at the level of the entry that keeps it; and it lists one other section, or the
level the shadowed entry falls back to. -/
def TwinsListed (params : Json) (name : String) (kept twin : InputItem) : Prop :=
  kept.declaredLevel ∈ sectionsOf params name ∧
    (((sectionsOf params name).filter (· ≠ kept.declaredLevel)).length = 1 ∨ twin.fallbackLevel ∈ sectionsOf params name)

theorem fieldOf_param {t : Translated} {key wire : String} (flat : t.fieldOf key = .param wire) :
    normalizedLevel (t.levelOf key) = "squid" := by
  rw [Translated.fieldOf_eq] at flat
  unfold Field.ofLevel at flat
  split at flat
  · assumption
  · split at flat <;> cases flat

theorem followsParams_of_listed {t : Translated} {params : Json}
    (listed : ∀ key ∈ Dict.keys t.levels, (∃ level, ListedIn params (t.wireName key) level) →
      ListedIn params (t.wireName key) (normalizedLevel (t.levelOf key))) : FollowsParams t params where
  listed := listed
  nested key published toggle unlisted wire flat := by
    have placed := listed key published ⟨_, toggle⟩
    rw [fieldOf_param flat] at placed
    exact unlisted placed

theorem fallbackLevel_levelless {item : InputItem} (levelless : item.Levelless) : item.fallbackLevel = "squid" := by
  unfold InputItem.fallbackLevel
  rcases levelless with none' | empty
  · rw [none']
    decide
  · rw [empty]
    decide

theorem fallbackLevel_named {item : InputItem} {level : String} (names : item.levelOrNone = some level)
    (some' : level ≠ "") : item.fallbackLevel = normalizedLevel (some level) := by
  unfold InputItem.fallbackLevel
  rw [names, Option.filter_some, if_pos (by simpa using some')]
  rfl

section Schema
variable {crawler : Crawler} {params : Json} {name : String} {kept twin : InputItem} {a : Alias}

/-- A shadowed entry is listed where it goes, when it has one section left or falls back to a listed level. -/
theorem alias_listed_iff (keeps : keptOf (itemsNamed crawler.input a.name) = some kept) (listed : a ∈ aliasesIn crawler params) :
    normalizedLevel (some a.level) ∈ sectionsOf params a.name ↔
      ((sectionsOf params a.name).filter (· ≠ kept.declaredLevel)).length = 1 ∨
        a.item.fallbackLevel ∈ sectionsOf params a.name := by
  obtain ⟨kept', keeps', twinned, level⟩ := alias_of_mem listed
  cases keeps.symm.trans keeps'
  rw [level]
  rcases shadowedLevel_cases params a.name a.item kept with ⟨level, single, goes⟩ | ⟨several, ⟨level, names, some', goes⟩ | ⟨levelless, goes⟩⟩
  · obtain ⟨left, _, own⟩ := section_left single
    rw [goes, own, single]
    exact iff_of_true left (.inl rfl)
  · rw [goes, fallbackLevel_named names some']
    exact ⟨.inr, fun either => either.resolve_left several⟩
  · rw [goes, fallbackLevel_levelless levelless]
    exact ⟨.inr, fun either => either.resolve_left several⟩

theorem levelOf_untwinned (keeps : keptOf (itemsNamed crawler.input name) = some kept)
    (untwinned : twinOf (itemsNamed crawler.input name) = none) {placed : String}
    (placement : Dict.get? (placementFromParams params) name = some placed) :
    (translateInputSchema crawler params).levelOf name = some placed := by
  unfold Translated.levelOf
  rw [levels_kept keeps, untwinned]
  unfold keptLevel
  rw [placement]
  rfl

theorem levelOf_extra (undeclared : itemsNamed crawler.input name = [])
    (described : name ∈ Dict.keys (paramsOnlySpecs params)) {placed : String}
    (placement : Dict.get? (placementFromParams params) name = some placed) :
    (translateInputSchema crawler params).levelOf name = some placed := by
  unfold Translated.levelOf
  rw [levels_extra undeclared described, placement]
  rfl

/-- `/params` is obeyed, but where it does not list the twins of a name as they are declared. -/
theorem followsParams_iff (crawler : Crawler) (params : Json) :
    FollowsParams (translateInputSchema crawler params) params ↔
      ∀ name kept twin, keptOf (itemsNamed crawler.input name) = some kept →
        twinOf (itemsNamed crawler.input name) = some twin → (∃ level, ListedIn params name level) →
        TwinsListed params name kept twin := by
  constructor
  · intro follows name kept twin keeps twinned somewhere
    have declared : itemsNamed crawler.input name ≠ [] := List.ne_nil_of_mem (keptOf_mem keeps)
    obtain ⟨a, listed, rfl, rfl⟩ := exists_alias params twinned
    constructor
    · have published : a.name ∈ Dict.keys (translateInputSchema crawler params).levels := by
        rw [keys_levels]
        exact mem_keys_properties.mpr (.inl declared)
      have placed := follows.listed a.name published
      rw [wireName_declared declared, levelOf_twinned keeps twinned, normalizedLevel_levelOrTask] at placed
      exact mem_sectionsOf.mpr (placed somewhere)
    · have published : a.key ∈ Dict.keys (translateInputSchema crawler params).levels := by
        rw [keys_levels]
        exact mem_keys_properties.mpr (.inr (.inr ⟨a, listed, rfl⟩))
      have placed := follows.listed a.key published
      rw [wireName_alias listed, levelOf_alias listed] at placed
      exact (alias_listed_iff keeps listed).mp (mem_sectionsOf.mpr (placed somewhere))
  · intro twins
    refine followsParams_of_listed fun key published somewhere => ?_
    rw [keys_levels, mem_keys_properties] at published
    -- a key of one entry goes where it is placed, which is where it is listed
    have followed : ∀ {name level}, ListedIn params name level →
        (∀ {placed}, Dict.get? (placementFromParams params) name = some placed →
          (translateInputSchema crawler params).levelOf name = some placed) →
        ListedIn params name (normalizedLevel ((translateInputSchema crawler params).levelOf name)) := by
      intro name level listed goes
      obtain ⟨placed, placement⟩ := exists_placement (mem_sectionsOf.mpr listed)
      have section' := placement_mem placement
      rw [goes placement, normalizedLevel_known (sectionsOf_known section')]
      exact mem_sectionsOf.mp section'
    by_cases aliased : ∃ a ∈ aliasesIn crawler params, a.key = key
    · obtain ⟨a, listed, rfl⟩ := aliased
      obtain ⟨kept, keeps, twinned, _⟩ := alias_of_mem listed
      rw [wireName_alias listed] at somewhere ⊢
      rw [levelOf_alias listed]
      exact mem_sectionsOf.mp ((alias_listed_iff keeps listed).mpr (twins _ _ _ keeps twinned somewhere).2)
    · rw [wireName_plain fun a listed same => aliased ⟨a, listed, same⟩] at somewhere ⊢
      obtain ⟨level, listed⟩ := somewhere
      cases keeps : keptOf (itemsNamed crawler.input key) with
      | none =>
        have undeclared := keptOf_eq_none.mp keeps
        have described := (published.resolve_left (not_not.mpr undeclared)).resolve_right aliased
        exact followed listed (levelOf_extra undeclared described)
      | some kept =>
        cases twinned : twinOf (itemsNamed crawler.input key) with
        | none => exact followed listed (levelOf_untwinned keeps twinned)
        | some twin =>
          rw [levelOf_twinned keeps twinned, normalizedLevel_levelOrTask]
          exact mem_sectionsOf.mp (twins key kept twin keeps twinned ⟨level, listed⟩).1

end Schema

/-- A required toggle that `input[]` has at squid level, beside a row's input of the same name. -/
def verifyTwice : Crawler where
  input := [{ name := "verify", level := some (some "squid"), required := .bool true },
    { name := "verify", level := some (some "task") }]

def verifyParams : Json := .obj [("task", .obj [("verify", .obj [])]),
  ("squid", .obj [("functions", .obj [("verify", .obj [("default", .bool false)])])])]

/-- The toggle is sent flat, where `/params` lists it under `functions` only. -/
theorem toggle_is_sent_flat : ListedIn verifyParams "verify" "function" ∧ ¬ ListedIn verifyParams "verify" "squid" ∧
    (translateInputSchema verifyTwice verifyParams).fieldOf "verify" = .param "verify" ∧
    ¬ FollowsParams (translateInputSchema verifyTwice verifyParams) verifyParams := by
  have sections : sectionsOf verifyParams "verify" = ["task", "function"] := by decide +kernel
  have flat : (translateInputSchema verifyTwice verifyParams).fieldOf "verify" = .param "verify" := by decide +kernel
  have wire : (translateInputSchema verifyTwice verifyParams).wireName "verify" = "verify" := by decide +kernel
  have published : "verify" ∈ Dict.keys (translateInputSchema verifyTwice verifyParams).levels := by decide +kernel
  have toggle : ListedIn verifyParams "verify" "function" := mem_sectionsOf.mp (by rw [sections]; decide)
  have unlisted : ¬ ListedIn verifyParams "verify" "squid" := fun listed =>
    absurd (mem_sectionsOf.mpr listed) (by rw [sections]; decide)
  refine ⟨toggle, unlisted, flat, fun follows => ?_⟩
  have nested := follows.nested "verify" published
  rw [wire] at nested
  exact nested toggle unlisted "verify" flat

end LobstrMcp
