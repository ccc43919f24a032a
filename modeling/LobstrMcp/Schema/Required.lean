import LobstrMcp.Schema.Keys
import LobstrMcp.Schema.Routing

/-!
What an accepted input holds. The required names are rebuilt three times, as hard required names, as input
modes and as defaults to fill; together they cover every required entry that keeps its name.
-/

namespace LobstrMcp

section Completeness
variable (crawler : Crawler) (params : Json) (args : RunArgs)

/-- An entry's own field gets a value when a new squid is sent the input of a call. -/
def SentFor (item : InputItem) : Prop :=
  ∃ sent, ((translateInputSchema crawler params).fieldOf (keyOf crawler params (item.name, item.declaredLevel))).read
    ((translateInputSchema crawler params).taskParams (finalInput args (translateInputSchema crawler params)))
    ((translateInputSchema crawler params).squidParams (finalInput args (translateInputSchema crawler params))) = some sent

/-- Of the entries that count, every required one outside the groups gets a value; and so do those of the groups, or,
where two groups have required entries, all those of one group. -/
structure SendsRequired (counts : InputItem → Prop) : Prop where
  ungrouped : ∀ item, counts item → item.required.truthy = true → item.groupName = none → SentFor crawler params args item
  grouped : (∀ item group, counts item → item.AsksIn group → SentFor crawler params args item) ∨
    (∃ one other, one ≠ other ∧ (∃ item, counts item ∧ item.AsksIn one) ∧ ∃ item, counts item ∧ item.AsksIn other) ∧
      ∃ group, (∃ item, counts item ∧ item.AsksIn group) ∧
        ∀ item, counts item → item.AsksIn group → SentFor crawler params args item

end Completeness

/-- An entry that keeps the name it has. -/
def Crawler.Keeps (crawler : Crawler) (item : InputItem) : Prop :=
  keptOf (itemsNamed crawler.input item.name) = some item

section Accepted
variable {crawler : Crawler} {params : Json} {args : RunArgs} {item : InputItem}

theorem keeps_iff_seen : crawler.Keeps item ↔ item ∈ (declaredIn crawler.input).seen.map Prod.snd := by
  constructor
  · intro keeps
    exact List.mem_map.mpr ⟨(item.name, item), Dict.mem_of_get? ((get?_seen _ _).trans keeps), rfl⟩
  · intro seen
    obtain ⟨⟨name, item⟩, listed, rfl⟩ := List.mem_map.mp seen
    have keeps := Dict.mem_get? (sound_declaredIn crawler.input).seen listed
    rw [get?_seen] at keeps
    obtain ⟨_, named⟩ := mem_itemsNamed.mp (keptOf_mem keeps)
    unfold Crawler.Keeps
    rw [named, keeps]

/-- A kept entry whose name has a value in the end is sent it. -/
theorem sentFor_of_mem (keeps : crawler.Keeps item)
    (member : item.name ∈ Dict.keys (finalInput args (translateInputSchema crawler params))) :
    SentFor crawler params args item := by
  unfold SentFor
  rw [keyOf_kept keeps]
  exact Translated.read_fieldOf member

theorem mem_finalInput {t : Translated} {name : String} (fresh : args.reuse = false) :
    name ∈ Dict.keys (finalInput args t) ↔ name ∈ Dict.keys t.defaultsToFill ∨ name ∈ Dict.keys args.input := by
  unfold finalInput
  rw [fresh]
  exact Dict.mem_keys_update

/-- For a new squid the whole input is validated, and every value of it. -/
theorem accepted_valid {t : Translated} (fresh : args.reuse = false) (accepted : inputErrors args t = []) :
    requiredErrors args.input t = [] ∧ ∀ e ∈ args.input, typeError t e = none := by
  unfold inputErrors at accepted
  rw [fresh] at accepted
  simp only [Bool.false_eq_true, and_false, if_false, Bool.not_false, Bool.true_or, validateInput,
    if_true, List.append_eq_nil_iff] at accepted
  exact ⟨accepted.1, List.filterMap_eq_nil_iff.mp accepted.2⟩

/-- What validation accepts has the hard required names, and the names of one mode. -/
theorem accepted_holds {t : Translated} (fresh : args.reuse = false) (accepted : inputErrors args t = []) :
    (∀ name ∈ t.required, name ∈ Dict.keys args.input) ∧ ∀ modes, t.inputModes = some modes → modes.either ≠ [] →
      ∃ group ∈ modes.either, ∀ name ∈ group, name ∈ Dict.keys args.input := by
  have valid := (accepted_valid fresh accepted).1
  have missing : (t.required.filter fun req => !Dict.contains args.input req) = [] := by
    unfold requiredErrors at valid
    cases modes : t.inputModes with
    | none =>
      rw [modes] at valid
      exact List.map_eq_nil_iff.mp valid
    | some modes' =>
      rw [modes] at valid
      dsimp only at valid
      split at valid
      · exact List.map_eq_nil_iff.mp (List.append_eq_nil_iff.mp valid).1
      · exact List.map_eq_nil_iff.mp valid
  constructor
  · intro name member
    have held := List.filter_eq_nil_iff.mp missing name member
    exact (Dict.mem_keys_iff _ _).mpr (by simpa using held)
  · intro modes some' nonempty
    unfold requiredErrors at valid
    rw [some'] at valid
    dsimp only at valid
    split at valid
    · cases (List.append_eq_nil_iff.mp valid).2
    · rename_i complete
      have any : (modes.either.any fun g => g.all (Dict.contains args.input)) = true := by
        simpa [nonempty] using complete
      obtain ⟨group, listed, all⟩ := List.any_eq_true.mp any
      exact ⟨group, listed, fun name member => (Dict.mem_keys_iff _ _).mpr (List.all_eq_true.mp all name member)⟩

theorem inputModes_translated : (translateInputSchema crawler params).inputModes =
    inputModes ((declaredIn crawler.input).seen.map Prod.snd) := by
  rw [translateInputSchema_eq]

theorem required_of_modes {modes : InputModes} (some' : (translateInputSchema crawler params).inputModes = some modes) :
    (translateInputSchema crawler params).required = modes.always := by
  rw [translateInputSchema_eq] at some' ⊢
  dsimp only at some' ⊢
  rw [some']

theorem mem_required_of_asked (none' : (translateInputSchema crawler params).inputModes = none) (keeps : crawler.Keeps item)
    (asked : askedFor item = true) : item.name ∈ (translateInputSchema crawler params).required := by
  rw [translateInputSchema_eq] at none' ⊢
  dsimp only at none' ⊢
  rw [none']
  exact List.mem_map.mpr ⟨(item.name, item), List.mem_filter.mpr
    ⟨Dict.mem_of_get? ((get?_seen _ _).trans keeps), asked⟩, rfl⟩

theorem fillable_grouped {group : String} (asks : item.AsksIn group) : fillable item = none := by
  unfold fillable
  rw [asks.2]
  simp

theorem askedFor_grouped {group : String} (asks : item.AsksIn group) : askedFor item = true := by
  unfold askedFor
  rw [asks.1, fillable_grouped asks]
  rfl

/-- A required entry outside the groups is asked for, or filled. -/
theorem sentFor_ungrouped (fresh : args.reuse = false)
    (accepted : inputErrors args (translateInputSchema crawler params) = []) (keeps : crawler.Keeps item)
    (required : item.required.truthy = true) (ungrouped : item.groupName = none) : SentFor crawler params args item := by
  apply sentFor_of_mem keeps
  rw [mem_finalInput fresh]
  have fill : fillable item = item.default := by
    unfold fillable
    rw [required, ungrouped]
    rfl
  cases default : item.default with
  | some d =>
    left
    have filled : Dict.get? (translateInputSchema crawler params).defaultsToFill item.name = some d := by
      rw [get?_defaultsToFill, keeps, Option.bind_some, fill, default]
    exact Dict.mem_keys_of_get? filled
  | none =>
    right
    apply (accepted_holds fresh accepted).1
    cases modes : (translateInputSchema crawler params).inputModes with
    | none =>
      apply mem_required_of_asked modes keeps
      unfold askedFor
      rw [required, fill, default]
      rfl
    | some modes' =>
      rw [required_of_modes modes]
      rw [inputModes_translated] at modes
      rw [(inputModes_some modes).2.2]
      refine List.mem_map.mpr ⟨item, List.mem_filter.mpr ⟨keeps_iff_seen.mp keeps, ?_⟩, rfl⟩
      unfold alwaysAsked
      rw [required, ungrouped, default]
      rfl

/-- The required entries of the groups are asked for, or those of one of several groups are. -/
theorem sentFor_grouped (fresh : args.reuse = false)
    (accepted : inputErrors args (translateInputSchema crawler params) = []) :
    (∀ item group, crawler.Keeps item → item.AsksIn group → SentFor crawler params args item) ∨
    (∃ one other, one ≠ other ∧ (∃ item, crawler.Keeps item ∧ item.AsksIn one) ∧
        ∃ item, crawler.Keeps item ∧ item.AsksIn other) ∧
      ∃ group, (∃ item, crawler.Keeps item ∧ item.AsksIn group) ∧
        ∀ item, crawler.Keeps item → item.AsksIn group → SentFor crawler params args item := by
  obtain ⟨hard, mode⟩ := accepted_holds fresh accepted
  have given : ∀ {item}, crawler.Keeps item → item.name ∈ Dict.keys args.input → SentFor crawler params args item :=
    fun keeps member => sentFor_of_mem keeps ((mem_finalInput fresh).mpr (.inr member))
  cases modes : (translateInputSchema crawler params).inputModes with
  | none =>
    left
    intro item group keeps asks
    exact given keeps (hard _ (mem_required_of_asked modes keeps (askedFor_grouped asks)))
  | some modes' =>
    right
    have modes_seen := modes
    rw [inputModes_translated] at modes_seen
    obtain ⟨several, either, _⟩ := inputModes_some modes_seen
    have asked : ∀ group ∈ Dict.keys (requiredGroups ((declaredIn crawler.input).seen.map Prod.snd)).1,
        ∃ item, crawler.Keeps item ∧ item.AsksIn group := by
      intro group listed
      obtain ⟨item, seen, asks⟩ := (mem_keys_requiredGroups _).mp listed
      exact ⟨item, keeps_iff_seen.mpr seen, asks⟩
    constructor
    · obtain ⟨one, other, rest, groups⟩ : ∃ one other rest,
          Dict.keys (requiredGroups ((declaredIn crawler.input).seen.map Prod.snd)).1 = one :: other :: rest := by
        rcases keys : Dict.keys (requiredGroups ((declaredIn crawler.input).seen.map Prod.snd)).1 with _ | ⟨one, _ | ⟨other, rest⟩⟩
        · simp [keys] at several
        · simp [keys] at several
        · exact ⟨one, other, rest, rfl⟩
      have distinct := (requiredGroups_sound ((declaredIn crawler.input).seen.map Prod.snd)).distinct
      rw [groups] at asked distinct
      refine ⟨one, other, fun same => ?_, asked one (by simp), asked other (by simp)⟩
      exact (List.nodup_cons.mp distinct).1 (by simp [same])
    · have nonempty : modes'.either ≠ [] := by
        intro empty
        rw [either, List.map_eq_nil_iff] at empty
        simp [empty, Dict.keys] at several
      obtain ⟨names, listed, all⟩ := mode modes' modes nonempty
      obtain ⟨group, ⟨item, seen, asks⟩, holds⟩ := mem_either modes_seen listed
      refine ⟨group, ⟨item, keeps_iff_seen.mpr seen, asks⟩, fun item keeps asks => given keeps (all _ ?_)⟩
      exact (holds _).mpr ⟨item, keeps_iff_seen.mp keeps, asks, rfl⟩

/-- What validates for a new squid is complete, for the entries that keep their names. -/
theorem accepted_sends_required (fresh : args.reuse = false)
    (accepted : inputErrors args (translateInputSchema crawler params) = []) :
    SendsRequired crawler params args crawler.Keeps :=
  ⟨fun _ keeps required ungrouped => sentFor_ungrouped fresh accepted keeps required ungrouped,
    sentFor_grouped fresh accepted⟩

end Accepted

def frenchDentists : RunArgs := { scraper := some "maps", input := [("country", .str "France")] }

theorem french_dentists_are_complete : SendsRequired countryTwice .null frenchDentists countryTwice.Keeps :=
  accepted_sends_required rfl (by decide +kernel)

/-- A crawler that asks for `country` at both levels. -/
def countryAskedTwice : Crawler where
  input := [{ name := "country", level := some (some "task"), required := .bool true },
    { name := "country", level := some (some "squid"), required := .bool true }]

/-- The shadowed entry is required, and is not asked for. -/
theorem shadowed_country_is_not_asked_for :
    inputErrors frenchDentists (translateInputSchema countryAskedTwice .null) = [] ∧
      ¬ SendsRequired countryAskedTwice .null frenchDentists (· ∈ countryAskedTwice.input) := by
  refine ⟨by decide +kernel, fun complete => ?_⟩
  obtain ⟨sent, read⟩ := complete.ungrouped
    { name := "country", level := some (some "squid"), required := .bool true } (List.mem_cons_of_mem _ (List.mem_singleton_self _)) rfl rfl
  have unsent : (((translateInputSchema countryAskedTwice .null).fieldOf
      (keyOf countryAskedTwice .null ("country", "squid"))).read
        ((translateInputSchema countryAskedTwice .null).taskParams
          (finalInput frenchDentists (translateInputSchema countryAskedTwice .null)))
        ((translateInputSchema countryAskedTwice .null).squidParams
          (finalInput frenchDentists (translateInputSchema countryAskedTwice .null)))) = none := by decide +kernel
  exact absurd (unsent.symm.trans read) (by simp)

end LobstrMcp
