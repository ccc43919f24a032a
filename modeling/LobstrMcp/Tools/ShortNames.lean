import LobstrMcp.Data.Sole
import LobstrMcp.Run.Crawler

/-!
What a scraper's name resolves to. Three rules of decreasing strength run over the catalogue, each
with an early return; on a catalogue whose texts are distinct each rule names one crawler at most, so
neither its order nor a name that several slugs begin with makes the answer a guess.
-/

namespace LobstrMcp
open Interaction Tool Sole

/-- Every crawler has a slug and an id, texts that are not empty, and no text is two of them. -/
structure Distinct (crawlers : List Fields) : Prop where
  slug : ∀ c ∈ crawlers, ∃ slug, slug ≠ "" ∧ Fields.get c "slug" = .str slug
  id : ∀ c ∈ crawlers, ∃ id, id ≠ "" ∧ Fields.get c "id" = .str id
  slugs : (crawlers.map (Fields.get · "slug")).Nodup
  ids : (crawlers.map (Fields.get · "id")).Nodup
  apart : ∀ c ∈ crawlers, ∀ d ∈ crawlers, Fields.get c "id" ≠ Fields.get d "slug"

/-! ### The rules -/

/-- The crawler's slug or id is the name. -/
def NamedBy (name : String) (c : Fields) : Prop :=
  Fields.get c "slug" = .str name ∨ Fields.get c "id" = .str name

/-- Its slug is the name with "-scraper" behind it. -/
def Suffixed (short : String) (c : Fields) : Prop := Fields.get c "slug" = .str (short ++ "-scraper")

/-- Its slug begins with the name and a hyphen. -/
def Begins (short : String) (c : Fields) : Prop :=
  ∃ slug, Fields.get c "slug" = .str slug ∧ (short ++ "-").toList <+: slug.toList

/-- What a name may resolve to: each rule applies where those before it do not, and the last one to
a single crawler only. The name as it stands is left where no rule applies. -/
inductive Resolves (lower : String → String) (crawlers : List Fields) (name : String) : String → Prop
  | shaped (isId : isCrawlerId name = true) : Resolves lower crawlers name name
  | named {c : Fields} {answer : String} (noId : isCrawlerId name = false)
      (held : c ∈ crawlers) (rule : NamedBy name c) (id : Fields.get c "id" = .str answer) :
      Resolves lower crawlers name answer
  | suffixed {c : Fields} {answer : String} (noId : isCrawlerId name = false)
      (unnamed : ∀ d ∈ crawlers, ¬ NamedBy name d) (some : lower (strip name) ≠ "")
      (held : c ∈ crawlers) (rule : Suffixed (lower (strip name)) c) (id : Fields.get c "id" = .str answer) :
      Resolves lower crawlers name answer
  | only {c : Fields} {answer : String} (noId : isCrawlerId name = false)
      (unnamed : ∀ d ∈ crawlers, ¬ NamedBy name d) (some : lower (strip name) ≠ "")
      (plain : ∀ d ∈ crawlers, ¬ Suffixed (lower (strip name)) d)
      (held : c ∈ crawlers) (rule : Begins (lower (strip name)) c)
      (alone : ∀ d ∈ crawlers, Begins (lower (strip name)) d → d = c) (id : Fields.get c "id" = .str answer) :
      Resolves lower crawlers name answer
  | left (noId : isCrawlerId name = false) (unnamed : ∀ d ∈ crawlers, ¬ NamedBy name d)
      (rest : lower (strip name) ≠ "" → (∀ d ∈ crawlers, ¬ Suffixed (lower (strip name)) d) ∧
        ∀ c ∈ crawlers, Begins (lower (strip name)) c →
          ∃ d ∈ crawlers, Begins (lower (strip name)) d ∧ d ≠ c) :
      Resolves lower crawlers name name

/-! ### One crawler a rule -/

section Rules
variable {crawlers others : List Fields} {c : Fields} {name short : String}

theorem named_iff : named (.str name) c = true ↔ NamedBy name c := by
  unfold named NamedBy
  rw [decide_eq_true_iff, eq_comm, eq_comm (a := Json.str name)]

/-- The test of the second rule. -/
def suffixed (short : String) (c : Fields) : Bool := Fields.get c "slug" = .str (short ++ "-scraper")

theorem suffixed_iff : suffixed short c = true ↔ Suffixed short c := decide_eq_true_iff

/-- The test of the third. -/
def begins (short : String) (c : Fields) : Bool := (slugStartsWith c (short ++ "-")).getD false

theorem begins_iff (slug : ∃ slug, slug ≠ "" ∧ Fields.get c "slug" = .str slug) :
    begins short c = true ↔ Begins short c := by
  obtain ⟨slug, some, reads⟩ := slug
  have present : Json.truthy (.str slug) = true := by simp [some]
  unfold begins slugStartsWith Begins
  rw [reads, Json.orElse_of_truthy present]
  simp

theorem Distinct.perm (distinct : Distinct crawlers) (order : crawlers.Perm others) : Distinct others where
  slug c held := distinct.slug c (order.mem_iff.mpr held)
  id c held := distinct.id c (order.mem_iff.mpr held)
  slugs := (order.map _).nodup_iff.mp distinct.slugs
  ids := (order.map _).nodup_iff.mp distinct.ids
  apart c held d present := distinct.apart c (order.mem_iff.mpr held) d (order.mem_iff.mpr present)

theorem Distinct.nodup (distinct : Distinct crawlers) : crawlers.Nodup := distinct.ids.of_map

/-- No name is the slug of one crawler and the id of another. -/
theorem Distinct.one_named (distinct : Distinct crawlers) : AtMostOne (named (.str name)) crawlers := by
  intro c held d present first second
  rcases named_iff.mp first with slug | id <;> rcases named_iff.mp second with slug' | id'
  · exact List.inj_on_of_nodup_map distinct.slugs held present (slug.trans slug'.symm)
  · exact absurd (id'.trans slug.symm) (distinct.apart d present c held)
  · exact absurd (id.trans slug'.symm) (distinct.apart c held d present)
  · exact List.inj_on_of_nodup_map distinct.ids held present (id.trans id'.symm)

theorem Distinct.one_suffixed (distinct : Distinct crawlers) : AtMostOne (suffixed short) crawlers :=
  atMostOne_of_nodup distinct.slugs fun _ _ suffix => suffixed_iff.mp suffix

theorem Distinct.id_truthy (distinct : Distinct crawlers) (held : c ∈ crawlers) :
    (Fields.get c "id").truthy = true := by
  obtain ⟨id, some, reads⟩ := distinct.id c held
  simp [reads, some]

end Rules

/-! ### The answer -/

section Answer
variable {lower : String → String} {crawlers others : List Fields} {c : Fields} {name answer : String}

/-- The crawler the rules come to. -/
def chosen (lower : String → String) (crawlers : List Fields) (name : String) : Option Fields :=
  (crawlers.find? (named (.str name))).or
    (if lower (strip name) = "" then none else
      (crawlers.find? (suffixed (lower (strip name)))).or (sole (begins (lower (strip name))) crawlers))

theorem Distinct.starts (distinct : Distinct crawlers) (short : String) :
    (crawlers.mapM fun c => (slugStartsWith c (short ++ "-")).map (·, c)) =
      some (crawlers.map fun c => (begins short c, c)) := by
  have each : ∀ c ∈ crawlers, (slugStartsWith c (short ++ "-")).map (·, c) = some (begins short c, c) := by
    intro c held
    obtain ⟨slug, some, reads⟩ := distinct.slug c held
    have present : Json.truthy (.str slug) = true := by simp [some]
    unfold begins slugStartsWith
    rw [reads, Json.orElse_of_truthy present]
    rfl
  clear distinct
  induction crawlers with
  | nil => rfl
  | cons c rest ih =>
    have tail := ih fun d held => each d (List.mem_cons_of_mem _ held)
    rw [List.mapM_cons, each c List.mem_cons_self, tail]
    rfl

theorem marked_filter (p : Fields → Bool) :
    ((crawlers.map fun c => (p c, c)).filter (·.1)).map (·.2) = crawlers.filter p := by
  induction crawlers with
  | nil => rfl
  | cons c rest ih =>
    cases passes : p c with
    | true => simp only [List.map_cons, List.filter_cons, passes, if_true, ih]
    | false => simpa only [List.map_cons, List.filter_cons, passes, Bool.false_eq_true, if_false] using ih

/-- The catalogue answers with the id of the crawler that the rules come to, or with the name. -/
theorem Distinct.resolveInCatalog (distinct : Distinct crawlers) :
    resolveInCatalog lower crawlers (.str name) =
      some (((chosen lower crawlers name).map (Fields.get · "id")).getD (.str name)) := by
  have id : ∀ c ∈ crawlers, (Fields.get c "id").orElse (.str name) = Fields.get c "id" :=
    fun c held => Json.orElse_of_truthy (distinct.id_truthy held) _
  unfold LobstrMcp.resolveInCatalog chosen
  cases exact : crawlers.find? (LobstrMcp.named (.str name)) with
  | some c => simp only [Option.some_or, Option.map_some, Option.getD_some, id c (List.mem_of_find?_eq_some exact)]
  | none =>
    have text : ∀ after : String → Option Json, (if (Json.str name).truthy = true then
        (Json.str name).asStr?.bind after else after "") = after name := by
      intro after
      by_cases empty : name = ""
      · subst empty
        rfl
      · simp [empty, Json.asStr?]
    simp only [Option.none_or, Option.bind_eq_bind, Option.bind_some]
    rw [text]
    by_cases empty : lower (strip name) = ""
    · simp only [empty, if_true, Option.map_none, Option.getD_none]
    simp only [empty, if_false, distinct.starts, Option.bind_some, marked_filter]
    have test : (fun c => decide (Fields.get c "slug" = .str (lower (strip name) ++ "-scraper"))) =
        suffixed (lower (strip name)) := rfl
    rw [test]
    cases suffix : crawlers.find? (suffixed (lower (strip name))) with
    | some c => simp only [Option.some_or, Option.map_some, Option.getD_some, id c (List.mem_of_find?_eq_some suffix)]
    | none =>
      simp only [Option.none_or]
      cases alone : sole (begins (lower (strip name))) crawlers with
      | some c =>
        rw [sole_eq_some.mp alone]
        simp only [Option.map_some, Option.getD_some, id c (of_sole alone).1]
      | none =>
        unfold sole at alone
        split at alone
        · cases alone
        · simp

theorem Distinct.chosen_perm (distinct : Distinct crawlers) (order : crawlers.Perm others) :
    chosen lower others name = chosen lower crawlers name := by
  unfold chosen
  rw [distinct.one_named.find?_perm order, distinct.one_suffixed.find?_perm order, sole_perm order]

theorem not_named (none : crawlers.find? (named (.str name)) = none) : ∀ d ∈ crawlers, ¬ NamedBy name d :=
  fun d held rule => List.find?_eq_none.mp none d held (named_iff.mpr rule)

theorem not_suffixed {short : String} (none : crawlers.find? (suffixed short) = none) :
    ∀ d ∈ crawlers, ¬ Suffixed short d :=
  fun d held rule => List.find?_eq_none.mp none d held (suffixed_iff.mpr rule)

/-- Where no crawler alone begins so, each that does has company. -/
theorem Distinct.company {short : String} (distinct : Distinct crawlers)
    (several : sole (begins short) crawlers = none) (held : c ∈ crawlers) (rule : Begins short c) :
    ∃ d ∈ crawlers, Begins short d ∧ d ≠ c := by
  by_contra alone
  push Not at alone
  have passes : begins short c = true := (begins_iff (distinct.slug c held)).mpr rule
  have only : ∀ d ∈ crawlers, begins short d = true → d = c :=
    fun d present other => alone d present ((begins_iff (distinct.slug d present)).mp other)
  rw [sole_of_only distinct.nodup held passes only] at several
  cases several

theorem chosen_mem (comes : chosen lower crawlers name = some c) : c ∈ crawlers := by
  unfold chosen at comes
  rcases Option.or_eq_some_iff.mp comes with exact | ⟨-, comes⟩
  · exact List.mem_of_find?_eq_some exact
  split at comes
  · cases comes
  rcases Option.or_eq_some_iff.mp comes with suffix | ⟨-, alone⟩
  · exact List.mem_of_find?_eq_some suffix
  · exact (of_sole alone).1

/-- Where none of the rules comes to a crawler, the name is left as it stands. -/
theorem Distinct.left (distinct : Distinct crawlers) (noId : isCrawlerId name = false)
    (none : chosen lower crawlers name = none) : Resolves lower crawlers name name := by
  unfold chosen at none
  obtain ⟨unnamed, rest⟩ := Option.or_eq_none_iff.mp none
  refine .left noId (not_named unnamed) fun some => ?_
  rw [if_neg some] at rest
  obtain ⟨plain, several⟩ := Option.or_eq_none_iff.mp rest
  exact ⟨not_suffixed plain, fun c held rule => distinct.company several held rule⟩

/-- A crawler is chosen by one of the rules. -/
theorem Distinct.resolves (distinct : Distinct crawlers) (noId : isCrawlerId name = false)
    (comes : chosen lower crawlers name = some c) (id : Fields.get c "id" = .str answer) :
    Resolves lower crawlers name answer := by
  unfold chosen at comes
  cases exact : crawlers.find? (named (.str name)) with
  | some d =>
    rw [exact, Option.some_or] at comes
    cases comes
    exact .named noId (List.mem_of_find?_eq_some exact) (named_iff.mp (List.find?_some exact)) id
  | none =>
    rw [exact, Option.none_or] at comes
    by_cases empty : lower (strip name) = ""
    · rw [if_pos empty] at comes
      cases comes
    rw [if_neg empty] at comes
    cases suffix : crawlers.find? (suffixed (lower (strip name))) with
    | some d =>
      rw [suffix, Option.some_or] at comes
      cases comes
      exact .suffixed noId (not_named exact) empty (List.mem_of_find?_eq_some suffix)
        (suffixed_iff.mp (List.find?_some suffix)) id
    | none =>
      rw [suffix, Option.none_or] at comes
      obtain ⟨held, passes, only⟩ := of_sole comes
      refine .only noId (not_named exact) empty (not_suffixed suffix) held
        ((begins_iff (distinct.slug c held)).mp passes) ?_ id
      exact fun d present rule => only d present ((begins_iff (distinct.slug d present)).mpr rule)

/-- What a name resolves to on a catalogue that answers. -/
def answerFrom (lower : String → String) (crawlers : List Fields) (name : String) : Json :=
  if isCrawlerId name then .str name else ((chosen lower crawlers name).map (Fields.get · "id")).getD (.str name)

theorem answerFrom_chosen (noId : isCrawlerId name = false) (comes : chosen lower crawlers name = some c) :
    answerFrom lower crawlers name = Fields.get c "id" := by
  simp [answerFrom, noId, comes]

theorem Distinct.answerFrom_perm (distinct : Distinct crawlers) (order : crawlers.Perm others) :
    answerFrom lower others name = answerFrom lower crawlers name := by
  unfold answerFrom
  rw [distinct.chosen_perm order]

/-- The answer is a text: the id of a crawler of the catalogue, or else the name. -/
theorem Distinct.answered (distinct : Distinct crawlers) (lower : String → String) (name : String) :
    ∃ answer, answerFrom lower crawlers name = .str answer ∧ Resolves lower crawlers name answer ∧
      (answer = name ∨ ∃ c ∈ crawlers, Fields.get c "id" = .str answer) := by
  cases isId : isCrawlerId name with
  | true => exact ⟨name, by simp [answerFrom, isId], .shaped isId, .inl rfl⟩
  | false =>
    cases comes : chosen lower crawlers name with
    | none => exact ⟨name, by simp [answerFrom, isId, comes], distinct.left isId comes, .inl rfl⟩
    | some c =>
      have held := chosen_mem comes
      obtain ⟨id, -, reads⟩ := distinct.id c held
      exact ⟨id, (answerFrom_chosen isId comes).trans reads, distinct.resolves isId comes reads, .inr ⟨c, held, reads⟩⟩

/-- The rules leave one answer. -/
theorem Distinct.resolves_only (distinct : Distinct crawlers) (rule : Resolves lower crawlers name answer) :
    answerFrom lower crawlers name = .str answer := by
  have none_named (unnamed : ∀ d ∈ crawlers, ¬ NamedBy name d) : crawlers.find? (named (.str name)) = none :=
    List.find?_eq_none.mpr fun d held passes => unnamed d held (named_iff.mp passes)
  have none_suffixed (plain : ∀ d ∈ crawlers, ¬ Suffixed (lower (strip name)) d) :
      crawlers.find? (suffixed (lower (strip name))) = none :=
    List.find?_eq_none.mpr fun d held passes => plain d held (suffixed_iff.mp passes)
  cases rule with
  | shaped isId => simp [answerFrom, isId]
  | named noId held rule id =>
    have found := distinct.one_named.find?_eq_some.mpr ⟨held, named_iff.mpr rule⟩
    exact (answerFrom_chosen noId (by rw [chosen, found, Option.some_or])).trans id
  | suffixed noId unnamed some held rule id =>
    have found := distinct.one_suffixed.find?_eq_some.mpr ⟨held, suffixed_iff.mpr rule⟩
    refine (answerFrom_chosen noId ?_).trans id
    rw [chosen, none_named unnamed, Option.none_or, if_neg some, found, Option.some_or]
  | only noId unnamed some plain held rule alone id =>
    refine (answerFrom_chosen noId ?_).trans id
    rw [chosen, none_named unnamed, Option.none_or, if_neg some, none_suffixed plain, Option.none_or]
    exact sole_of_only distinct.nodup held ((begins_iff (distinct.slug _ held)).mpr rule) fun d present passes =>
      alone d present ((begins_iff (distinct.slug d present)).mp passes)
  | left noId unnamed rest =>
    have nothing : chosen lower crawlers name = none := by
      rw [chosen, none_named unnamed, Option.none_or]
      split
      · rfl
      rename_i some
      obtain ⟨plain, several⟩ := rest some
      rw [none_suffixed plain, Option.none_or]
      by_contra found
      obtain ⟨c, alone⟩ := Option.ne_none_iff_exists'.mp found
      obtain ⟨held, passes, only⟩ := of_sole alone
      obtain ⟨d, present, rule, other⟩ := several c held ((begins_iff (distinct.slug c held)).mp passes)
      exact other (only d present ((begins_iff (distinct.slug d present)).mpr rule))
    simp [answerFrom, noId, nothing]

/-- An id of the catalogue is its own answer. -/
theorem Distinct.answerFrom_id (distinct : Distinct crawlers) (held : c ∈ crawlers)
    (id : Fields.get c "id" = .str answer) : answerFrom lower crawlers answer = .str answer := by
  cases isId : isCrawlerId answer with
  | true => exact distinct.resolves_only (.shaped isId)
  | false => exact distinct.resolves_only (.named isId held (.inr id) id)

end Answer

/-! ### The call -/

section Call
variable {σ : Type} {m : Machine Call Answer σ} {st : σ} {lower : String → String} {crawlers : List Fields}

theorem run_resolveCrawlerId_distinct (distinct : Distinct crawlers) (answers : (m st .listCrawlers).1 = .ok crawlers)
    (name : String) :
    ((resolveCrawlerId lower (.str name)).run m st).1 = .ok (answerFrom lower crawlers name) := by
  unfold resolveCrawlerId answerFrom
  show ((if decide (name ≠ "") && isCrawlerId name then _ else _ : Tool Json).run m st).1 = _
  cases isId : isCrawlerId name with
  | true =>
    have some : name ≠ "" := by
      rintro rfl
      exact absurd isId (by decide)
    simp only [some, ne_eq, not_false_eq_true, decide_true, Bool.and_self, if_true]
    rfl
  | false =>
    rw [Bool.and_false, if_neg Bool.false_ne_true, if_neg Bool.false_ne_true, request, Program.run_ask_bind, answers]
    dsimp only
    rw [distinct.resolveInCatalog]
    rfl

/-- A catalogue that cannot be read leaves the name as it stands. -/
theorem run_resolveCrawlerId_error {e : Exc} (answers : (m st .listCrawlers).1 = .error e) (name : String) :
    ((resolveCrawlerId lower (.str name)).run m st).1 = .ok (.str name) := by
  unfold resolveCrawlerId
  show ((if decide (name ≠ "") && isCrawlerId name then _ else _ : Tool Json).run m st).1 = _
  split
  · rfl
  rw [request, Program.run_ask_bind, answers]
  rfl

end Call

/-- A name has one answer by the rules, whatever the order of the catalogue, and that answer is its
own. -/
theorem short_names_never_guess (lower : String → String) {crawlers : List Fields} (distinct : Distinct crawlers)
    (name : String) :
    ∃ answer : String, (∀ other, Resolves lower crawlers name other ↔ other = answer) ∧
      ∀ {σ : Type} (m : Machine Call Answer σ) (st : σ) (others : List Fields), crawlers.Perm others →
        (m st .listCrawlers).1 = .ok others →
          ((resolveCrawlerId lower (.str name)).run m st).1 = .ok (.str answer) ∧
          ((resolveCrawlerId lower (.str answer)).run m st).1 = .ok (.str answer) := by
  obtain ⟨answer, is, rule, source⟩ := distinct.answered lower name
  refine ⟨answer, fun other => ⟨fun another => ?_, ?_⟩, fun m st others order answers => ?_⟩
  · have same := (distinct.resolves_only another).symm.trans is
    cases same
    rfl
  · rintro rfl
    exact rule
  · have again : answerFrom lower crawlers answer = .str answer := by
      rcases source with rfl | ⟨c, held, id⟩
      · exact is
      · exact distinct.answerFrom_id held id
    rw [run_resolveCrawlerId_distinct (distinct.perm order) answers,
      run_resolveCrawlerId_distinct (distinct.perm order) answers,
      distinct.answerFrom_perm order, distinct.answerFrom_perm order, is, again]
    exact ⟨rfl, rfl⟩

/-- Two scrapers of one site, and one of another. -/
def siteCatalog : List Fields :=
  [[("id", .str "r1"), ("slug", .str "reddit-scraper")],
   [("id", .str "g1"), ("slug", .str "google-maps-leads-scraper")],
   [("id", .str "g2"), ("slug", .str "google-maps-reviews-scraper")]]

/-- An API that knows a catalogue and nothing else. -/
def catalogOnly (crawlers : List Fields) : Machine Call Answer Unit
  | _, .listCrawlers => (.ok crawlers, ())
  | _, _ => (.error .typeError, ())

theorem distinct_siteCatalog : Distinct siteCatalog where
  slug c held := by
    simp only [siteCatalog, List.mem_cons, List.not_mem_nil, or_false] at held
    rcases held with rfl | rfl | rfl <;> exact ⟨_, by decide, rfl⟩
  id c held := by
    simp only [siteCatalog, List.mem_cons, List.not_mem_nil, or_false] at held
    rcases held with rfl | rfl | rfl <;> exact ⟨_, by decide, rfl⟩
  slugs := by decide
  ids := by decide
  apart := by decide

theorem google_maps_is_left :
    ∃ answer : String, (∀ other, Resolves String.toLower siteCatalog "google-maps" other ↔ other = answer) ∧
      ((resolveCrawlerId String.toLower (.str "google-maps")).run (catalogOnly siteCatalog.reverse) ()).1 =
        .ok (.str answer) := by
  obtain ⟨answer, rules, call⟩ := short_names_never_guess String.toLower distinct_siteCatalog "google-maps"
  exact ⟨answer, rules, (call (catalogOnly siteCatalog.reverse) () _ siteCatalog.reverse_perm.symm rfl).1⟩

example : resolveInCatalog (fun s => .ofList (s.toList.map Char.toLower)) siteCatalog (.str " Reddit ") =
    some (.str "r1") := by decide

end LobstrMcp
