import LobstrMcp.Data.Pages
import LobstrMcp.Server.WiderTokens
import LobstrMcp.Tools.ScraperPages

/-!
The results of a run, read page by page. Whatever page size is asked for, the pages up to the total that
each of them tells show every row of the run once, in its order; what is left out of a row is empty, or
was not asked for.
-/

namespace LobstrMcp
open Interaction Served

/-! ### A row -/

/-- A column is asked for by name; where no name is given, all of them are. -/
def ColumnAsked (fields : List String) (column : String) : Prop := fields = [] ∨ column ∈ fields

/-- The values that a row is stripped of. -/
def Blank (v : Json) : Prop := v = .null ∨ v = .str "" ∨ v = .arr [] ∨ v = .obj []

/-- What is shown of a row. -/
structure ShowsRow (fields : List String) (full : Bool) (row shown : Fields) : Prop where
  told : ∀ column, ColumnAsked fields column → full = true ∨ ¬ Blank (Fields.get row column) →
    Fields.get shown column = Fields.get row column
  genuine : ∀ column v, Dict.get? shown column = some v → v = Fields.get row column
  asked : ∀ column v, Dict.get? shown column = some v → ColumnAsked fields column
  terse : full = false → ∀ column v, Dict.get? shown column = some v → ¬ Blank v

/-- The columns that are chosen of a row, before any is dropped. -/
def chosenColumns (fields : List String) (row : Fields) : Fields :=
  if fields.isEmpty then row else Dict.collect (fields.map fun k => (k, Fields.get row k))

def shownRow (fields : List String) (full : Bool) (row : Fields) : Fields :=
  if full then chosenColumns fields row else stripEmpty (chosenColumns fields row)

section Row
variable {fields : List String} {full : Bool} {row : Fields}

theorem nodup_chosenColumns (fields : List String) (distinct : (Dict.keys row).Nodup) :
    (Dict.keys (chosenColumns fields row)).Nodup := by
  unfold chosenColumns
  split
  · exact distinct
  · exact Dict.nodup_keys_collect _

theorem get?_chosenColumns {column : String} {v : Json} (read : Dict.get? (chosenColumns fields row) column = some v) :
    ColumnAsked fields column ∧ v = Fields.get row column := by
  unfold chosenColumns at read
  split at read
  · rename_i none
    exact ⟨.inl (List.isEmpty_iff.mp none), by simp [Fields.get, read]⟩
  · rw [Dict.get?_collect_map] at read
    split at read
    · rename_i named
      exact ⟨.inr named, (Option.some.inj read).symm⟩
    · cases read

theorem get_chosenColumns (row : Fields) {column : String} (asked : ColumnAsked fields column) :
    Fields.get (chosenColumns fields row) column = Fields.get row column := by
  unfold chosenColumns
  split
  · rfl
  · rename_i some
    rcases asked with none | named
    · exact absurd (List.isEmpty_iff.mpr none) some
    · simp [Fields.get, Dict.get?_collect_map, named]

theorem get?_stripEmpty (distinct : (Dict.keys row).Nodup) {column : String} {v : Json} :
    Dict.get? (stripEmpty row) column = some v ↔ Dict.get? row column = some v ∧ ¬ Blank v := by
  have kept := Dict.get?_filter_values distinct
    (fun v => decide (v ≠ .null ∧ v ≠ .str "" ∧ v ≠ .arr [] ∧ v ≠ .obj [])) column
  unfold stripEmpty
  rw [kept, Option.filter_eq_some_iff]
  simp [Blank]

theorem shownRow_shows (distinct : (Dict.keys row).Nodup) : ShowsRow fields full row (shownRow fields full row) := by
  have chosen := nodup_chosenColumns fields distinct
  cases full with
  | true =>
    exact ⟨fun column asked _ => get_chosenColumns row asked, fun column v read => (get?_chosenColumns read).2,
      fun column v read => (get?_chosenColumns read).1, nofun⟩
  | false =>
    refine ⟨fun column asked filled => ?_, fun column v read => ?_, fun column v read => ?_, fun _ column v read => ?_⟩
    · have value := get_chosenColumns row asked
      have filled := filled.resolve_left nofun
      cases read : Dict.get? (chosenColumns fields row) column with
      | none =>
        have null : Fields.get row column = .null := by
          rw [← value]
          simp [Fields.get, read]
        exact absurd (.inl null) filled
      | some v =>
        have same : v = Fields.get row column := (get?_chosenColumns read).2
        have kept := (get?_stripEmpty chosen).mpr ⟨read, same ▸ filled⟩
        rw [← same]
        exact congrArg (Option.getD · Json.null) kept
    · exact (get?_chosenColumns ((get?_stripEmpty chosen).mp read).1).2
    · exact (get?_chosenColumns ((get?_stripEmpty chosen).mp read).1).1
    · exact ((get?_stripEmpty chosen).mp read).2

end Row

/-! ### A page -/

section Page
variable {fields : List String} {full : Bool}

/-- The rows of a page that is no longer than what is shown. -/
theorem shownRows_records (rows : List Fields) {cap : Nat} (fits : rows.length ≤ cap) :
    shownRows fields full cap (rows.map .obj) = rows.map fun row => .obj (shownRow fields full row) := by
  have chosen : selectFields fields (rows.map Json.obj) = rows.map fun row => .obj (chosenColumns fields row) := by
    unfold selectFields chosenColumns
    cases fields.isEmpty with
    | true => simp
    | false =>
      rw [if_neg (by simp), List.filterMap_map, show Json.asObj? ∘ Json.obj = some from rfl]
      simp
  unfold shownRows
  rw [chosen, show (0 : Int) = (0 : Nat) from rfl, slice_of_nat, List.drop_zero, List.take_of_length_le
    (by simpa using fits)]
  cases full with
  | true => simp [shownRow]
  | false => simp [shownRow]

theorem one_le_effectivePageSize (pageSize : Option Int) (full : Bool) : 1 ≤ effectivePageSize pageSize full := by
  unfold effectivePageSize
  exact Int.le_max_left _ _

theorem effectivePageSize_le (pageSize : Option Int) : effectivePageSize pageSize full ≤ maxPageSize := by
  unfold effectivePageSize
  exact max_le (by decide) (min_le_right _ _)

end Page

/-- The API serves the rows of a run or of a squid in pages of up to a hundred, and tells how many. -/
structure ServesRows {σ : Type} (m : Machine ServerCall ServerCall.Ans σ) (args : ResultsArgs) (rows : List Fields) :
    Prop where
  pages : ∀ st (number size : Nat), 1 ≤ number → 1 ≤ size → (size : Int) ≤ maxPageSize → ∃ payload,
    (m st (.read (.getResults (resultsQuery args.squidId args.runId args.taskId number (some size))))).1 =
      .ok (.obj payload) ∧
    resultRecords payload = (Pages.page size number rows).map .obj ∧
    Fields.get payload "total_pages" = .int (Pages.total size rows.length)

section Run
variable {σ : Type} {m : Machine ServerCall ServerCall.Ans σ} {st : σ} {args : ResultsArgs} {rows : List Fields}

/-- A page without the index of the tasks. -/
theorem run_getResultsImpl_false {payload : Fields} (named : given args.runId ∨ given args.squidId)
    (answered : (m st (.read (.getResults
      (resultsQuery args.squidId args.runId args.taskId args.page (some args.effectivePageSize))))).1 = .ok
        (.obj payload)) :
    ((getResultsImpl args false).run m st).1 = .ok (resultsPage args payload) := by
  have some : ¬ (!given args.runId && !given args.squidId) = true := by
    rcases named with named | named <;> simp [named]
  unfold getResultsImpl
  rw [run_settle]
  unfold getResultsBody getResults
  rw [if_neg some, Program.run_bind_ok (run_fetch answered)]
  simp only [Bool.not_false, Bool.or_true, if_true, Program.run_pure]
  rfl

/-- Whether or not the index of the tasks comes with it, a page says this of its rows. -/
theorem page_of_getResultsImpl (args : ResultsArgs) (index : Bool) {payload : Fields}
    (named : given args.runId ∨ given args.squidId)
    (answered : (m st (.read (.getResults
      (resultsQuery args.squidId args.runId args.taskId args.page (some args.effectivePageSize))))).1 = .ok
        (.obj payload)) :
    ∃ reply, ((getResultsImpl args index).run m st).1 = .ok reply ∧ SameBut taskIndexKeys
      (resultsPage args payload) reply := by
  have plain := run_getResultsImpl_false named answered
  cases index with
  | false => exact ⟨_, plain, fun _ _ => rfl⟩
  | true =>
    rcases indexed_getResultsImpl m st args with same | ⟨reply, more, told, indexed, but⟩
    · exact ⟨_, same.trans plain, fun _ _ => rfl⟩
    · cases plain.symm.trans told
      exact ⟨more, indexed, but⟩

theorem get_of_sameBut {reply more : Fields} (same : SameBut taskIndexKeys reply more) {key : String}
    (apart : key ∉ taskIndexKeys) : Fields.get more key = Fields.get reply key :=
  congrArg (Option.getD · Json.null) (same key apart)

end Run

/-- Page by page, whatever page size a caller asks for, the results are the rows there are: the pages up to
the total that each of them tells show every row once, in its order. -/
theorem pages_show_every_row {K : Type} [ScoreField K] (host : Host K) {σ : Type}
    {m : Machine ServerCall ServerCall.Ans σ} {args : ResultsArgs} {rows : List Fields} {access : AccessToken}
    (named : given args.runId ∨ given args.squidId) (serves : ServesRows m args rows)
    (distinct : ∀ row ∈ rows, (Dict.keys row).Nodup) (held : resultsReadScopes ⊆ expandGranted access.scopes)
    (linked : access.lobstrToken ≠ "") (toon : Bool) (now : Nat → Int) (states : Nat → σ) :
    ∃ (total : Nat) (pages : Nat → List Fields),
      (∀ number, 1 ≤ number → ∃ reply, outcome host m (states number) (now number) access
          (.getResults { args with page := number } toon) = .ok (some reply) ∧
        Fields.get reply.structured "results" = .arr ((pages number).map .obj) ∧
        Fields.get reply.structured "total_pages" = .int total) ∧
      (∀ number, (pages number).length ≤ args.effectivePageSize) ∧
      List.Forall₂ (ShowsRow args.fields args.full) rows ((List.range total).flatMap fun i => pages (i + 1)) := by
  obtain ⟨size, sized⟩ : ∃ size : Nat, args.effectivePageSize = size :=
    Int.eq_ofNat_of_zero_le (Int.le_trans (by decide) (one_le_effectivePageSize args.pageSize args.full))
  have positive : 1 ≤ size := by
    have := one_le_effectivePageSize args.pageSize args.full
    unfold ResultsArgs.effectivePageSize at sized
    omega
  have bounded : (size : Int) ≤ maxPageSize := sized ▸ effectivePageSize_le args.pageSize
  refine ⟨Pages.total size rows.length, fun number => (Pages.page size number rows).map
    (shownRow args.fields args.full),
    fun number first => ?_, fun number => ?_, ?_⟩
  · obtain ⟨payload, answered, records, total⟩ := serves.pages (states number) number size first positive bounded
    rw [← sized] at answered
    obtain ⟨reply, paged, same⟩ := page_of_getResultsImpl { args with page := number, maxRows := none }
      (access.grants (indexScopes args)) named answered
    refine ⟨render toon reply, ?_, ?_, ?_⟩
    · have may : (ToolCall.getResults { args with page := number } toon).scopes ⊆ expandGranted access.scopes := held
      rw [outcome_served host m _ (serve_held host (now number) may linked), ToolCall.body, run_always]
      exact congrArg (told (.getResults { args with page := number } toon)) (congrArg (Except.map some) paged)
    · refine (get_of_sameBut same (by simp [taskIndexKeys])).trans ?_
      have shown : shownRows args.fields args.full args.effectivePageSize (resultRecords payload) =
          (Pages.page size number rows).map fun row => .obj (shownRow args.fields args.full row) := by
        rw [sized, records]
        exact shownRows_records _ Pages.length_page_le
      rw [List.map_map]
      exact congrArg Json.arr shown
    · exact (get_of_sameBut same (by simp [taskIndexKeys])).trans total
  · rw [sized, List.length_map]
    exact_mod_cast Pages.length_page_le
  · rw [← List.map_flatMap, Pages.flatMap_total positive, List.forall₂_map_right_iff, List.forall₂_same]
    exact fun row held => shownRow_shows (distinct row held)

/-- An API that serves the results of one squid. -/
def pagedResultsApi (rows : List Fields) : Machine ServerCall ServerCall.Ans Unit := fun st op =>
  (match op with
    | .read (.getResults query) =>
      match Fields.get query "page", Fields.get query "page_size" with
      | .int number, .int size => .ok (.obj [
        ("data", .arr ((Pages.page size.toNat number.toNat rows).map .obj)),
        ("total_pages", .int (Pages.total size.toNat rows.length))])
      | _, _ => .error .typeError
    | .read _ | .call _ => .error .typeError
    | .now => (0 : Rat)
    | .sleep _ => (), st)

/-- The last row has no rating. -/
def threeRestaurants : List Fields := [
  [("name", .str "Da Enzo"), ("rating", .int 5)],
  [("name", .str "Septime"), ("rating", .int 0)],
  [("name", .str "Noma"), ("rating", .null)]]

def twoAtATime : ResultsArgs := { squidId := some "squid", pageSize := some 2, fields := ["name", "rating"] }

theorem servesRows_threeRestaurants : ServesRows (pagedResultsApi threeRestaurants) twoAtATime threeRestaurants where
  pages st number size _ positive _ := by
    have sent : (some (size : Int)).filter (· ≠ 0) = some (size : Int) := by
      rw [Option.filter_some, if_pos (by simp; omega)]
    unfold resultsQuery
    rw [sent]
    exact ⟨_, rfl, rfl, rfl⟩

theorem three_rows_in_pages_of_two : ∃ (total : Nat) (pages : Nat → List Fields),
    (∀ number : Nat, 1 ≤ number → ∃ reply, outcome plainHost (pagedResultsApi threeRestaurants) () 0
        (plainToken [resultsRead]) (.getResults { twoAtATime with page := number } false) = .ok (some reply) ∧
      Fields.get reply.structured "results" = .arr ((pages number).map .obj) ∧
      Fields.get reply.structured "total_pages" = .int total) ∧
    (∀ number, (pages number).length ≤ twoAtATime.effectivePageSize) ∧
    List.Forall₂ (ShowsRow twoAtATime.fields twoAtATime.full) threeRestaurants
      ((List.range total).flatMap fun i => pages (i + 1)) := by
  have held : resultsReadScopes ⊆ expandGranted (plainToken [resultsRead]).scopes := List.Subset.refl _
  exact pages_show_every_row plainHost (.inr rfl) servesRows_threeRestaurants (by decide) held (by decide) false
    (fun _ => 0) (fun _ => ())

end LobstrMcp
