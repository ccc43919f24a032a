import LobstrMcp.Data.Pages
import LobstrMcp.Model.Scrapers
import LobstrMcp.Run.Crawler
import Mathlib.Tactic.Ring

/-!
The pages that `list_my_scrapers` cuts out of the squids its crawler filter keeps. From one squid a
page on they are the pages of that list; a page of no squids at all divides by zero.
-/

namespace LobstrMcp
open Interaction Tool

/-! ### The page -/

section Page
variable {matched : List Fields} {page pageSize : Int} {size number : Nat}

theorem slice_of_nat {α : Type} (xs : List α) (start stop : Nat) :
    slice xs start stop = (xs.drop start).take (stop - start) := by
  have index : ∀ i : Nat, sliceIndex xs.length i = min i xs.length := by
    intro i
    simp [sliceIndex]
  unfold slice
  rw [index, index, ← List.take_eq_take_min, List.drop_take]
  rcases Nat.le_total start xs.length with inside | beyond
  · rw [Nat.min_eq_left inside]
  · rw [Nat.min_eq_right beyond, List.drop_of_length_le beyond, List.drop_length]
    simp

/-- The rows of a page that there is. -/
theorem slice_page (xs : List Fields) (positive : 1 ≤ number) :
    slice xs ((number - 1 : Int) * size) ((number - 1 : Int) * size + size) = Pages.page size number xs := by
  obtain ⟨before, rfl⟩ : ∃ before, number = before + 1 := ⟨number - 1, by omega⟩
  have start : ((before + 1 : Nat) - 1 : Int) * size = (before * size : Nat) := by push_cast; ring
  have stop : ((before + 1 : Nat) - 1 : Int) * size + size = (before * size + size : Nat) := by push_cast; ring
  rw [stop, start, slice_of_nat]
  simp [Pages.page]

theorem floorDiv_total (positive : 1 ≤ size) (items : Nat) :
    floorDiv ((items : Int) + size - 1) size = .ok (((items + size - 1) / size : Nat) : Int) := by
  have some : (size : Int) ≠ 0 := by omega
  unfold floorDiv
  rw [if_neg some, show (items : Int) + size - 1 = ((items + size - 1 : Nat) : Int) by omega,
    Int.fdiv_eq_ediv_of_nonneg _ (by omega)]
  rfl

/-- Whatever the page, it is there unless it holds no squids. -/
theorem filteredPage_ok (some : pageSize ≠ 0) : ∃ reply, filteredPage matched page pageSize = .ok reply := by
  unfold filteredPage floorDiv
  dsimp only
  rw [if_neg some]
  exact ⟨_, rfl⟩

theorem filteredPage_zero : filteredPage matched page 0 = .error .zeroDivisionError := rfl

/-- A page, by number and size. -/
theorem filteredPage_eq (matched : List Fields) (first : 1 ≤ number) (positive : 1 ≤ size) :
    filteredPage matched number size = .ok (squidPage ((Pages.page size number matched).map .obj) (.int number)
      (.int matched.length) (.int (Pages.total size matched.length))
      (if number < Pages.total size matched.length then .int (number + 1) else .null)) := by
  have total : max 1 (((matched.length + size - 1) / size : Nat) : Int) = (Pages.total size matched.length : Nat) := by
    unfold Pages.total
    omega
  unfold filteredPage
  dsimp only
  rw [floorDiv_total positive, slice_page matched first]
  show Except.ok _ = _
  simp only [total, Nat.cast_lt]

/-- The rows a reply shows. -/
def rowsIn (reply : Fields) : List Json := ((Fields.get reply "scrapers").asArr?).getD []

theorem rowsIn_squidPage (rows : List Fields) (page total totalPages next : Json) :
    rowsIn (squidPage (rows.map .obj) page total totalPages next) = rows.map fun s => .obj (squidSummary s) := by
  have shown : (rows.map Json.obj).filterMap (fun s => s.asObj?.map fun s => Json.obj (squidSummary s)) =
      rows.map fun s => .obj (squidSummary s) := by
    rw [List.filterMap_map, ← List.filterMap_eq_map]
    rfl
  simp [rowsIn, squidPage, shown]

theorem next_squidPage (rows : List Json) (page total totalPages next : Json) :
    Fields.get (squidPage rows page total totalPages next) "next" = next := by simp [squidPage]

theorem totalPages_squidPage (rows : List Json) (page total totalPages next : Json) :
    Fields.get (squidPage rows page total totalPages next) "total_pages" = totalPages := by simp [squidPage]

end Page

/-- The pages of a size up to the last one are the matching squids, in order and each once; no page
holds more, and each but the last names the next. -/
def PagesExactly (outcome : Int → Except Exc Fields) (matched : List Fields) (size : Nat) : Prop :=
  ∃ total : Nat, 1 ≤ total ∧ ∃ reply : Nat → Fields,
    (∀ number : Nat, 1 ≤ number → number ≤ total → outcome number = .ok (reply number) ∧
      Fields.get (reply number) "total_pages" = .int total ∧ (rowsIn (reply number)).length ≤ size ∧
      (Fields.get (reply number) "next" = .null ↔ number = total) ∧
      (number < total → Fields.get (reply number) "next" = .int (number + 1))) ∧
    ((List.range total).flatMap fun i => rowsIn (reply (i + 1))) = matched.map fun s => .obj (squidSummary s)

theorem pagesExactly_filteredPage (matched : List Fields) {size : Nat} (positive : 1 ≤ size) :
    PagesExactly (fun page => filteredPage matched page size) matched size := by
  refine ⟨Pages.total size matched.length, Pages.one_le_total _ _, _,
    fun number first last => ⟨filteredPage_eq matched first positive, ?_⟩, ?_⟩
  · rw [totalPages_squidPage, next_squidPage, rowsIn_squidPage, List.length_map]
    refine ⟨rfl, Pages.length_page_le, ?_, fun before => if_pos before⟩
    constructor
    · intro none
      split at none
      · cases none
      · omega
    · rintro rfl
      exact if_neg (lt_irrefl _)
  · simp only [rowsIn_squidPage]
    rw [← List.map_flatMap, Pages.flatMap_total positive]

/-! ### The call -/

section Call
variable {σ : Type} {m : Machine Call Answer σ} {st : σ} {lower : String → String} {crawler : String}
  {name : Option String} {matched : List Fields}

/-- What the crawler filter keeps of the squids that are read. -/
def Filters (lower : String → String) (m : Machine Call Answer σ) (st : σ) (crawler : String) (name : Option String)
    (matched : List Fields) : Prop :=
  ∃ id w squids, (resolveCrawlerId lower (.str crawler)).run m st = (.ok id, w) ∧
    (m w .listSquids).1 = .ok squids ∧ matchedSquids lower id crawler name squids = some matched

theorem settle_raised_filteredPage (page pageSize : Int) :
    settle none ((filteredPage matched page pageSize).mapError Exit.raised) = filteredPage matched page pageSize := by
  by_cases some : pageSize = 0
  · subst some
    rfl
  · obtain ⟨reply, ok⟩ : ∃ reply, filteredPage matched page pageSize = .ok reply := filteredPage_ok some
    rw [ok]
    rfl

theorem run_listMyScrapersImpl (given : crawler ≠ "") (filters : Filters lower m st crawler name matched)
    (page pageSize : Int) :
    ((listMyScrapersImpl lower name (some crawler) page pageSize).run m st).1 = filteredPage matched page pageSize := by
  obtain ⟨id, w, squids, resolved, listed, kept⟩ := filters
  have asked : (Option.some crawler).filter (· ≠ "") = some crawler := by simp [given]
  rw [listMyScrapersImpl, structured_run, listMyScrapers, asked]
  dsimp only
  rw [Program.run_bind_ok resolved]
  unfold listSquids
  rw [Program.run_bind_ok (run_send listed)]
  simp only [kept]
  rw [Program.run_ofExcept, settle_raised_filteredPage]

end Call

/-- With a crawler filter a page is served, and the pages of its size are exact, if and only if it is
not a page of no squids. -/
theorem filtered_pages_iff {σ : Type} {m : Machine Call Answer σ} {st : σ} (lower : String → String) {crawler : String}
    {name : Option String} {matched : List Fields} (given : crawler ≠ "")
    (filters : Filters lower m st crawler name matched) (page pageSize : Int) :
    ((∃ reply, ((listMyScrapersImpl lower name (some crawler) page pageSize).run m st).1 = .ok reply) ∧
      ∀ size : Nat, pageSize = size → 1 ≤ size → PagesExactly (fun number =>
        ((listMyScrapersImpl lower name (some crawler) number pageSize).run m st).1) matched size) ↔ pageSize ≠ 0 := by
  simp only [run_listMyScrapersImpl given filters]
  constructor
  · rintro ⟨⟨reply, served⟩, -⟩ rfl
    rw [filteredPage_zero] at served
    cases served
  · intro some
    refine ⟨filteredPage_ok some, ?_⟩
    rintro size rfl positive
    exact pagesExactly_filteredPage matched positive

/-- An API that lists these squids, and knows the crawlers by their ids alone. -/
def squidsApi (squids : List Fields) : Machine Call Answer Unit
  | _, .listCrawlers => (.ok [], ())
  | _, .listSquids => (.ok squids, ())
  | _, _ => (.error (.api (.make 404 none none)), ())

/-- Three squids of one crawler. -/
def threeSquids : List Fields :=
  ["a", "b", "c"].map fun id => [("id", .str id), ("crawler", .str "maps"), ("crawler_name", .null)]

theorem filters_threeSquids : Filters id (squidsApi threeSquids) () "maps" none threeSquids :=
  ⟨.str "maps", (), threeSquids, rfl, rfl, by decide +kernel⟩

theorem three_squids_in_pages_of_two : PagesExactly (fun number =>
    ((listMyScrapersImpl id none (some "maps") number 2).run (squidsApi threeSquids) ()).1) threeSquids 2 :=
  ((filtered_pages_iff id (by decide) filters_threeSquids 1 2).mpr (by decide)).2 2 rfl (by decide)

/-- A page of no squids divides by zero. -/
theorem page_of_none_divides_by_zero :
    ((listMyScrapersImpl id none (some "maps") 1 0).run (squidsApi threeSquids) ()).1 = .error .zeroDivisionError :=
  run_listMyScrapersImpl (by decide) filters_threeSquids 1 0

end LobstrMcp
