import LobstrMcp.Model.Server
import LobstrMcp.Tools.Similar

/-!
The two ways to search the catalogue. A full search lists every scraper, those with all the words of the query
before the others; a short one shows the start of that list, and says whether more of those are to come.
-/

namespace LobstrMcp
open Interaction Tool

/-- What a search lists. -/
def listed (reply : Fields) : List Json := ((Fields.get reply "results").asArr?).getD []

/-- A crawler, as a search lists it. -/
def crawlerRow (crawler : Fields) : Json := .obj (crawlerSummary crawler)

section Search
variable {lower : String → String} {K : Type} [ScoreField K] {log : K → K} {query : String}
  {crawlers : List Fields} {σ : Type} {m : Machine Call Answer σ} {st : σ}

/-- A full search lists the hits first, and then the rest, each in the order of the catalogue; a blank query hits
all, and lists them as they are. -/
theorem ranked_hits (words : List String) (crawlers : List Fields) : ∃ rest,
    Ranking.rank (fun c => if !words.isEmpty && isHit lower words c then 0 else 1 : Fields → ℕ) crawlers =
      crawlers.filter (isHit lower words) ++ rest := by
  rw [Ranking.rank_flag]
  cases words with
  | nil =>
    refine ⟨[], ?_⟩
    have all : crawlers.filter (isHit lower []) = crawlers := List.filter_eq_self.mpr fun _ _ => rfl
    rw [all]
    simp
  | cons word words => exact ⟨_, rfl⟩

/-- A full search of a catalogue. -/
theorem run_fullSearch (answers : (m st .listCrawlers).1 = .ok crawlers) : ∃ full,
    ((searchScrapersImpl lower log query true).run m st).1 = .ok full ∧
      listed full = (Ranking.rank (fun c => if !(queryWords lower query).isEmpty && isHit lower
        (queryWords lower query) c
        then 0 else 1 : Fields → ℕ) crawlers).map crawlerRow := by
  have ran : ((searchScrapersImpl lower log query true).run m st).1 =
      settle none (((searchScrapers lower log query true).run m st).1) := structured_run _ _ _ _
  unfold searchScrapers listCrawlers at ran
  rw [Program.run_bind_ok (run_send answers), if_pos rfl] at ran
  exact ⟨_, ran, rfl⟩

/-- What a short search says of the crawlers that have all the words. -/
structure ShowsHits (hits : List Fields) (short : Fields) : Prop where
  shown : listed short = (hits.take 10).map crawlerRow
  truncated : Fields.get short "truncated" = .bool true ↔ 10 < hits.length
  similar : hits ≠ [] → Fields.get short "similar" = .arr []

theorem run_shortSearch {short : Fields} (answers : (m st .listCrawlers).1 = .ok crawlers)
    (found : ((searchScrapersImpl lower log query false).run m st).1 = .ok short) :
    ShowsHits (crawlers.filter (isHit lower (queryWords lower query))) short := by
  unfold searchScrapersImpl at found
  rw [structured_run] at found
  unfold searchScrapers listCrawlers at found
  rw [Program.run_bind_ok (run_send answers), if_neg (by decide)] at found
  generalize crawlers.filter (isHit lower (queryWords lower query)) = hits at found ⊢
  dsimp only at found
  split at found
  · -- no crawler has them all
    rename_i none'
    obtain rfl : hits = [] := by
      cases hits with
      | nil => rfl
      | cons c rest => cases none'
    cases similar : similarMatches lower log query crawlers with
    | none =>
      rw [similar] at found
      cases found
    | some rows =>
      rw [similar] at found
      cases found
      exact ⟨by simp [listed], by simp, fun absurd => (absurd rfl).elim⟩
  · split at found
    · rename_i more
      cases found
      have cut : 10 < hits.length := by simpa [searchCap] using more
      exact ⟨by simp [listed, searchCap]; rfl, by simp [cut], fun _ => by simp⟩
    · rename_i all
      cases found
      have whole : ¬ 10 < hits.length := by simpa [searchCap] using all
      exact ⟨by simp [listed, searchCap]; rfl, by simp [whole], fun _ => by simp⟩

/-- A full search lists every scraper of the catalogue once, the hits first; a short one lists the first ten of
these, and is cut off exactly when the full list goes on with another hit. -/
structure StartsFull (hits crawlers : List Fields) (short full : Fields) : Prop where
  all : (listed full).Perm (crawlers.map crawlerRow)
  first : hits.map crawlerRow <+: listed full
  start : listed short = (listed full).take (min 10 hits.length)
  truncated : Fields.get short "truncated" = .bool true ↔ 10 < hits.length

theorem short_searches_start_the_full_one {short : Fields} (answers : (m st .listCrawlers).1 = .ok crawlers)
    (found : ((searchScrapersImpl lower log query false).run m st).1 = .ok short) :
    ∃ full, ((searchScrapersImpl lower log query true).run m st).1 = .ok full ∧
      StartsFull (crawlers.filter (isHit lower (queryWords lower query))) crawlers short full := by
  obtain ⟨full, ran, ranked⟩ : ∃ full, ((searchScrapersImpl lower log query true).run m st).1 = .ok full ∧ _ :=
    run_fullSearch answers
  have shows := run_shortSearch answers found
  obtain ⟨rest, split⟩ := @ranked_hits lower (queryWords lower query) crawlers
  have perm : (listed full).Perm (crawlers.map crawlerRow) := by
    rw [ranked]
    exact (Ranking.rank_perm _ crawlers).map crawlerRow
  rw [split, List.map_append] at ranked
  generalize crawlers.filter (isHit lower (queryWords lower query)) = hits at *
  refine ⟨full, ran, perm, ?_, ?_, shows.truncated⟩
  · rw [ranked]
    exact List.prefix_append _ _
  · rw [shows.shown, ranked, List.take_append_of_le_length (by simp)]
    simp [List.map_take]

end Search

/-- A search of two scrapers for one of them. -/
theorem a_short_search_starts_the_full_one : ∃ short full,
    ((searchScrapersImpl asciiLower (id : ℚ → ℚ) "reddit" false).run
      (steadyApi [] (.ok [facebookScraper, redditScraper]) fun _ => { input := [], fields := [] }) ()).1 = .ok short ∧
    ((searchScrapersImpl asciiLower (id : ℚ → ℚ) "reddit" true).run
      (steadyApi [] (.ok [facebookScraper, redditScraper]) fun _ => { input := [], fields := [] }) ()).1 = .ok full ∧
    StartsFull [redditScraper] [facebookScraper, redditScraper] short full := by
  have answered : ((searchScrapersImpl asciiLower (id : ℚ → ℚ) "reddit" false).run (steadyApi []
      (.ok [facebookScraper, redditScraper]) fun _ => { input := [], fields := [] }) ()).1.toOption.isSome = true := by
    decide +kernel
  have hits : [facebookScraper, redditScraper].filter (isHit asciiLower (queryWords asciiLower "reddit")) =
    [redditScraper] := by
    decide +kernel
  cases found : ((searchScrapersImpl asciiLower (id : ℚ → ℚ) "reddit" false).run (steadyApi []
      (.ok [facebookScraper, redditScraper]) fun _ => { input := [], fields := [] }) ()).1 with
  | error e =>
    rw [found] at answered
    cases answered
  | ok short =>
    obtain ⟨full, ran, starts⟩ := short_searches_start_the_full_one rfl found
    exact ⟨short, full, rfl, ran, hits ▸ starts⟩

end LobstrMcp
