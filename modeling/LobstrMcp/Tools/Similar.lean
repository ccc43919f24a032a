import LobstrMcp.Data.DictKeys
import LobstrMcp.Model.Search
import LobstrMcp.Run.Crawler
import Mathlib

/-!
What `search_scrapers` offers where nothing matches. With scores read as exact reals, a scraper scores exactly
when it shares a word with the query, so cutting the ranking off at the first score of nothing cuts off no scraper
that shares one.
-/

namespace LobstrMcp
open Interaction Tool

/-- What is used of `str.lower`: it goes word by word, once is enough, and lower case is left as it is. -/
structure Lowers (lower : String → String) : Prop where
  words : ∀ a b, lower (a ++ " " ++ b) = lower a ++ " " ++ lower b
  settled : ∀ s, lower (lower s) = lower s
  plain : ∀ s, (∀ c ∈ s.toList, isTokenChar c = true) → lower s = s

section Lower
variable (lower : String → String)

/-- The words of a query, each once. -/
def queryTerms (query : String) : List String := uniqueWords (tokenize lower query)

/-- The words of a crawler: those of its name, its description and its slug, and those its text implies. -/
def crawlerWords (crawler : Fields) : List String :=
  tokenize lower (printed crawler "name") ++ tokenize lower (printed crawler "description") ++
    tokenize lower (printed crawler "slug") ++ extraWords lower crawler

/-- A word of the query is one of the crawler's. -/
def Shares (query : String) (crawler : Fields) : Prop :=
  ∃ term ∈ queryTerms lower query, term ∈ crawlerWords lower crawler

instance (query : String) (crawler : Fields) : Decidable (Shares lower query crawler) :=
  inferInstanceAs (Decidable (∃ term ∈ _, _))

/-- The BM25 score of a crawler for a query, among the crawlers of a catalogue. -/
noncomputable def relevance (query : String) (crawlers : List Fields) (crawler : Fields) : ℝ :=
  Bm25.score Real.log bm25K1 bm25B (crawlers.map (crawlerTokens lower)) (crawlerTokens lower crawler)
    (queryTerms lower query)

/-- By score, then by lifetime runs, the higher first; then by name. -/
def RanksBefore (query : String) (crawlers : List Fields) (a b : Fields) : Prop :=
  relevance lower query crawlers b < relevance lower query crawlers a ∨
    relevance lower query crawlers a = relevance lower query crawlers b ∧
      ((totalRuns b).getD 0 < (totalRuns a).getD 0 ∨
        (totalRuns a).getD 0 = (totalRuns b).getD 0 ∧ (sortName a).getD "" ≤ (sortName b).getD "")

/-- The row of a crawler, with the words of the query that it has and those that it has not, each once. -/
structure RowOf (query : String) (crawler row : Fields) : Prop where
  summary : ∀ key, key ≠ "matched" → key ≠ "missing" → Fields.get row key = Fields.get (crawlerSummary crawler) key
  words : ∃ matched missing : List String, Fields.get row "matched" = .arr (matched.map .str) ∧
    Fields.get row "missing" = .arr (missing.map .str) ∧ matched ≠ [] ∧ (matched ++ missing).Nodup ∧
    (∀ term, term ∈ matched ↔ term ∈ tokenize lower query ∧ term ∈ crawlerWords lower crawler) ∧
    ∀ term, term ∈ missing ↔ term ∈ tokenize lower query ∧ term ∉ crawlerWords lower crawler

/-- The rows are those of the best five, or of all, of the crawlers that share a word, best first. -/
structure BestSimilar (query : String) (crawlers rows : List Fields) : Prop where
  ranked : ∃ ranked : List Fields, ranked.Perm (crawlers.filter fun c => decide (Shares lower query c)) ∧
    ranked.Pairwise (RanksBefore lower query crawlers) ∧ List.Forall₂ (RowOf lower query) (ranked.take 5) rows
  count : rows.length = min 5 (crawlers.filter fun c => decide (Shares lower query c)).length
  nothing : rows = [] → ∀ c ∈ crawlers, ¬ Shares lower query c

end Lower

/-! ### Words -/

section Words
variable {lower : String → String} {crawler : Fields} {t : String}

theorem mem_uniqueWords {words : List String} : t ∈ uniqueWords words ↔ t ∈ words := by
  unfold uniqueWords
  rw [Dict.mem_keys_collect]
  simp [Dict.keys]

theorem nodup_uniqueWords (words : List String) : (uniqueWords words).Nodup := Dict.nodup_keys_collect _

theorem tokenize_append (lowers : Lowers lower) (a b : String) :
    tokenize lower (a ++ " " ++ b) = tokenize lower a ++ tokenize lower b := by
  have apart : (lower a ++ " " ++ lower b).toList = (lower a).toList ++ ' ' :: (lower b).toList := by simp
  unfold tokenize
  rw [lowers.words, apart, Spans.spans_append (by decide), List.map_append, List.filter_append, List.filter_append]

theorem tokenize_settled (lowers : Lowers lower) (s : String) : tokenize lower (lower s) = tokenize lower s := by
  unfold tokenize
  rw [lowers.settled]

/-- A text is as good as its parts. -/
theorem mem_tokenize_intercalate (lowers : Lowers lower) (first : String) (rest : List String) :
    t ∈ tokenize lower (String.intercalate " " (first :: rest)) ↔
      t ∈ tokenize lower first ∨ ∃ part ∈ rest, t ∈ tokenize lower part := by
  induction rest generalizing first with
  | nil =>
    have alone : String.intercalate " " [first] = first := rfl
    simp [alone]
  | cons part rest ih =>
    have joined : String.intercalate " " (first :: part :: rest) =
        String.intercalate " " ((first ++ " " ++ part) :: rest) := rfl
    rw [joined, ih, tokenize_append lowers, List.mem_append, or_assoc]
    simp

/-- What is implied is a word as it stands. -/
theorem tokenize_extra (lowers : Lowers lower) {word : String} (extra : word ∈ extraWords lower crawler) :
    tokenize lower word = [word] := by
  have named : word = "linkedin" := by
    unfold extraWords at extra
    obtain ⟨implied, listed, rfl⟩ := List.mem_map.mp extra
    have member := List.mem_of_mem_filter listed
    simp only [impliedWords, List.mem_cons, List.not_mem_nil, or_false] at member
    rcases member with rfl | rfl <;> rfl
  subst named
  have letters : ∀ c ∈ "linkedin".toList, isTokenChar c = true := List.all_eq_true.mp (by decide +kernel)
  unfold tokenize
  rw [lowers.plain _ letters, Spans.spans_all letters (by simp)]
  decide

/-- The tokens of a crawler are its words. -/
theorem mem_crawlerTokens (lowers : Lowers lower) :
    t ∈ crawlerTokens lower crawler ↔ t ∈ crawlerWords lower crawler := by
  have extra : (∃ part ∈ extraWords lower crawler, t ∈ tokenize lower part) ↔ t ∈ extraWords lower crawler := by
    constructor
    · rintro ⟨part, member, within⟩
      rw [tokenize_extra lowers member, List.mem_singleton] at within
      exact within ▸ member
    · exact fun member => ⟨t, member, by simp [tokenize_extra lowers member]⟩
  unfold crawlerTokens searchBlob crawlerWords
  rw [mem_tokenize_intercalate lowers, extra, plainBlob, tokenize_settled lowers, tokenize_append lowers,
    tokenize_append lowers]
  simp only [List.mem_append]

end Words

/-! ### The ranking -/

section Ranking
variable {lower : String → String} {query : String} {crawlers : List Fields} {crawler : Fields}

/-- A crawler of a catalogue as it is ranked. -/
noncomputable def candidateOf (lower : String → String) (query : String) (crawlers : List Fields) (crawler : Fields) :
    Candidate ℝ where
  crawler
  tokens := crawlerTokens lower crawler
  score := relevance lower query crawlers crawler
  totalRuns := (totalRuns crawler).getD 0
  name := (sortName crawler).getD ""

/-- The numbers and names that crawlers are sorted by are there. -/
structure Sortable (crawler : Fields) : Prop where
  numeric : (totalRuns crawler).isSome
  named : (sortName crawler).isSome

theorem candidate?_of_sortable (sortable : Sortable crawler) : candidate? crawler (crawlerTokens lower crawler)
    (relevance lower query crawlers crawler) = some (candidateOf lower query crawlers crawler) := by
  obtain ⟨runs, numeric⟩ := Option.isSome_iff_exists.mp sortable.numeric
  obtain ⟨name, named⟩ := Option.isSome_iff_exists.mp sortable.named
  simp [candidate?, candidateOf, numeric, named]

theorem mapM_some_of {α β : Type} {f : α → Option β} {g : α → β} {xs : List α} (each : ∀ a ∈ xs, f a = some (g a)) :
    xs.mapM f = some (xs.map g) := by
  induction xs with
  | nil => rfl
  | cons a rest ih =>
    rw [List.mapM_cons, each a List.mem_cons_self, ih fun b member => each b (List.mem_cons_of_mem _ member)]
    rfl

theorem zip_scored {α β γ : Type} (f : α → β) (g : β → γ) (xs : List α) :
    xs.zip ((xs.map f).zip ((xs.map f).map g)) = xs.map fun a => (a, f a, g (f a)) := by
  induction xs with
  | nil => rfl
  | cons a rest ih => simpa using ih

/-- What is returned, once every crawler can be sorted: the rows of a loop over the crawlers, ranked. -/
theorem similarMatches_eq (sortable : ∀ c ∈ crawlers, Sortable c) (some' : queryTerms lower query ≠ [])
    (listed : crawlers ≠ []) : similarMatches lower Real.log query crawlers = some (Ranking.top
      (fun c => decide (0 < relevance lower query crawlers c))
      (fun c => similarRow (queryTerms lower query) c (crawlerTokens lower c)) similarCap
      (Ranking.rank (fun c => (candidateOf lower query crawlers c).sortKey) crawlers) []) := by
  have scores : bm25Scores Real.log (queryTerms lower query) (crawlers.map (crawlerTokens lower)) =
      (crawlers.map (crawlerTokens lower)).map fun tokens =>
        Bm25.score Real.log bm25K1 bm25B (crawlers.map (crawlerTokens lower)) tokens (queryTerms lower query) := by
    unfold bm25Scores
    rw [if_neg (by simp [some', listed])]
  have candidates : (crawlers.map fun c => (c, crawlerTokens lower c, relevance lower query crawlers c)).mapM
      (fun c => candidate? c.1 c.2.1 c.2.2) = some (crawlers.map (candidateOf lower query crawlers)) := by
    rw [List.mapM_map]
    refine mapM_some_of fun c member => ?_
    simp only [Function.comp_apply]
    exact candidate?_of_sortable (sortable c member)
  unfold similarMatches
  dsimp only
  rw [show uniqueWords (tokenize lower query) = queryTerms lower query from rfl,
    if_neg (by simp [some', listed]), scores, zip_scored]
  unfold relevance at candidates
  rw [candidates]
  show some (Ranking.top _ _ _ (Ranking.rank _ (crawlers.map _)) []) = _
  rw [Ranking.rank_map, Ranking.top_map]
  rfl

theorem sortKey_le_iff (a b : Fields) : (candidateOf lower query crawlers a).sortKey ≤
    (candidateOf lower query crawlers b).sortKey ↔ RanksBefore lower query crawlers a b := by
  unfold Candidate.sortKey candidateOf RanksBefore
  simp only [Prod.Lex.toLex_le_toLex, neg_lt_neg_iff, neg_inj]

theorem RanksBefore.score_le {a b : Fields} (before : RanksBefore lower query crawlers a b) :
    relevance lower query crawlers b ≤ relevance lower query crawlers a := by
  rcases before with less | ⟨same, _⟩
  · exact less.le
  · exact same.ge

/-- A crawler is scored exactly when it shares a word: the constants of the ranking let no shared word go for nothing. -/
theorem relevance_pos_iff (lowers : Lowers lower) (c : Fields) :
    0 < relevance lower query crawlers c ↔ Shares lower query c := by
  have positive : ∀ x : ℝ, 0 < x → 0 < Real.log (1 + x) := fun x some' => Real.log_pos (by linarith)
  have scored : 0 < relevance lower query crawlers c ↔ ∃ term ∈ queryTerms lower query, term ∈ crawlerTokens lower c :=
    Bm25.score_pos_iff positive (by norm_num [bm25K1]) (by norm_num [bm25B]) (by norm_num [bm25B]) _ _
  rw [scored]
  unfold Shares
  simp only [mem_crawlerTokens lowers]

/-! ### The rows -/

theorem rowOf_similarRow (lowers : Lowers lower) (shares : Shares lower query crawler) :
    RowOf lower query crawler (similarRow (queryTerms lower query) crawler (crawlerTokens lower crawler)) := by
  constructor
  · intro key other other'
    simp [similarRow, Ne.symm other, Ne.symm other']
  · refine ⟨(queryTerms lower query).filter (· ∈ crawlerTokens lower crawler),
      (queryTerms lower query).filter (· ∉ crawlerTokens lower crawler), by simp [similarRow], by simp [similarRow],
      ?_, ?_, ?_, ?_⟩
    · obtain ⟨term, asked, had⟩ := shares
      refine List.ne_nil_of_mem (List.mem_filter.mpr ⟨asked, ?_⟩)
      simpa using (mem_crawlerTokens lowers).mpr had
    · have split := List.filter_append_perm (fun term => decide (term ∈ crawlerTokens lower crawler))
        (queryTerms lower query)
      have nodup := split.nodup_iff.mpr (nodup_uniqueWords _)
      simpa using nodup
    · intro term
      simp [queryTerms, mem_uniqueWords, mem_crawlerTokens lowers]
    · intro term
      simp [queryTerms, mem_uniqueWords, mem_crawlerTokens lowers]

theorem queryTerms_eq_nil (none' : queryTerms lower query = []) (c : Fields) : ¬ Shares lower query c := by
  rintro ⟨term, asked, _⟩
  rw [none'] at asked
  cases asked

/-- With nothing to look for, or nowhere, there are no partial matches. -/
theorem similarMatches_nothing (empty : queryTerms lower query = [] ∨ crawlers = []) :
    similarMatches lower Real.log query crawlers = some [] ∧ ∀ c ∈ crawlers, ¬ Shares lower query c := by
  constructor
  · unfold similarMatches
    dsimp only
    rw [show uniqueWords (tokenize lower query) = queryTerms lower query from rfl, if_pos]
    rcases empty with none' | rfl
    · simp [none']
    · simp
  · rcases empty with none' | rfl
    · exact fun c _ => queryTerms_eq_nil none' c
    · exact fun c absurd => by cases absurd

theorem similarMatches_best (lowers : Lowers lower)
    (sortable : ∀ c ∈ crawlers, Sortable c) : ∃ rows, similarMatches lower Real.log query crawlers = some rows ∧
      BestSimilar lower query crawlers rows := by
  by_cases empty : queryTerms lower query = [] ∨ crawlers = []
  · obtain ⟨nothing, none'⟩ := similarMatches_nothing empty
    have nobody : (crawlers.filter fun c => decide (Shares lower query c)) = [] := by
      rw [List.filter_eq_nil_iff]
      intro c member
      simpa using none' c member
    exact ⟨[], nothing, ⟨[], by rw [nobody], List.Pairwise.nil, .nil⟩, by rw [nobody]; rfl, fun _ => none'⟩
  obtain ⟨some', listed⟩ := not_or.mp empty
  have scored : (fun c => decide (0 < relevance lower query crawlers c)) = fun c => decide (Shares lower query c) := by
    funext c
    exact decide_eq_decide.mpr (relevance_pos_iff lowers c)
  have down : ∀ a b, (candidateOf lower query crawlers a).sortKey ≤ (candidateOf lower query crawlers b).sortKey →
      decide (0 < relevance lower query crawlers b) = true →
      decide (0 < relevance lower query crawlers a) = true := by
    intro a b le pass
    have less := ((sortKey_le_iff a b).mp le).score_le
    rw [decide_eq_true_iff] at pass ⊢
    exact pass.trans_le less
  have enough : 0 < similarCap := by decide
  obtain ⟨ranked, perm, sorted, rows⟩ :=
    Ranking.top_rank (fun c => similarRow (queryTerms lower query) c (crawlerTokens lower c)) down enough crawlers
  refine ⟨_, similarMatches_eq sortable some' listed, ?_⟩
  rw [rows]
  rw [scored] at perm
  have length := perm.length_eq
  refine ⟨⟨ranked, perm, sorted.imp fun le => (sortKey_le_iff _ _).mp le, ?_⟩, ?_, ?_⟩
  · rw [List.forall₂_map_right_iff]
    refine List.forall₂_same.mpr ?_
    intro c member
    have passed := List.mem_filter.mp (perm.mem_iff.mp (List.mem_of_mem_take member))
    exact rowOf_similarRow lowers (by simpa using passed.2)
  · rw [List.length_map, List.length_take, length]
    rfl
  · intro none' c member shares
    have found : c ∈ ranked := perm.mem_iff.mpr (List.mem_filter.mpr ⟨member, by simpa using shares⟩)
    have cut : ranked.take similarCap = [] := List.map_eq_nil_iff.mp none'
    rw [List.take_eq_nil_iff] at cut
    rcases cut with absurd | absurd
    · cases absurd
    · rw [absurd] at found
      cases found

end Ranking

/-! ### The tool -/

section Search
variable {lower : String → String} {query : String} {crawlers rows : List Fields} {σ : Type} {m : Machine Call Answer σ} {st : σ}

/-- Where no crawler has all the words, the partial matches are in the reply. -/
theorem run_searchScrapers (answers : (m st .listCrawlers).1 = .ok crawlers)
    (none' : crawlers.filter (isHit lower (queryWords lower query)) = [])
    (similar : similarMatches lower Real.log query crawlers = some rows) :
    ∃ reply, ((searchScrapersImpl lower Real.log query false).run m st).1 = .ok reply ∧
      Fields.get reply "similar" = .arr (rows.map .obj) := by
  let out : Fields := [("count", .int 0), ("total_available", .int crawlers.length), ("results", .arr [])]
  refine ⟨Dict.set (Dict.set out "similar" (.arr (rows.map .obj))) "hint" (.str (noExactMatchHint query rows)), ?_, ?_⟩
  · unfold searchScrapersImpl
    rw [structured_run]
    unfold searchScrapers listCrawlers
    rw [Program.run_bind_ok (run_send answers)]
    simp only [Bool.false_eq_true, if_false, none', List.take_nil, similar]
    rfl
  · simp [out]

end Search

/-- With no exact match, the partial matches are the best five, or all, of the scrapers that share a word. -/
theorem similar_are_best {lower : String → String} (lowers : Lowers lower) {σ : Type}
    (m : Machine Call Answer σ) (st : σ)
    (query : String) (crawlers : List Fields) (answers : (m st .listCrawlers).1 = .ok crawlers)
    (sortable : ∀ c ∈ crawlers, Sortable c)
    (noExactMatch : ∀ c ∈ crawlers, isHit lower (queryWords lower query) c = false) :
    ∃ reply rows, ((searchScrapersImpl lower Real.log query false).run m st).1 = .ok reply ∧
      Fields.get reply "similar" = .arr (rows.map .obj) ∧ BestSimilar lower query crawlers rows := by
  have none' : crawlers.filter (isHit lower (queryWords lower query)) = [] := by
    rw [List.filter_eq_nil_iff]
    intro c member
    simp [noExactMatch c member]
  obtain ⟨rows, similar, best⟩ := similarMatches_best lowers sortable
  obtain ⟨reply, ran, shown⟩ := run_searchScrapers answers none' similar
  exact ⟨reply, rows, ran, shown, best⟩

/-! ### A catalogue -/

theorem toLower_token {c : Char} (token : isTokenChar c = true) : c.toLower = c := by
  refine Char.toLower_eq_of_not_isUpper fun upper => ?_
  have a : 'a'.val.toNat = 97 := rfl
  have z : 'z'.val.toNat = 122 := rfl
  have zero : '0'.val.toNat = 48 := rfl
  have nine : '9'.val.toNat = 57 := rfl
  have capital : 65 ≤ c.val.toNat ∧ c.val.toNat ≤ 90 := by simpa [Char.isUpper, UInt32.le_iff_toNat_le] using upper
  unfold isTokenChar at token
  simp only [Char.le_def, UInt32.le_iff_toNat_le, decide_eq_true_eq, a, z, zero, nine] at token
  omega

theorem lowers_asciiLower : Lowers asciiLower where
  words a b := by
    unfold asciiLower
    simp [← String.toList_inj]
  settled s := by
    have twice : Char.toLower ∘ Char.toLower = Char.toLower := funext Char.toLower_toLower_eq_toLower
    unfold asciiLower
    rw [String.toList_ofList, List.map_map, twice]
  plain s tokens := by
    unfold asciiLower
    have same : s.toList.map Char.toLower = s.toList :=
      List.map_congr_left (g := id) (fun c member => toLower_token (tokens c member)) |>.trans (List.map_id _)
    rw [same, String.ofList_toList]

def redditScraper : Fields := [("id", .str "a"), ("name", .str "Reddit Scraper"), ("slug", .str "reddit-scraper"),
  ("description", .str "reddit posts"), ("total_runs", .int 1)]

def facebookScraper : Fields := [("id", .str "b"), ("name", .str "Facebook Posts Scraper"),
  ("slug", .str "facebook-posts"), ("description", .str "facebook posts"), ("total_runs", .int 100000)]

/-- No text has the word `extra`, so there is no exact match. -/
theorem reddit_and_facebook_are_similar : ∃ reply rows,
    ((searchScrapersImpl asciiLower Real.log "posts extra" false).run
      (steadyApi [] (.ok [redditScraper, facebookScraper]) fun _ => { input := [], fields := [] }) ()).1 = .ok reply ∧
    Fields.get reply "similar" = .arr (rows.map .obj) ∧
    BestSimilar asciiLower "posts extra" [redditScraper, facebookScraper] rows := by
  refine similar_are_best lowers_asciiLower _ () _ _ rfl ?_ (by decide +kernel)
  intro c member
  simp only [List.mem_cons, List.not_mem_nil, or_false] at member
  rcases member with rfl | rfl
  · exact ⟨by decide, by decide⟩
  · exact ⟨by decide, by decide⟩

end LobstrMcp
