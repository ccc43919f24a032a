import LobstrMcp.Data.Bm25
import LobstrMcp.Data.Ranking
import LobstrMcp.Data.Spans
import LobstrMcp.Model.RunScraper
import LobstrMcp.Model.Scrapers
import Mathlib.Algebra.Order.Field.Rat
import Mathlib.Data.Prod.Lex
import Mathlib.Data.String.Basic

/-!
`tools/scrapers.py`: searching the catalogue. A scraper is a result when every word of the query is in its text;
where none is, those that share a word with the query are ranked. Scores are taken in any ordered field, with a
logarithm; what `str.lower` makes of a letter is up to `lower`.
-/

namespace LobstrMcp
open Interaction Tool

/-- `_summary` -/
def crawlerSummary (crawler : Fields) : Fields := [
  ("id", Fields.get crawler "id"),
  ("name", Fields.get crawler "name"),
  ("slug", Fields.get crawler "slug"),
  ("description", (Dict.get? crawler "description").getD (.str "")),
  ("credits_per_row", creditsJson (resolveCreditRate (Fields.get crawler "credits_per_row"))),
  ("email_verification_credits", creditsJson (resolveCreditRate (Fields.get crawler "credits_per_email"))),
  ("is_premium", Fields.get crawler "is_premium"),
  ("is_available", Fields.get crawler "is_available")]

def searchCap : Nat := 10

def similarCap : Nat := 5

def stopwords : List String := [
  "a", "an", "and", "or", "of", "to", "in", "on", "for", "with", "by",
  "from", "at", "as", "is", "are", "be", "this", "that", "it", "the"]

def bm25K1 : Rat := 3 / 2

def bm25B : Rat := 3 / 4

/-- `[a-z0-9]` -/
def isTokenChar (c : Char) : Bool := ('a' ≤ c ∧ c ≤ 'z') ∨ ('0' ≤ c ∧ c ≤ '9')

def impliedWords : List (String × String) := [("sales navigator", "linkedin"), ("sales-nav", "linkedin")]

def wordVariants (token : String) : List String :=
  let ends (suffix : String) : Bool := suffix.toList <:+ token.toList
  let shortened (n : Nat) : String := String.ofList (token.toList.take (token.toList.length - n))
  [token] ++ (if 4 < token.toList.length && ends "es" then [shortened 2] else []) ++
    (if 3 < token.toList.length && ends "s" then [shortened 1] else [])

/-- `f"{c.get(key, '')}"` -/
def printed (crawler : Fields) (key : String) : String := ((Dict.get? crawler key).getD (.str "")).text

/-- `list(dict.fromkeys(words))` -/
def uniqueWords (words : List String) : List String := Dict.keys (Dict.collect (words.map fun word => (word, ())))

/-- `crawler.get("total_runs") or 0`, none where it cannot be negated. -/
def totalRuns (crawler : Fields) : Option Rat :=
  match (Fields.get crawler "total_runs").orElse (.int 0) with
  | .bool b => some (if b then 1 else 0)
  | v => number? v

/-- The name a crawler is sorted by. How names that are no strings compare is left out: they have no place. -/
def sortName (crawler : Fields) : Option String :=
  (((Fields.get crawler "name").orElse (Fields.get crawler "id")).orElse (.str "")).asStr?

section Lower
variable (lower : String → String)

def tokenize (text : String) : List String :=
  (((Spans.spans isTokenChar (lower text).toList).map String.ofList).filter fun t => t ∉ stopwords).filter
    fun t => 1 < t.toList.length

/-- The blob before the implied words. -/
def plainBlob (crawler : Fields) : String :=
  lower (printed crawler "name" ++ " " ++ printed crawler "description" ++ " " ++ printed crawler "slug")

/-- `extra`: the words that the text implies and does not have. -/
def extraWords (crawler : Fields) : List String :=
  (impliedWords.filter fun implied =>
    within implied.1 (plainBlob lower crawler) && !within implied.2 (plainBlob lower crawler)).map (·.2)

def searchBlob (crawler : Fields) : String :=
  String.intercalate " " (plainBlob lower crawler :: extraWords lower crawler)

def crawlerTokens (crawler : Fields) : List String := tokenize lower (searchBlob lower crawler)

section Scores
variable {K : Type} [Field K] [LinearOrder K] (log : K → K)

def bm25Scores (queryTokens : List String) (docsTokens : List (List String)) : List K :=
  if docsTokens.isEmpty || queryTokens.isEmpty then docsTokens.map fun _ => 0 else
  docsTokens.map fun tokens => Bm25.score log bm25K1 bm25B docsTokens tokens queryTokens

/-- A crawler in the ranking, with what it is sorted by. -/
structure Candidate (K : Type) where
  crawler : Fields
  tokens : List String
  score : K
  totalRuns : Rat
  name : String

omit [Field K] [LinearOrder K] in
/-- `sort_key` computed for a crawler; none where that raises. -/
def candidate? (crawler : Fields) (tokens : List String) (score : K) : Option (Candidate K) := do
  let runs ← totalRuns crawler
  let name ← sortName crawler
  pure { crawler, tokens, score, totalRuns := runs, name }

def Candidate.sortKey (c : Candidate K) : K ×ₗ Rat ×ₗ String := toLex (-c.score, toLex (-c.totalRuns, c.name))

/-- A row of `similar`: the summary, and the words of the query that were found and those that were not. -/
def similarRow (terms : List String) (crawler : Fields) (tokens : List String) : Fields :=
  let matched := terms.filter (· ∈ tokens)
  let missing := terms.filter (· ∉ tokens)
  Dict.set (Dict.set (crawlerSummary crawler) "matched" (.arr (matched.map .str))) "missing" (.arr (missing.map .str))

/-- `_similar_matches`, none where it raises. -/
def similarMatches (query : String) (crawlers : List Fields) : Option (List Fields) :=
  let terms := uniqueWords (tokenize lower query)
  if terms.isEmpty || crawlers.isEmpty then some [] else do
  let docsTokens := crawlers.map (crawlerTokens lower)
  let scores := bm25Scores log terms docsTokens
  let candidates ← (crawlers.zip (docsTokens.zip scores)).mapM fun c => candidate? c.1 c.2.1 c.2.2
  some (Ranking.top (fun c : Candidate K => decide (0 < c.score)) (fun c => similarRow terms c.crawler c.tokens)
    similarCap (Ranking.rank Candidate.sortKey candidates) [])

end Scores

def noExactMatchHint (query : String) (similar : List Fields) : String :=
  match similar with
  | [] => s!"No scraper matches '{query}' — nothing in the catalog shares a word with it."
  | first :: _ =>
    let matched := String.intercalate ", " ((((Fields.get first "matched").asArr?).getD []).map Json.text)
    let name := (Fields.get first "name").text
    s!"No scraper matches all of '{query}'. Closest: {name} " ++
      s!"(matches {matched}) — not an exact match; check get_scraper_details " ++
      "before assuming it covers the task."

/-- `(query or "").strip().lower().split()` -/
def queryWords (query : String) : List String :=
  (Spans.spans (fun c => !isSpace c) (lower (strip query)).toList).map String.ofList

/-- `matches`: every word of the query, or its singular, is in the text. -/
def isHit (words : List String) (crawler : Fields) : Bool :=
  words.all fun word => (wordVariants word).any fun v => within v (searchBlob lower crawler)

section Scores
variable {K : Type} [Field K] [LinearOrder K] (log : K → K)

def searchScrapers (query : String) (full : Bool) : Tool Fields := do
  let crawlers ← listCrawlers
  let words := queryWords lower query
  if full then
    let ranked := Ranking.rank (fun c => if !words.isEmpty && isHit lower words c then 0 else 1) crawlers
    pure [("count", .int ranked.length), ("total_available", .int crawlers.length),
      ("results", .arr (ranked.map fun c => .obj (crawlerSummary c)))]
  else
  let hits := crawlers.filter (isHit lower words)
  let capped := hits.take searchCap
  let out : Fields := [("count", .int capped.length), ("total_available", .int crawlers.length),
    ("results", .arr (capped.map fun c => .obj (crawlerSummary c)))]
  if capped.isEmpty then
    match similarMatches lower log query crawlers with
    | none => raised .typeError
    | some similar =>
      pure (Dict.set (Dict.set out "similar" (.arr (similar.map .obj))) "hint"
        (.str (noExactMatchHint query similar)))
  else
    let out := Dict.set out "similar" (.arr [])
    if capped.length < hits.length then
      let shown := capped.length
      let found := hits.length
      pure (Dict.set (Dict.set out "truncated" (.bool true)) "hint" (.str (
        s!"showing the first {shown} of {found} matches — " ++
        "narrow the query, or call again with full=true for all")))
    else pure out

def searchScrapersImpl (query : String) (full : Bool) : Program Call Answer Exc Fields :=
  structured none (searchScrapers lower log query full)

end Scores
end Lower
end LobstrMcp
