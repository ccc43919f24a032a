import LobstrMcp.Server.WiderTokens
import LobstrMcp.Tools.StepByStep

/-!
What a client learns from the details of a scraper. From the reply of `get_scraper_details` alone it can tell
which inputs `run_scraper` refuses, with which errors, and where each input that is accepted goes.
-/

namespace LobstrMcp
open Interaction Tool

/-! ### What a client reads -/

/-- What the details leave of a property. -/
def shownSpec (full : Bool) (spec : Fields) : Fields := if full then spec else spec.filter fun s => s.1 ≠ "examples"

/-- What the details tell of a schema. -/
def Translated.shown (full : Bool) (t : Translated) : Translated :=
  { t with properties := t.properties.map fun e => (e.1, shownSpec full e.2), defaultsToFill := [] }

section Reading
variable {α β : Type}

end Reading

/-! ### What the reply tells -/

section Reply
variable {scraper : Json} {priced : PricedCrawler} {params : Json} {full : Bool} {reply : Fields}

end Reply

/-! ### The same checks -/

section Checks
variable (t : Translated) (full : Bool)

end Checks

/-! ### Two tools -/

section Tools
variable {σ : Type} {m : Machine ServerCall ServerCall.Ans σ} {name : String} {id params : Json} {priced : PricedCrawler}
  {args : RunArgs} {s : Session} {lower : String → String}

/-- An API that keeps to what it tells of a scraper. -/
structure Describes (m : Machine ServerCall ServerCall.Ans σ) (lower : String → String) (name : String) (id : Json)
    (priced : PricedCrawler) (params : Json) : Prop where
  resolves : ∃ catalog, (∀ st, (callsOf m st .listCrawlers).1 = catalog) ∧ resolvedId lower catalog name = id
  prices : ∀ st, (m st (.read (.getPricedCrawler id))).1 = .ok priced
  crawler : ∀ st, (callsOf m st (.getCrawler id)).1 = .ok priced.crawler
  params : ∀ st, (callsOf m st (.getCrawlerParams id)).1 = .ok params

theorem Describes.resolve (describes : Describes m lower name id priced params) (st : σ) :
    ∃ w, (resolveCrawlerId lower (.str name)).run (callsOf m) st = (.ok id, w) := by
  obtain ⟨catalog, answers, rfl⟩ := describes.resolves
  unfold resolveCrawlerId resolvedId resolveInCatalog
  show ∃ w, (if decide (name ≠ "") && isCrawlerId name then _ else _ : Tool Json).run _ st = _
  by_cases isId : (decide (name ≠ "") && isCrawlerId name) = true
  · rw [if_pos isId, if_pos isId]
    exact ⟨st, rfl⟩
  rw [if_neg isId, if_neg isId, Tool.request, Program.run_ask_bind, answers st]
  refine ⟨(callsOf m st .listCrawlers).2, ?_⟩
  cases catalog <;> rfl

/-- The details of a scraper. -/
theorem Describes.details (describes : Describes m lower name id priced params) (full : Bool) (st : σ) :
    ((getScraperDetailsImpl lower name full).run m st).1 =
      match detailsReply id priced params full with
      | some reply => .ok reply
      | none => .error .attributeError := by
  obtain ⟨w, resolved⟩ := describes.resolve st
  unfold getScraperDetailsImpl
  rw [run_settle]
  unfold getScraperDetailsBody getPricedCrawler
  have found := (run_onServer (resolveCrawlerId lower (.str name))).trans resolved
  have told (st : σ) : (onServer (send (.getCrawlerParams id))).run m st =
      (.ok params, (callsOf m st (.getCrawlerParams id)).2) :=
    (run_onServer _).trans (run_send (describes.params st))
  rw [Program.run_bind_ok found, Program.run_bind_ok (run_fetch (describes.prices w)), Program.run_bind_ok (told _)]
  cases detailsReply id priced params full <;> rfl

/-- A call for a new squid is about the crawler that the details describe. -/
theorem Describes.target (describes : Describes m s.lower name id priced params) (named : args.scraper = some name)
    (some' : name ≠ "") (fresh : args.reused = none) (st : σ) :
    ∃ w, (readTarget s args).run (callsOf m) st = (.ok (newTarget id priced.crawler params), w) := by
  have squid : (readSquid args).run (callsOf m) st = (.ok [], st) := by
    unfold readSquid
    rw [fresh]
    rfl
  have asked : args.scraperJson.orElse (Fields.get [] "crawler") = .str name := by
    unfold RunArgs.scraperJson
    rw [named]
    exact Json.orElse_of_truthy (by simpa using some') _
  obtain ⟨w, resolved⟩ := describes.resolve st
  have read (st : σ) : (readCrawlerParams id).run (callsOf m) st =
      (.ok params, (callsOf m st (.getCrawlerParams id)).2) := by
    unfold readCrawlerParams Tool.request
    rw [Program.run_ask_bind, describes.params st]
    rfl
  refine ⟨(callsOf m (callsOf m w (.getCrawler id)).2 (.getCrawlerParams id)).2, ?_⟩
  unfold readTarget getCrawler
  rw [Program.run_bind_ok squid, asked, Program.run_bind_ok resolved, Program.run_bind_ok
    (run_send (describes.crawler w)),
    Program.run_bind_ok (read _)]
  rfl

/-- It is refused with the errors of its input, or comes to a plan for that crawler. -/
theorem Describes.prepares (describes : Describes m s.lower name id priced params) (named : args.scraper = some name)
    (some' : name ≠ "") (fresh : args.reused = none) (st : σ) :
    ∃ w, (prepareRun s args).run (callsOf m) st =
      (prepareFrom s args (newTarget id priced.crawler params)).run (callsOf m) w := by
  obtain ⟨w, target⟩ := describes.target named some' fresh st
  have asked : ¬ (!args.scraperJson.truthy && !args.reuse) = true := by
    unfold RunArgs.scraperJson
    rw [named]
    simp [some']
  refine ⟨w, ?_⟩
  unfold prepareRun
  rw [if_neg asked, Program.run_bind_ok target]
  rfl

end Tools

/-- The reply of `run_scraper` to an input with errors. -/
def refusedInput (errors : List String) : Fields :=
  [("error_code", .str "validation_error"), ("errors", .arr (errors.map .str))]

section Tools
variable {K : Type} [ScoreField K] (host : Host K) {σ : Type} {m : Machine ServerCall ServerCall.Ans σ} {name : String}
  {id params : Json} {priced : PricedCrawler} {reader runner : AccessToken} {args : RunArgs} {details : Reply}

/-- An input with errors is answered with them. -/
theorem Describes.refuses {s : Session} (describes : Describes m s.lower name id priced params) (named : args.scraper = some name)
    (some' : name ≠ "") (fresh : args.reused = none)
    (wrong : inputErrors args (translateInputSchema priced.crawler params) ≠ []) (st : σ) :
    ((onServer (runScraperImpl s args)).run m st).1 =
      .ok (refusedInput (inputErrors args (translateInputSchema priced.crawler params))) := by
  obtain ⟨w, prepares⟩ := describes.prepares (s := s) named some' fresh st
  have refused : (prepareFrom s args (newTarget id priced.crawler params)).run (callsOf m) w =
      (.error (.returned (refusedInput (inputErrors args (translateInputSchema priced.crawler params)))), w) := by
    unfold prepareFrom
    dsimp only
    rw [if_pos (by simpa [newTarget] using wrong)]
    rfl
  rw [run_onServer]
  unfold runScraperImpl
  rw [structured_run, Program.run_bind, prepares, refused]
  rfl

end Tools

end LobstrMcp
