import DetectorSearch.Proofs.Catalog
import DetectorSearch.Proofs.Enrichment.Answers

/-!
# Walking the pages of a catalog

Pages of one size that begin at its multiples tile the hits of a request, since
the hits do not depend on the window and the catalog forgets nothing but keeps
only the requests. A filter of pages is then the filter of all hits, also if the
states are looked up page by page.

Results:
1. `windows_flatten`: windows of one size tile a list.
2. `searchEach_eq`: requests one after another do not see each other.
3. `walk_tiles`: the pages of a walk and the page of all hits, as they are found
   and after their states were looked up.
-/

namespace DetectorSearch

/-! ## 1. Windows -/

/-- The multiples of a size up to a total. -/
def pageStarts (size total : Nat) : List Nat :=
  (List.range (total / size + 1)).map (· * size)

namespace WalkLemmas

variable {α : Type}

theorem windows_take (items : List α) (size count : Nat) :
    (List.range count).flatMap (fun number => window items size (number * size)) =
      items.take (count * size) := by
  induction count with
  | zero => simp
  | succ count ih =>
      -- the next window goes on where the earlier ones end
      rw [List.range_succ, List.flatMap_append, ih, List.flatMap_singleton, Nat.succ_mul,
        List.take_add, window]

end WalkLemmas

open WalkLemmas

/-- Windows that begin at the multiples of their size lose and repeat nothing. -/
theorem windows_flatten {α : Type} (items : List α) {size : Nat} (hsize : 1 ≤ size) :
    (pageStarts size items.length).flatMap (window items size) = items := by
  have hlong : items.length ≤ (items.length / size + 1) * size := by
    rw [Nat.mul_comm]
    exact Nat.le_of_lt (Nat.lt_mul_div_succ items.length hsize)
  rw [pageStarts, List.flatMap_map, windows_take, List.take_of_length_le hlong]

/-! ## 2. Requests one after another -/

/-- Searches one request after another. -/
def Catalog.searchEach : List SearchRequest → Catalog → List (Outcome Page) × Catalog
  | [], catalog => ([], catalog)
  | request :: rest, catalog =>
      let (page, catalog) := catalog.search request
      let (pages, catalog) := searchEach rest catalog
      (page :: pages, catalog)

/-- Requests are noted and change nothing that later ones find. -/
theorem Catalog.searchEach_eq (requests : List SearchRequest) (catalog : Catalog) :
    catalog.searchEach requests =
      (requests.map fun request => request.page catalog.documents,
        { catalog with requests := catalog.requests ++ requests }) := by
  induction requests generalizing catalog with
  | nil => simp [searchEach]
  | cons request rest ih => simp [searchEach, search, ih]

/-! ## 3. Walks -/

namespace SearchRequest

/-- The requests of a walk, with pages of one size up to a total. -/
def walk (request : SearchRequest) (size total : Nat) : List SearchRequest :=
  (pageStarts size total).map fun start : Nat => { request with start, size }

/-- The request for all hits. -/
def whole (request : SearchRequest) (total : Nat) : SearchRequest :=
  { request with start := 0, size := total }

variable {request : SearchRequest} {documents hits : List Detector}

theorem page_whole (h : request.rankedHits documents = .ok hits) :
    (request.whole hits.length).page documents = .ok ⟨hits, hits.length⟩ := by
  refine (page_window h 0 hits.length).trans ?_
  rw [window, List.drop_zero, List.take_length]

theorem walk_pages (catalog : Catalog) (h : request.rankedHits catalog.documents = .ok hits)
    (size : Nat) :
    (catalog.searchEach (request.walk size hits.length)).1 =
      (pageStarts size hits.length).map fun start =>
        .ok ⟨window hits size start, hits.length⟩ := by
  rw [Catalog.searchEach_eq, walk, List.map_map]
  exact List.map_congr_left fun start _ => page_window h start size

end SearchRequest

/-- The circumstances in which the states of a page are looked up: when that starts, how long it may
take, and how long the service waits for each detector. -/
structure Visit where
  now : Instant
  span : Seconds
  waits : List (Option Seconds)

namespace Visit

variable {visit : Visit} {predicate : StatePredicate} {state? : String → Option State}
  {page : List Detector}

/-- The request that a visit makes for a page. -/
def request (visit : Visit) (predicate : StatePredicate) (page : List Detector) : EnrichRequest :=
  ⟨page, predicate, visit.span⟩

/-- Whether the service tells the state of each detector of a page in time. -/
def InTime (visit : Visit) (predicate : StatePredicate) (state? : String → Option State)
    (page : List Detector) : Prop :=
  (visit.request predicate page).AnsweredInTime visit.now state? visit.waits

/-- What a visit makes of a page. -/
def enrich (visit : Visit) (predicate : StatePredicate) (state? : String → Option State)
    (page : List Detector) : List Verdict :=
  (enrichAll visit.now none [(visit.request predicate page,
    (visit.request predicate page).stateAnswers state? visit.waits)]).verdicts

theorem enrich_eq (hactive : predicate.isActive = true)
    (h : visit.InTime predicate state? page) :
    visit.enrich predicate state? page = [.ok (predicate.select state? page)] :=
  EnrichRequest.verdicts_of_answeredInTime hactive h

end Visit

/-- Pages of one size as the parts of one page: nothing is lost and nothing is repeated. -/
structure Tiling (size : Nat) (whole : Page) (pages : List Page) : Prop where
  complete : whole.total = whole.detectors.length
  flatten : pages.flatMap Page.detectors = whole.detectors
  totals : ∀ page ∈ pages, page.total = whole.total
  lengths : pages.map (fun page => page.detectors.length) =
    (pageStarts size whole.detectors.length).map fun start =>
      min size (whole.detectors.length - start)

namespace WalkLemmas

theorem tiling_windows (hits : List Detector) {size : Nat} (hsize : 1 ≤ size) :
    Tiling size ⟨hits, hits.length⟩
      ((pageStarts size hits.length).map fun start => ⟨window hits size start, hits.length⟩) where
  complete := rfl
  flatten := by
    rw [List.flatMap_map]
    exact windows_flatten hits hsize
  totals page hpage := by
    obtain ⟨start, -, rfl⟩ := List.mem_map.1 hpage
    rfl
  lengths := by
    rw [List.map_map]
    exact List.map_congr_left fun start _ => length_window hits size start

/-- A filter of the parts is the filter of the whole. -/
theorem select_flatten (predicate : StatePredicate) (state? : String → Option State)
    (pages : List Page) :
    (pages.map fun page => predicate.select state? page.detectors).flatten =
      predicate.select state? (pages.flatMap Page.detectors) := by
  rw [← List.flatMap_def, StatePredicate.select, List.filter_flatMap]
  rfl

theorem visits_enrich {predicate : StatePredicate} {state? : String → Option State}
    {visits : List Visit} {pages : List Page} (hactive : predicate.isActive = true)
    (h : List.Forall₂ (fun visit page => visit.InTime predicate state? page.detectors)
      visits pages) :
    List.zipWith (fun visit page => visit.enrich predicate state? page.detectors) visits pages =
      pages.map fun page => [.ok (predicate.select state? page.detectors)] := by
  induction h with
  | nil => rfl
  | cons hvisit _ ih => rw [List.zipWith_cons_cons, List.map_cons, ih, Visit.enrich_eq hactive hvisit]

/-- States that are looked up part by part filter the whole. -/
theorem enrich_tiling {size : Nat} {whole : Page} {pages : List Page}
    (h : Tiling size whole pages) {predicate : StatePredicate} {state? : String → Option State}
    {visit : Visit} {visits : List Visit} (hactive : predicate.isActive = true)
    (hvisit : visit.InTime predicate state? whole.detectors)
    (hvisits : List.Forall₂ (fun visit page => visit.InTime predicate state? page.detectors)
      visits pages) :
    ∃ parts : List (List Detector),
      List.zipWith (fun visit page => visit.enrich predicate state? page.detectors) visits pages =
        parts.map (fun part => [.ok part]) ∧
      visit.enrich predicate state? whole.detectors = [.ok parts.flatten] := by
  refine ⟨pages.map fun page => predicate.select state? page.detectors, ?_, ?_⟩
  · rw [visits_enrich hactive hvisits, List.map_map]
    rfl
  · rw [select_flatten, h.flatten, Visit.enrich_eq hactive hvisit]

end WalkLemmas

/-- Pages that are walked one after another tile the page of all hits. So do their detectors in the
states asked for, whenever they are looked up, as long as the service has one state for each id and
tells it before the deadline. -/
theorem walk_tiles (catalog : Catalog) (request : SearchRequest) {size : Nat} (hsize : 1 ≤ size)
    {found : Page} (hfound : request.page catalog.documents = .ok found) :
    ∃ (whole : Page) (pages : List Page),
      (request.whole whole.detectors.length).page catalog.documents = .ok whole ∧
      (catalog.searchEach (request.walk size whole.detectors.length)).1 = pages.map .ok ∧
      found.total = whole.total ∧
      Tiling size whole pages ∧
      ∀ (predicate : StatePredicate) (state? : String → Option State) (visit : Visit)
        (visits : List Visit), predicate.isActive = true →
        visit.InTime predicate state? whole.detectors →
        List.Forall₂ (fun visit page => visit.InTime predicate state? page.detectors)
          visits pages →
        ∃ parts : List (List Detector),
          List.zipWith (fun visit page => visit.enrich predicate state? page.detectors)
            visits pages = parts.map (fun part => [.ok part]) ∧
          visit.enrich predicate state? whole.detectors = [.ok parts.flatten] := by
  obtain ⟨hits, hhits, rfl⟩ := SearchRequest.page_eq_ok.1 hfound
  have htiling := tiling_windows hits hsize
  refine ⟨⟨hits, hits.length⟩, _, SearchRequest.page_whole hhits, ?_, rfl, htiling, ?_⟩
  · rw [SearchRequest.walk_pages catalog hhits, List.map_map]
    rfl
  · intro predicate state? visit visits hactive hvisit hvisits
    exact enrich_tiling htiling hactive hvisit hvisits

/-- A catalog of three detectors, of which the second one alone has a name. -/
def trioCatalog : Catalog :=
  .ofDocuments [⟨"a", []⟩, ⟨"b", [("name", .text "beta")]⟩, ⟨"c", []⟩]

/-- A search for all detectors by their names. -/
def nameSearch : SearchRequest :=
  ⟨DetectorFilter.none.toQuery, 20, 0, SearchRequest.defaultSortField, "asc"⟩

/-- A visit to a service that tells all states at once. -/
def promptVisit (page : List Detector) : Visit :=
  ⟨Float.ofInt 0, .whole 5, List.replicate page.length none⟩

theorem promptVisit_inTime (predicate : StatePredicate) (state? : String → Option State)
    (page : List Detector) : (promptVisit page).InTime predicate state? page where
  span := by
    show ((Seconds.whole 5).toFloat?).isSome = true
    decide +kernel
  each := List.length_replicate
  doubles wait hwait := absurd (List.eq_of_mem_replicate hwait) nofun
  early lookup hlookup := by
    obtain ⟨detector, answer, hmem, rfl⟩ := EnrichRequest.mem_lookups hlookup
    have hwait : answer.wait = none := by
      have hanswer := (List.of_mem_zip hmem).2
      rw [EnrichRequest.stateAnswers, ← List.map_uncurry_zip_eq_zipWith] at hanswer
      obtain ⟨⟨other, wait⟩, hzip, rfl⟩ := List.mem_map.1 hanswer
      exact List.eq_of_mem_replicate (List.of_mem_zip hzip).2
    rw [Lookup.start_eq _ _ (by simp [hwait]), hwait]
    show Instant.before (Float.ofInt 0) (Instant.after (Float.ofInt 0) (.whole 5)) = true
    decide +kernel

/-- Walking a catalog of three in pages of two. -/
theorem walk_tiles_trio :
    ∃ (whole : Page) (pages : List Page),
      whole.detectors.map Detector.id = ["b", "a", "c"] ∧
      (trioCatalog.searchEach (nameSearch.walk 2 3)).1 = pages.map .ok ∧
      Tiling 2 whole pages ∧
      ∃ parts : List (List Detector),
        List.zipWith (fun visit page => visit.enrich ⟨some true, none, none⟩
            (fun id => if id = "c" then none else some .running) page.detectors)
          (pages.map fun page => promptVisit page.detectors) pages =
          parts.map (fun part => [.ok part]) ∧
        (promptVisit whole.detectors).enrich ⟨some true, none, none⟩
            (fun id => if id = "c" then none else some .running) whole.detectors =
          [.ok parts.flatten] := by
  have hthree : (nameSearch.page trioCatalog.documents).toOption.map Page.total = some 3 := by
    decide +kernel
  have hids : ((nameSearch.whole 3).page trioCatalog.documents).toOption.map
      (fun page => page.detectors.map Detector.id) = some ["b", "a", "c"] := by
    decide +kernel
  cases hfound : nameSearch.page trioCatalog.documents with
  | error failure => simp [hfound, Except.toOption] at hthree
  | ok found =>
      rw [hfound] at hthree
      obtain ⟨whole, pages, hwhole, hpages, htotal, htiling, henrich⟩ :=
        walk_tiles trioCatalog nameSearch (by decide : 1 ≤ 2) hfound
      have hlength : whole.detectors.length = 3 := by
        have hsum := htiling.complete
        rw [← htotal, show found.total = 3 from Option.some.inj hthree] at hsum
        exact_mod_cast hsum.symm
      rw [hlength] at hwhole hpages
      refine ⟨whole, pages, ?_, hpages, htiling, ?_⟩
      · rw [hwhole] at hids
        exact Option.some.inj hids
      · refine henrich _ _ _ _ (by decide) (promptVisit_inTime _ _ _) ?_
        rw [List.forall₂_map_left_iff, List.forall₂_same]
        exact fun page _ => promptVisit_inTime _ _ page.detectors

end DetectorSearch
