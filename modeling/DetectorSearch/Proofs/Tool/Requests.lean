import DetectorSearch.Proofs.Catalog
import DetectorSearch.Proofs.Outcome
import DetectorSearch.Proofs.Service.Agreement
import DetectorSearch.Proofs.Tool
import DetectorSearch.Proofs.Tool.Meaning

/-!
# The requests of a run

A run of the tool asks the catalog with the request of its parameters, as often as
it makes attempts, and never with another one. The start of this request is not
negative and its order is one of two. Its size is the one that was asked for, which
is refused when it is negative, or else the one that is set, which nobody looks at.

Results:
1. `Reached`, `Asked.eq_of_reached`: the requests that reach a catalog.
2. `Asks.bind`, `Asks.tryCatch`: operations by their parts; `attempts_ask`,
   `run_asks`: runs, whatever their policy is.
3. `ofFields_request`: the request of parameters; `page_of_wellFormed`: its page.
4. `run_requests`: the requests of a run.
5. `negativeSize_reaches`: a size that is set and negative.
-/

namespace DetectorSearch

variable {σ α β : Type}

/-! ## 1. What reaches the catalog -/

namespace Session

/-- The requests that a catalog in memory was asked. -/
def noted (session : Session σ) : List SearchRequest :=
  match session.search with
  | .memory catalog => catalog.requests
  | .server _ => []

end Session

variable {request other : SearchRequest} {count : Nat} {before after session : Session σ}

/-- Whether a request reached the catalog between two sessions: a catalog in memory took note of it,
or its body was posted to a server. -/
def Reached (before after : Session σ) (request : SearchRequest) : Prop :=
  request ∈ after.noted.drop before.noted.length ∨
    ∃ post ∈ after.posts.drop before.posts.length, post.body = some request.body

theorem SearchRequest.body_injective {request other : SearchRequest}
    (h : request.body = other.body) : request = other := by
  have hread := ofBody?_body request
  rw [h, ofBody?_body] at hread
  exact (Option.some.inj hread).symm

theorem not_reached_self : ¬ Reached session session request := by
  rintro (hnoted | ⟨post, hpost, -⟩)
  · rw [List.drop_length] at hnoted
    cases hnoted
  · rw [List.drop_length] at hpost
    cases hpost

/-- Where one request is asked no other one reaches the catalog. -/
theorem Asked.eq_of_reached (hasked : Asked request count before after)
    (hreached : Reached before after other) : other = request := by
  cases hasked with
  | memory hbefore hafter =>
      obtain ⟨hsearch, hposts⟩ := Prod.mk.inj hafter
      rcases hreached with hnoted | ⟨post, hpost, -⟩
      · unfold Session.noted at hnoted
        simp only [hsearch, hbefore, List.drop_left] at hnoted
        exact List.eq_of_mem_replicate hnoted
      · rw [hposts, List.drop_length] at hpost
        cases hpost
  | server posts hbefore hafter _ hbody =>
      obtain ⟨hsearch, hposts⟩ := Prod.mk.inj hafter
      rcases hreached with hnoted | ⟨post, hpost, hother⟩
      · unfold Session.noted at hnoted
        simp only [hsearch, List.drop_nil] at hnoted
        cases hnoted
      · rw [hposts, List.drop_left] at hpost
        exact SearchRequest.body_injective
          (Option.some.inj (hother.symm.trans (hbody post hpost)))

/-! ## 2. Operations that ask one request -/

namespace Asked

theorem refl (request : SearchRequest) (session : Session σ) : Asked request 0 session session := by
  cases hsearch : session.search with
  | memory catalog =>
      refine .memory hsearch ?_
      rw [List.replicate_zero, List.append_nil, ← hsearch]
      rfl
  | server link => exact refl_server hsearch

end Asked

namespace Op

/-- Whether an operation asks the catalog one request only, if any, and however it ends. -/
def Asks (request : SearchRequest) (operation : Op σ α) : Prop :=
  ∀ session, ∃ count, Asked request count session (operation.outcome session).2

variable {operation : Op σ α}

/-- What touches nothing that searches show asks nothing. -/
theorem Keeps.asks (h : Keeps Session.searches operation) (request : SearchRequest) :
    Asks request operation :=
  fun session => ⟨0, (Asked.refl request session).of_searches_eq (h session)⟩

theorem Asks.bind {next : α → Op σ β} (h : Asks request operation)
    (hnext : ∀ value, Asks request (next value)) : Asks request (operation >>= next) := by
  intro session
  obtain ⟨count, hasked⟩ := h session
  rw [outcome_bind]
  cases hoperation : operation.outcome session with
  | mk result left =>
      rw [hoperation] at hasked
      cases result with
      | ok value =>
          obtain ⟨further, hrest⟩ := hnext value left
          exact ⟨count + further, hasked.trans hrest⟩
      | error failure => exact ⟨count, hasked⟩

theorem Asks.tryCatch {handler : Failure → Op σ α} (h : Asks request operation)
    (hhandler : ∀ failure, Asks request (handler failure)) :
    Asks request (MonadExcept.tryCatch operation handler) := by
  intro session
  obtain ⟨count, hasked⟩ := h session
  rw [outcome_tryCatch]
  cases hoperation : operation.outcome session with
  | mk result left =>
      rw [hoperation] at hasked
      cases result with
      | ok value => exact ⟨count, hasked⟩
      | error failure =>
          obtain ⟨further, hrest⟩ := hhandler failure left
          exact ⟨count + further, hasked.trans hrest⟩

end Op

open Op

variable {around : Surroundings σ}

/-- The wait before a further attempt touches nothing that searches show. -/
theorem Retry.wait_keeps_searches (policy : RetryPolicy) (number : Nat) :
    Keeps Session.searches (Retry.wait around policy number) := by
  unfold Retry.wait
  refine Keeps.bind (fun session => rfl) fun share => ?_
  exact (keeps_ofOutcome _).bind fun delay => keeps_sleep _ fun session clock => rfl

/-- Attempts that ask one request ask no other one together, however many there are. -/
theorem Retry.attempts_ask {action : Op σ α} (h : Asks request action) (policy : RetryPolicy)
    (left number : Nat) : Asks request (Retry.attempts around policy action left number) := by
  -- by induction on what is left: between two attempts nothing is asked
  induction left generalizing number with
  | zero => exact h
  | succ left ih =>
      unfold Retry.attempts
      refine h.tryCatch fun failure => ?_
      split
      · refine ((keeps_ofOutcome _).asks request).bind fun record => ?_
        refine (Keeps.asks (fun session => rfl) request).bind fun _ => ?_
        exact ((Retry.wait_keeps_searches policy number).asks request).bind fun _ => ih (number + 1)
      · exact (keeps_throw failure).asks request

namespace Tool

variable {tool : Tool} {fields : Fields} {deadline : Option Seconds} {parameters : Parameters}

/-- A run asks the request of its parameters only, if any. -/
theorem run_asks (hread : Parameters.ofFields fields tool.settings.defaults = .ok parameters) :
    Asks parameters.request (run around tool fields deadline) := by
  have hattempt : Asks parameters.request
      (attempt around tool.settings parameters deadline) :=
    fun session => ⟨1, attempt_asks_once session⟩
  intro session
  rw [run, outcome_bind, outcome_ofOutcome, hread]
  exact Retry.attempts_ask hattempt tool.settings.retry _ 1 session

end Tool

/-! ## 3. The request of parameters -/

/-- Whether a request asks for a number of hits from a position on, in one of the two orders. -/
structure SearchRequest.WellFormed (request : SearchRequest) : Prop where
  size : 0 ≤ request.size
  start : 0 ≤ request.start
  order : request.sortOrder = "asc" ∨ request.sortOrder = "desc"

/-- The page of such a request is a window of the hits. -/
theorem SearchRequest.WellFormed.page_window (h : request.WellFormed) {documents : List Detector}
    {page : Page} (hpage : request.page documents = .ok page) :
    ∃ hits, request.rankedHits documents = .ok hits ∧ page.total = hits.length ∧
      page.detectors = window hits request.size.toNat request.start.toNat ∧
      page.detectors.length ≤ request.size := by
  obtain ⟨hits, hranked, rfl⟩ := page_eq_ok.1 hpage
  have hwindow := slice_of_nonneg hits h.start h.size
  refine ⟨hits, hranked, rfl, hwindow, ?_⟩
  have hlength := length_window hits request.size.toNat request.start.toNat
  have hsize := h.size
  dsimp only
  rw [hwindow, hlength]
  omega

namespace Parameters

open Outcome

variable {fields : Fields} {defaults : Defaults} {parameters : Parameters} {value : Value}

/-- A number that is read is the default or is not negative. -/
theorem readCount_cases {name : String} {default number : Int}
    (h : readCount name value default = .ok number) :
    value = .null ∧ number = default ∨ value ≠ .null ∧ 0 ≤ number := by
  unfold readCount at h
  split at h
  · exact .inl ⟨rfl, (Except.ok.inj h).symm⟩
  · rename_i hvalue
    refine .inr ⟨hvalue, ?_⟩
    split at h
    · cases h
    · split_ifs at h with hnegative
      obtain rfl := Except.ok.inj h
      exact Int.not_lt.1 hnegative

theorem ofFields_counts (h : ofFields fields defaults = .ok parameters) :
    readCount "size" (fields.get "size") defaults.size = .ok parameters.size ∧
      readCount "startIndex" (fields.get "startIndex") 0 = .ok parameters.start := by
  simp only [ofFields, bind_eq_ok] at h
  obtain ⟨order, -, high, -, updated, -, filter, -, running, -, disabled, -, failed, -, size, hsize,
    start, hstart, sortField, -, hparameters⟩ := h
  obtain rfl := Except.ok.inj hparameters
  exact ⟨hsize, hstart⟩

theorem ofFields_size (h : ofFields fields defaults = .ok parameters) :
    fields.get "size" ≠ .null ∧ 0 ≤ parameters.size ∨
      fields.get "size" = .null ∧ parameters.size = defaults.size :=
  (readCount_cases (ofFields_counts h).1).symm

theorem ofFields_start (h : ofFields fields defaults = .ok parameters) : 0 ≤ parameters.start := by
  rcases readCount_cases (ofFields_counts h).2 with ⟨-, hdefault⟩ | ⟨-, hnonneg⟩
  · exact Int.le_of_eq hdefault.symm
  · exact hnonneg

theorem name_cases (order : SortOrder) : order.name = "asc" ∨ order.name = "desc" := by
  cases order with
  | asc => exact .inl rfl
  | desc => exact .inr rfl

/-- What is wrong with the request of parameters can only be a size that is set. -/
theorem request_wellFormed (h : ofFields fields defaults = .ok parameters) :
    parameters.request.WellFormed ↔ fields.get "size" ≠ .null ∨ 0 ≤ defaults.size := by
  have hwhole : parameters.request.WellFormed ↔ 0 ≤ parameters.size :=
    ⟨fun hrequest => hrequest.size,
      fun hsize => ⟨hsize, ofFields_start h, name_cases parameters.sortOrder⟩⟩
  rw [hwhole]
  rcases ofFields_size h with ⟨hgiven, hnonneg⟩ | ⟨hnull, hdefault⟩
  · simp [hgiven, hnonneg]
  · simp [hnull, hdefault]

end Parameters

/-! ## 4. The requests of a run -/

namespace Tool

/-- The requests of a run that reach the catalog all are the one of its parameters. Its start is not
negative, its order is one of two, and its size is that of the parameters, which is not negative, or
the one that is set. So it is well-formed unless the parameters have no size and the one that is set
is negative; its page then is a window of the hits, of no more than the size asked for. -/
theorem run_requests (around : Surroundings σ) (tool : Tool) (fields : Fields)
    (deadline : Option Seconds) (session : Session σ) :
    (∀ request, Reached session ((run around tool fields deadline).outcome session).2 request →
      ∃ parameters, Parameters.ofFields fields tool.settings.defaults = .ok parameters ∧
        request = parameters.request) ∧
    ∀ parameters, Parameters.ofFields fields tool.settings.defaults = .ok parameters →
      0 ≤ parameters.request.start ∧
      (parameters.request.sortOrder = "asc" ∨ parameters.request.sortOrder = "desc") ∧
      (fields.get "size" ≠ .null ∧ 0 ≤ parameters.request.size ∨
        fields.get "size" = .null ∧ parameters.request.size = tool.settings.defaults.size) ∧
      (parameters.request.WellFormed ↔
        fields.get "size" ≠ .null ∨ 0 ≤ tool.settings.defaults.size) ∧
      ((fields.get "size" ≠ .null ∨ 0 ≤ tool.settings.defaults.size) →
        ∀ documents page, parameters.request.page documents = .ok page →
          ∃ hits, parameters.request.rankedHits documents = .ok hits ∧
            page.detectors =
              window hits parameters.request.size.toNat parameters.request.start.toNat ∧
            page.detectors.length ≤ parameters.request.size) := by
  refine ⟨fun request hreached => ?_, fun parameters hread => ?_⟩
  · cases hread : Parameters.ofFields fields tool.settings.defaults with
    | error failure =>
        rw [run, outcome_bind, outcome_ofOutcome, hread] at hreached
        exact absurd hreached not_reached_self
    | ok parameters =>
        obtain ⟨count, hasked⟩ := @run_asks σ around tool fields deadline parameters hread session
        exact ⟨parameters, rfl, hasked.eq_of_reached hreached⟩
  · have hwellFormed := Parameters.request_wellFormed hread
    refine ⟨Parameters.ofFields_start hread, Parameters.name_cases parameters.sortOrder,
      Parameters.ofFields_size hread, hwellFormed, fun hsize documents page hpage => ?_⟩
    obtain ⟨hits, hranked, -, hwindow, hlength⟩ := (hwellFormed.2 hsize).page_window hpage
    exact ⟨hits, hranked, hwindow, hlength⟩

/-- A tool whose defaults of parameters have a size. -/
def sizedTool (size : Int) : Tool :=
  .ofSettings { Settings.standard with defaults := { Defaults.standard with size } }

/-- The sizes of the requests that a run asks three documents, and how many detectors stand on their
pages. -/
def pagesOf (tool : Tool) (fields : Fields) : List (Int × Option Nat) :=
  ((run stillSurroundings tool fields none).outcome trioSession).2.noted.map fun request =>
    (request.size, (request.page trioDocuments).toOption.map fun page => page.detectors.length)

theorem reached_of_pagesOf {tool : Tool} {fields : Fields} {size : Int} {count : Nat}
    (h : pagesOf tool fields = [(size, some count)]) :
    ∃ request page,
      Reached trioSession ((run stillSurroundings tool fields none).outcome trioSession).2
        request ∧
      request.size = size ∧ request.page trioDocuments = .ok page ∧
      page.detectors.length = count := by
  obtain ⟨request, hnoted, hrequest⟩ := List.map_eq_singleton_iff.1 h
  obtain ⟨hsize, hcount⟩ := Prod.mk.inj hrequest
  have hreached : Reached trioSession
      ((run stillSurroundings tool fields none).outcome trioSession).2 request := by
    refine .inl ?_
    rw [hnoted]
    exact List.mem_singleton_self request
  cases hpage : request.page trioDocuments with
  | error failure => simp [hpage, Except.toOption] at hcount
  | ok page =>
      rw [hpage] at hcount
      exact ⟨request, page, hreached, hsize, hpage, Option.some.inj hcount⟩

/-- A size that is asked for is taken, whatever the one that is set. -/
theorem run_requests_two : ∃ request page,
    Reached trioSession ((run stillSurroundings (sizedTool (-1)) [("size", .text "2")] none).outcome
      trioSession).2 request ∧
    request.page trioDocuments = .ok page ∧ request.WellFormed ∧
    page.detectors.length ≤ request.size := by
  obtain ⟨request, page, hreached, -, hpage, -⟩ :=
    @reached_of_pagesOf (sizedTool (-1)) [("size", .text "2")] 2 2 (by decide +kernel)
  have hgiven : Fields.get "size" [("size", .text "2")] ≠ .null := nofun
  obtain ⟨honly, hsound⟩ := run_requests stillSurroundings (sizedTool (-1)) [("size", .text "2")]
    none trioSession
  obtain ⟨parameters, hread, rfl⟩ := honly request hreached
  obtain ⟨-, -, -, hwellFormed, hwindow⟩ := hsound parameters hread
  obtain ⟨hits, -, -, hlength⟩ := hwindow (.inl hgiven) trioDocuments page hpage
  exact ⟨_, page, hreached, hpage, hwellFormed.2 (.inl hgiven), hlength⟩

/-! ## 5. A size that is set -/

/-- A negative size can be set. It reaches the catalog when no other one is asked for, and the page
then ends as many detectors in front of the last one. -/
theorem negativeSize_reaches :
    Settings.ofFields [("defaults", .object [("size", .int (-1))])] =
      .ok (sizedTool (-1)).settings ∧
    ∃ request page,
      Reached trioSession ((run stillSurroundings (sizedTool (-1)) [] none).outcome
        trioSession).2 request ∧
      request.size = -1 ∧ ¬ request.WellFormed ∧
      request.page trioDocuments = .ok page ∧ page.detectors.length = 2 := by
  obtain ⟨request, page, hreached, hsize, hpage, hlength⟩ :=
    @reached_of_pagesOf (sizedTool (-1)) [] (-1) 2 (by decide +kernel)
  refine ⟨rfl, request, page, hreached, hsize, fun hwellFormed => ?_, hpage, hlength⟩
  have hnonneg := hwellFormed.size
  rw [hsize] at hnonneg
  exact absurd hnonneg (by decide)

end Tool

end DetectorSearch
