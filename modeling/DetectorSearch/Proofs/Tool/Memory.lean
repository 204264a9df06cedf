import DetectorSearch.Proofs.Enrichment.Answers
import DetectorSearch.Proofs.Retry
import DetectorSearch.Tool

/-!
# Attempts of a tool in memory

With the catalog and the status service in memory an attempt has no part that the
world decides. It searches the documents, and enriches the page as it would be
enriched alone.

Results:
1. `search_memory`, `enrich_memory`: the two parts of an attempt.
2. `attempt_of_inactive`, `attempt_of_active`: how an attempt goes on after its
   search.
3. `attempt_failures`: the three places where an attempt can fail.
4. `run_of_attempt`, `run_of_final`: runs that consist of one attempt.
-/

namespace DetectorSearch

variable {σ : Type} {around : Surroundings σ} {session : Session σ} {catalog : Catalog}
  {service : StatusService}

open Op

/-! ## 1. The parts of an attempt -/

/-- A session in which a catalog in memory was asked a request. -/
def Session.noting (session : Session σ) (catalog : Catalog) (request : SearchRequest) :
    Session σ :=
  { session with
    search := .memory { catalog with requests := catalog.requests ++ [request] } }

theorem CatalogSearch.search_memory (hsearch : session.search = .memory catalog)
    (request : SearchRequest) :
    (CatalogSearch.search around request).outcome session =
      (request.page catalog.documents, session.noting catalog request) := by
  rw [CatalogSearch.search, outcome_bind, outcome_get]
  simp only [hsearch, outcome_bind, outcome_modify, outcome_ofOutcome]
  rfl

namespace StatusLookup

theorem answers_memory (hstatus : session.status = .memory service) (page : List Detector) :
    outcome (page.mapM fun detector => answer around detector.id) session =
      (.ok (service.answersFor page), session) := by
  have hanswer : ∀ id, (answer around id).outcome session = (.ok (service.answer id), session) := by
    intro id
    rw [answer, outcome_bind, outcome_get]
    simp only [hstatus, outcome_pure]
  induction page with
  | nil => rfl
  | cons detector rest ih =>
      rw [List.mapM_cons, outcome_bind, hanswer]
      simp only [outcome_bind, ih, outcome_pure]
      rfl

/-- What an enrichment by a service in memory is: that of the page alone, from the clock on. -/
def Alone (session : Session σ) (service : StatusService) (request : EnrichRequest) : Schedule :=
  enrichAll session.clock none [(request, service.answersFor request.page)]

theorem enrich_memory (hstatus : session.status = .memory service) {request : EnrichRequest}
    (hactive : request.predicate.isActive = true) :
    (enrich around request).outcome session =
      ((Alone session service request).verdicts.headD (.ok request.page),
        { session with
          clock := (Alone session service request).clock
          events := session.events ++ (Alone session service request).events }) := by
  unfold enrich
  simp only [hactive, if_true, outcome_bind, answers_memory hstatus, outcome_get, record,
    hstatus, visible, outcome_record, outcome_modify, outcome_ofOutcome]
  rfl

end StatusLookup

/-! ## 2. Attempts whose search succeeds -/

namespace Tool

variable {settings : Settings} {parameters : Parameters} {deadline : Option Seconds} {page : Page}

/-- The request for the states of a page that an attempt makes. -/
def enrichment (settings : Settings) (parameters : Parameters) (deadline : Option Seconds)
    (page : Page) : EnrichRequest :=
  ⟨page.detectors, parameters.predicate, spanFor settings deadline⟩

theorem attempt_of_inactive (hsearch : session.search = .memory catalog)
    (hpage : parameters.request.page catalog.documents = .ok page)
    (hinactive : parameters.predicate.isActive = false) :
    (attempt around settings parameters deadline).outcome session =
      (Presentation.render page.detectors page.total,
        session.noting catalog parameters.request) := by
  rw [attempt, outcome_bind, CatalogSearch.search_memory hsearch, hpage]
  simp only [hinactive, Bool.not_false, if_true, outcome_ofOutcome]

/-- An attempt that asks for states, whichever way its enrichment ends. -/
theorem attempt_of_active (hsearch : session.search = .memory catalog)
    (hstatus : session.status = .memory service)
    (hpage : parameters.request.page catalog.documents = .ok page)
    (hactive : parameters.predicate.isActive = true) {verdict : Verdict}
    (hverdict : (StatusLookup.Alone session service
      (enrichment settings parameters deadline page)).verdicts = [verdict]) :
    ∃ events,
      (attempt around settings parameters deadline).outcome session =
        (verdict >>= fun kept => Presentation.render kept kept.length,
          { session.noting catalog parameters.request with
            clock := (StatusLookup.Alone session service
              (enrichment settings parameters deadline page)).clock
            events := session.events ++ (StatusLookup.Alone session service
              (enrichment settings parameters deadline page)).events ++ events }) ∧
      Event.calls events = [] := by
  -- a search in memory leaves the clock and the service as they are
  have henrich := @StatusLookup.enrich_memory σ around (session.noting catalog parameters.request)
    service hstatus (enrichment settings parameters deadline page) hactive
  have hsame : StatusLookup.Alone (session.noting catalog parameters.request) service
      (enrichment settings parameters deadline page) = StatusLookup.Alone session service
        (enrichment settings parameters deadline page) := rfl
  rw [hsame, hverdict] at henrich
  have hrequest : (⟨page.detectors, parameters.predicate, spanFor settings deadline⟩ :
      EnrichRequest) = enrichment settings parameters deadline page := rfl
  rw [attempt, outcome_bind, CatalogSearch.search_memory hsearch, hpage]
  simp only [hactive, Bool.not_true, Bool.false_eq_true, if_false]
  rw [outcome_bind, hrequest, henrich]
  cases verdict with
  | error failure => exact ⟨[], by rw [List.append_nil]; rfl, rfl⟩
  | ok kept =>
      refine ⟨[.logged (keptRecord kept page.detectors)], ?_, rfl⟩
      simp only [List.headD_cons, outcome_bind, outcome_record, outcome_ofOutcome]
      rfl

/-! ## 3. Attempts that fail -/

theorem length_answersFor (service : StatusService) (page : List Detector) :
    (service.answersFor page).length = page.length :=
  List.length_map _

/-- An attempt fails as its search does, in a failure of the search itself, or because a part of its
page cannot be shown. -/
theorem attempt_failures (hsearch : session.search = .memory catalog)
    (hstatus : session.status = .memory service)
    (hspan : (spanFor settings deadline).toFloat?.isSome = true) {failure : Failure}
    (h : ((attempt around settings parameters deadline).outcome session).1 = .error failure) :
    parameters.request.page catalog.documents = .error failure ∨
    failure.isOwn = true ∨
    ∃ page shown, parameters.request.page catalog.documents = .ok page ∧
      shown.Sublist page.detectors ∧
      (Presentation.render shown page.total = .error failure ∨
        Presentation.render shown shown.length = .error failure) := by
  cases hpage : parameters.request.page catalog.documents with
  | error other =>
      rw [attempt, outcome_bind, CatalogSearch.search_memory hsearch, hpage] at h
      cases h
      exact .inl rfl
  | ok page =>
      cases hactive : parameters.predicate.isActive with
      | false =>
          rw [attempt_of_inactive hsearch hpage hactive] at h
          exact .inr (.inr ⟨page, page.detectors, rfl, .refl _, .inl h⟩)
      | true =>
          obtain ⟨verdict, hverdict, hexpected⟩ :=
            @enrichAll_expected session.clock (enrichment settings parameters deadline page)
              (service.answersFor page.detectors) hspan (length_answersFor service page.detectors)
          obtain ⟨events, hattempt, -⟩ :=
            @attempt_of_active σ around session catalog service settings parameters deadline page
              hsearch hstatus hpage hactive verdict hverdict
          rw [hattempt] at h
          cases hexpected with
          | failed hown =>
              cases h
              exact .inr (.inl hown)
          | @kept kept hkept => exact .inr (.inr ⟨page, kept, rfl, hkept, .inr h⟩)

/-! ## 4. Runs of one attempt -/

/-- A run that allows no further attempt is one attempt. -/
theorem run_of_attempt {tool : Tool} {fields : Fields}
    (hparameters : Parameters.ofFields fields tool.settings.defaults = .ok parameters)
    (hretry : tool.settings.retry.maxAttempts ≤ 0) :
    (run around tool fields deadline).outcome session =
      (attempt around tool.settings parameters deadline).outcome session := by
  rw [run, outcome_bind, outcome_ofOutcome, hparameters]
  show (Retry.attempts around _ _ tool.settings.retry.maxAttempts.toNat 1).outcome session = _
  rw [Int.toNat_of_nonpos hretry, Retry.attempts]

/-- So is a run whose first attempt has no failure that is worth another. -/
theorem run_of_final {tool : Tool} {fields : Fields}
    (hparameters : Parameters.ofFields fields tool.settings.defaults = .ok parameters)
    (hfinal : ∀ failure, ((attempt around tool.settings parameters deadline).outcome session).1 =
      .error failure → failure.isRetryable = false) :
    (run around tool fields deadline).outcome session =
      (attempt around tool.settings parameters deadline).outcome session := by
  rw [run, outcome_bind, outcome_ofOutcome, hparameters]
  cases hattempt : (attempt around tool.settings parameters deadline).outcome session with
  | mk result ended =>
      rw [hattempt] at hfinal
      cases result with
      | ok text => exact Retry.attempts_of_ok hattempt
      | error failure => exact Retry.attempts_of_final hattempt (hfinal failure rfl)

end Tool

end DetectorSearch
