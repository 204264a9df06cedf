import DetectorSearch.CommandLine
import DetectorSearch.Proofs.Catalog
import DetectorSearch.Proofs.Presentation
import DetectorSearch.Proofs.Query
import DetectorSearch.Proofs.Tool.Meaning

/-!
# How a run of the tool fails

A run in memory that is not retried ends in a text, in a failure of the search
itself, or in a fault that its documents bring in. There are few of those: a last
update that has no order with the instant asked for, two sort keys without an
order, and numbers that are too long to be written. Only such a fault gets past
the agent and the command line; every other end is told as a text.

Results:
1. `Leak`, `page_leak`: the faults that documents bring in.
2. `call_eq`, `closing_eq`, `search_eq`: what an agent and the command line make of
   a run.
3. `run_fails_own`: runs without such a fault.
4. `run_leaks`: a document that brings one in.
-/

namespace DetectorSearch

open Op

/-! ## 1. Faults that documents bring in -/

namespace Tool

/-- The faults that documents can bring into a run. -/
inductive Leak (parameters : Parameters) (documents : List Detector) : Failure → Prop where
  /-- A last update has no order with the instant asked for. -/
  | update {detector : Detector} {since : Int} {value : Value} (hmem : detector ∈ documents)
      (h : Clause.Unordered parameters.filter detector.source since value) :
      Leak parameters documents (.misuse .wrongKind)
  /-- The sort keys of two detectors have no order. -/
  | keys {a b : Detector} (ha : a ∈ documents) (hb : b ∈ documents)
      (hka : (sortKey parameters.sortField a).isSome = true)
      (hkb : (sortKey parameters.sortField b).isSome = true)
      (h : (rankKey parameters.sortField a).relate? .less (rankKey parameters.sortField b) =
        none) :
      Leak parameters documents (.misuse .wrongKind)
  /-- A name has a number in it that is too long to be written. -/
  | name {detector : Detector} (hmem : detector ∈ documents)
      (h : detector.name.display? = none) :
      Leak parameters documents .longInteger
  /-- There are too many documents for their count to be written. -/
  | count (h : tenTo digitLimit ≤ documents.length) :
      Leak parameters documents .longInteger

variable {σ : Type} {around : Surroundings σ} {tool : Tool} {fields : Fields}
  {deadline : Option Seconds} {session : Session σ} {parameters : Parameters}
  {catalog : Catalog} {service : StatusService} {documents : List Detector} {failure : Failure}

/-- A search of parameters fails only in a fault that a document brings in. -/
theorem page_leak (h : parameters.request.page documents = .error failure) :
    Leak parameters documents failure := by
  unfold SearchRequest.page SearchRequest.rankedHits at h
  cases hfound : hitsOf (Clause.ofValue (.object parameters.request.query)) documents with
  | error other =>
      simp only [hfound] at h
      cases h
      obtain ⟨detector, hmem, hfailed⟩ := hitsOf_error hfound
      obtain ⟨rfl, since, value, hunordered⟩ := satisfies_filter_error hfailed
      exact .update hmem hunordered
  | ok found =>
      obtain ⟨-, rfl⟩ := hitsOf_eq_ok.1 hfound
      simp only [hfound] at h
      split at h
      · rename_i hordered
        cases h
        obtain ⟨rfl, a, ha, b, hb, hka, hkb, hnone⟩ := ordered_error hordered
        exact .keys (List.mem_filter.1 ha).1 (List.mem_filter.1 hb).1 hka hkb hnone
      · cases h

/-- A part of a page is not shown only because of a fault that a document brings in. -/
theorem render_leak {page : Page} {shown : List Detector} {total : Int}
    (hpage : parameters.request.page documents = .ok page) (hshown : shown.Sublist page.detectors)
    (htotal : total = page.total ∨ total = shown.length)
    (h : Presentation.render shown total = .error failure) :
    Leak parameters documents failure := by
  obtain ⟨hfound, hlength, count, hcount, hle⟩ := SearchRequest.page_found hpage
  obtain ⟨rfl, ⟨detector, hdetector, hname⟩ | hlong⟩ := Presentation.render_error h
  · exact .name (hfound detector (hshown.mem hdetector)) hname
  · refine .count (hlong.trans ?_)
    have hpart := hshown.length_le
    rcases htotal with rfl | rfl <;> omega

/-! ## 2. What is made of a run -/

/-- What an agent is told about a run: its text, or a failure of the search itself as a text. -/
def answer : Outcome String → Outcome String
  | .ok text => .ok text
  | .error failure => if failure.isOwn then .ok (failureText failure) else .error failure

/-- What the command line reports about a run. -/
def report : Outcome String → Outcome CommandLine.Notice
  | .ok text => .ok (.success text)
  | .error failure =>
      if failure.isOwn then .ok (.failure (failureText failure)) else .error failure

theorem call_eq (around : Surroundings σ) (tool : Tool) (arguments : Fields)
    (session : Session σ) :
    ((call around tool arguments).outcome session).1 =
      answer ((run around tool (given arguments) none).outcome session).1 := by
  rw [call, outcome_tryCatch]
  cases (run around tool (given arguments) none).outcome session with
  | mk result ended =>
      cases result with
      | ok text => rfl
      | error failure =>
          cases hown : failure.isOwn <;>
            simp only [answer, hown, if_true, Bool.false_eq_true, if_false, outcome_bind,
              outcome_record, outcome_pure, outcome_throw]

/-- Connections that are closed at the end change nothing about how an operation ends. -/
theorem closing_eq {α : Type} (operation : Op σ α) (session : Session σ) :
    ((closing operation).outcome session).1 = (operation.outcome session).1 := by
  have hclose : ∀ session : Session σ, ∃ closed, close.outcome session = (.ok (), closed) := by
    intro session
    exact ⟨_, by simp only [close, CatalogSearch.disconnect, StatusLookup.disconnect,
      outcome_bind, outcome_modify]; rfl⟩
  rw [closing, outcome_bind, outcome_tryCatch]
  cases operation.outcome session with
  | mk result ended =>
      obtain ⟨closed, hclosed⟩ := hclose ended
      cases result with
      | ok value => simp only [outcome_bind, hclosed, outcome_pure]
      | error failure => simp only [outcome_bind, hclosed, outcome_throw]

theorem search_eq (around : Surroundings σ) (tool : Tool) (arguments : Fields)
    (timeout : Option Float) (session : Session σ) :
    ((CommandLine.search around tool arguments timeout).outcome session).1 =
      report ((run around tool (given arguments) (timeout.map .real)).outcome session).1 := by
  have hclosing := closing_eq (run around tool (given arguments) (timeout.map .real)) session
  rw [CommandLine.search, outcome_tryCatch, outcome_bind]
  rw [← hclosing]
  cases (closing (run around tool (given arguments) (timeout.map .real))).outcome session with
  | mk result ended =>
      cases result with
      | ok text => rfl
      | error failure =>
          cases hown : failure.isOwn <;>
            simp only [report, hown, if_true, Bool.false_eq_true, if_false, outcome_pure,
              outcome_throw]

/-! ## 3. Runs that end as a caller can expect -/

/-- A run that is not retried ends in a text, in a failure of the search itself, or in a fault that a
document brings in. -/
theorem run_ends (hparameters : Parameters.ofFields fields tool.settings.defaults = .ok parameters)
    (hsearch : session.search = .memory catalog) (hstatus : session.status = .memory service)
    (hretry : tool.settings.retry.maxAttempts ≤ 0)
    (hspan : (spanFor tool.settings deadline).toFloat?.isSome = true)
    (h : ((run around tool fields deadline).outcome session).1 = .error failure) :
    failure.isOwn = true ∨ Leak parameters catalog.documents failure := by
  rw [run_of_attempt hparameters hretry] at h
  rcases attempt_failures hsearch hstatus hspan h with hpage | hown | ⟨page, shown, hpage, hsub, hshown⟩
  · exact .inr (page_leak hpage)
  · exact .inl hown
  · rcases hshown with hshown | hshown
    · exact .inr (render_leak hpage hsub (.inl rfl) hshown)
    · exact .inr (render_leak hpage hsub (.inr rfl) hshown)

/-- An agent and the command line tell every end of a run but a fault that a document brings in. -/
theorem told_of_own {ending : Outcome String}
    (h : ∀ failure, ending = .error failure → failure.isOwn = true) :
    (∃ text, answer ending = .ok text ∧ (ending = .ok text ∨
      ∃ failure, ending = .error failure ∧ text = failureText failure)) ∧
    ∃ told, report ending = .ok told ∧ ((∃ text, ending = .ok text ∧ told = .success text) ∨
      ∃ failure, ending = .error failure ∧ told = .failure (failureText failure)) := by
  cases ending with
  | ok text => exact ⟨⟨text, rfl, .inl rfl⟩, _, rfl, .inl ⟨text, rfl, rfl⟩⟩
  | error failure =>
      have hown := h failure rfl
      refine ⟨⟨_, ?_, .inr ⟨failure, rfl, rfl⟩⟩, _, ?_, .inr ⟨failure, rfl, rfl⟩⟩
      · rw [answer, if_pos hown]
      · rw [report, if_pos hown]

/-- Documents that bring no fault into a run: their last updates have an order with the instant asked
for, their sort keys have an order with each other, and they can be named and counted. -/
structure Sound (parameters : Parameters) (documents : List Detector) : Prop where
  updates : ∀ since, parameters.filter.lastUpdateTime = some since →
    ∀ detector ∈ documents,
      ∀ value ∈ Document.values detector.source DetectorFilter.updateField,
        value.isNull = false → (value.relate? .greaterOrEqual (.int since)).isSome = true
  keys : ∀ a ∈ documents, ∀ b ∈ documents,
    (sortKey parameters.sortField a).isSome = true →
    (sortKey parameters.sortField b).isSome = true →
    ((rankKey parameters.sortField a).relate? .less (rankKey parameters.sortField b)).isSome = true
  names : Presentation.Nameable documents
  count : documents.length < tenTo digitLimit

theorem Sound.not_leak (h : Sound parameters documents) (failure : Failure) :
    ¬ Leak parameters documents failure := by
  intro hleak
  cases hleak with
  | update hmem hunordered =>
      have hsome := h.updates _ hunordered.asked _ hmem _ hunordered.held hunordered.given
      simp [hunordered.unordered] at hsome
  | keys ha hb hka hkb hnone =>
      have hsome := h.keys _ ha _ hb hka hkb
      simp [hnone] at hsome
  | name hmem hname =>
      have hsome := h.names _ hmem
      simp [hname] at hsome
  | count hlong => exact absurd h.count (Nat.not_lt.2 hlong)

/-- A run in memory that is not retried ends in a text, in a failure of the search itself, or in one
of the faults that documents bring in. If they bring in none, an agent is always told a text, the
one of the run or one about its failure, and the command line always reports one. -/
theorem run_fails_own (around : Surroundings σ) (tool : Tool)
    (hparameters : Parameters.ofFields fields tool.settings.defaults = .ok parameters)
    (hsearch : session.search = .memory catalog) (hstatus : session.status = .memory service)
    (hretry : tool.settings.retry.maxAttempts ≤ 0) :
    (∀ deadline failure, (spanFor tool.settings deadline).toFloat?.isSome = true →
      ((run around tool fields deadline).outcome session).1 = .error failure →
      failure.isOwn = true ∨ Leak parameters catalog.documents failure) ∧
    (Sound parameters catalog.documents → ∀ arguments, given arguments = fields →
      (∃ text, ((call around tool arguments).outcome session).1 = .ok text ∧
        (((run around tool fields none).outcome session).1 = .ok text ∨
          ∃ failure, ((run around tool fields none).outcome session).1 = .error failure ∧
            text = failureText failure)) ∧
      ∀ timeout : Option Float, ∃ told,
        ((CommandLine.search around tool arguments timeout).outcome session).1 = .ok told ∧
        ((∃ text, ((run around tool fields (timeout.map .real)).outcome session).1 = .ok text ∧
            told = .success text) ∨
          ∃ failure,
            ((run around tool fields (timeout.map .real)).outcome session).1 = .error failure ∧
            told = .failure (failureText failure))) := by
  refine ⟨fun deadline failure hspan h => run_ends hparameters hsearch hstatus hretry hspan h,
    fun hsound arguments harguments => ?_⟩
  subst harguments
  have hown : ∀ timeout : Option Float, ∀ failure,
      ((run around tool (given arguments) (timeout.map .real)).outcome session).1 =
        .error failure → failure.isOwn = true := by
    intro timeout failure h
    have hspan : (spanFor tool.settings (timeout.map .real)).toFloat?.isSome = true := by
      cases timeout <;> rfl
    exact (run_ends hparameters hsearch hstatus hretry hspan h).resolve_right
      (hsound.not_leak failure)
  refine ⟨?_, fun timeout => ?_⟩
  · rw [call_eq]
    exact (told_of_own (hown none)).1
  · rw [search_eq]
    exact (told_of_own (hown timeout)).2

/-- Whether parameters ask for no last update, and documents have keys with an order and names. -/
def soundTest (documents : List Detector) (parameters : Parameters) : Bool :=
  parameters.filter.lastUpdateTime.isNone &&
    (documents.all fun a => documents.all fun b =>
      !(sortKey parameters.sortField a).isSome || !(sortKey parameters.sortField b).isSome ||
        ((rankKey parameters.sortField a).relate? .less (rankKey parameters.sortField b)).isSome) &&
    (documents.all fun detector => detector.name.display?.isSome) &&
    decide (documents.length < tenTo digitLimit)

theorem sound_of_test (h : soundTest documents parameters = true) :
    Sound parameters documents := by
  simp only [soundTest, Bool.and_eq_true, List.all_eq_true, decide_eq_true_eq] at h
  obtain ⟨⟨⟨hupdate, hkeys⟩, hnames⟩, hcount⟩ := h
  refine ⟨fun since hsince => ?_, fun a ha b hb hka hkb => ?_, hnames, hcount⟩
  · simp [hsince] at hupdate
  · simpa [hka, hkb] using hkeys a ha b hb

theorem run_fails_own_trio :
    ∃ text, ((call stillSurroundings standardTool [("running", .text "true")]).outcome
      trioSession).1 = .ok text := by
  obtain ⟨parameters, hits, hfinds, htest⟩ := @exists_finds Unit runningFields trioSession
    trioService trioDocuments (soundTest trioDocuments) rfl rfl (by decide +kernel)
  obtain ⟨text, htext, -⟩ := ((run_fails_own stillSurroundings standardTool hfinds.read hfinds.search
    hfinds.status (by decide)).2 (sound_of_test htest) runningFields rfl).1
  exact ⟨text, htext⟩

/-! ## 4. A fault that gets past -/

/-- Two detectors whose names have no order. -/
def mixedDocuments : List Detector :=
  [⟨"d1", [("name", .int 1)]⟩, ⟨"d2", [("name", .text "a")]⟩]

/-- A session with these detectors. -/
def mixedSession : Session Unit :=
  Session.start (.memory (.ofDocuments mixedDocuments)) (.memory ⟨[], []⟩) ()

/-- Two names without an order end a run in no failure of the search, and neither an agent nor the
command line tells it. -/
theorem run_leaks :
    ((run stillSurroundings standardTool [] none).outcome mixedSession).1 =
      .error (.misuse .wrongKind) ∧
    (Failure.misuse .wrongKind).isOwn = false ∧
    ((call stillSurroundings standardTool []).outcome mixedSession).1 =
      .error (.misuse .wrongKind) ∧
    ((CommandLine.search stillSurroundings standardTool [] none).outcome mixedSession).1 =
      .error (.misuse .wrongKind) := by
  have hrun : ((run stillSurroundings standardTool [] none).outcome mixedSession).1 =
      .error (.misuse .wrongKind) :=
    Outcome.eq_of_isMisuse (by decide +kernel)
  have hgiven : given [] = [] := rfl
  refine ⟨hrun, rfl, ?_, ?_⟩
  · rw [call_eq, hgiven, hrun]
    rfl
  · rw [search_eq, hgiven, Option.map_none, hrun]
    rfl

end Tool

end DetectorSearch
