import DetectorSearch.Proofs.Retry
import DetectorSearch.Proofs.Service.Replies
import DetectorSearch.Tool

/-!
# The search tool tries again

A run of the tool reads its parameters once and makes attempts with them. Each
attempt searches first, and looks states up only if the search has succeeded and
any were asked for. So a run asks the catalog once for each attempt, always with
the same request, and ends as its last attempt does.

Results:
1. `SearchesFirst`: the order of what an attempt does, and
   `attempt_searches_first`.
2. `tries_ask`: attempts one after another ask the catalog once each.
3. `run_retries`: a run of the tool, told by its attempts.
4. `run_not_tries`: a limit with more digits than can be written is not kept.
-/

namespace DetectorSearch.Tool

variable {σ : Type} {around : Surroundings σ} {settings : Settings} {parameters : Parameters}
  {deadline : Option Seconds} {session : Session σ}

open Op

/-! ## 1. One attempt -/

/-- What an attempt does that starts in a session: it searches without a lookup, and when the search
fails that is all. If no states are asked for, the search is all that shows in the session. After
the search it asks the catalog nothing more. -/
structure SearchesFirst (around : Surroundings σ) (settings : Settings) (parameters : Parameters)
    (deadline : Option Seconds) (start : Session σ) : Prop where
  before : ((CatalogSearch.search around parameters.request).outcome start).2.lookups =
    start.lookups
  failed : ∀ failure searched,
    (CatalogSearch.search around parameters.request).outcome start = (.error failure, searched) →
    (attempt around settings parameters deadline).outcome start = (.error failure, searched)
  idle : parameters.predicate.isActive = false →
    ((attempt around settings parameters deadline).outcome start).2 =
      ((CatalogSearch.search around parameters.request).outcome start).2
  after : ((attempt around settings parameters deadline).outcome start).2.searches =
    ((CatalogSearch.search around parameters.request).outcome start).2.searches

theorem attempt_searches_first (start : Session σ) :
    SearchesFirst around settings parameters deadline start where
  before := CatalogSearch.search_keeps_lookups around parameters.request start
  failed failure searched h := by
    rw [attempt, outcome_bind, h]
  idle hinactive := by
    rw [attempt]
    refine @view_bind σ _ _ _ start id _ _ fun page => ?_
    simp only [hinactive, Bool.not_false, if_true]
    exact keeps_ofOutcome _
  after := by
    rw [attempt]
    refine view_bind _ fun page => ?_
    split
    · exact keeps_ofOutcome _
    · refine (StatusLookup.enrich_keeps_searches around _).bind fun kept => ?_
      exact Keeps.bind (fun session => rfl) fun _ => keeps_ofOutcome _

theorem attempt_asks_once (start : Session σ) :
    Asked parameters.request 1 start
      ((attempt around settings parameters deadline).outcome start).2 :=
  (CatalogSearch.search_asks_once around parameters.request start).of_searches_eq
    (attempt_searches_first start).after

/-! ## 2. Attempts one after another -/

theorem pause_keeps_searches {policy : RetryPolicy} {failure : Failure} {number : Nat}
    {wait : Float} {ended next : Session σ}
    (h : Retry.Pause around policy failure number ended wait next) :
    next.searches = ended.searches := by
  obtain ⟨record, clock, -, -, rfl⟩ := h.slept
  rfl

/-- Attempts one after another ask the catalog once each. -/
theorem tries_ask {policy : RetryPolicy} {number : Nat} {sessions : List (Session σ)}
    {waits : List Float} {final : Outcome String × Session σ}
    (h : Retry.Tries around policy (attempt around settings parameters deadline) number
      (session :: sessions) waits final) :
    Asked parameters.request (sessions.length + 1) session final.2 := by
  -- what an attempt asks and what the rest asks add up, since the pause between asks nothing
  generalize hall : session :: sessions = all at h
  induction h generalizing session sessions with
  | last number start =>
      obtain ⟨rfl, rfl⟩ := List.cons.inj hall
      exact attempt_asks_once session
  | @again number start ended next failure wait rest waits final hfailed _ hpause _ ih =>
      obtain ⟨rfl, rfl⟩ := List.cons.inj hall
      have hone := @attempt_asks_once σ around settings parameters deadline session
      rw [hfailed] at hone
      have hasked := (hone.of_searches_eq (pause_keeps_searches hpause)).trans (ih rfl)
      rwa [Nat.add_comm 1] at hasked

/-! ## 3. Runs -/

/-- A run whose parameters cannot be read ends in that, and does nothing else. Any other run makes
attempts one after another, with a pause before each but the first. There are as many further ones
as the policy allows, or the last of them ends in no failure that is worth another attempt; the run
ends as the last one does. Each asks the catalog once, with the same request, and looks nothing up
before its search has succeeded. The waits that the run needs have to be numbers, and the limit one
that can be written. -/
theorem run_retries (around : Surroundings σ) (tool : Tool) (fields : Fields)
    (deadline : Option Seconds) (session : Session σ) :
    (∀ failure, Parameters.ofFields fields tool.settings.defaults = .error failure →
      (run around tool fields deadline).outcome session = (.error failure, session)) ∧
    ∀ parameters, Parameters.ofFields fields tool.settings.defaults = .ok parameters →
      tool.settings.retry.maxAttempts < tenTo digitLimit →
      (∀ sessions waits failure ended,
        Retry.Tries around tool.settings.retry
          (attempt around tool.settings parameters deadline) 1 (session :: sessions) waits
          (.error failure, ended) →
        failure.isRetryable = true →
        sessions.length < tool.settings.retry.maxAttempts.toNat →
        ∃ wait, Backoff.delay (.real tool.settings.retry.backoffBase) (1 + sessions.length : Nat)
          Backoff.defaultJitter (around.draw ended.world).1 = .ok wait) →
      ∃ sessions waits,
        Retry.Tries around tool.settings.retry
          (attempt around tool.settings parameters deadline) 1 (session :: sessions) waits
          ((run around tool fields deadline).outcome session) ∧
        waits.length = sessions.length ∧
        sessions.length ≤ tool.settings.retry.maxAttempts.toNat ∧
        (sessions.length = tool.settings.retry.maxAttempts.toNat ∨ ∀ failure,
          ((run around tool fields deadline).outcome session).1 = .error failure →
          failure.isRetryable = false) ∧
        Asked parameters.request (sessions.length + 1) session
          ((run around tool fields deadline).outcome session).2 ∧
        ∀ start ∈ session :: sessions,
          SearchesFirst around tool.settings parameters deadline start := by
  refine ⟨fun failure hfailure => ?_, fun parameters hparameters hlimit hdelays => ?_⟩
  · rw [run, outcome_bind, outcome_ofOutcome, hfailure]
  · obtain ⟨sessions, waits, htries, hle, hend⟩ := Retry.run_tries hlimit hdelays
    have hrun : (run around tool fields deadline).outcome session =
        (Retry.run around tool.settings.retry
          (attempt around tool.settings parameters deadline)).outcome session := by
      rw [run, outcome_bind, outcome_ofOutcome, hparameters]
    rw [hrun]
    exact ⟨sessions, waits, htries, by simpa using htries.length_eq.symm, hle, hend,
      tries_ask htries, fun start _ => attempt_searches_first start⟩

/-- Surroundings without a server, in which chance draws the middle. -/
def stillSurroundings : Surroundings Unit :=
  ⟨fun _ world => (⟨none, .error (.fault (.transport .connect) "")⟩, world), fun world => (0.5, world),
    fun _ _ => ""⟩

/-- A catalog of one detector, of which the status service knows nothing. -/
def unknownSession : Session Unit :=
  Session.start (.memory (.ofDocuments [⟨"a", []⟩])) (.memory ⟨[], []⟩) ()

/-- The tool with the standard settings and a limit of further attempts. -/
def limitedTool (limit : Int) : Tool :=
  .ofSettings { Settings.standard with retry := ⟨limit, 1.5⟩ }

/-- Fields that ask for detectors that run. -/
def runningFields : Fields := [("running", .text "true")]

/-- The limit plays no part in one attempt, so a test of it under the standard settings tells how it
ends under any limit. -/
theorem attempt_of_test {fields : Fields} {test : Outcome String → Bool} (limit : Int)
    (h : ((Parameters.ofFields fields Defaults.standard).toOption.any fun parameters =>
      test ((attempt stillSurroundings Settings.standard parameters none).outcome
        unknownSession).1) = true) :
    ∃ parameters result ended,
      Parameters.ofFields fields (limitedTool limit).settings.defaults = .ok parameters ∧
      (attempt stillSurroundings (limitedTool limit).settings parameters none).outcome
        unknownSession = (result, ended) ∧
      test result = true := by
  generalize hparameters : Parameters.ofFields fields Defaults.standard = read at h
  cases read with
  | error failure => exact absurd h Bool.false_ne_true
  | ok parameters => exact ⟨parameters, _, _, hparameters, rfl, h⟩

/-- An attempt for detectors that run fails as long as nothing is known of them, and is worth
another. -/
theorem running_fails (limit : Int) :
    ∃ parameters failure ended,
      Parameters.ofFields runningFields (limitedTool limit).settings.defaults = .ok parameters ∧
      (attempt stillSurroundings (limitedTool limit).settings parameters none).outcome
        unknownSession = (.error failure, ended) ∧
      failure.isRetryable = true := by
  obtain ⟨parameters, result, ended, hparameters, hattempt, htest⟩ :=
    @attempt_of_test runningFields (Outcome.failsTest Failure.isRetryable) limit (by decide +kernel)
  obtain ⟨failure, rfl, hretryable⟩ := Outcome.exists_of_failsTest htest
  exact ⟨parameters, failure, ended, hparameters, hattempt, hretryable⟩

/-- A reply with one hit. -/
def singleHit : Value :=
  .object [("hits", .object [("hits", .list [.object [("_id", .text "a")]]), ("total", .int 1)])]

/-- A server that breaks its first request and replies to the others. -/
def recovering : Surroundings Bool :=
  ⟨fun _ up => (⟨none, if up then .ok ⟨200, none, .json singleHit⟩
      else .error (.fault (.transport .connect) "")⟩, true), fun up => (0.5, up), fun _ _ => ""⟩

/-- A session whose catalog is on a server that has had no request yet. -/
def brokenSession : Session Bool :=
  Session.start (.server ⟨"http://localhost:9200", none, none, true, none,
    some CatalogSearch.localConnection, false⟩) (.memory ⟨[], []⟩) false

/-- The tool with the standard settings, but for one further attempt at most and a wait that does not
grow. -/
def patientTool : Tool :=
  .ofSettings { Settings.standard with retry := ⟨1, 1.0⟩ }

/-- The wait before a second attempt of this tool is a number, and finite. -/
theorem delay_patient : ∃ wait, Backoff.delay (.real 1.0) 1 Backoff.defaultJitter 0.5 = .ok wait ∧
    (Place.ofFloat wait).isFinite = true := by
  have htest : ((Backoff.delay (.real 1.0) 1 Backoff.defaultJitter 0.5).toOption.any fun wait =>
      (Place.ofFloat wait).isFinite) = true := by
    decide +kernel
  obtain ⟨wait, hwait, hfinite⟩ := (Option.any_eq_true _ _).1 htest
  exact ⟨wait, Outcome.eq_ok_of_toOption hwait, hfinite⟩

/-- The first attempt breaks, and the whole run does not. -/
theorem patient_recovers : ∃ parameters text ended,
    Parameters.ofFields [] patientTool.settings.defaults = .ok parameters ∧
    ((attempt recovering patientTool.settings parameters none).outcome brokenSession).1.isOk =
      false ∧
    (run recovering patientTool [] none).outcome brokenSession = (.ok text, ended) := by
  have hfirst : ((Parameters.ofFields [] patientTool.settings.defaults).toOption.any fun parameters =>
      !((attempt recovering patientTool.settings parameters none).outcome brokenSession).1.isOk) =
        true := by
    decide +kernel
  have hrun : ((run recovering patientTool [] none).outcome brokenSession).1.isOk = true := by
    decide +kernel
  obtain ⟨parameters, hparameters, hfails⟩ := (Option.any_eq_true _ _).1 hfirst
  cases hended : (run recovering patientTool [] none).outcome brokenSession with
  | mk result ended =>
      rw [hended] at hrun
      obtain ⟨text, rfl⟩ := Outcome.isOk_iff.1 hrun
      exact ⟨parameters, text, ended, Outcome.eq_ok_of_toOption hparameters, by simpa using hfails,
        rfl⟩

/-- A negative limit allows no further attempt, a result needs none, and parameters that cannot be
read get not even one. A limit of one allows a second attempt after a wait, which succeeds where the
first one has failed. -/
theorem run_retries_as_allowed :
    (∃ parameters,
      (run stillSurroundings (limitedTool (-1)) runningFields none).outcome unknownSession =
        (attempt stillSurroundings (limitedTool (-1)).settings parameters none).outcome
          unknownSession ∧
      Asked parameters.request 1 unknownSession
        ((run stillSurroundings (limitedTool (-1)) runningFields none).outcome unknownSession).2) ∧
    (∃ (parameters : Parameters) (text : String) (ended : Session Unit),
      (run stillSurroundings (limitedTool 3) [] none).outcome unknownSession = (.ok text, ended) ∧
      Asked parameters.request 1 unknownSession ended) ∧
    (∃ failure, (run stillSurroundings (limitedTool 3) [("size", .int (-1))] none).outcome
      unknownSession = (.error failure, unknownSession)) ∧
    ∃ parameters next wait text ended,
      (run recovering patientTool [] none).outcome brokenSession = (.ok text, ended) ∧
      Retry.Tries recovering patientTool.settings.retry
        (attempt recovering patientTool.settings parameters none) 1 [brokenSession, next] [wait]
        (.ok text, ended) ∧
      (Place.ofFloat wait).isFinite = true ∧ Asked parameters.request 2 brokenSession ended := by
  have hlimit {limit : Int} (h : limit < 10) : limit < tenTo digitLimit :=
    Int.lt_of_lt_of_le h (Int.ofNat_le.2 ten_le_limit)
  refine ⟨?_, ?_, ?_, ?_⟩
  · obtain ⟨parameters, -, -, hparameters, -⟩ := running_fails (-1)
    obtain ⟨sessions, waits, htries, -, hle, -, hasked, -⟩ :=
      (run_retries stillSurroundings (limitedTool (-1)) runningFields none unknownSession).2
        parameters hparameters (hlimit (by decide))
        (fun _ _ _ _ _ _ hlt => absurd hlt (Nat.not_lt_zero _))
    -- no further attempt is allowed, so the first one is the last
    obtain rfl := List.length_eq_zero_iff.1 (Nat.le_zero.1 hle)
    exact ⟨parameters, htries.of_single.symm, hasked⟩
  · obtain ⟨parameters, result, ended, hparameters, hattempt, htest⟩ :=
      @attempt_of_test [] Except.isOk 3 (by decide +kernel)
    cases result with
    | error failure => exact absurd htest Bool.false_ne_true
    | ok text =>
        obtain ⟨sessions, waits, htries, -, -, -, hasked, -⟩ :=
          (run_retries stillSurroundings (limitedTool 3) [] none unknownSession).2
            parameters hparameters (hlimit (by decide)) (fun sessions waits failure ended htries => by
              exact absurd (htries.of_ok hattempt).2 nofun)
        obtain ⟨rfl, hfinal⟩ := htries.of_ok hattempt
        rw [hfinal] at hasked
        exact ⟨parameters, text, ended, hfinal, hasked⟩
  · have hrefused : (Parameters.ofFields [("size", .int (-1))] Defaults.standard).isOk = false := by
      decide +kernel
    generalize hparameters : Parameters.ofFields [("size", .int (-1))] Defaults.standard = read
      at hrefused
    cases read with
    | ok parameters => exact absurd hrefused.symm Bool.false_ne_true
    | error failure =>
        exact ⟨failure, (run_retries stillSurroundings (limitedTool 3) _ none unknownSession).1
          failure hparameters⟩
  · obtain ⟨parameters, text, ended, hparameters, hfails, hrun⟩ := patient_recovers
    obtain ⟨wait, hwait, hfinite⟩ := delay_patient
    obtain ⟨sessions, waits, htries, hwaits, hle, -, hasked, -⟩ :=
      (run_retries recovering patientTool [] none brokenSession).2 parameters hparameters
        (hlimit (by decide)) (fun sessions waits failure ended _ _ hless => by
          obtain rfl := List.length_eq_zero_iff.1 (Nat.lt_one_iff.1 hless)
          exact ⟨wait, hwait⟩)
    rw [hrun] at htries hasked
    -- the first attempt is not the last, since it fails and the run does not
    obtain ⟨_, _, paused, next, hpause, hnext, hpaused⟩ := htries.of_ne fun hends => by
      rw [hends] at hfails
      cases hfails
    obtain ⟨sessions, rfl⟩ := List.head?_eq_some_iff.1 hnext
    obtain ⟨waits, rfl⟩ := List.head?_eq_some_iff.1 hpaused
    -- one further attempt is allowed, so there is no third
    obtain rfl := List.length_eq_zero_iff.1 (Nat.le_zero.1 (Nat.le_of_succ_le_succ hle))
    obtain rfl := List.length_eq_zero_iff.1 (Nat.succ.inj hwaits)
    obtain rfl := Except.ok.inj (hpause.computed.symm.trans hwait)
    exact ⟨parameters, next, paused, text, ended, hrun, htries, hfinite, hasked⟩

/-! ## 4. A limit that is not kept -/

/-- A limit with more digits than can be written allows further attempts, but none is made: the run
ends in a failure that is none of its attempts'. -/
theorem run_not_tries :
    ∃ parameters failure ended,
      Parameters.ofFields runningFields (limitedTool (tenTo digitLimit)).settings.defaults =
        .ok parameters ∧
      (attempt stillSurroundings (limitedTool (tenTo digitLimit)).settings parameters none).outcome
        unknownSession = (.error failure, ended) ∧
      failure.isRetryable = true ∧
      (run stillSurroundings (limitedTool (tenTo digitLimit)) runningFields none).outcome
        unknownSession = (.error .longInteger, ended) ∧
      ¬ ∃ sessions waits,
        Retry.Tries stillSurroundings (limitedTool (tenTo digitLimit)).settings.retry
          (attempt stillSurroundings (limitedTool (tenTo digitLimit)).settings parameters none)
          1 (unknownSession :: sessions) waits
          ((run stillSurroundings (limitedTool (tenTo digitLimit)) runningFields none).outcome
            unknownSession) := by
  obtain ⟨parameters, failure, ended, hparameters, hattempt, hretryable⟩ :=
    running_fails (tenTo digitLimit)
  have hlimit : (tenTo digitLimit : Int) ≤
      (limitedTool (tenTo digitLimit)).settings.retry.maxAttempts := Int.le_refl (tenTo digitLimit)
  have hrun : (run stillSurroundings (limitedTool (tenTo digitLimit)) runningFields none).outcome
      unknownSession = (.error .longInteger, ended) := by
    rw [run, outcome_bind, outcome_ofOutcome, hparameters]
    exact Retry.run_unwritable hlimit hattempt hretryable
  refine ⟨parameters, failure, ended, hparameters, hattempt, hretryable, hrun, ?_⟩
  rintro ⟨sessions, waits, htries⟩
  rw [hrun] at htries
  -- the run does not end as its first attempt, and there is no record for a pause
  obtain ⟨_, _, _, _, hpause, -⟩ := htries.of_ne fun hends => by
    cases hattempt.symm.trans hends
    cases hretryable
  obtain ⟨record, -, hrecord, -⟩ := hpause.slept
  exact absurd (hrecord.symm.trans (Retry.record_eq_error hlimit _ _)) nofun

end DetectorSearch.Tool
