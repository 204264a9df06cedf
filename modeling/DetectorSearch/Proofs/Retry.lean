import DetectorSearch.Proofs.Operation
import DetectorSearch.Retry

/-!
# Attempts one after another

A run of attempts goes on after a failure that is worth another attempt, with a
pause before each further one, until an attempt ends in another way or no
further ones are left. The number of the next attempt and the session are all
that an attempt hands on.

Results:
1. `Tries`: the attempts of a run, each in the session that the one before and
   its pause have left.
2. `run_tries`: a run makes its attempts like that, as many as the policy allows
   and no more, and ends as the last of them does.
3. `run_unwritable`: a limit that cannot be written ends a run before its second
   attempt.
-/

namespace DetectorSearch.Retry

variable {σ α : Type} {around : Surroundings σ} {policy : RetryPolicy} {action : Op σ α}
  {session ended next : Session σ} {failure : Failure} {wait : Float} {left number : Nat}

/-! ## 1. Attempts and pauses -/

/-- The pause before the further attempt with the given number: a record is logged, and the wait is
computed for this number and slept. -/
structure Pause (around : Surroundings σ) (policy : RetryPolicy) (failure : Failure) (number : Nat)
    (ended : Session σ) (wait : Float) (next : Session σ) : Prop where
  computed : Backoff.delay (.real policy.backoffBase) number Backoff.defaultJitter
    (around.draw ended.world).1 = .ok wait
  slept : ∃ record clock, Retry.record failure number policy = .ok record ∧
    Session.after ended.clock (.real wait) = .ok clock ∧
    next = { ended with
      clock
      world := (around.draw ended.world).2
      events := ended.events ++ [.logged record] }

/-- Attempts one after another, the first of them with the given number: the sessions in which they
start, the waits between them, and how the last of them ends. All others end in failures that are
worth another attempt. -/
inductive Tries (around : Surroundings σ) (policy : RetryPolicy) (action : Op σ α) :
    Nat → List (Session σ) → List Float → Outcome α × Session σ → Prop where
  | last (number : Nat) (session : Session σ) :
      Tries around policy action number [session] [] (action.outcome session)
  | again {number : Nat} {session ended next : Session σ} {failure : Failure} {wait : Float}
      {sessions : List (Session σ)} {waits : List Float} {final : Outcome α × Session σ}
      (hfailed : action.outcome session = (.error failure, ended))
      (hretryable : failure.isRetryable = true)
      (hpause : Pause around policy failure number ended wait next)
      (hrest : Tries around policy action (number + 1) (next :: sessions) waits final) :
      Tries around policy action number (session :: next :: sessions) (wait :: waits) final

theorem Tries.length_eq {sessions : List (Session σ)} {waits : List Float}
    {final : Outcome α × Session σ}
    (h : Tries around policy action number sessions waits final) :
    sessions.length = waits.length + 1 := by
  induction h with
  | last => rfl
  | again _ _ _ _ ih => rw [List.length_cons, ih, List.length_cons]

/-- An attempt with a result is the last one. -/
theorem Tries.of_ok {value : α} {sessions : List (Session σ)} {waits : List Float}
    {final : Outcome α × Session σ} (hok : action.outcome session = (.ok value, ended))
    (h : Tries around policy action number (session :: sessions) waits final) :
    sessions = [] ∧ final = (.ok value, ended) := by
  cases h with
  | last => exact ⟨rfl, hok⟩
  | again hfailed => exact absurd (hok.symm.trans hfailed) nofun

/-- An attempt that is alone ends as all do. -/
theorem Tries.of_single {waits : List Float} {final : Outcome α × Session σ}
    (h : Tries around policy action number [session] waits final) :
    action.outcome session = final := by
  cases h with
  | last => rfl

/-- A first attempt that ends otherwise than the last one has a pause behind it. -/
theorem Tries.of_ne {sessions : List (Session σ)} {waits : List Float}
    {final : Outcome α × Session σ} (hne : action.outcome session ≠ final)
    (h : Tries around policy action number (session :: sessions) waits final) :
    ∃ failure ended wait next, Pause around policy failure number ended wait next ∧
      sessions.head? = some next ∧ waits.head? = some wait := by
  cases h with
  | last => exact absurd rfl hne
  | again _ _ hpause => exact ⟨_, _, _, _, hpause, rfl, rfl⟩

theorem record_eq_ok (hlimit : policy.maxAttempts.natAbs < tenTo digitLimit) (failure : Failure)
    (number : Nat) : ∃ record, Retry.record failure number policy = .ok record := by
  have htext : integerText? policy.maxAttempts = some (integerText policy.maxAttempts) :=
    if_pos hlimit
  rw [Retry.record, htext]
  exact ⟨_, rfl⟩

/-- A computed wait is always slept. -/
theorem after_eq_ok (clock : Instant) (wait : Float) :
    ∃ next, Session.after clock (.real wait) = .ok next := by
  unfold Session.after
  split <;> exact ⟨_, rfl⟩

theorem exists_pause (hlimit : policy.maxAttempts.natAbs < tenTo digitLimit)
    (hdelay : Backoff.delay (.real policy.backoffBase) number Backoff.defaultJitter
      (around.draw ended.world).1 = .ok wait) :
    ∃ next, Pause around policy failure number ended wait next := by
  obtain ⟨record, hrecord⟩ := record_eq_ok hlimit failure number
  obtain ⟨clock, hclock⟩ := after_eq_ok ended.clock wait
  exact ⟨_, hdelay, record, clock, hrecord, hclock, rfl⟩

/-! ## 2. Runs -/

theorem attempts_of_ok {value : α} (h : action.outcome session = (.ok value, ended)) :
    (attempts around policy action left number).outcome session = (.ok value, ended) := by
  cases left with
  | zero => exact h
  | succ left => rw [attempts, Op.outcome_tryCatch, h]

theorem attempts_of_final (h : action.outcome session = (.error failure, ended))
    (hfinal : failure.isRetryable = false) :
    (attempts around policy action left number).outcome session = (.error failure, ended) := by
  cases left with
  | zero => exact h
  | succ left =>
      rw [attempts, Op.outcome_tryCatch, h]
      simp [hfinal]

/-- After a pause the run goes on as one that starts there with the next number. -/
theorem attempts_of_pause (h : action.outcome session = (.error failure, ended))
    (hretryable : failure.isRetryable = true)
    (hpause : Pause around policy failure number ended wait next) :
    (attempts around policy action (left + 1) number).outcome session =
      (attempts around policy action left (number + 1)).outcome next := by
  obtain ⟨hdelay, record, clock, hrecord, hclock, rfl⟩ := hpause
  rw [attempts, Op.outcome_tryCatch, h]
  simp only [hretryable, if_true, Op.outcome_bind, Op.outcome_ofOutcome, hrecord, Op.outcome_record,
    Retry.wait, Op.outcome_draw, hdelay, Op.outcome_sleep, hclock]

/-- A run with some further attempts left. -/
theorem attempts_tries (hlimit : left = 0 ∨ policy.maxAttempts.natAbs < tenTo digitLimit)
    (hdelays : ∀ sessions waits failure ended,
      Tries around policy action number (session :: sessions) waits (.error failure, ended) →
      failure.isRetryable = true → sessions.length < left →
      ∃ wait, Backoff.delay (.real policy.backoffBase) (number + sessions.length : Nat)
        Backoff.defaultJitter (around.draw ended.world).1 = .ok wait) :
    ∃ sessions waits,
      Tries around policy action number (session :: sessions) waits
        ((attempts around policy action left number).outcome session) ∧
      sessions.length ≤ left ∧
      (sessions.length = left ∨ ∀ failure,
        ((attempts around policy action left number).outcome session).1 = .error failure →
        failure.isRetryable = false) := by
  -- by induction on what is left: the rest of a run is a run from the next session and number
  induction left generalizing number session with
  | zero => exact ⟨[], [], .last number session, Nat.le_refl 0, .inl rfl⟩
  | succ left ih =>
      cases haction : action.outcome session with
      | mk result ended =>
          have hlast := @Tries.last σ α around policy action number session
          rw [haction] at hlast
          cases result with
          | ok value =>
              rw [attempts_of_ok haction]
              exact ⟨[], [], hlast, Nat.zero_le _, .inr nofun⟩
          | error failure =>
              cases hretryable : failure.isRetryable with
              | false =>
                  rw [attempts_of_final haction hretryable]
                  refine ⟨[], [], hlast, Nat.zero_le _, .inr fun other hother => ?_⟩
                  rwa [← Except.error.inj hother]
              | true =>
                  have hwritable := hlimit.resolve_left (Nat.succ_ne_zero left)
                  obtain ⟨wait, hdelay⟩ := hdelays [] [] failure ended hlast hretryable (by simp)
                  obtain ⟨next, hpause⟩ := @exists_pause σ around policy ended failure wait number
                    hwritable hdelay
                  rw [attempts_of_pause haction hretryable hpause]
                  -- the waits that the rest needs are those that the whole needs
                  obtain ⟨sessions, waits, htries, hle, hend⟩ :=
                    @ih next (number + 1) (.inr hwritable)
                      fun sessions waits failure ended htries hfailure hlt => by
                        have hwait := hdelays (next :: sessions) (_ :: waits) failure ended
                          (.again haction hretryable hpause htries) hfailure
                          (by simpa using hlt)
                        rwa [List.length_cons, Nat.add_comm sessions.length,
                          ← Nat.add_assoc] at hwait
                  refine ⟨next :: sessions, wait :: waits,
                    .again haction hretryable hpause htries, by simpa using hle, ?_⟩
                  exact hend.imp_left fun heq => by rw [List.length_cons, heq]

/-- A run makes attempts one after another. There are as many further ones as the policy allows, or
the last of them ends in no failure that is worth another. -/
theorem run_tries (hlimit : policy.maxAttempts < tenTo digitLimit)
    (hdelays : ∀ sessions waits failure ended,
      Tries around policy action 1 (session :: sessions) waits (.error failure, ended) →
      failure.isRetryable = true → sessions.length < policy.maxAttempts.toNat →
      ∃ wait, Backoff.delay (.real policy.backoffBase) (1 + sessions.length : Nat)
        Backoff.defaultJitter (around.draw ended.world).1 = .ok wait) :
    ∃ sessions waits,
      Tries around policy action 1 (session :: sessions) waits
        ((run around policy action).outcome session) ∧
      sessions.length ≤ policy.maxAttempts.toNat ∧
      (sessions.length = policy.maxAttempts.toNat ∨ ∀ failure,
        ((run around policy action).outcome session).1 = .error failure →
        failure.isRetryable = false) :=
  attempts_tries (by omega) hdelays

/-! ## 3. Limits that cannot be written -/

theorem record_eq_error (hlimit : (tenTo digitLimit : Int) ≤ policy.maxAttempts) (failure : Failure)
    (number : Nat) : Retry.record failure number policy = .error .longInteger := by
  have htext : integerText? policy.maxAttempts = none := if_neg (by omega)
  rw [Retry.record, htext]
  rfl

/-- A limit that cannot be written ends a run in the first failure that is worth another attempt, by
another failure. -/
theorem run_unwritable (hlimit : (tenTo digitLimit : Int) ≤ policy.maxAttempts)
    (h : action.outcome session = (.error failure, ended)) (hretryable : failure.isRetryable = true) :
    (run around policy action).outcome session = (.error .longInteger, ended) := by
  have hpos : 0 < policy.maxAttempts.toNat := by
    have hten := tenTo_pos digitLimit
    omega
  obtain ⟨left, hleft⟩ := Nat.exists_eq_succ_of_ne_zero (Nat.pos_iff_ne_zero.1 hpos)
  rw [run, hleft, attempts, Op.outcome_tryCatch, h]
  simp only [hretryable, if_true, Op.outcome_bind, Op.outcome_ofOutcome, record_eq_error hlimit]

end DetectorSearch.Retry
