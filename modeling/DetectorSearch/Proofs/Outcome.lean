import DetectorSearch.Failure

/-!
# Outcomes one after another

What follows an outcome gets its value, and a failure is passed on. So a chain
of outcomes fails where one of them does, and has a result when all have.

Results:
1. `bind_eq_ok`, `bind_eq_error`: an outcome and what follows it.
2. `map_eq_ok`, `map_eq_error`: an outcome whose value is changed; `bind_map_congr`,
   `map_bind_congr`: changes that are passed on.
3. `isOk_iff`, `eq_ok_of_toOption`, `eq_of_isMisuse`,
   `exists_of_failsTest`: outcomes told by a test of them.
4. `FailsBy.bind`, `FailsBy.map`: outcomes that fail by certain failures only.
-/

namespace DetectorSearch.Outcome

variable {α β : Type} {first : Outcome α} {next : α → Outcome β} {each : α → β} {result : β}
  {failure : Failure}

theorem bind_eq_ok :
    (first >>= next) = .ok result ↔ ∃ value, first = .ok value ∧ next value = .ok result := by
  cases first <;> simp [bind, Except.bind]

theorem bind_eq_error : (first >>= next) = .error failure ↔
    first = .error failure ∨ ∃ value, first = .ok value ∧ next value = .error failure := by
  cases first <;> simp [bind, Except.bind]

theorem map_eq_ok :
    Except.map each first = .ok result ↔ ∃ value, first = .ok value ∧ each value = result := by
  cases first <;> simp [Except.map]

theorem map_eq_error : Except.map each first = .error failure ↔ first = .error failure := by
  cases first <;> simp [Except.map]

theorem map_id (outcome : Outcome α) : outcome.map id = outcome :=
  congrFun Except.map_id outcome

/-- What follows in two ways that differ by a change of the result has results that differ by it. -/
theorem bind_map_congr {γ : Type} {next' : α → Outcome γ} {change : β → γ}
    (h : ∀ value, next' value = (next value).map change) :
    (first >>= next') = (first >>= next).map change := by
  cases first with
  | ok value => exact h value
  | error failure => rfl

/-- So has what follows a changed value. -/
theorem map_bind_congr {γ δ : Type} {other : α → γ} {next' : γ → Outcome δ} {change : β → δ}
    (h : ∀ value, next' (other value) = (next value).map change) :
    (first.map other >>= next') = (first >>= next).map change := by
  cases first with
  | ok value => exact h value
  | error failure => rfl

theorem isOk_iff : first.isOk = true ↔ ∃ value, first = .ok value := by
  cases first <;> simp [Except.isOk, Except.toBool]

theorem eq_ok_of_toOption {value : α} (h : first.toOption = some value) : first = .ok value := by
  cases first with
  | ok other => rw [Option.some.inj h]
  | error failure => cases h

/-- Whether an outcome is the failure of a certain misuse. -/
def isMisuse (what : Misuse) : Outcome α → Bool
  | .error (.misuse other) => decide (other = what)
  | _ => false

theorem eq_of_isMisuse {what : Misuse} (h : first.isMisuse what = true) :
    first = .error (.misuse what) := by
  unfold isMisuse at h
  split at h
  · rw [of_decide_eq_true h]
  · exact absurd h Bool.false_ne_true

/-- Whether an outcome is a failure that passes a test. -/
def failsTest (test : Failure → Bool) : Outcome α → Bool
  | .ok _ => false
  | .error failure => test failure

theorem exists_of_failsTest {test : Failure → Bool} (h : first.failsTest test = true) :
    ∃ failure, first = .error failure ∧ test failure = true := by
  cases first with
  | ok value => cases h
  | error failure => exact ⟨failure, rfl, h⟩

/-- Whether all failures that an outcome can be are of a certain kind. -/
def FailsBy (kind : Failure → Prop) (outcome : Outcome α) : Prop :=
  ∀ failure, outcome = .error failure → kind failure

variable {kind other : Failure → Prop}

theorem failsBy_ok (value : α) : FailsBy kind (.ok value) :=
  nofun

theorem failsBy_error (h : kind failure) : FailsBy kind (.error failure : Outcome α) := by
  rintro _ ⟨⟩
  exact h

theorem FailsBy.mono (h : FailsBy kind first) (hkind : ∀ failure, kind failure → other failure) :
    FailsBy other first :=
  fun failure hfailure => hkind failure (h failure hfailure)

theorem FailsBy.bind (h : FailsBy kind first) (hnext : ∀ value, FailsBy kind (next value)) :
    FailsBy kind (first >>= next) := by
  intro failure hfailure
  rcases bind_eq_error.1 hfailure with hfirst | ⟨value, -, hvalue⟩
  · exact h failure hfirst
  · exact hnext value failure hvalue

theorem FailsBy.map (h : FailsBy kind first) : FailsBy kind (first.map each) :=
  fun failure hfailure => h failure (map_eq_error.1 hfailure)

/-- What fails after an outcome by a failure of another kind fails by itself. -/
theorem FailsBy.bind_eq_error (h : FailsBy kind first) (hfailure : ¬ kind failure) :
    (first >>= next) = .error failure ↔
      ∃ value, first = .ok value ∧ next value = .error failure := by
  rw [Outcome.bind_eq_error, or_iff_right]
  exact fun hfailed => hfailure (h failure hfailed)

end DetectorSearch.Outcome
