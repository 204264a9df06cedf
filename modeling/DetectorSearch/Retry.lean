import DetectorSearch.Failure
import DetectorSearch.Session
/-! # Trying again

The wait before another attempt grows as a power of a base, with a random share of a jitter on top.
A whole base raised to a natural power is exact before the jitter is added.

An operation that fails for a passing reason is tried again as a whole, a limited number of times,
with such a wait before each further attempt. Every other failure ends it at once.
-/

namespace DetectorSearch.Backoff

/-- A power of a real. The powers of one are one; a zero has no negative powers, and a power may be too
large. -/
def realPower (base : Float) (exponent : Int) : Outcome Float := do
  let exponent ← (Seconds.whole exponent).asReal
  if (Place.ofInt 1).same (Place.ofFloat base) then return 1.0
  if (Place.ofInt 0).same (Place.ofFloat base) && exponent < 0 then
    throw (.fault .zeroDivision "0.0 cannot be raised to a negative power")
  let power := Float.pow base exponent
  if (Place.ofFloat base).isFinite && !(Place.ofFloat power).isFinite then
    throw (.fault .overflow "(34, 'Numerical result out of range')")
  return power

/-- The exponent with which a power is computed. The powers of a number of at most one digit in base
two repeat every second exponent, so that a large one is brought down. -/
def smallExponent (exponent : Int) : Nat :=
  if exponent ≤ 1100 then exponent.toNat else 1100 + exponent.toNat % 2

/-- A power of a whole number as a real. A power of two or more beyond the range of reals is not
computed. -/
def wholePower (base : Int) (exponent : Int) : Outcome Float := do
  if exponent < 0 then realPower (← (Seconds.whole base).asReal) exponent
  else if base.natAbs > 1 ∧ exponent > 1100 then throw .beyondReals
  else (Seconds.whole (Int.pow base (smallExponent exponent))).asReal

/-- A power of a base. -/
def power (base : Seconds) (attempt : Int) : Outcome Float :=
  match base with
  | .whole base => wholePower base attempt
  | .real base => realPower base attempt

/-- The wait before the attempt with the given number. `share` is the random part of the jitter,
between zero and one. -/
def delay (base : Seconds) (attempt : Int) (jitter : Seconds) (share : Float) : Outcome Float := do
  let power ← power base attempt
  let jitter ← jitter.asReal
  return power + (0.0 + (jitter - 0.0) * share)

/-- The base that is used unless another is given. -/
def defaultBase : Seconds := .real 1.5

/-- The jitter of a wait. -/
def defaultJitter : Seconds := .real 0.5

end DetectorSearch.Backoff

namespace DetectorSearch.Retry

variable {σ α : Type}

/-- What is logged before another attempt. A limit with too many digits to be written is a bad
value. -/
def record (failure : Failure) (attempt : Nat) (policy : RetryPolicy) : Outcome LogRecord :=
  (integerText? policy.maxAttempts).elim (.error .longInteger) fun limit =>
    .ok ⟨.warning, .tool,
      "Detector search failed (" ++ failure.message ++ "); retrying attempt " ++
        toString attempt ++ "/" ++ limit⟩

/-- Waits before the further attempt with the given number. -/
def wait (around : Surroundings σ) (policy : RetryPolicy) (attempt : Nat) : Op σ Unit := do
  let share ← Session.draw around
  let delay ← Session.ofOutcome
    (Backoff.delay (.real policy.backoffBase) attempt Backoff.defaultJitter share)
  Session.sleep (.real delay)

/-- Makes an attempt, and as many further ones as are left. `attempt` numbers the next of them. -/
def attempts (around : Surroundings σ) (policy : RetryPolicy) (action : Op σ α) :
    Nat → Nat → Op σ α
  | 0, _ => action
  | left + 1, attempt =>
      tryCatch action fun failure =>
        if failure.isRetryable then do
          let record ← Session.ofOutcome (record failure attempt policy)
          Session.record [.logged record]
          wait around policy attempt
          attempts around policy action left (attempt + 1)
        else throw failure

/-- Makes an attempt, and further ones as the policy allows. -/
def run (around : Surroundings σ) (policy : RetryPolicy) (action : Op σ α) : Op σ α :=
  attempts around policy action policy.maxAttempts.toNat 1

end DetectorSearch.Retry
