import DetectorSearch.Failure
import DetectorSearch.Text.Character
import DetectorSearch.Text.Letter
import DetectorSearch.Value
/-! # Runtime states

The state of a detector as the status service reports it. A service may spell a state in letters of
any case and with blanks around it; a spelling that names no state, or none at all, is read as
`unknown`.

The status of one detector is what a lookup found out about it: a state, or the failure that kept
the lookup from finding it. A status names the detector that it is about, which a misbehaving
service may choose at will.

A predicate asks for or against each of three states. An axis that is not asked about constrains
nothing. Asked for, a detector has to be in that state; asked against, it has to be out of it.
-/

namespace DetectorSearch

/-- The runtime state of a detector. -/
inductive State where
  | running
  | disabled
  | failed
  | unknown
  deriving DecidableEq, Repr, Inhabited

namespace State

/-- All states. -/
def all : List State := [running, disabled, failed, unknown]

/-- The name of a state. -/
def name : State → String
  | running => "RUNNING"
  | disabled => "DISABLED"
  | failed => "FAILED"
  | unknown => "UNKNOWN"

/-- The state with exactly this name, `unknown` when there is none. -/
def ofName (name : List Char) : State :=
  if name = running.name.toList then running
  else if name = disabled.name.toList then disabled
  else if name = failed.name.toList then failed
  else unknown

/-- The state that a spelling names. -/
def ofSpelling (spelling : List Char) : State :=
  ofName (Text.capitals (Text.strip spelling))

/-- The state that a reported value names. A value that does not hold names none; one that holds
and is no text is misused. -/
def ofValue (value : Value) : Outcome State :=
  match value with
  | .text spelling => .ok (ofSpelling spelling.toList)
  | value =>
      if value.holds then .error (.misuse (.noMember value.kindName "strip")) else .ok unknown

theorem mem_all (state : State) : state ∈ all := by
  cases state <;> decide

theorem ofName_name (state : State) : ofName state.name.toList = state := by
  cases state <;> decide

end State

example : State.ofSpelling [' ', 'F', 'a', 'i', 'L', 'e', 'd', '\n'] = .failed := by decide

example : State.ofSpelling ['p', 'a', 'u', 's', 'e', 'd'] = .unknown := by decide

/-- What one lookup found out. A state may be left open. -/
structure Status where
  detector : String
  finding : Outcome (Option State)

namespace Status

/-- A status with a state. -/
def resolved (detector : String) (state : State) : Status := ⟨detector, .ok (some state)⟩

/-- A status of a lookup that failed. -/
def failure (detector : String) (cause : Failure) : Status := ⟨detector, .error cause⟩

/-- Why the lookup failed, if it did. -/
def cause? (status : Status) : Option Failure :=
  match status.finding with
  | .ok _ => none
  | .error cause => some cause

/-- The state that counts: one that is open, or was not found, counts as unknown. -/
def state (status : Status) : State :=
  match status.finding with
  | .ok (some state) => state
  | _ => .unknown

end Status

/-- What a caller asks of the state of a detector. -/
structure StatePredicate where
  running : Option Bool
  disabled : Option Bool
  failed : Option Bool
  deriving DecidableEq, Repr, Inhabited

namespace StatePredicate

/-- The predicate that asks nothing. -/
def any : StatePredicate := ⟨none, none, none⟩

/-- What is asked about one state. -/
def asked (predicate : StatePredicate) : State → Option Bool
  | .running => predicate.running
  | .disabled => predicate.disabled
  | .failed => predicate.failed
  | .unknown => none

/-- The states asked about, each with whether it is wanted. -/
def requested (predicate : StatePredicate) : List (State × Bool) :=
  State.all.filterMap fun state => (predicate.asked state).map (state, ·)

/-- Whether anything is asked. -/
def isActive (predicate : StatePredicate) : Bool :=
  !predicate.requested.isEmpty

/-- Whether a state satisfies every axis asked about. -/
def accepts (predicate : StatePredicate) (state : State) : Bool :=
  predicate.requested.all fun (wanted, flag) => (state == wanted) == flag

theorem mem_requested {predicate : StatePredicate} {state : State} {flag : Bool} :
    (state, flag) ∈ predicate.requested ↔ predicate.asked state = some flag := by
  simp only [requested, List.mem_filterMap, Option.map_eq_some_iff, Prod.mk.injEq]
  constructor
  · rintro ⟨_, _, _, asks, rfl, rfl⟩
    exact asks
  · intro asks
    exact ⟨state, State.mem_all state, flag, asks, rfl, rfl⟩

end StatePredicate

end DetectorSearch
