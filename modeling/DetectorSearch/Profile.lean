import DetectorSearch.State
/-! # Profiles

A server answers a lookup with a profile of the detector. A plain profile has the state at its top;
a task profile has it in the detection task of its first node, which counts when there is none at
the top. A profile may name the detector that it is about, else it is the one that was asked about.
-/

namespace DetectorSearch.Profile

/-- The field of an object, null when it is absent; other values have no fields. -/
def member (key : String) (value : Value) : Outcome Value :=
  match value with
  | .object fields => .ok (Fields.get key fields)
  | value => .error (.misuse (.noMember value.kindName "get"))

/-- The value itself if it holds, else an object without fields. -/
def orEmpty (value : Value) : Value :=
  value.orElse (.object [])

/-- The first item of a value that holds. -/
def firstItem (value : Value) : Outcome Value :=
  match value with
  | .list (item :: _) => .ok item
  | .text string =>
      match string.toList with
      | c :: _ => .ok (.text c.toString)
      | [] => .ok (.text "")
  | .object _ => .error (.misuse (.missingPosition 0))
  | value => .error (.misuse (.notSubscriptable value.kindName))

/-- The task profile of the first of some nodes, null when there are none. -/
def taskProfile (nodes : Value) : Outcome Value :=
  if nodes.holds then
    match firstItem nodes with
    | .error failure => .error failure
    | .ok node => member "ad_task_profile" (orEmpty node)
  else .ok .null

/-- The state in the detection task of a task profile. -/
def taskState (profile : Value) : Outcome Value :=
  match member "ad_task" (orEmpty profile) with
  | .error failure => .error failure
  | .ok task => member "state" (orEmpty task)

/-- The state that a profile reports, null when it reports none. -/
def rawState (fields : Fields) : Outcome Value :=
  let top := fields.get "state"
  if top.isNull then
    match taskProfile (fields.get "nodes") with
    | .error failure => .error failure
    | .ok profile => taskState profile
  else .ok top

/-- The id that a profile is about: the one it reports if that holds, else the one asked about. -/
def reportedId (asked : Option String) (fields : Fields) : Value :=
  (fields.get "detector_id").orElse ((asked.map Value.text).getD .null)

/-- Reads the status out of a profile. -/
def read (asked : Option String) (payload : Value) : Outcome Status :=
  match payload with
  | .object fields =>
      match rawState fields with
      | .error failure => .error failure
      | .ok raw =>
          match State.ofValue raw with
          | .error failure => .error failure
          | .ok state =>
              match reportedId asked fields with
              | .text id => .ok (Status.resolved id state)
              | _ => .error (.invalid [(["detector_id"], .notText)])
  | payload => .error (.misuse (.noMember payload.kindName "get"))

end DetectorSearch.Profile
