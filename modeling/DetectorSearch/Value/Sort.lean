import DetectorSearch.Failure
import DetectorSearch.Value.Order
/-! # Sorting by a value

Items are sorted by a key that is a value. The sort is stable in both directions: items with equal
keys stay in the order in which they came. Two items whose keys have no order cannot be sorted.

NaN is neither before nor after any number, so that keys with NaN in them have no one right order.
They come out as halving leaves them: the run of items in front that rises, or falls, is kept, and
every further item is put where halving finds its place among those before it. Halving is done here
for lists of every length, while the sort that is modelled merges runs from 64 items on.
-/

namespace DetectorSearch.Value

mutual

/-- Whether a value is NaN or has NaN in it, fields of objects left out. -/
def holdsNaN : Value → Bool
  | real number => Place.ofFloat number == .nowhere
  | list items => anyHoldsNaN items
  | _ => false

/-- Whether some of the values are or have NaN. -/
def anyHoldsNaN : List Value → Bool
  | [] => false
  | item :: rest => item.holdsNaN || anyHoldsNaN rest

end

/-- Whether each of the keys has an order with each. -/
def comparable (keys : List Value) : Bool :=
  keys.all fun a => keys.all fun b => (a.relate? .less b).isSome

/-- Whether the first key has to come before the second one, or may as well. -/
def inOrder (descending : Bool) (a b : Value) : Bool :=
  if descending then a.relate? .less b != some true else b.relate? .less a != some true

namespace Halving

variable {α : Type}

/-- The items in front of a list that go on with a run. `goesOn` looks at the last item of the run so
far and at the next one. -/
def takeRun (goesOn : α → α → Outcome Bool) (last : α) : List α → Outcome (List α × List α)
  | [] => .ok ([], [])
  | item :: rest => do
      if ← goesOn last item then
        let (run, others) ← takeRun goesOn item rest
        return (item :: run, others)
      else return ([], item :: rest)

/-- The run in front of a list, a falling one turned round, and the other items. -/
def firstRun (less : α → α → Outcome Bool) : List α → Outcome (List α × List α)
  | first :: second :: rest => do
      let falls ← less second first
      let goesOn := fun last item => (less item last).map (· == falls)
      let (run, others) ← takeRun goesOn second rest
      let run := first :: second :: run
      return (if falls then run.reverse else run, others)
  | items => .ok (items, [])

/-- The position behind `first` and not behind `last` at which an item belongs. -/
def position (less : α → α → Outcome Bool) (item : α) (sorted : List α) (first last : Nat) :
    Outcome Nat :=
  if inside : first < last then
    let middle := first + (last - first) / 2
    have : middle < last := by omega
    match sorted[middle]? with
    | none => .ok first
    | some other =>
        match less item other with
        | .error failure => .error failure
        | .ok true => position less item sorted first middle
        | .ok false => position less item sorted (middle + 1) last
  else .ok first
termination_by last - first

/-- Puts further items where they belong. -/
def insertAll (less : α → α → Outcome Bool) (sorted : List α) : List α → Outcome (List α)
  | [] => .ok sorted
  | item :: rest => do
      let position ← position less item sorted 0 sorted.length
      insertAll less (sorted.take position ++ item :: sorted.drop position) rest

/-- Items in rising order. -/
def sort (less : α → α → Outcome Bool) (items : List α) : Outcome (List α) := do
  let (run, others) ← firstRun less items
  insertAll less run others

end Halving

/-- Whether a value comes before another one, if the two have an order. -/
def isLess (a b : Value) : Outcome Bool :=
  match a.relate? .less b with
  | some less => .ok less
  | none => .error (.misuse .wrongKind)

/-- Items sorted by halving, in rising or in falling order. -/
def sortByHalving {α : Type} (key : α → Value) (descending : Bool) (items : List α) :
    Outcome (List α) :=
  let less := fun a b => isLess (key a) (key b)
  if descending then (Halving.sort less items.reverse).map List.reverse
  else Halving.sort less items

/-- Items sorted by a key, in rising or in falling order. Of 64 items or more with NaN among their keys,
this order is one of those that a sort may leave, and not the one that merging their runs leaves. -/
def sortBy {α : Type} (key : α → Value) (descending : Bool) (items : List α) :
    Outcome (List α) :=
  let keys := items.map key
  if items.length ≤ 1 then .ok items
  else if anyHoldsNaN keys then sortByHalving key descending items
  else if comparable keys then
    .ok (items.mergeSort fun a b => inOrder descending (key a) (key b))
  else .error (.misuse .wrongKind)

end DetectorSearch.Value
