/-! # Values under keys

A list of pairs of a key and a value, keys in the order in which they were first written. A key
written again keeps its place and takes the new value.
-/

namespace DetectorSearch

/-- Values under keys, in order of first writing. -/
abbrev Keyed (α : Type) := List (String × α)

namespace Keyed

variable {α : Type}

/-- The value written under a key. -/
def find? (key : String) : Keyed α → Option α
  | [] => none
  | (other, value) :: rest => if other = key then some value else find? key rest

/-- Whether the key is written at all. -/
def has (key : String) (entries : Keyed α) : Bool :=
  (find? key entries).isSome

/-- Writes a value: a new key goes to the end, a known one keeps its place. -/
def put (key : String) (value : α) : Keyed α → Keyed α
  | [] => [(key, value)]
  | (other, known) :: rest =>
      if other = key then (other, value) :: rest else (other, known) :: put key value rest

/-- What results from writing all pairs in order. -/
def ofPairs (pairs : List (String × α)) : Keyed α :=
  pairs.foldl (fun entries pair => put pair.1 pair.2 entries) []

@[simp]
theorem find?_put_self (key : String) (value : α) (entries : Keyed α) :
    find? key (put key value entries) = some value := by
  induction entries with
  | nil => simp [put, find?]
  | cons head rest ih =>
      by_cases same : head.1 = key
      · simp [put, find?, same]
      · simp [put, find?, same, ih]

theorem find?_put_of_ne {key other : String} (differ : other ≠ key) (value : α)
    (entries : Keyed α) : find? other (put key value entries) = find? other entries := by
  induction entries with
  | nil => simp [put, find?, differ.symm]
  | cons head rest ih =>
      by_cases same : head.1 = key
      · have notOther : key ≠ other := fun equal => differ equal.symm
        simp [put, find?, same, notOther]
      · by_cases here : head.1 = other
        · simp [put, find?, here, differ]
        · simp [put, find?, same, here, ih]

end Keyed

end DetectorSearch
