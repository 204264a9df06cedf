import DetectorSearch.Json.Writer
import DetectorSearch.Proofs.Outcome
import DetectorSearch.Proofs.Text
import DetectorSearch.Value.Conversion

/-!
# Values that can be sent

A value that JSON can carry holds no bytes, no infinity or NaN and no half of a
surrogate pair. Such a value is sent, and it is quoted in messages, unless it holds
an integer of more than 4300 digits.

Results:
1. `write_portable`: a value that can be carried and whose integers are short has a JSON,
   and that has bytes.
2. `encode_portable`, `encode_unwritten`: it is sent, and why others are not.
3. `literal?_isSome`: a value can be quoted if and only if its integers are short.
-/

namespace DetectorSearch.Json

mutual

/-- Whether JSON can carry a value: it holds no bytes, no infinity or NaN and no half of a surrogate
pair. -/
def isPortable : Value → Bool
  | .null | .bool _ | .int _ => true
  | .real number => (Place.ofFloat number).isFinite
  | .text string => !Text.hasHalf string
  | .octets _ => false
  | .list items => arePortable items
  | .object fields => areFieldsPortable fields

/-- Whether JSON can carry all of some items. -/
def arePortable : List Value → Bool
  | [] => true
  | item :: rest => isPortable item && arePortable rest

/-- Whether JSON can carry all of some fields. -/
def areFieldsPortable : List (String × Value) → Bool
  | [] => true
  | (key, value) :: rest => !Text.hasHalf key && (isPortable value && areFieldsPortable rest)

end

mutual

/-- Whether no integer in a value has more than 4300 digits. -/
def isShort : Value → Bool
  | .int number => decide (number.natAbs < tenTo digitLimit)
  | .list items => areShort items
  | .object fields => areFieldsShort fields
  | _ => true

/-- Whether no integer in some items has more than 4300 digits. -/
def areShort : List Value → Bool
  | [] => true
  | item :: rest => isShort item && areShort rest

/-- Whether no integer in some fields has more than 4300 digits. -/
def areFieldsShort : List (String × Value) → Bool
  | [] => true
  | (_, value) :: rest => isShort value && areFieldsShort rest

end

variable {value : Value} {s t : List Char}

/-! ## 1. The JSON of a value -/

/-- Whether a text in characters holds no half of a surrogate pair. -/
def NoHalf (s : List Char) : Prop :=
  ∀ c ∈ s, Text.isHalf c = false

-- The instance is named because characters as such can also be tried one by one.
instance (s : List Char) : Decidable (NoHalf s) :=
  List.decidableBAll (fun c => Text.isHalf c = false) s

@[simp]
theorem noHalf_cons {c : Char} :
    NoHalf (c :: s) ↔ Text.isHalf c = false ∧ NoHalf s :=
  List.forall_mem_cons

@[simp]
theorem noHalf_append : NoHalf (s ++ t) ↔ NoHalf s ∧ NoHalf t :=
  List.forall_mem_append

theorem noHalf_writeChar {c : Char} (h : Text.isHalf c = false) : NoHalf (writeChar c) := by
  unfold writeChar
  split
  any_goals decide
  split
  · exact noHalf_cons.2 ⟨by decide, noHalf_cons.2 ⟨by decide, (Text.ascii_hex _ _).noHalf⟩⟩
  · exact noHalf_cons.2 ⟨h, List.forall_mem_nil _⟩

theorem noHalf_writeText {string : String} (h : Text.hasHalf string = false) :
    NoHalf (writeText string) := by
  have hchars : ∀ c ∈ string.toList, Text.isHalf c = false := by
    simpa [Text.hasHalf] using h
  refine noHalf_cons.2 ⟨by decide, noHalf_append.2 ⟨fun c hc => ?_, by decide⟩⟩
  obtain ⟨original, horiginal, hwritten⟩ := List.mem_flatMap.1 hc
  exact noHalf_writeChar (hchars _ horiginal) c hwritten

/-- Whether the JSON of something is written, and has bytes. -/
def Writes (written : Outcome (List Char)) : Prop :=
  ∃ chars, written = .ok chars ∧ NoHalf chars

theorem writes_integer {number : Int} (hshort : number.natAbs < tenTo digitLimit) :
    Writes (writeInteger number) := by
  refine ⟨integerChars number, ?_, (ascii_integerChars number).noHalf⟩
  rw [writeInteger, integerText?, if_pos hshort]
  exact congrArg Except.ok String.toList_ofList

theorem writes_real {number : Float} (h : (Place.ofFloat number).isFinite = true) :
    Writes (writeReal number) :=
  ⟨_, if_pos h, (ascii_plainText number).noHalf⟩

theorem Writes.row {first others : Outcome (List Char)} {front : List Char} (hfront : NoHalf front)
    (hfirst : Writes first) (hothers : Writes others) : Writes (row front first others) := by
  obtain ⟨chars, rfl, hchars⟩ := hfirst
  obtain ⟨more, rfl, hmore⟩ := hothers
  exact ⟨_, rfl, noHalf_append.2 ⟨hfront, noHalf_append.2 ⟨hchars, hmore⟩⟩⟩

theorem noHalf_singleton {c : Char} (h : Text.isHalf c = false) : NoHalf [c] :=
  List.forall_mem_singleton.2 h

theorem noHalf_key {c : Char} {key : String} (hc : Text.isHalf c = false)
    (hkey : (!Text.hasHalf key) = true) : NoHalf (c :: (writeText key ++ [':'])) :=
  noHalf_cons.2 ⟨hc, noHalf_append.2 ⟨noHalf_writeText (by simpa using hkey),
    noHalf_singleton (by decide)⟩⟩

mutual

/-- A value that can be carried has a JSON with bytes, if its integers are short. -/
theorem write_portable (value : Value) (h : isPortable value = true)
    (hshort : isShort value = true) : Writes (write value) := by
  cases value with
  | null => exact ⟨_, rfl, by decide⟩
  | bool flag => exact ⟨_, rfl, by cases flag <;> decide⟩
  | int number =>
      simp only [isShort, decide_eq_true_eq] at hshort
      exact writes_integer hshort
  | real number => exact writes_real h
  | text string => exact ⟨_, rfl, noHalf_writeText (by simpa [isPortable] using h)⟩
  | octets bytes => cases h
  | list items =>
      cases items with
      | nil => exact ⟨_, rfl, by decide⟩
      | cons item rest =>
          obtain ⟨hitem, hrest⟩ := Bool.and_eq_true_iff.1 h
          obtain ⟨hitemShort, hrestShort⟩ := Bool.and_eq_true_iff.1 hshort
          exact .row (noHalf_singleton (by decide)) (write_portable item hitem hitemShort)
            (writeItems_portable rest hrest hrestShort)
  | object fields =>
      cases fields with
      | nil => exact ⟨_, rfl, by decide⟩
      | cons field rest =>
          obtain ⟨key, value⟩ := field
          obtain ⟨hkey, hfields⟩ := Bool.and_eq_true_iff.1 h
          obtain ⟨hvalue, hrest⟩ := Bool.and_eq_true_iff.1 hfields
          obtain ⟨hvalueShort, hrestShort⟩ := Bool.and_eq_true_iff.1 hshort
          exact .row (noHalf_key (by decide) hkey) (write_portable value hvalue hvalueShort)
            (writeFields_portable rest hrest hrestShort)

theorem writeItems_portable : (items : List Value) → arePortable items = true →
    areShort items = true → Writes (writeItems items)
  | [], _, _ => ⟨_, rfl, by decide⟩
  | item :: rest, h, hshort => by
      obtain ⟨hitem, hrest⟩ := Bool.and_eq_true_iff.1 h
      obtain ⟨hitemShort, hrestShort⟩ := Bool.and_eq_true_iff.1 hshort
      exact .row (noHalf_singleton (by decide)) (write_portable item hitem hitemShort)
        (writeItems_portable rest hrest hrestShort)

theorem writeFields_portable : (fields : List (String × Value)) → areFieldsPortable fields = true →
    areFieldsShort fields = true → Writes (writeFields fields)
  | [], _, _ => ⟨_, rfl, by decide⟩
  | (key, value) :: rest, h, hshort => by
      obtain ⟨hkey, hfields⟩ := Bool.and_eq_true_iff.1 h
      obtain ⟨hvalue, hrest⟩ := Bool.and_eq_true_iff.1 hfields
      obtain ⟨hvalueShort, hrestShort⟩ := Bool.and_eq_true_iff.1 hshort
      exact .row (noHalf_key (by decide) hkey) (write_portable value hvalue hvalueShort)
        (writeFields_portable rest hrest hrestShort)

end

/-! ## 2. Values that are sent -/

/-- Why a value is not sent: a number or a text in it is bad, or there are bytes in it. -/
def Unwritten (failure : Failure) : Prop :=
  failure.isBadValue = true ∨ failure = octetsFailure

theorem writeInteger_unwritten (number : Int) : Outcome.FailsBy Unwritten (writeInteger number) := by
  unfold writeInteger
  cases integerText? number with
  | some text => exact Outcome.failsBy_ok _
  | none => exact Outcome.failsBy_error (.inl rfl)

theorem writeReal_unwritten (number : Float) : Outcome.FailsBy Unwritten (writeReal number) := by
  unfold writeReal
  split
  · exact Outcome.failsBy_ok _
  · exact Outcome.failsBy_error (.inl rfl)

theorem row_unwritten {first others : Outcome (List Char)} (front : List Char)
    (hfirst : Outcome.FailsBy Unwritten first) (hothers : Outcome.FailsBy Unwritten others) :
    Outcome.FailsBy Unwritten (row front first others) :=
  hfirst.bind fun _ => hothers.bind fun _ => Outcome.failsBy_ok _

mutual

theorem write_unwritten : (value : Value) → Outcome.FailsBy Unwritten (write value)
  | .null | .bool _ | .text _ | .list [] | .object [] => Outcome.failsBy_ok _
  | .int number => writeInteger_unwritten number
  | .real number => writeReal_unwritten number
  | .octets _ => Outcome.failsBy_error (.inr rfl)
  | .list (item :: rest) => row_unwritten _ (write_unwritten item) (writeItems_unwritten rest)
  | .object ((_, value) :: rest) =>
      row_unwritten _ (write_unwritten value) (writeFields_unwritten rest)

theorem writeItems_unwritten :
    (items : List Value) → Outcome.FailsBy Unwritten (writeItems items)
  | [] => Outcome.failsBy_ok _
  | item :: rest => row_unwritten _ (write_unwritten item) (writeItems_unwritten rest)

theorem writeFields_unwritten :
    (fields : List (String × Value)) → Outcome.FailsBy Unwritten (writeFields fields)
  | [] => Outcome.failsBy_ok _
  | (_, value) :: rest => row_unwritten _ (write_unwritten value) (writeFields_unwritten rest)

end

/-- A value that JSON can carry is sent if its integers are short. -/
theorem encode_portable (h : isPortable value = true) (hshort : isShort value = true) :
    ∃ chars, encode value = .ok chars := by
  obtain ⟨chars, hwrite, hbytes⟩ := write_portable value h hshort
  refine ⟨chars, ?_⟩
  simp only [encode, hwrite, bind, Except.bind, Text.encodeFault?_eq_none_iff.2 hbytes]
  rfl

/-! ## 3. Values that are quoted -/

mutual

/-- A value can be quoted if and only if its integers are short. -/
theorem literal?_isSome : (value : Value) → value.literal?.isSome = isShort value
  | .null | .bool _ | .real _ | .text _ | .octets _ => rfl
  | .int number => by
      rw [Value.literal?, integerText?, isShort]
      split <;> simp [*]
  | .list items => by
      rw [Value.literal?, Option.isSome_map, literalItems?_isSome, isShort]
  | .object fields => by
      rw [Value.literal?, Option.isSome_map, literalFields?_isSome, isShort]

theorem literalItems?_isSome :
    (items : List Value) → (Value.literalItems? items).isSome = areShort items
  | [] => rfl
  | item :: rest => by
      rw [Value.literalItems?, areShort, ← literal?_isSome item, ← literalItems?_isSome rest]
      cases item.literal? <;> cases Value.literalItems? rest <;> rfl

theorem literalFields?_isSome :
    (fields : List (String × Value)) → (Value.literalFields? fields).isSome = areFieldsShort fields
  | [] => rfl
  | (key, value) :: rest => by
      rw [Value.literalFields?, areFieldsShort, ← literal?_isSome value,
        ← literalFields?_isSome rest]
      cases value.literal? <;> cases Value.literalFields? rest <;> rfl

end

end DetectorSearch.Json
