import DetectorSearch.Proofs.Decimal.Numeral
import DetectorSearch.Proofs.Keyed
import DetectorSearch.Proofs.Parameters
import Mathlib.Data.List.Forall2

/-!
# Parameters in other forms

The same parameters may be given in several forms: one that is left out may be null,
and one that has a type may be the text that shows it. Each parameter is read by
itself, so forms come to the same if each parameter is read alike in them. Three are
not. A null order or sort field is shown as a text, and an instant in front of the
epoch is ignored when it is a text.

Results:
1. `ofFields_map`: parameters that are read alike one by one.
2. `ofFields_withoutNulls`: parameters that are null, and that are left out;
   `nullOrder_differs`: a null order.
3. `ofFields_respelled`: parameters of their types, and in texts;
   `earlyInstant_differs`: an instant in front of the epoch.
-/

namespace DetectorSearch

namespace Parameters

open Outcome

variable {fields fields' : Fields} {defaults : Defaults} {key : String} {value value' : Value}
  {number : Int}

/-! ## 1. One parameter after another -/

/-- Whether all parameters are read alike in two forms, order, instant and sort field aside. -/
structure ReadAlike (fields fields' : Fields) : Prop where
  flags : ∀ key ∈ ["highCardinality", "running", "disabled", "failed"],
    readFlag (fields'.get key) = readFlag (fields.get key)
  texts : ∀ key ∈ ["detectorName", "detectorNamePattern", "indices"],
    fields'.get key = fields.get key
  counts : ∀ key ∈ ["size", "startIndex"], ∀ default,
    readCount key (fields'.get key) default = readCount key (fields.get key) default

/-- Parameters with their order, instant and sort field changed. -/
def changed (order : SortOrder → SortOrder) (instant : Option Int → Option Int)
    (sortField : String → String) (parameters : Parameters) : Parameters :=
  { parameters with
    filter := { parameters.filter with
      lastUpdateTime := instant parameters.filter.lastUpdateTime }
    sortField := sortField parameters.sortField
    sortOrder := order parameters.sortOrder }

theorem readFilter_map (name pattern indices : Value) (high : Option Bool) (updated : Option Int)
    (instant : Option Int → Option Int) :
    readFilter name pattern indices high (instant updated) =
      (readFilter name pattern indices high updated).map fun filter =>
        { filter with lastUpdateTime := instant filter.lastUpdateTime } := by
  unfold readFilter
  cases Fields.under "detector_name" (Reader.optional Reader.text name) <;>
    cases Fields.under "detector_name_pattern" (Reader.optional Reader.text pattern) <;>
    cases Fields.under "indices" (Reader.optional Reader.text indices) <;>
    rfl

/-- If order, instant and sort field are read with a change, and all else is read alike, the
parameters have this change and no other. -/
theorem ofFields_map {text sortField : String → String} {order : SortOrder → SortOrder}
    {instant : Option Int → Option Int} (h : ReadAlike fields fields')
    (htext : display (fields'.getD "sortOrder" (.text defaults.sortOrder.name)) =
      (display (fields.getD "sortOrder" (.text defaults.sortOrder.name))).map text)
    (horder : ∀ string, orderOf (text string) = order (orderOf string))
    (hinstant : readInstant (fields'.get "lastUpdateTime") =
      (readInstant (fields.get "lastUpdateTime")).map instant)
    (hsortField : display (fields'.getD "sortString" (.text defaults.sortField)) =
      (display (fields.getD "sortString" (.text defaults.sortField))).map sortField) :
    ofFields fields' defaults =
      (ofFields fields defaults).map (changed order instant sortField) := by
  obtain ⟨hflags, htexts, hcounts⟩ := h
  simp only [List.forall_mem_cons] at hflags htexts hcounts
  obtain ⟨hhigh, hrunning, hdisabled, hfailed, -⟩ := hflags
  obtain ⟨hname, hpattern, hindices, -⟩ := htexts
  obtain ⟨hsize, hstart, -⟩ := hcounts
  unfold ofFields
  rw [htext, hhigh, hinstant, hname, hpattern, hindices, hrunning, hdisabled, hfailed, hsize,
    hstart, hsortField]
  refine map_bind_congr fun string => bind_map_congr fun high => ?_
  refine map_bind_congr fun updated => ?_
  rw [readFilter_map]
  refine map_bind_congr fun filter => bind_map_congr fun running => ?_
  refine bind_map_congr fun disabled => bind_map_congr fun failed => ?_
  refine bind_map_congr fun size => bind_map_congr fun start => ?_
  refine map_bind_congr fun field => ?_
  rw [horder]
  rfl

/-- Parameters that are read alike one by one are the same. -/
theorem ofFields_congr (h : ReadAlike fields fields')
    (hshown : ∀ key ∈ ["sortOrder", "sortString"], ∀ default,
      display (fields'.getD key (.text default)) = display (fields.getD key (.text default)))
    (hinstant : readInstant (fields'.get "lastUpdateTime") =
      readInstant (fields.get "lastUpdateTime")) :
    ofFields fields' defaults = ofFields fields defaults := by
  have hunchanged := @ofFields_map fields fields' defaults id id id id h
    ((hshown _ (by decide) _).trans (map_id _).symm) (fun _ => rfl)
    (hinstant.trans (map_id _).symm) ((hshown _ (by decide) _).trans (map_id _).symm)
  exact hunchanged.trans (map_id _)

/-! ## 2. Null parameters -/

/-- The fields that are not null. -/
def withoutNulls (fields : Fields) : Fields :=
  fields.filter fun entry => !entry.2.isNull

/-- Whether a parameter is given, and null. -/
def isNulled (key : String) (fields : Fields) : Bool :=
  (Keyed.find? key fields).any Value.isNull

/-- Parameters as null shows in them: as a falling order, and as the name of a sort field. -/
def showingNulls (fields : Fields) (parameters : Parameters) : Parameters :=
  { parameters with
    sortField := if isNulled "sortString" fields then "None" else parameters.sortField
    sortOrder := if isNulled "sortOrder" fields then .desc else parameters.sortOrder }

theorem getD_withoutNulls (hkeys : (fields.map Prod.fst).Nodup) (key : String) (default : Value) :
    (isNulled key fields = true ∧ fields.getD key default = .null ∧
      (withoutNulls fields).getD key default = default) ∨
    (isNulled key fields = false ∧
      fields.getD key default = (withoutNulls fields).getD key default) := by
  have hfound : Keyed.find? key (withoutNulls fields) =
      (Keyed.find? key fields).filter fun value => !value.isNull :=
    Keyed.find?_filter (fun value => !value.isNull) hkeys
  unfold isNulled Fields.getD
  rw [hfound]
  cases Keyed.find? key fields with
  | none => exact .inr ⟨rfl, rfl⟩
  | some value =>
      cases value with
      | null => exact .inl ⟨rfl, rfl, rfl⟩
      | bool | int | real | text | octets | list | object => exact .inr ⟨rfl, rfl⟩

/-- What is asked for with null as its default does not tell null from absent. -/
theorem get_withoutNulls (hkeys : (fields.map Prod.fst).Nodup) (key : String) :
    fields.get key = (withoutNulls fields).get key := by
  unfold Fields.get
  rcases getD_withoutNulls hkeys key .null with ⟨-, hnull, hdefault⟩ | ⟨-, hsame⟩
  · exact hnull.trans hdefault.symm
  · exact hsame

theorem readAlike_withoutNulls (hkeys : (fields.map Prod.fst).Nodup) :
    ReadAlike (withoutNulls fields) fields where
  flags key _ := congrArg readFlag (get_withoutNulls hkeys key)
  texts key _ := get_withoutNulls hkeys key
  counts key _ default := congrArg (readCount key · default) (get_withoutNulls hkeys key)

/-- Null is shown as a text where a text stands for what is left out. -/
theorem display_withoutNulls (hkeys : (fields.map Prod.fst).Nodup) (key default : String) :
    display (fields.getD key (.text default)) =
      (display ((withoutNulls fields).getD key (.text default))).map fun string =>
        if isNulled key fields then "None" else string := by
  rcases getD_withoutNulls hkeys key (.text default) with ⟨hnulled, hnull, htext⟩ | ⟨hnulled, hsame⟩
  · rw [hnull, htext, hnulled]
    rfl
  · rw [hsame, hnulled]
    cases display ((withoutNulls fields).getD key (.text default)) <;> rfl

/-- A null parameter is read as one that is left out, except for order and sort field: null asks for
a falling order, and for the field that is named as null is shown. -/
theorem ofFields_withoutNulls (defaults : Defaults) (hkeys : (fields.map Prod.fst).Nodup) :
    ofFields fields defaults =
      (ofFields (withoutNulls fields) defaults).map (showingNulls fields) ∧
    (isNulled "sortOrder" fields = false → isNulled "sortString" fields = false →
      ofFields fields defaults = ofFields (withoutNulls fields) defaults) := by
  have hinstant : readInstant (fields.get "lastUpdateTime") =
      (readInstant ((withoutNulls fields).get "lastUpdateTime")).map id := by
    rw [get_withoutNulls hkeys, map_id]
  have horder (string : String) :
      orderOf (if isNulled "sortOrder" fields then "None" else string) =
        if isNulled "sortOrder" fields then .desc else orderOf string := by
    split
    · rfl
    · rfl
  have hmap : ofFields fields defaults =
      (ofFields (withoutNulls fields) defaults).map (showingNulls fields) :=
    ofFields_map (readAlike_withoutNulls hkeys) (display_withoutNulls hkeys _ _) horder hinstant
      (display_withoutNulls hkeys _ _)
  refine ⟨hmap, fun hnulledOrder hnulledField => ?_⟩
  have hsame : showingNulls fields = id := by
    funext parameters
    simp only [showingNulls, hnulledOrder, hnulledField, Bool.false_eq_true, if_false, id]
  rw [hmap, hsame, map_id]

/-- Four parameters, three of them null. -/
def mostlyNull : Fields :=
  [("size", .null), ("running", .text "true"), ("sortOrder", .null), ("detectorName", .null)]

theorem ofFields_withoutNulls_most : (mostlyNull.map Prod.fst).Nodup ∧
    ofFields mostlyNull Defaults.standard =
      (ofFields [("running", .text "true")] Defaults.standard).map (showingNulls mostlyNull) := by
  have hkeys : (mostlyNull.map Prod.fst).Nodup := by decide
  exact ⟨hkeys, (ofFields_withoutNulls Defaults.standard hkeys).1⟩

/-- An order alone, which is null. -/
def nullOrder : Fields :=
  [("sortOrder", .null)]

/-- A null order asks for a falling one, while the default is a rising one. -/
theorem nullOrder_differs : (nullOrder.map Prod.fst).Nodup ∧
    (ofFields nullOrder Defaults.standard).toOption.map sortOrder = some .desc ∧
    (ofFields (withoutNulls nullOrder) Defaults.standard).toOption.map sortOrder = some .asc ∧
    ofFields nullOrder Defaults.standard ≠
      ofFields (withoutNulls nullOrder) Defaults.standard := by
  have hnull : (ofFields nullOrder Defaults.standard).toOption.map sortOrder = some .desc := by
    decide +kernel
  have habsent : (ofFields (withoutNulls nullOrder) Defaults.standard).toOption.map sortOrder =
      some .asc := by
    decide +kernel
  refine ⟨by decide, hnull, habsent, fun hsame => ?_⟩
  rw [hsame, habsent] at hnull
  cases hnull

/-! ## 3. Parameters in texts -/

/-- The parameters that are integers. -/
def integerKeys : List String :=
  ["size", "startIndex", "lastUpdateTime"]

/-- The parameters that are flags. -/
def flagKeys : List String :=
  ["highCardinality", "running", "disabled", "failed"]

/-- The parameters that are texts. -/
def textKeys : List String :=
  ["detectorName", "detectorNamePattern", "indices", "sortOrder", "sortString"]

/-- Whether a parameter has its type. An integer has at most 4300 digits, and what is no parameter may
be anything. -/
inductive HasType (key : String) : Value → Prop where
  | integer {number : Int} (hkey : key ∈ integerKeys) (hshort : number.natAbs < tenTo digitLimit) :
      HasType key (.int number)
  | flag (hkey : key ∈ flagKeys) (flag : Bool) : HasType key (.bool flag)
  | text (hkey : key ∈ textKeys) (string : String) : HasType key (.text string)
  | other (hkey : key ∉ integerKeys ++ flagKeys ++ textKeys) (value : Value) : HasType key value

/-- Whether a value is given as it is, or as the text that shows it. -/
inductive Respells (value : Value) : Value → Prop where
  | same : Respells value value
  | shown {string : String} (h : value.display? = some string) : Respells value (.text string)

/-- Whether fields are given again, some of them in texts. -/
def Respelled (fields fields' : Fields) : Prop :=
  List.Forall₂ (fun entry entry' => entry'.1 = entry.1 ∧ Respells entry.2 entry'.2) fields fields'

theorem HasType.of_integer (h : HasType key value) (hkey : key ∈ integerKeys) :
    ∃ number : Int, value = .int number ∧ number.natAbs < tenTo digitLimit := by
  have hapart : ∀ key ∈ integerKeys, key ∉ flagKeys ∧ key ∉ textKeys := by decide
  cases h with
  | integer _ hshort => exact ⟨_, rfl, hshort⟩
  | flag hflag => exact absurd hflag (hapart key hkey).1
  | text htext => exact absurd htext (hapart key hkey).2
  | other hother => exact absurd (by simp [hkey]) hother

theorem HasType.of_flag (h : HasType key value) (hkey : key ∈ flagKeys) :
    ∃ flag, value = .bool flag := by
  have hapart : ∀ key ∈ flagKeys, key ∉ integerKeys ∧ key ∉ textKeys := by decide
  cases h with
  | integer hinteger => exact absurd hinteger (hapart key hkey).1
  | flag _ flag => exact ⟨flag, rfl⟩
  | text htext => exact absurd htext (hapart key hkey).2
  | other hother => exact absurd (by simp [hkey]) hother

theorem HasType.of_text (h : HasType key value) (hkey : key ∈ textKeys) :
    ∃ string, value = .text string := by
  have hapart : ∀ key ∈ textKeys, key ∉ integerKeys ∧ key ∉ flagKeys := by decide
  cases h with
  | integer hinteger => exact absurd hinteger (hapart key hkey).1
  | flag hflag => exact absurd hflag (hapart key hkey).2
  | text _ string => exact ⟨string, rfl⟩
  | other hother => exact absurd (by simp [hkey]) hother

theorem display?_int (hshort : number.natAbs < tenTo digitLimit) :
    (Value.int number).display? = some (integerText number) := by
  have hshown : (Value.int number).display? = integerText? number := by
    rw [Value.display?, Value.literal?]
    exact nofun
  rw [hshown, integerText?_eq_some hshort]

theorem Respells.of_int (hshort : number.natAbs < tenTo digitLimit)
    (h : Respells (.int number) value') :
    value' = .int number ∨ value' = .text (integerText number) := by
  cases h with
  | same => exact .inl rfl
  | shown hshown =>
      rw [display?_int hshort] at hshown
      exact .inr (by rw [Option.some.inj hshown])

theorem Respells.of_text {string : String} (h : Respells (.text string) value') :
    value' = .text string := by
  cases h with
  | same => rfl
  | shown hshown => rw [← Option.some.inj (hshown : some string = _)]

/-- The text of a flag is read as the flag. -/
theorem readFlag_respells {flag : Bool} (h : Respells (.bool flag) value') :
    readFlag value' = readFlag (.bool flag) := by
  cases h with
  | same => rfl
  | shown hshown =>
      obtain rfl := Option.some.inj (hshown : some (if flag then "True" else "False") = _)
      cases flag with
      | true => rfl
      | false => rfl

/-- The text of an integer is read as the integer, and refused for the same reason. -/
theorem readCount_respells (hshort : number.natAbs < tenTo digitLimit)
    (h : Respells (.int number) value') (name : String) (default : Int) :
    readCount name value' default = readCount name (.int number) default := by
  rcases h.of_int hshort with rfl | rfl
  · rfl
  · have hread : (Value.text (integerText number)).toInteger = .ok number := by
      unfold Value.toInteger integerText
      dsimp only
      rw [String.toList_ofList, spelledInteger, readInteger?_integerChars hshort]
    unfold readCount toInteger
    dsimp only
    rw [hread]
    rfl

/-- The text of an integer is read as an instant if it is no instant in front of the epoch. -/
theorem readInstant_integerText (hshort : number.natAbs < tenTo digitLimit) :
    readInstant (.text (integerText number)) = .ok (if number < 0 then none else some number) := by
  have hnumeral := isNumeral_toDigits number.natAbs
  have hdigits := filterMap_digitValue? hnumeral.digits
  have hlength := length_asciiDigits hnumeral.digits
  unfold readInstant
  dsimp only
  by_cases hnegative : number < 0
  · -- The sign is no digit.
    have hchars : (integerText number).toList = '-' :: Nat.toDigits 10 number.natAbs := by
      rw [integerText, String.toList_ofList, integerChars, if_pos hnegative]
    have hfewer : ((integerText number).toList.filterMap Text.digitValue?).length ≠
        (integerText number).toList.length := by
      rw [hchars, List.filterMap_cons_none (by rfl), hdigits, hlength, List.length_cons]
      omega
    rw [if_pos (.inr hfewer), if_pos hnegative]
  · have hchars : (integerText number).toList = Nat.toDigits 10 number.natAbs := by
      rw [integerText, String.toList_ofList, integerChars, if_neg hnegative]
    have hvalue : Text.digitsValue (asciiDigits (Nat.toDigits 10 number.natAbs)) = number.natAbs :=
      asciiNumber_toDigits number.natAbs
    have hne : integerText number ≠ "" := by
      intro hempty
      rw [hempty] at hchars
      exact hnumeral.ne_nil hchars.symm
    rw [hchars, hdigits, if_neg (by simp [hne, hlength]), hlength,
      if_pos ((length_toDigits_le_iff (by decide)).2 hshort), hvalue, if_neg hnegative,
      Int.natAbs_of_nonneg (Int.not_lt.1 hnegative)]

/-- What stands under a key in both forms: nothing, or a value of its type and another form of it. -/
theorem found_respelled (htyped : ∀ entry ∈ fields, HasType entry.1 entry.2)
    (h : Respelled fields fields') (key : String) :
    Option.Rel (fun value value' => HasType key value ∧ Respells value value')
      (Keyed.find? key fields) (Keyed.find? key fields') := by
  refine Keyed.find?_forall₂ (R := fun key value value' => HasType key value ∧ Respells value value')
    (List.Forall₂.imp ?_ ((List.forall₂_and_left fields fields').2 ⟨htyped, h⟩))
  rintro entry entry' ⟨htype, hkey, hspelled⟩
  exact ⟨hkey, htype, hspelled⟩

theorem getD_respelled (htyped : ∀ entry ∈ fields, HasType entry.1 entry.2)
    (h : Respelled fields fields') (key : String) (default : Value) :
    (fields.getD key default = default ∧ fields'.getD key default = default) ∨
    (HasType key (fields.getD key default) ∧
      Respells (fields.getD key default) (fields'.getD key default)) := by
  have hfound := found_respelled htyped h key
  unfold Fields.getD
  generalize Keyed.find? key fields = found, Keyed.find? key fields' = found' at hfound
  cases hfound with
  | none => exact .inl ⟨rfl, rfl⟩
  | some hvalue => exact .inr hvalue

/-- What is read alike from a value of its type and from its text is read alike from the fields. -/
theorem read_respelled {α : Type} (read : Value → α)
    (htyped : ∀ entry ∈ fields, HasType entry.1 entry.2) (h : Respelled fields fields')
    (key : String) (default : Value)
    (hread : ∀ value value', HasType key value → Respells value value' → read value' = read value) :
    read (fields'.getD key default) = read (fields.getD key default) := by
  rcases getD_respelled htyped h key default with ⟨hdefault, hdefault'⟩ | ⟨htype, hspelled⟩
  · rw [hdefault, hdefault']
  · exact hread _ _ htype hspelled

theorem text_respelled (htyped : ∀ entry ∈ fields, HasType entry.1 entry.2)
    (h : Respelled fields fields') (hkey : key ∈ textKeys) (default : Value) :
    fields'.getD key default = fields.getD key default := by
  refine read_respelled id htyped h key default fun value value' htype hspelled => ?_
  obtain ⟨string, rfl⟩ := htype.of_text hkey
  exact hspelled.of_text

theorem readAlike_respelled (htyped : ∀ entry ∈ fields, HasType entry.1 entry.2)
    (h : Respelled fields fields') : ReadAlike fields fields' where
  flags key hkey := by
    refine read_respelled readFlag htyped h key .null fun value value' htype hspelled => ?_
    obtain ⟨flag, rfl⟩ := htype.of_flag hkey
    exact readFlag_respells hspelled
  texts key hkey := by
    have htexts : ∀ key ∈ ["detectorName", "detectorNamePattern", "indices"], key ∈ textKeys := by
      decide
    exact text_respelled htyped h (htexts key hkey) .null
  counts key hkey default := by
    have hintegers : ∀ key ∈ ["size", "startIndex"], key ∈ integerKeys := by decide
    refine read_respelled (readCount key · default) htyped h key .null
      fun value value' htype hspelled => ?_
    obtain ⟨number, rfl, hshort⟩ := htype.of_integer (hintegers key hkey)
    exact readCount_respells hshort hspelled key default

theorem getD_typed (htyped : ∀ entry ∈ fields, HasType entry.1 entry.2) (key : String)
    (default : Value) : fields.getD key default = default ∨ HasType key (fields.getD key default) := by
  have hself : Respelled fields fields := List.forall₂_same.2 fun entry _ => ⟨rfl, .same⟩
  exact (getD_respelled htyped hself key default).imp And.left And.left

/-- A failure of wrong parameters. -/
def Refused (failure : Failure) : Prop :=
  ∃ reason, failure = .invalidParameters reason

theorem refused_negative (key : String) (hshort : number.natAbs < tenTo digitLimit) :
    Refused (negative key number) := by
  refine ⟨key ++ " must not be negative, got " ++ integerText number, ?_⟩
  unfold negative
  rw [integerText?_eq_some hshort]

theorem display_typed (htyped : ∀ entry ∈ fields, HasType entry.1 entry.2) (hkey : key ∈ textKeys)
    (default : String) : ∃ string, display (fields.getD key (.text default)) = .ok string := by
  rcases getD_typed htyped key (.text default) with hdefault | htype
  · exact ⟨default, by rw [hdefault]; rfl⟩
  · obtain ⟨string, hstring⟩ := htype.of_text hkey
    exact ⟨string, by rw [hstring]; rfl⟩

theorem readFlag_typed (htyped : ∀ entry ∈ fields, HasType entry.1 entry.2)
    (hkey : key ∈ flagKeys) : ∃ flag, readFlag (fields.get key) = .ok flag := by
  rcases getD_typed htyped key .null with hnull | htype
  · exact ⟨none, by rw [Fields.get, hnull]; rfl⟩
  · obtain ⟨flag, hflag⟩ := htype.of_flag hkey
    exact ⟨some flag, by rw [Fields.get, hflag]; rfl⟩

theorem readInstant_typed (htyped : ∀ entry ∈ fields, HasType entry.1 entry.2) :
    ∃ instant, readInstant (fields.get "lastUpdateTime") = .ok instant := by
  rcases getD_typed htyped "lastUpdateTime" .null with hnull | htype
  · exact ⟨none, by rw [Fields.get, hnull]; rfl⟩
  · obtain ⟨number, hnumber, -⟩ := htype.of_integer (by decide)
    exact ⟨some number, by rw [Fields.get, hnumber]; rfl⟩

theorem readFilter_typed (htyped : ∀ entry ∈ fields, HasType entry.1 entry.2) (high : Option Bool)
    (updated : Option Int) : ∃ filter, readFilter (fields.get "detectorName")
      (fields.get "detectorNamePattern") (fields.get "indices") high updated = .ok filter := by
  have htextual (key) (hkey : key ∈ textKeys) : IsTextual (fields.get key) := by
    rcases getD_typed htyped key .null with hnull | htype
    · exact .inl hnull
    · exact .inr (.inl (htype.of_text hkey))
  exact readFilter_ok.2 ⟨htextual _ (by decide), htextual _ (by decide), htextual _ (by decide)⟩

/-- An integer that is refused can be written in the reason. -/
theorem readCount_typed (htyped : ∀ entry ∈ fields, HasType entry.1 entry.2)
    (hkey : key ∈ integerKeys) (default : Int) :
    FailsBy Refused (readCount key (fields.get key) default) := by
  rcases getD_typed htyped key .null with hnull | htype
  · rw [Fields.get, hnull]
    exact failsBy_ok default
  · obtain ⟨number, hnumber, hshort⟩ := htype.of_integer hkey
    have hread : readCount key (.int number) default =
        if number < 0 then .error (negative key number) else .ok number :=
      rfl
    rw [Fields.get, hnumber, hread]
    by_cases hnegative : number < 0
    · rw [if_pos hnegative]
      exact failsBy_error (refused_negative key hshort)
    · rw [if_neg hnegative]
      exact failsBy_ok number

/-- Parameters of their types are refused as wrong parameters, if at all. -/
theorem ofFields_typed (htyped : ∀ entry ∈ fields, HasType entry.1 entry.2) :
    FailsBy Refused (ofFields fields defaults) := by
  have hread {α : Type} {outcome : Outcome α} (h : ∃ value, outcome = .ok value) :
      FailsBy Refused outcome := by
    obtain ⟨value, rfl⟩ := h
    exact failsBy_ok value
  have hflag (key) (hkey : key ∈ flagKeys) : FailsBy Refused (readFlag (fields.get key)) :=
    hread (readFlag_typed htyped hkey)
  refine (hread (display_typed htyped (by decide) _)).bind fun order => ?_
  refine (hflag _ (by decide)).bind fun high => (hread (readInstant_typed htyped)).bind fun updated => ?_
  refine (hread (readFilter_typed htyped high updated)).bind fun filter => ?_
  refine (hflag _ (by decide)).bind fun running => (hflag _ (by decide)).bind fun disabled => ?_
  refine (hflag _ (by decide)).bind fun failed => ?_
  refine (readCount_typed htyped (by decide) _).bind fun size => ?_
  refine (readCount_typed htyped (by decide) _).bind fun start => ?_
  exact (hread (display_typed htyped (by decide) _)).bind fun sortField => failsBy_ok _

/-- An instant that is not in front of the epoch, or is given as it is, is read alike. -/
theorem readInstant_respelled (htyped : ∀ entry ∈ fields, HasType entry.1 entry.2)
    (h : Respelled fields fields')
    (hkept : ∀ number, fields.get "lastUpdateTime" = .int number →
      0 ≤ number ∨ fields'.get "lastUpdateTime" = .int number) :
    readInstant (fields'.get "lastUpdateTime") = readInstant (fields.get "lastUpdateTime") := by
  rcases getD_respelled htyped h "lastUpdateTime" .null with ⟨hnone, hnone'⟩ | ⟨htype, hspelled⟩
  · rw [Fields.get, Fields.get, hnone, hnone']
  · obtain ⟨number, hnumber, hshort⟩ := htype.of_integer (by decide)
    rw [hnumber] at hspelled
    rcases hspelled.of_int hshort with hsame | htext
    · rw [Fields.get, Fields.get, hnumber, hsame]
    · have hlate : ¬ number < 0 := by
        rcases hkept number hnumber with hlate | hsame
        · exact Int.not_lt.2 hlate
        · rw [Fields.get, htext] at hsame
          cases hsame
      rw [Fields.get, Fields.get, hnumber, htext, readInstant_integerText hshort, if_neg hlate]
      rfl

/-- Another instant is none in a text. -/
theorem readInstant_lost (htyped : ∀ entry ∈ fields, HasType entry.1 entry.2)
    (hnumber : fields.get "lastUpdateTime" = .int number) (hnegative : number < 0)
    (htext : fields'.get "lastUpdateTime" = .text (integerText number)) :
    readInstant (fields'.get "lastUpdateTime") = .ok none := by
  have hshort : number.natAbs < tenTo digitLimit := by
    rcases getD_typed htyped "lastUpdateTime" .null with hnull | htype
    · cases hnumber.symm.trans hnull
    · obtain ⟨other, hother, hshort⟩ := htype.of_integer (by decide)
      obtain rfl := Value.int.inj (hnumber.symm.trans hother)
      exact hshort
  rw [htext, readInstant_integerText hshort, if_pos hnegative]

/-- Parameters without their instant. -/
def withoutInstant (parameters : Parameters) : Parameters :=
  { parameters with filter := { parameters.filter with lastUpdateTime := none } }

/-- Parameters of their types come to the same when some of them are given in texts, and are refused
for the same reason. Only an instant in front of the epoch is lost in a text. -/
theorem ofFields_respelled (defaults : Defaults)
    (htyped : ∀ entry ∈ fields, HasType entry.1 entry.2) (h : Respelled fields fields') :
    ((∀ number, fields.get "lastUpdateTime" = .int number →
        0 ≤ number ∨ fields'.get "lastUpdateTime" = .int number) →
      ofFields fields' defaults = ofFields fields defaults) ∧
    (∀ number, fields.get "lastUpdateTime" = .int number → number < 0 →
        fields'.get "lastUpdateTime" = .text (integerText number) →
      ofFields fields' defaults = (ofFields fields defaults).map withoutInstant) ∧
    ∀ failure, ofFields fields defaults = .error failure →
      ∃ reason, failure = .invalidParameters reason := by
  have halike := readAlike_respelled htyped h
  have hshown : ∀ key ∈ ["sortOrder", "sortString"], ∀ default : String,
      display (fields'.getD key (.text default)) = display (fields.getD key (.text default)) := by
    intro key hkey default
    have htexts : ∀ key ∈ ["sortOrder", "sortString"], key ∈ textKeys := by decide
    rw [text_respelled htyped h (htexts key hkey)]
  refine ⟨fun hkept => ?_, fun number hnumber hnegative htext => ?_, ofFields_typed htyped⟩
  · exact ofFields_congr halike hshown (readInstant_respelled htyped h hkept)
  · have hlost : readInstant (fields'.get "lastUpdateTime") =
        (readInstant (fields.get "lastUpdateTime")).map fun _ => none := by
      rw [readInstant_lost htyped hnumber hnegative htext, hnumber]
      rfl
    exact @ofFields_map fields fields' defaults id id id (fun _ => none) halike
      ((hshown _ (by decide) _).trans (map_id _).symm) (fun _ => rfl) hlost
      ((hshown _ (by decide) _).trans (map_id _).symm)

/-- Parameters of three types. -/
def typedTrio : Fields :=
  [("size", .int 2), ("running", .bool true), ("lastUpdateTime", .int (-5))]

/-- The same parameters, in texts but for the instant. -/
def spelledTrio : Fields :=
  [("size", .text "2"), ("running", .text "True"), ("lastUpdateTime", .int (-5))]

theorem hasType_digit (hkey : key ∈ integerKeys) (hdigit : number.natAbs < 10) :
    HasType key (.int number) :=
  .integer hkey (Nat.lt_of_lt_of_le hdigit ten_le_limit)

theorem hasType_trio : ∀ entry ∈ typedTrio, HasType entry.1 entry.2 := by
  simp only [typedTrio, List.forall_mem_cons]
  exact ⟨hasType_digit (by decide) (by decide), .flag (by decide) true,
    hasType_digit (by decide) (by decide), nofun⟩

theorem ofFields_respelled_trio : Respelled typedTrio spelledTrio ∧
    ofFields spelledTrio Defaults.standard = ofFields typedTrio Defaults.standard := by
  have hspelled : Respelled typedTrio spelledTrio := by
    have htwo : (Value.int 2).display? = some "2" := by decide +kernel
    exact .cons ⟨rfl, .shown htwo⟩ (.cons ⟨rfl, .shown rfl⟩ (.cons ⟨rfl, .same⟩ .nil))
  refine ⟨hspelled, (ofFields_respelled Defaults.standard hasType_trio hspelled).1 ?_⟩
  intro number hnumber
  exact .inr hnumber

/-- An instant in front of the epoch, alone. -/
def earlyInstant : Fields :=
  [("lastUpdateTime", .int (-5))]

/-- The same instant in a text. -/
def earlyText : Fields :=
  [("lastUpdateTime", .text "-5")]

/-- An instant in front of the epoch bounds the search, and its text does not. -/
theorem earlyInstant_differs : (∀ entry ∈ earlyInstant, HasType entry.1 entry.2) ∧
    Respelled earlyInstant earlyText ∧
    (ofFields earlyInstant Defaults.standard).toOption.map (fun p => p.filter.lastUpdateTime) =
      some (some (-5)) ∧
    (ofFields earlyText Defaults.standard).toOption.map (fun p => p.filter.lastUpdateTime) =
      some none ∧
    ofFields earlyText Defaults.standard ≠ ofFields earlyInstant Defaults.standard := by
  have hshown : (Value.int (-5)).display? = some "-5" := by
    decide +kernel
  have hkept : (ofFields earlyInstant Defaults.standard).toOption.map
      (fun p => p.filter.lastUpdateTime) = some (some (-5)) := by
    decide +kernel
  have hlost : (ofFields earlyText Defaults.standard).toOption.map
      (fun p => p.filter.lastUpdateTime) = some none := by
    decide +kernel
  have htyped : ∀ entry ∈ earlyInstant, HasType entry.1 entry.2 := by
    simp only [earlyInstant, List.forall_mem_cons]
    exact ⟨hasType_digit (by decide) (by decide), nofun⟩
  refine ⟨htyped, .cons ⟨rfl, .shown hshown⟩ .nil, hkept, hlost, fun hsame => ?_⟩
  rw [hsame, hkept] at hlost
  cases hlost

end Parameters

end DetectorSearch
