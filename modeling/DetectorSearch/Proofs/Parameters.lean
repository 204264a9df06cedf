import DetectorSearch.Proofs.Json.Writable
import DetectorSearch.Proofs.Outcome
import DetectorSearch.Tool
import Mathlib.Data.List.Basic

/-!
# Parameters that can be read

Whether parameters can be read is asked beforehand, and the answer agrees with the reader
wherever there is one. What the reader finds wrong is answered, with a single exception: an
infinite real for the size or the start is a fault of another kind, which is passed on.

Results:
1. `display_answered` to `readFilter_answered`: parameters in front of the size, whose
   failures are all answered.
2. `display_ok` to `readFilter_ok`: which of them can be read.
3. `readCount_ok`, `readCount_overflow`: sizes and starts.
4. `ofFields_expected`, `ofFields_overflow`: all parameters.
5. `validate_decides`: what is answered, and what is passed on.
6. `validate_passes_on`: an infinite size.
-/

namespace DetectorSearch

namespace Parameters

open Outcome

variable {fields : Fields} {defaults : Defaults} {value : Value}

/-! ## 1. Failures that are answered -/

/-- Whether a failure says that parameters are wrong. -/
def Answered (failure : Failure) : Prop :=
  (∃ reason, failure = .invalidParameters reason) ∨ failure.isBadValue = true

theorem not_answered_endless : ¬ Answered .endlessInteger := by
  rintro (⟨reason, h⟩ | h)
  · cases h
  · exact absurd h (by decide)

theorem display_answered (value : Value) : FailsBy Answered (display value) := by
  unfold display
  split
  · exact failsBy_ok _
  · exact failsBy_error (.inr rfl)

theorem readFlag_answered (value : Value) : FailsBy Answered (readFlag value) := by
  unfold readFlag
  split
  · exact failsBy_ok _
  · exact failsBy_ok _
  · split
    · rename_i failure hfailure
      exact failsBy_error (display_answered value failure hfailure)
    · exact failsBy_ok _

theorem readInstant_answered (value : Value) : FailsBy Answered (readInstant value) := by
  unfold readInstant
  split
  · exact failsBy_ok _
  · dsimp only
    split_ifs
    · exact failsBy_ok _
    · exact failsBy_ok _
    · exact failsBy_error (.inr rfl)
  · exact failsBy_ok _

theorem readFilter_answered (name pattern indices : Value) (high : Option Bool)
    (updated : Option Int) : FailsBy Answered (readFilter name pattern indices high updated) := by
  unfold readFilter Reading.outcome
  split
  · exact failsBy_ok _
  · exact failsBy_error (.inr rfl)

/-! ## 2. Texts, flags and instants -/

theorem display_ok :
    (∃ string, display value = .ok string) ↔ Json.isShort value = true := by
  have hsome : value.display?.isSome = Json.isShort value := by
    cases value with
    | text string => rfl
    | null | bool | int | real | octets | list | object => exact Json.literal?_isSome _
  rw [← hsome, display]
  cases value.display? <;> simp

theorem readFlag_ok : (∃ flag, readFlag value = .ok flag) ↔ Json.isShort value = true := by
  unfold readFlag
  split
  · exact iff_of_true ⟨_, rfl⟩ rfl
  · exact iff_of_true ⟨_, rfl⟩ rfl
  · rw [← display_ok]
    split <;> simp [*]

/-- Whether a value is a text of more decimal digits than a number may have. -/
def IsLongNumeral (value : Value) : Prop :=
  ∃ string, value = .text string ∧ digitLimit < string.toList.length ∧
    ∀ c ∈ string.toList, (Text.digitValue? c).isSome = true

theorem readInstant_ok : (∃ instant, readInstant value = .ok instant) ↔ ¬ IsLongNumeral value := by
  have hother (h : ∀ string, value ≠ .text string) : ¬ IsLongNumeral value :=
    fun ⟨string, hstring, _⟩ => h string hstring
  cases value with
  | text string =>
      have hlong : IsLongNumeral (.text string) ↔ digitLimit < string.toList.length ∧
          (string.toList.filterMap Text.digitValue?).length = string.toList.length := by
        simp [IsLongNumeral, List.filterMap_length_eq_length]
      rw [hlong, readInstant]
      split_ifs with hignored hlimit
      · refine iff_of_true ⟨_, rfl⟩ ?_
        rintro ⟨hlimit, hdigits⟩
        rcases hignored with rfl | hfewer
        · cases hlimit
        · exact hfewer hdigits
      · refine iff_of_true ⟨_, rfl⟩ ?_
        rintro ⟨hbeyond, hdigits⟩
        omega
      · refine iff_of_false nofun (not_not.2 ?_)
        omega
  | int number => exact iff_of_true ⟨_, rfl⟩ (hother nofun)
  | null | bool | real | octets | list | object => exact iff_of_true ⟨_, rfl⟩ (hother nofun)

/-- Whether a value is null, a text, or bytes that are one. -/
def IsTextual (value : Value) : Prop :=
  value = .null ∨ (∃ string, value = .text string) ∨
    ∃ bytes string, value = .octets bytes ∧ Text.Utf8.text? bytes = some string

theorem optional_text_ok :
    (∃ string, Reader.optional Reader.text value = .ok string) ↔ IsTextual value := by
  cases value with
  | null => exact iff_of_true ⟨_, rfl⟩ (.inl rfl)
  | text string => exact iff_of_true ⟨_, rfl⟩ (.inr (.inl ⟨string, rfl⟩))
  | octets bytes =>
      have hread : Reader.text (.octets bytes) =
          (Text.Utf8.text? bytes).elim (complain .notUnicode) .ok := by
        unfold Reader.text
        dsimp only
        cases Text.Utf8.text? bytes <;> rfl
      have htextual : IsTextual (.octets bytes) ↔
          ∃ string, Text.Utf8.text? bytes = some string := by
        simp only [IsTextual, reduceCtorEq, exists_false, false_or, Value.octets.injEq,
          exists_and_left, exists_eq_left']
      show (∃ string, Reading.map some (Reader.text (.octets bytes)) = .ok string) ↔ _
      rw [hread, htextual]
      cases Text.Utf8.text? bytes with
      | some string => exact iff_of_true ⟨_, rfl⟩ ⟨_, rfl⟩
      | none =>
          refine iff_of_false ?_ ?_ <;> rintro ⟨string, h⟩ <;> cases h
  | bool | int | real | list | object =>
      refine iff_of_false ?_ ?_
      · rintro ⟨string, h⟩
        have hread : (complain .notText : Reading (Option String)) = .ok string := h
        cases hread
      · rintro (h | ⟨string, h⟩ | ⟨bytes, string, h, -⟩) <;> cases h

theorem readFilter_ok {name pattern indices : Value} {high : Option Bool} {updated : Option Int} :
    (∃ filter, readFilter name pattern indices high updated = .ok filter) ↔
      IsTextual name ∧ IsTextual pattern ∧ IsTextual indices := by
  rw [← optional_text_ok, ← optional_text_ok, ← optional_text_ok]
  cases hname : Reader.optional Reader.text name <;>
    cases hpattern : Reader.optional Reader.text pattern <;>
    cases hindices : Reader.optional Reader.text indices <;>
    simp [readFilter, hname, hpattern, hindices, Fields.under, Reading.outcome, Functor.map,
      Seq.seq, Reading.seq, Reading.map, pure, Reading.pure]
  exact ⟨⟨_, rfl⟩, ⟨_, rfl⟩, _, rfl⟩

/-! ## 3. Sizes and starts -/

theorem notInteger_answered (name : String) (value : Value) : Answered (notInteger name value) := by
  unfold notInteger
  split
  · exact .inl ⟨_, rfl⟩
  · exact .inr rfl

theorem negative_answered (name : String) (number : Int) : Answered (negative name number) := by
  unfold negative
  split
  · exact .inl ⟨_, rfl⟩
  · exact .inr rfl

/-- Whether a value is an infinite real. -/
def IsEndless (value : Value) : Prop :=
  ∃ number, value = .real number ∧ (Place.ofFloat number = .top ∨ Place.ofFloat number = .bottom)

theorem spelledInteger_ne_infinite (shown : String) (s : List Char) :
    spelledInteger shown s ≠ .error .infinite := by
  unfold spelledInteger
  split
  · nofun
  · split <;> nofun

theorem toInteger_infinite {value : Value} :
    value.toInteger = .error .infinite ↔ IsEndless value := by
  cases value with
  | real number =>
      simp only [Value.toInteger, IsEndless, Value.real.injEq, exists_eq_left']
      cases Place.ofFloat number with
      | finite units => exact iff_of_false nofun nofun
      | top => exact iff_of_true rfl (.inl rfl)
      | bottom => exact iff_of_true rfl (.inr rfl)
      | nowhere => exact iff_of_false nofun nofun
  | text string =>
      simp only [Value.toInteger, IsEndless, reduceCtorEq, false_and, exists_false, iff_false]
      exact spelledInteger_ne_infinite _ _
  | octets bytes =>
      simp only [Value.toInteger, IsEndless, reduceCtorEq, false_and, exists_false, iff_false]
      split_ifs
      · exact spelledInteger_ne_infinite _ _
      · nofun
  | null | bool | int | list | object => simp [Value.toInteger, IsEndless]

/-- What can go wrong with a size or start: it is answered, or it is an infinite real. -/
theorem toInteger_error {name : String} {value : Value} {failure : Failure}
    (h : toInteger name value = .error failure) :
    Answered failure ∨ failure = .endlessInteger ∧ IsEndless value := by
  unfold toInteger at h
  split at h
  · cases h
  · rename_i hinfinite
    cases h
    exact .inr ⟨rfl, toInteger_infinite.1 hinfinite⟩
  · cases h
    exact .inl (notInteger_answered name value)

theorem readCount_error {name : String} {value : Value} {default : Int} {failure : Failure}
    (h : readCount name value default = .error failure) :
    Answered failure ∨ failure = .endlessInteger ∧ IsEndless value := by
  unfold readCount at h
  split at h
  · cases h
  · split at h
    · rename_i hfailed
      cases h
      exact toInteger_error hfailed
    · split at h
      · obtain rfl := Except.error.inj h
        exact .inl (negative_answered name _)
      · cases h

/-- A size or start overflows if it is an infinite real. -/
theorem readCount_overflow {name : String} {value : Value} {default : Int} :
    readCount name value default = .error .endlessInteger ↔ IsEndless value := by
  constructor
  · exact fun h => (readCount_error h).elim (absurd · not_answered_endless) And.right
  · intro h
    have hinfinite := toInteger_infinite.2 h
    obtain ⟨number, rfl, -⟩ := h
    have hread : toInteger name (.real number) = .error .endlessInteger := by
      simp only [toInteger, hinfinite]
    simp only [readCount, hread]

/-- Whether a value is null, or stands for an integer that is not negative. -/
def IsCount (value : Value) : Prop :=
  value = .null ∨ ∃ number, value.toInteger = .ok number ∧ 0 ≤ number

theorem readCount_ok {name : String} {default : Int} :
    (∃ count, readCount name value default = .ok count) ↔ IsCount value := by
  have hcount (hvalue : value ≠ .null) :
      IsCount value ↔ ∃ number, value.toInteger = .ok number ∧ 0 ≤ number := by
    simp [IsCount, hvalue]
  unfold readCount toInteger
  split
  · exact iff_of_true ⟨_, rfl⟩ (.inl rfl)
  · rename_i hvalue
    rw [hcount hvalue]
    cases value.toInteger with
    | ok number =>
        simp only [Except.ok.injEq, exists_eq_left']
        split_ifs with hnegative
        · exact iff_of_false nofun (Int.not_le.2 hnegative)
        · exact iff_of_true ⟨_, rfl⟩ (Int.not_lt.1 hnegative)
    | error fault => cases fault <;> simp

/-! ## 4. All parameters -/

/-- Whether a failure is one that is answered, or an overflow. -/
def Expected (failure : Failure) : Prop :=
  Answered failure ∨ failure = .endlessInteger

theorem readCount_expected (name : String) (value : Value) (default : Int) :
    FailsBy Expected (readCount name value default) :=
  fun _ h => (readCount_error h).imp_right And.left

/-- All failures of parameters are answered, or an overflow. -/
theorem ofFields_expected (fields : Fields) (defaults : Defaults) :
    FailsBy Expected (ofFields fields defaults) := by
  have hdisplay (value) : FailsBy Expected (display value) :=
    (display_answered value).mono fun _ => .inl
  have hflag (value) : FailsBy Expected (readFlag value) :=
    (readFlag_answered value).mono fun _ => .inl
  have hinstant (value) : FailsBy Expected (readInstant value) :=
    (readInstant_answered value).mono fun _ => .inl
  have hfilter (name pattern indices high updated) :
      FailsBy Expected (readFilter name pattern indices high updated) :=
    (readFilter_answered name pattern indices high updated).mono fun _ => .inl
  refine (hdisplay _).bind fun order => (hflag _).bind fun high => ?_
  refine (hinstant _).bind fun updated => (hfilter _ _ _ high updated).bind fun filter => ?_
  refine (hflag _).bind fun running => (hflag _).bind fun disabled => ?_
  refine (hflag _).bind fun failed => ?_
  refine (readCount_expected _ _ _).bind fun size => (readCount_expected _ _ _).bind fun start => ?_
  exact (hdisplay _).bind fun sortField => failsBy_ok _

/-- Whether all parameters that are read in front of the size can be read. -/
structure Opens (fields : Fields) : Prop where
  shown : ∀ key ∈ ["sortOrder", "highCardinality", "running", "disabled", "failed"],
    Json.isShort (fields.get key) = true
  instant : ¬ IsLongNumeral (fields.get "lastUpdateTime")
  texts : ∀ key ∈ ["detectorName", "detectorNamePattern", "indices"], IsTextual (fields.get key)

/-- Whether the first parameter that cannot be read is an infinite size or start. -/
def Overflows (fields : Fields) : Prop :=
  Opens fields ∧ (IsEndless (fields.get "size") ∨
    IsCount (fields.get "size") ∧ IsEndless (fields.get "startIndex"))

/-- A text in the place of one that is left out can be shown as well. -/
theorem isShort_getD (key string : String) (fields : Fields) :
    Json.isShort (fields.getD key (.text string)) = Json.isShort (fields.get key) := by
  rw [Fields.get, Fields.getD, Fields.getD]
  cases Keyed.find? key fields <;> rfl

/-- Of two counts the first one that cannot be read decides. -/
theorem counts_overflow {α : Type} {size start : Value} {default : Int}
    {next : Int → Int → Outcome α}
    (hnext : ∀ size start, FailsBy Answered (next size start)) :
    (readCount "size" size default >>= fun size =>
      readCount "startIndex" start 0 >>= fun start => next size start) = .error .endlessInteger ↔
    IsEndless size ∨ IsCount size ∧ IsEndless start := by
  have hsettled (count) : (readCount "startIndex" start 0 >>= fun start => next count start) =
      .error .endlessInteger ↔ IsEndless start := by
    rw [bind_eq_error, readCount_overflow, or_iff_left]
    rintro ⟨place, -, hfailed⟩
    exact not_answered_endless (hnext count place .endlessInteger hfailed)
  rw [bind_eq_error, readCount_overflow]
  simp only [hsettled, exists_and_right, readCount_ok]

theorem ofFields_overflow : ofFields fields defaults = .error .endlessInteger ↔
    Overflows fields := by
  have hlast (parameters : String → Parameters) : FailsBy Answered (do
      let sortField ← display (fields.getD "sortString" (.text defaults.sortField))
      return parameters sortField) :=
    (display_answered _).bind fun sortField => failsBy_ok _
  simp only [ofFields, (display_answered _).bind_eq_error not_answered_endless,
    (readFlag_answered _).bind_eq_error not_answered_endless,
    (readInstant_answered _).bind_eq_error not_answered_endless,
    (readFilter_answered _ _ _ _ _).bind_eq_error not_answered_endless]
  -- Nothing in front of the counts overflows, so all of it is read where the whole overflows.
  constructor
  · rintro ⟨order, horder, high, hhigh, updated, hupdated, filter, hfilter, running, hrunning,
      disabled, hdisabled, failed, hfailed, hcounts⟩
    obtain ⟨hname, hpattern, hindices⟩ := readFilter_ok.1 ⟨filter, hfilter⟩
    have hshown : ∀ key ∈ ["sortOrder", "highCardinality", "running", "disabled", "failed"],
        Json.isShort (fields.get key) = true := by
      simp only [List.forall_mem_cons, ← isShort_getD "sortOrder" defaults.sortOrder.name]
      exact ⟨display_ok.1 ⟨order, horder⟩, readFlag_ok.1 ⟨high, hhigh⟩,
        readFlag_ok.1 ⟨running, hrunning⟩, readFlag_ok.1 ⟨disabled, hdisabled⟩,
        readFlag_ok.1 ⟨failed, hfailed⟩, nofun⟩
    have htexts : ∀ key ∈ ["detectorName", "detectorNamePattern", "indices"],
        IsTextual (fields.get key) := by
      simp only [List.forall_mem_cons]
      exact ⟨hname, hpattern, hindices, nofun⟩
    exact ⟨⟨hshown, readInstant_ok.1 ⟨updated, hupdated⟩, htexts⟩,
      (counts_overflow fun size start => hlast _).1 hcounts⟩
  · rintro ⟨⟨hshown, hinstant, htexts⟩, hcounts⟩
    simp only [List.forall_mem_cons, ← isShort_getD "sortOrder" defaults.sortOrder.name] at hshown
    obtain ⟨horder, hhigh, hrunning, hdisabled, hfailed, -⟩ := hshown
    obtain ⟨order, horder⟩ := display_ok.2 horder
    obtain ⟨high, hhigh⟩ := readFlag_ok.2 hhigh
    obtain ⟨updated, hupdated⟩ := readInstant_ok.2 hinstant
    simp only [List.forall_mem_cons] at htexts
    obtain ⟨filter, hfilter⟩ := (@readFilter_ok _ _ _ high updated).2
      ⟨htexts.1, htexts.2.1, htexts.2.2.1⟩
    obtain ⟨running, hrunning⟩ := readFlag_ok.2 hrunning
    obtain ⟨disabled, hdisabled⟩ := readFlag_ok.2 hdisabled
    obtain ⟨failed, hfailed⟩ := readFlag_ok.2 hfailed
    exact ⟨order, horder, high, hhigh, updated, hupdated, filter, hfilter, running, hrunning,
      disabled, hdisabled, failed, hfailed, (counts_overflow fun size start => hlast _).2 hcounts⟩

theorem areValid_of_ok {parameters : Parameters} (h : ofFields fields defaults = .ok parameters) :
    areValid fields defaults = .ok true := by
  rw [areValid, h]

theorem areValid_of_answered {failure : Failure} (h : ofFields fields defaults = .error failure)
    (hanswered : Answered failure) : areValid fields defaults = .ok false := by
  rw [areValid, h]
  rcases hanswered with ⟨reason, rfl⟩ | hbad
  · rfl
  · cases failure <;> simp_all

theorem areValid_of_overflow (h : ofFields fields defaults = .error .endlessInteger) :
    areValid fields defaults = .error .endlessInteger := by
  rw [areValid, h]
  rfl

end Parameters

namespace Tool

/-! ## 5. The answer -/

/-- Parameters are valid if they can be read. They are not valid if they cannot be read, unless the
first one that cannot be read is an infinite size or start, and only then the question fails. -/
theorem validate_decides (tool : Tool) (fields : Fields) :
    (tool.validate fields = .ok true ↔
      ∃ parameters, Parameters.ofFields fields tool.settings.defaults = .ok parameters) ∧
    (tool.validate fields = .ok false ↔
      (∃ failure, Parameters.ofFields fields tool.settings.defaults = .error failure) ∧
        ¬ Parameters.Overflows fields) ∧
    ∀ failure, tool.validate fields = .error failure ↔
      failure = .endlessInteger ∧ Parameters.Overflows fields := by
  rw [validate, ← Parameters.ofFields_overflow]
  cases hread : Parameters.ofFields fields tool.settings.defaults with
  | ok parameters =>
      rw [Parameters.areValid_of_ok hread]
      simp
  | error failure =>
      rcases Parameters.ofFields_expected _ _ failure hread with hanswered | rfl
      · have hother : failure ≠ Failure.endlessInteger := by
          rintro rfl
          exact Parameters.not_answered_endless hanswered
        rw [Parameters.areValid_of_answered hread hanswered]
        simp [hother]
      · rw [Parameters.areValid_of_overflow hread]
        simp [eq_comm]

/-! ## 6. An infinite size -/

/-- An infinite size alone. -/
def endlessSize : Fields :=
  [("size", .real (1.0 / 0.0))]

theorem endlessSize_overflows : Parameters.Overflows endlessSize where
  left := {
    shown := by decide
    instant := by
      rintro ⟨string, h, -⟩
      cases h
    texts := by
      simp only [List.forall_mem_cons]
      exact ⟨.inl rfl, .inl rfl, .inl rfl, nofun⟩ }
  right := .inl ⟨_, rfl, .inl (by decide +kernel)⟩

/-- Parameters with an infinite size cannot be read, and whether they are valid is not answered. -/
theorem validate_passes_on :
    (¬ ∃ parameters, Parameters.ofFields endlessSize Defaults.standard = .ok parameters) ∧
      (Tool.ofSettings Settings.standard).validate endlessSize = .error .endlessInteger ∧
      ¬ ∃ answer, (Tool.ofSettings Settings.standard).validate endlessSize = .ok answer := by
  have hread : Parameters.ofFields endlessSize Defaults.standard = .error .endlessInteger :=
    Parameters.ofFields_overflow.2 endlessSize_overflows
  have hvalid : (Tool.ofSettings Settings.standard).validate endlessSize =
      .error .endlessInteger :=
    Parameters.areValid_of_overflow hread
  refine ⟨?_, hvalid, ?_⟩
  · rintro ⟨parameters, hparameters⟩
    cases hread.symm.trans hparameters
  · rintro ⟨answer, hanswer⟩
    cases hvalid.symm.trans hanswer

end Tool

end DetectorSearch
