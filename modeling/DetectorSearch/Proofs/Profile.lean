import DetectorSearch.Profile
import DetectorSearch.Proofs.Text.Blank
import DetectorSearch.Proofs.Text.Letter

/-!
# What a profile says

A profile reports the state of a detector at its top or, where nothing is there, in
the detection task of its first node. Every part on the way to the task may be missing.
The state is one of the three with a name if it is a text that spells this name, and
unknown if it is another text or does not hold. A value that holds and is no text is
not read as an unknown state: such a profile cannot be read.

Results:
1. `State.ofSpelling_eq_iff`: the texts that spell the name of a state.
2. `State.ofValue_of_readable`, `State.ofValue_of_unreadable`: the states of values.
3. `Profile.rawState_of_reports`: where a profile reports its state.
4. `Profile.read_means`: the status that is read out of a profile.
5. `Profile.read_refuses`: a profile with a number for its state.
-/

namespace DetectorSearch

namespace State

variable {state : State} {spelling : String} {value : Value}

/-! ## 1. Spellings of states -/

/-- Whether a text spells a name: the letters of the name in either case, with blanks around
them. -/
def Spells (spelling name : String) : Prop :=
  ∃ word, Text.Surrounds Text.isBlank spelling.toList word ∧
    List.Forall₂ Text.SameCapital word name.toList

theorem isCapitalWord_name (state : State) : Text.IsCapitalWord state.name.toList := by
  cases state <;> decide

theorem ofName_eq_iff {name : List Char} (h : state ≠ .unknown) :
    ofName name = state ↔ name = state.name.toList := by
  constructor
  · rintro rfl
    unfold ofName at h ⊢
    split_ifs at h ⊢ <;> first | assumption | exact absurd rfl h
  · rintro rfl
    exact ofName_name state

theorem isBlank_of_sameCapital {c letter : Char} (h : Text.SameCapital c letter)
    (hletter : Text.IsCapital letter) : Text.isBlank c = false := by
  have hlow : 65 ≤ letter.toNat := hletter.1
  have hhigh : letter.toNat ≤ 90 := hletter.2
  have hcode : 65 ≤ c.toNat ∧ c.toNat ≤ 122 ∨ c = '\u0131' ∨ c = '\u017F' := by
    rcases h with (rfl | rfl) | ⟨hdotless, -⟩ | ⟨hlong, -⟩
    · rw [Text.LetterLemmas.toNat_toLower]
      split <;> omega
    · rw [Text.LetterLemmas.toNat_toUpper]
      split <;> omega
    · exact .inr (.inl hdotless)
    · exact .inr (.inr hlong)
  rcases hcode with hcode | rfl | rfl
  · simp [Text.isBlank, Text.isWhite]
    omega
  · decide
  · decide

/-- The letters of a word are no blanks. -/
theorem isBlank_of_spelled {word name : List Char} (h : List.Forall₂ Text.SameCapital word name)
    (hname : Text.IsCapitalWord name) : ∀ c ∈ word, Text.isBlank c = false := by
  induction h with
  | nil => simp
  | cons hsame _ ih =>
      obtain ⟨hletter, hothers⟩ := List.forall_mem_cons.1 hname
      exact List.forall_mem_cons.2 ⟨isBlank_of_sameCapital hsame hletter, ih hothers⟩

/-- A text is read as a state with a name if it spells the name. -/
theorem ofSpelling_eq_iff (h : state ≠ .unknown) :
    ofSpelling spelling.toList = state ↔ Spells spelling state.name := by
  have hname := isCapitalWord_name state
  rw [ofSpelling, ofName_eq_iff h, Text.capitals_eq_iff hname]
  constructor
  · exact fun hspelled => ⟨_, Text.trim_spec _ _, hspelled⟩
  · rintro ⟨word, hsurrounds, hspelled⟩
    -- A letter of a name is no blank, so the word is all that is left of the text.
    have hword := isBlank_of_spelled hspelled hname
    rwa [Text.strip, (Text.trim_eq_iff hword).2 hsurrounds]

/-! ## 2. Values for states -/

/-- Whether a value is a text that spells the name of a state. -/
def Names (value : Value) (state : State) : Prop :=
  ∃ spelling, value = .text spelling ∧ Spells spelling state.name

/-- Whether a value can be read as a state: it is a text, or does not hold. -/
def Readable (value : Value) : Prop :=
  (∃ spelling, value = .text spelling) ∨ value.holds = false

/-- A value that is read gives the state that it names, or the unknown one. -/
theorem ofValue_of_readable (h : Readable value) : ∃ state, ofValue value = .ok state ∧
    ∀ named ≠ State.unknown, state = named ↔ Names value named := by
  by_cases htext : ∃ spelling, value = .text spelling
  · obtain ⟨spelling, rfl⟩ := htext
    refine ⟨ofSpelling spelling.toList, rfl, fun named hnamed => ?_⟩
    simp [ofSpelling_eq_iff hnamed, Names]
  · have hholds : value.holds = false := h.resolve_left htext
    refine ⟨.unknown, ?_, fun named hnamed => iff_of_false (Ne.symm hnamed) ?_⟩
    · cases value with
      | text spelling => exact absurd ⟨spelling, rfl⟩ htext
      | _ => simp [ofValue, hholds]
    · rintro ⟨spelling, hspelling, -⟩
      exact htext ⟨spelling, hspelling⟩

theorem ofValue_of_unreadable (h : ¬ Readable value) :
    ofValue value = .error (.misuse (.noMember value.kindName "strip")) := by
  rw [Readable, not_or, Bool.not_eq_false] at h
  cases value with
  | text spelling => exact absurd ⟨spelling, rfl⟩ h.1
  | _ => exact if_pos h.2

end State

namespace Profile

variable {fields : Fields} {raw : Value}

/-! ## 3. Where the state is reported -/

/-- Whether a value is an object with certain fields. One that does not hold has no fields. -/
def HasFields (value : Value) (fields : Fields) : Prop :=
  value = .object fields ∨ value.holds = false ∧ fields = []

/-- Whether a value is the first of some nodes, null if there are none. -/
def IsFirst (nodes node : Value) : Prop :=
  (∃ rest, nodes = .list (node :: rest)) ∨ nodes.holds = false ∧ node = .null

/-- Where a profile reports the state: at its top, or in the detection task of its first node if it
reports nothing there. Null stands for a state that is not reported. -/
inductive Reports (fields : Fields) : Value → Prop where
  | top : (fields.get "state").isNull = false → Reports fields (fields.get "state")
  | task {node : Value} {inside profile task : Fields} :
      fields.get "state" = .null →
      IsFirst (fields.get "nodes") node →
      HasFields node inside →
      HasFields (inside.get "ad_task_profile") profile →
      HasFields (profile.get "ad_task") task →
      Reports fields (task.get "state")

theorem member_orEmpty {value : Value} (key : String) (h : HasFields value fields) :
    member key (orEmpty value) = .ok (fields.get key) := by
  rcases h with rfl | ⟨hholds, rfl⟩
  · cases fields <;> rfl
  · rw [orEmpty, Value.orElse, hholds]
    rfl

theorem taskProfile_of_first {nodes node : Value} {inside : Fields} (hfirst : IsFirst nodes node)
    (hinside : HasFields node inside) : taskProfile nodes = .ok (inside.get "ad_task_profile") := by
  rcases hfirst with ⟨rest, rfl⟩ | ⟨hholds, rfl⟩
  · exact member_orEmpty "ad_task_profile" hinside
  · obtain hnode | ⟨-, rfl⟩ := hinside
    · cases hnode
    · rw [taskProfile, hholds]
      rfl

/-- The state of a profile is looked for where the profile reports it. -/
theorem rawState_of_reports (h : Reports fields raw) : rawState fields = .ok raw := by
  cases h with
  | top hgiven => simp [rawState, hgiven]
  | task hnone hfirst hinside hprofile htask =>
      have htop : (fields.get "state").isNull = true := by rw [hnone]; rfl
      simp only [rawState, htop, if_true, taskProfile_of_first hfirst hinside, taskState,
        member_orEmpty "ad_task" hprofile, member_orEmpty "state" htask]

/-! ## 4. Statuses -/

/-- Whether a profile tells the id of its detector, where the empty id stands for none. -/
def Tells (fields : Fields) (told : String) : Prop :=
  fields.get "detector_id" = .text told ∨ (fields.get "detector_id").holds = false ∧ told = ""

theorem reportedId_of_tells {told : String} (h : Tells fields told) (asked : String) :
    reportedId (some asked) fields = .text (if told = "" then asked else told) := by
  rcases h with h | ⟨h, rfl⟩
  · by_cases hnone : told = "" <;> simp [reportedId, h, Value.orElse, Value.holds, hnone]
  · simp [reportedId, Value.orElse, h]

/-- A profile gives the status of the detector that it tells, else of the one asked about. Its state
has a name if the value that the profile reports spells this name, and else is unknown. Values that
hold and are no texts are refused. -/
theorem read_means (asked told : String) (fields : Fields) (raw : Value)
    (hreports : Reports fields raw) (htells : Tells fields told) :
    (State.Readable raw → ∃ state,
      read (some asked) (.object fields) =
        .ok (Status.resolved (if told = "" then asked else told) state) ∧
      ∀ named ≠ State.unknown, state = named ↔ State.Names raw named) ∧
    (¬ State.Readable raw → read (some asked) (.object fields) =
      .error (.misuse (.noMember raw.kindName "strip"))) := by
  have hraw := rawState_of_reports hreports
  have hid := reportedId_of_tells htells asked
  constructor
  · intro hreadable
    obtain ⟨state, hstate, hnames⟩ := State.ofValue_of_readable hreadable
    refine ⟨state, ?_, hnames⟩
    simp only [read, hraw, hstate, hid]
  · intro hunreadable
    simp only [read, hraw, State.ofValue_of_unreadable hunreadable]

/-- A task profile of a detector, with a spelling that has blanks and small letters. -/
def taskFields : Fields :=
  [("detector_id", .text ""), ("state", .null),
   ("nodes", .list [.object [("ad_task_profile", .object
     [("ad_task", .object [("state", .text " Running\n")])])]])]

theorem read_means_task : Reports taskFields (.text " Running\n") ∧ Tells taskFields "" ∧
    State.Readable (.text " Running\n") ∧
    read (some "d1") (.object taskFields) = .ok (Status.resolved "d1" .running) := by
  have hreports : Reports taskFields (.text " Running\n") := by
    show Reports taskFields (Fields.get "state" [("state", .text " Running\n")])
    exact .task rfl (.inl ⟨[], rfl⟩) (.inl rfl) (.inl rfl) (.inl rfl)
  have htells : Tells taskFields "" := .inl rfl
  have hreadable : State.Readable (.text " Running\n") := .inl ⟨_, rfl⟩
  obtain ⟨state, hread, hnames⟩ := (read_means "d1" "" taskFields _ hreports htells).1 hreadable
  have hspells : State.Names (.text " Running\n") .running :=
    ⟨_, rfl, "Running".toList, ⟨[' '], ['\n'], by decide,
      List.forall_mem_singleton.2 (by decide), List.forall_mem_singleton.2 (by decide)⟩, by decide⟩
  obtain rfl := (hnames .running (by decide)).2 hspells
  exact ⟨hreports, htells, hreadable, hread⟩

/-! ## 5. A state that is a number -/

/-- A profile that reports a number for the state is refused, and not read as one with an unknown
state. -/
theorem read_refuses : Reports [("state", .int 5)] (.int 5) ∧ Tells [("state", .int 5)] "" ∧
    read (some "d1") (.object [("state", .int 5)]) = .error (.misuse (.noMember "int" "strip")) ∧
    ¬ ∃ status, read (some "d1") (.object [("state", .int 5)]) = .ok status := by
  have hread : read (some "d1") (.object [("state", .int 5)]) =
      .error (.misuse (.noMember "int" "strip")) := rfl
  refine ⟨.top rfl, .inr ⟨rfl, rfl⟩, hread, ?_⟩
  rintro ⟨status, hstatus⟩
  cases hread.symm.trans hstatus

end Profile

end DetectorSearch
