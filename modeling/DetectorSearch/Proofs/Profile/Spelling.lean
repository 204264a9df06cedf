import DetectorSearch.Proofs.Profile

/-!
# Profiles that are read alike

A state may be spelled in letters of either case with blanks around them, and a profile
may report it at its top or in the task of its first node. Neither makes a difference.
Outside of ASCII a letter counts as it stands. What a profile reports at its top decides
alone: its nodes are not even looked at.

Results:
1. `State.ofSpelling_of_alike`: spellings of one state.
2. `Profile.read_eq_of_top`: profiles with a state at their top.
3. `Profile.read_alike`: profiles that are read alike.
-/

namespace DetectorSearch

namespace State

/-! ## 1. Spellings -/

/-- Whether two spellings differ at most in the case of letters of ASCII and in the blanks around
them. -/
def Alike (spelling other : String) : Prop :=
  ∃ core core', Text.Surrounds Text.isBlank spelling.toList core ∧
    Text.Surrounds Text.isBlank other.toList core' ∧ Text.SameLetters core core'

/-- A capital is no blank, and what has no capital stays what it is. -/
theorem isBlank_capital (c : Char) : Text.isBlank (Text.capital c) = Text.isBlank c := by
  unfold Text.capital
  split
  · rename_i hdotless
    obtain rfl := beq_iff_eq.1 hdotless
    decide
  split
  · rename_i hlong
    obtain rfl := beq_iff_eq.1 hlong
    decide
  · have hupper := Text.LetterLemmas.toNat_toUpper c
    split at hupper
    · rw [Bool.eq_iff_iff]
      simp only [Text.isBlank, Text.isWhite, hupper, Bool.or_eq_true, Bool.and_eq_true,
        decide_eq_true_eq, beq_iff_eq]
      omega
    · rw [Text.LetterLemmas.eq_iff_toNat.2 hupper]

/-- Blanks may be cut from a text or from its capitals. -/
theorem capitals_strip (s : List Char) :
    Text.capitals (Text.strip s) = Text.strip (Text.capitals s) :=
  Text.map_trim isBlank_capital s

theorem ofSpelling_of_alike {spelling other : String} (h : Alike spelling other) :
    ofSpelling spelling.toList = ofSpelling other.toList := by
  obtain ⟨core, core', hcore, hcore', hletters⟩ := h
  have hstrip : Text.strip spelling.toList = Text.strip core := Text.trim_of_surrounds hcore
  have hstrip' : Text.strip other.toList = Text.strip core' := Text.trim_of_surrounds hcore'
  rw [ofSpelling, ofSpelling, hstrip, hstrip', capitals_strip, capitals_strip,
    Text.capitals_eq_of_sameLetters hletters]

end State

namespace Profile

variable {fields others : Fields}

/-! ## 2. A state at the top -/

theorem rawState_of_top (h : (fields.get "state").isNull = false) :
    rawState fields = .ok (fields.get "state") :=
  rawState_of_reports (.top h)

/-- Profiles with the same state at their top, whatever it is, that tell the same id are read
alike. -/
theorem read_eq_of_top (asked : Option String) (h : (fields.get "state").isNull = false)
    (hstate : others.get "state" = fields.get "state")
    (hid : others.get "detector_id" = fields.get "detector_id") :
    read asked (.object others) = read asked (.object fields) := by
  have hothers : (others.get "state").isNull = false := hstate ▸ h
  simp only [read, rawState_of_top h, rawState_of_top hothers, hstate, reportedId, hid]

/-! ## 3. Spelled states -/

theorem read_of_spelling {spelling told : String} (asked : String)
    (hreports : Reports fields (.text spelling)) (htells : Tells fields told) :
    read (some asked) (.object fields) = .ok (Status.resolved (if told = "" then asked else told)
      (State.ofSpelling spelling.toList)) := by
  simp only [read, rawState_of_reports hreports, State.ofValue, reportedId_of_tells htells]

/-- Two profiles of one detector are read alike if their states are spelled alike, whether they
report them at the top or in the task of the first node. Where the top has a state, of any kind, a
profile is read by it and its id alone. -/
theorem read_alike (asked : String) :
    (∀ (told spelling respelling : String) (fields others : Fields),
      State.Alike spelling respelling →
      Reports fields (.text spelling) → Tells fields told →
      Reports others (.text respelling) → Tells others told →
      read (some asked) (.object fields) = .ok (Status.resolved
        (if told = "" then asked else told) (State.ofSpelling spelling.toList)) ∧
      read (some asked) (.object others) = read (some asked) (.object fields)) ∧
    ∀ fields others : Fields, (fields.get "state").isNull = false →
      others.get "state" = fields.get "state" →
      others.get "detector_id" = fields.get "detector_id" →
      read (some asked) (.object others) = read (some asked) (.object fields) := by
  refine ⟨fun told spelling respelling fields others halike hfields htells hothers htells' => ?_,
    fun fields others => read_eq_of_top (some asked)⟩
  refine ⟨read_of_spelling asked hfields htells, ?_⟩
  rw [read_of_spelling asked hothers htells', read_of_spelling asked hfields htells,
    State.ofSpelling_of_alike halike]

/-- A task profile behind whose first node another one stands, which is no object. -/
def nestedFields : Fields :=
  [("detector_id", .text "d2"), ("nodes", .list [.object [("ad_task_profile", .object
    [("ad_task", .object [("state", .text "\u2003 rUNNING\x1f")])])], .int 0])]

/-- A plain profile with another spelling of the state. -/
def plainFields : Fields :=
  [("state", .text "Running\n"), ("detector_id", .text "d2")]

theorem read_alike_nested : State.Alike "Running\n" "\u2003 rUNNING\x1f" ∧
    Reports plainFields (.text "Running\n") ∧ Tells plainFields "d2" ∧
    Reports nestedFields (.text "\u2003 rUNNING\x1f") ∧ Tells nestedFields "d2" ∧
    read (some "d1") (.object nestedFields) = .ok (Status.resolved "d2" .running) ∧
    read (some "d1") (.object [("nodes", .int 7), ("state", .int 5)]) =
      read (some "d1") (.object [("state", .int 5)]) := by
  have halike : State.Alike "Running\n" "\u2003 rUNNING\x1f" :=
    ⟨"Running".toList, "rUNNING".toList,
      ⟨[], ['\n'], by decide +kernel, by simp, by simp [Text.isBlank, Text.isWhite]⟩,
      ⟨['\u2003', ' '], ['\x1f'], by decide +kernel, by simp [Text.isBlank, Text.isWhite],
        by simp [Text.isBlank, Text.isWhite]⟩, by decide +kernel⟩
  have hplain : Reports plainFields (.text "Running\n") := by
    show Reports plainFields (plainFields.get "state")
    exact .top rfl
  have hnested : Reports nestedFields (.text "\u2003 rUNNING\x1f") := by
    show Reports nestedFields (Fields.get "state" [("state", .text "\u2003 rUNNING\x1f")])
    exact .task rfl (.inl ⟨[.int 0], rfl⟩) (.inl rfl) (.inl rfl) (.inl rfl)
  obtain ⟨hspelled, htop⟩ := read_alike "d1"
  obtain ⟨hread, hsame⟩ := hspelled "d2" _ _ _ _ halike hplain (.inl rfl) hnested (.inl rfl)
  have hstate : State.ofSpelling "Running\n".toList = .running := by decide +kernel
  rw [if_neg (by decide), hstate] at hread
  exact ⟨halike, hplain, .inl rfl, hnested, .inl rfl, hsame.trans hread, htop _ _ rfl rfl rfl⟩

end Profile

end DetectorSearch
