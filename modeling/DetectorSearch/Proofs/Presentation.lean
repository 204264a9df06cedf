import DetectorSearch.Detector
import DetectorSearch.Proofs.Decimal.Numeral
import DetectorSearch.Proofs.Text.Cut

/-!
# Texts of search results

A result is shown unless a name, or the total, has an integer in it that is too
long to be written.

The text of a result has no escapes. Its ids are read back all the same: the text is
cut where an entry begins, and each piece at its first comma. This takes ids without
commas, and ids and names in which no entry seems to begin. All other braces, brackets
and commas do no harm, for no beginning of an entry arises where two fields meet. The
total stands behind the last mark of a total, whatever the names say.

Results:
1. `render_isOk`, `render_error`: results that are shown, and why others are not.
2. `cutAt_entries`: the pieces of the entries.
3. `readIds_frame`, `readTotal?_frame`: what is read from a text.
4. `render_legible`: results are read back from their texts.
-/

namespace DetectorSearch.Presentation

variable {detectors : List Detector} {total : Int} {failure : Failure}

/-! ## 1. Results that are shown -/

/-- Whether the names of detectors can be written. -/
def Nameable (detectors : List Detector) : Prop :=
  ∀ detector ∈ detectors, detector.name.display?.isSome = true

theorem shownDetectors_isSome : (shownDetectors detectors).isSome = true ↔ Nameable detectors := by
  unfold Nameable
  induction detectors with
  | nil => simp [shownDetectors]
  | cons detector rest ih =>
      rw [List.forall_mem_cons, ← ih, shownDetectors]
      cases detector.name.display? <;> cases shownDetectors rest <;> simp

theorem integerText?_isSome : (integerText? total).isSome = true ↔ total.natAbs < tenTo digitLimit := by
  unfold integerText?
  split <;> simp_all

theorem render_isOk (hnames : Nameable detectors) (htotal : total.natAbs < tenTo digitLimit) :
    ∃ text, render detectors total = .ok text := by
  obtain ⟨shown, hshown⟩ := Option.isSome_iff_exists.1 (shownDetectors_isSome.2 hnames)
  obtain ⟨text, htext⟩ := Option.isSome_iff_exists.1 (integerText?_isSome.2 htotal)
  rw [render, hshown, htext]
  exact ⟨_, rfl⟩

theorem render_error (h : render detectors total = .error failure) :
    failure = .longInteger ∧
      ((∃ detector ∈ detectors, detector.name.display? = none) ∨
        tenTo digitLimit ≤ total.natAbs) := by
  have hkind : failure = .longInteger := by
    unfold render at h
    split at h <;> cases h
    rfl
  refine ⟨hkind, ?_⟩
  by_cases hnames : Nameable detectors
  · refine .inr (Nat.not_lt.1 fun htotal => ?_)
    obtain ⟨text, htext⟩ := render_isOk hnames htotal
    cases htext.symm.trans h
  · obtain ⟨detector, hdetector⟩ := Classical.not_forall.1 hnames
    obtain ⟨hmem, hname⟩ := Classical.not_imp.1 hdetector
    exact .inl ⟨detector, hmem, by simpa using hname⟩

/-! ## 2. Entries -/

/-- The mark at which the entry of a detector begins. -/
def idMark : List Char := ['{', 'i', 'd', '=']

/-- The mark in front of the total. -/
def totalMark : List Char := "TotalAnomalyDetectors=".toList

/-- The id at the start of a piece, which ends at the first comma. -/
def readId (piece : List Char) : String :=
  String.ofList (piece.takeWhile (· != ','))

/-- The ids in a text: it is cut where an entry begins, and an id is read from every piece but the
first. -/
def readIds (text : String) : List String :=
  (Text.cutAt idMark text.toList).tail.map readId

/-- The total in a text: what stands behind the last mark of a total. -/
def readTotal? (text : String) : Option String :=
  (Text.behindLast? totalMark text.toList).map String.ofList

/-- Whether the fields of an entry can be told apart: the id has no comma, and no entry seems to
begin inside the id or the shown name. -/
structure Separable (id name : String) : Prop where
  comma : ',' ∉ id.toList
  id : Text.Lacks idMark id.toList
  name : Text.Lacks idMark name.toList

/-- Whether a detector has a name that can be shown, and an entry whose fields can be told apart. -/
def Legible (detector : Detector) : Prop :=
  ∃ name, detector.name.display? = some name ∧ Separable detector.id name

variable {id name : String} {shown : List (String × String)}
  {front foot : List Char}

/-- An entry behind its mark. -/
def body (id name : String) : List Char :=
  id.toList ++ ',' :: ("name=".toList ++ (name.toList ++ ['}']))

theorem toList_entry (id name : String) : (entry id name).toList = idMark ++ body id name := by
  have hname : ",name=".toList = ',' :: "name=".toList := by decide
  have hopen : "\x7bid=".toList = idMark := by decide
  have hclose : "\x7d".toList = ['}'] := by decide
  simp only [entry, String.toList_append, hopen, hname, hclose, body, List.append_assoc,
    List.cons_append]

theorem toList_entries_cons :
    (entries ((id, name) :: shown)).toList = idMark ++ (body id name ++ (entries shown).toList) := by
  simp only [entries, String.toList_join, List.map_cons, List.flatMap_cons, toList_entry,
    List.append_assoc]

/-- No entry seems to begin inside an entry, nor in what follows it without a brace. -/
theorem Separable.lacks_body (h : Separable id name) (hfoot : '{' ∉ foot) :
    Text.Lacks idMark (body id name ++ foot) := by
  have hclose : Text.Lacks idMark ('}' :: foot) :=
    .of_not_mem fun hmem => (List.mem_cons.1 hmem).elim (by decide) hfoot
  have hname : Text.Lacks idMark (name.toList ++ '}' :: foot) := h.name.append (by decide) hclose
  have hcomma : '{' ∉ ',' :: "name=".toList := by decide
  have hlabel : Text.Lacks idMark (',' :: ("name=".toList ++ (name.toList ++ '}' :: foot))) :=
    hname.append_left hcomma
  have hwhole : body id name ++ foot =
      id.toList ++ ',' :: ("name=".toList ++ (name.toList ++ '}' :: foot)) := by
    simp only [body, List.append_assoc, List.cons_append, List.nil_append]
  rw [hwhole]
  exact h.id.append (by decide) hlabel

theorem Separable.readId_body (h : Separable id name) (rest : List Char) :
    readId (body id name ++ rest) = id := by
  have hid : ∀ c ∈ id.toList, (c != ',') = true := fun c hc =>
    bne_iff_ne.2 fun heq => h.comma (heq ▸ hc)
  rw [readId, body, List.append_assoc, List.takeWhile_append_of_pos hid, List.cons_append,
    List.takeWhile_cons_of_neg (by decide), List.append_nil, String.ofList_toList]

/-- Behind the piece in front of the first mark comes one piece for each entry, with its id at the
start. -/
theorem cutAt_entries (hfoot : '{' ∉ foot) (hshown : ∀ pair ∈ shown, Separable pair.1 pair.2)
    (hfront : ∀ foot : List Char, '{' ∉ foot → Text.Lacks idMark (front ++ foot)) :
    ∃ rest pieces, Text.cutAt idMark (front ++ ((entries shown).toList ++ foot)) =
      (front ++ rest) :: pieces ∧ pieces.map readId = shown.map Prod.fst := by
  -- The induction is on the entries: the first mark ends the piece in front of it, and the body
  -- behind the mark is the front of what is left.
  induction shown generalizing front with
  | nil => exact ⟨foot, [], Text.cutAt_of_lacks (hfront foot hfoot), rfl⟩
  | cons pair shown ih =>
      obtain ⟨id, name⟩ := pair
      obtain ⟨hpair, hothers⟩ := List.forall_mem_cons.1 hshown
      have hlacks : Text.Lacks idMark front := by simpa using hfront [] (by simp)
      obtain ⟨rest, pieces, hcut, hids⟩ := ih hothers fun _ hfoot => hpair.lacks_body hfoot
      refine ⟨[], (body id name ++ rest) :: pieces, ?_, ?_⟩
      · rw [toList_entries_cons, List.append_assoc, List.append_assoc, List.append_nil, ← hcut]
        exact Text.cutAt_mark (by decide) hlacks _
      · rw [List.map_cons, List.map_cons, hids, hpair.readId_body]

/-! ## 3. Whole texts -/

/-- What stands in front of the entries. -/
def opening : List Char := "AnomalyDetectors=[".toList

theorem toList_frame (entries total : String) : (frame entries total).toList =
    opening ++ (entries.toList ++ (']' :: totalMark ++ total.toList)) := by
  have happend (before behind : String) : (before ++ entries ++ behind ++ total).toList =
      before.toList ++ (entries.toList ++ (behind.toList ++ total.toList)) := by
    simp only [String.toList_append, List.append_assoc]
  have hmark : ']' :: totalMark = "]TotalAnomalyDetectors=".toList := rfl
  rw [hmark]
  exact happend "AnomalyDetectors=[" "]TotalAnomalyDetectors="

theorem not_mem_integerText {c : Char} (total : Int) (hsign : c ≠ '-')
    (hdigit : isAsciiDigit c = false) : c ∉ (integerText total).toList := by
  rw [integerText, String.toList_ofList]
  intro hmem
  rcases mem_integerChars hmem with hminus | hdigits
  · exact hsign hminus
  · exact absurd hdigits (by simp [hdigit])

theorem readIds_frame (hshown : ∀ pair ∈ shown, Separable pair.1 pair.2) (total : Int) :
    readIds (frame (entries shown) (integerText total)) = shown.map Prod.fst := by
  have hfoot : '{' ∉ ']' :: totalMark ++ (integerText total).toList := fun hmem =>
    (List.mem_append.1 hmem).elim (by decide)
      (not_mem_integerText total (by decide) (by decide))
  have hopening : ∀ foot : List Char, '{' ∉ foot → Text.Lacks idMark (opening ++ foot) :=
    fun foot hfoot => .append_left (by decide) (.of_not_mem hfoot)
  obtain ⟨rest, pieces, hcut, hids⟩ := cutAt_entries hfoot hshown hopening
  rw [readIds, toList_frame, hcut, List.tail_cons, hids]

theorem readTotal?_frame (entries : String) (total : Int) :
    readTotal? (frame entries (integerText total)) = some (integerText total) := by
  have hmark : Text.behindLast? totalMark
      ((opening ++ (entries.toList ++ [']'])) ++ (totalMark ++ (integerText total).toList)) =
        some (integerText total).toList :=
    Text.behindLast?_mark (by decide) (not_mem_integerText total (by decide) (by decide)) _
  rw [List.append_assoc, List.append_assoc] at hmark
  rw [readTotal?, toList_frame]
  refine (congrArg (Option.map String.ofList) hmark).trans ?_
  rw [Option.map_some, String.ofList_toList]

/-! ## 4. Results -/

theorem render_of_shown (h : shownDetectors detectors = some shown) (total : Int) :
    render detectors total = if total.natAbs < tenTo digitLimit then
      .ok (frame (entries shown) (integerText total)) else .error .longInteger := by
  rw [render, h, integerText?]
  by_cases hshort : total.natAbs < tenTo digitLimit
  · rw [if_pos hshort, if_pos hshort]
  · rw [if_neg hshort, if_neg hshort]

theorem shownDetectors_legible (h : ∀ detector ∈ detectors, Legible detector) :
    ∃ shown, shownDetectors detectors = some shown ∧
      shown.map Prod.fst = detectors.map Detector.id ∧
      ∀ pair ∈ shown, Separable pair.1 pair.2 := by
  induction detectors with
  | nil => exact ⟨[], rfl, rfl, by simp⟩
  | cons detector rest ih =>
      obtain ⟨⟨name, hname, hseparable⟩, hrest⟩ := List.forall_mem_cons.1 h
      obtain ⟨shown, hshown, hids, hothers⟩ := ih hrest
      refine ⟨(detector.id, name) :: shown, ?_, ?_, ?_⟩
      · rw [shownDetectors, hname, hshown]
      · rw [List.map_cons, List.map_cons, hids]
      · exact List.forall_mem_cons.2 ⟨hseparable, hothers⟩

/-- The ids and the total of a result are read back from its text, so another result with this text
has the same ids and the same total. A total of more than 4300 digits cannot be written, and its
result has no text. -/
theorem render_legible (detectors : List Detector) (total : Int)
    (h : ∀ detector ∈ detectors, Legible detector) :
    ∃ text, readIds text = detectors.map Detector.id ∧
      readTotal? text = some (integerText total) ∧
      render detectors total = (if total.natAbs < tenTo digitLimit then .ok text
        else .error .longInteger) ∧
      ∀ others other, (∀ detector ∈ others, Legible detector) → render others other = .ok text →
        others.map Detector.id = detectors.map Detector.id ∧ other = total := by
  obtain ⟨shown, hshown, hids, hseparable⟩ := shownDetectors_legible h
  refine ⟨frame (entries shown) (integerText total), ?_, readTotal?_frame _ total,
    render_of_shown hshown total, fun others other hlegible hrender => ?_⟩
  · rw [readIds_frame hseparable, hids]
  · obtain ⟨shown', hshown', hids', hseparable'⟩ := shownDetectors_legible hlegible
    have htext : frame (entries shown') (integerText other) =
        frame (entries shown) (integerText total) := by
      rw [render_of_shown hshown' other] at hrender
      split at hrender
      · exact Except.ok.inj hrender
      · cases hrender
    constructor
    · rw [← hids, ← hids', ← readIds_frame hseparable total, ← readIds_frame hseparable' other,
        htext]
    · have htotals := congrArg readTotal? htext
      rw [readTotal?_frame, readTotal?_frame] at htotals
      exact integerChars_injective (String.ofList_injective (Option.some.inj htotals))

/-- Detectors with braces, brackets, commas and the mark of a total in their fields, two of them
under one id. -/
def crowdedDetectors : List Detector :=
  [⟨"\x7d\x7bid", [("name", .text "]TotalAnomalyDetectors=7\x7bi")]⟩,
   ⟨"", [("name", .list [.text "a,\x7b", .null])]⟩,
   ⟨"\x7d\x7bid", []⟩]

theorem render_legible_crowded : (∀ detector ∈ crowdedDetectors, Legible detector) ∧
    ∃ text, render crowdedDetectors (-3) = .ok text ∧
      readIds text = ["\x7d\x7bid", "", "\x7d\x7bid"] ∧ readTotal? text = some "-3" := by
  have hlegible : ∀ detector ∈ crowdedDetectors, Legible detector := by
    simp only [crowdedDetectors, List.forall_mem_cons]
    refine ⟨⟨"]TotalAnomalyDetectors=7\x7bi", rfl, ?_⟩, ⟨"['a,\x7b', None]", by decide +kernel, ?_⟩,
      ⟨"None", rfl, ?_⟩, by simp⟩
    all_goals exact ⟨by decide +kernel, by decide +kernel, by decide +kernel⟩
  obtain ⟨text, hids, htotal, hrender, -⟩ := render_legible crowdedDetectors (-3) hlegible
  rw [if_pos (by decide +kernel)] at hrender
  have hdecimal : integerText (-3) = "-3" := by decide +kernel
  exact ⟨hlegible, text, hrender, hids, hdecimal ▸ htotal⟩

end DetectorSearch.Presentation
