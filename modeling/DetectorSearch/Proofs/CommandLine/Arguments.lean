import DetectorSearch.CommandLine.Command
import DetectorSearch.Proofs.CommandLine.Console
import DetectorSearch.Proofs.CommandLine.Options
import DetectorSearch.Proofs.Keyed
import DetectorSearch.Tool

/-!
# Arguments of a search

A search has twelve arguments, each of which may be left out. An agent gives them by
name, the command line by options, and both come to the same fields: those of the
arguments that are given. The options are understood whatever their order, if the
console reads the integers among them.

Results:
1. `Arguments`: the arguments of a search, with their names and with their options.
2. `given_fields`, `given_understood`: two ways to give them that come to the same.
3. `readSearch_spelled`, `readSearch_unread`: the arguments that options are
   understood as.
-/

namespace DetectorSearch

open CommandLine

/-! ## 1. The arguments of a search -/

/-- The arguments of a search. Each may be left out. -/
structure Arguments where
  detectorName : Option String
  detectorNamePattern : Option String
  indices : Option String
  highCardinality : Option Bool
  lastUpdateTime : Option Int
  sortOrder : Option String
  sortString : Option String
  size : Option Int
  startIndex : Option Int
  running : Option Bool
  disabled : Option Bool
  failed : Option Bool

namespace Arguments

/-- The arguments by their names. -/
def entries (a : Arguments) : Keyed (Option Value) :=
  [("detectorName", a.detectorName.map .text),
   ("detectorNamePattern", a.detectorNamePattern.map .text),
   ("indices", a.indices.map .text),
   ("highCardinality", a.highCardinality.map .bool),
   ("lastUpdateTime", a.lastUpdateTime.map .int),
   ("sortOrder", a.sortOrder.map .text),
   ("sortString", a.sortString.map .text),
   ("size", a.size.map .int),
   ("startIndex", a.startIndex.map .int),
   ("running", a.running.map .bool),
   ("disabled", a.disabled.map .bool),
   ("failed", a.failed.map .bool)]

/-- The arguments that are given, and no others. -/
def present (a : Arguments) : Fields :=
  Keyed.present a.entries

/-- All arguments as an agent gives them: null stands for those that are left out. -/
def fields (a : Arguments) : Fields :=
  a.entries.map fun entry => (entry.1, entry.2.getD .null)

/-- The slot of an option with a value. -/
def valuedSlot (name : String) (value : Option String) : Slot :=
  ⟨[name], .valued, value.map (name, ·)⟩

/-- The slot of two options that stand alone, one for a true flag and one for a false flag. -/
def switchSlot (on off : String) (flag : Option Bool) : Slot :=
  ⟨[on, off], .alone, flag.map fun flag => (if flag then on else off, "")⟩

/-- The arguments by their options. Integers are given in their decimal form. -/
def slots (a : Arguments) : List Slot :=
  [valuedSlot "--name" a.detectorName,
   valuedSlot "--name-pattern" a.detectorNamePattern,
   valuedSlot "--indices" a.indices,
   switchSlot "--high-cardinality" "--single-entity" a.highCardinality,
   valuedSlot "--last-update-time" (a.lastUpdateTime.map integerText),
   valuedSlot "--sort-order" a.sortOrder,
   valuedSlot "--sort-string" a.sortString,
   valuedSlot "--size" (a.size.map integerText),
   valuedSlot "--start-index" (a.startIndex.map integerText),
   switchSlot "--running" "--not-running" a.running,
   switchSlot "--disabled" "--not-disabled" a.disabled,
   switchSlot "--failed" "--not-failed" a.failed]

/-- Whether words spell the options of the arguments, each once and in any order. -/
def Spelled (a : Arguments) (words : List String) : Prop :=
  ∃ meant spelled, meant.Perm (Slot.meant a.slots) ∧ List.Forall₂ Spells meant spelled ∧
    words = spelled.flatten

/-- The integers among the arguments. -/
def integers (a : Arguments) : List Int :=
  [a.lastUpdateTime, a.size, a.startIndex].filterMap id

/-- Whether each integer has at most 4300 digits. -/
def Short (a : Arguments) : Prop :=
  ∀ number ∈ a.integers, number.natAbs < tenTo digitLimit

/-- Whether a console reads each integer back from its decimal form. -/
def ReadBy (console : Console) (a : Arguments) : Prop :=
  ∀ number ∈ a.integers, console.integer? (integerText number) = some number

variable {a : Arguments} {words : List String} {given : Given} {console : Console}

/-! ## 2. Arguments that are given -/

/-- The fields that are given are the arguments that have a value, each under its name. -/
theorem given_eq {arguments : Fields} {entries : Keyed (Option Value)}
    (hnames : entries.map Prod.fst = Tool.argumentNames)
    (hnull : ∀ entry ∈ entries, entry.2 ≠ some .null)
    (h : ∀ entry ∈ entries, Keyed.find? entry.1 arguments = entry.2 ∨
      entry.2 = none ∧ Keyed.find? entry.1 arguments = some .null) :
    Tool.given arguments = Keyed.present entries := by
  rw [Tool.given, ← hnames, List.filterMap_map, Keyed.present]
  refine List.filterMap_congr fun entry hentry => ?_
  rw [Function.comp_apply]
  rcases h entry hentry with hfound | ⟨hnone, hfound⟩
  · rw [hfound]
    cases hvalue : entry.2 with
    | none => rfl
    | some value =>
        have hnot : value ≠ .null := fun heq => hnull entry hentry (by rw [hvalue, heq])
        cases value <;> first | rfl | exact absurd rfl hnot
  · rw [hfound, hnone]
    rfl

theorem nodup_entries (a : Arguments) : (a.entries.map Prod.fst).Nodup := by
  show Tool.argumentNames.Nodup
  decide

theorem entries_ne_null (a : Arguments) : ∀ entry ∈ a.entries, entry.2 ≠ some .null := by
  have hmap {α : Type} (make : α → Value) (hmake : ∀ value, make value ≠ .null)
      (value : Option α) : value.map make ≠ some .null := by
    cases value with
    | none => exact nofun
    | some value => exact fun h => hmake value (Option.some.inj h)
  have htext := hmap Value.text fun _ => nofun
  have hinteger := hmap Value.int fun _ => nofun
  have hflag := hmap Value.bool fun _ => nofun
  simp only [entries, List.forall_mem_cons]
  exact ⟨htext _, htext _, htext _, hflag _, hinteger _, htext _, htext _, hinteger _, hinteger _,
    hflag _, hflag _, hflag _, List.forall_mem_nil _⟩

/-- Arguments that are left out may be given as null. -/
theorem given_fields (a : Arguments) : Tool.given a.fields = a.present := by
  refine given_eq rfl a.entries_ne_null fun entry hentry => ?_
  have hfound : Keyed.find? entry.1 a.fields = some (entry.2.getD .null) := by
    rw [fields, Keyed.find?_map fun value : Option Value => value.getD .null,
      Keyed.find?_of_mem a.nodup_entries hentry, Option.map_some]
  rw [hfound]
  cases entry.2 with
  | none => exact .inr ⟨rfl, rfl⟩
  | some value => exact .inl rfl

/-- The arguments that the command line has options with values for. -/
def valuedEntries (a : Arguments) : Keyed (Option Value) :=
  [("detectorName", a.detectorName.map .text),
   ("detectorNamePattern", a.detectorNamePattern.map .text),
   ("indices", a.indices.map .text),
   ("lastUpdateTime", a.lastUpdateTime.map .int),
   ("sortString", a.sortString.map .text),
   ("sortOrder", a.sortOrder.map .text),
   ("size", a.size.map .int),
   ("startIndex", a.startIndex.map .int)]

/-- The arguments that the command line has switches for. -/
def switchEntries (a : Arguments) : Keyed (Option Value) :=
  [("highCardinality", a.highCardinality.map .bool),
   ("running", a.running.map .bool),
   ("disabled", a.disabled.map .bool),
   ("failed", a.failed.map .bool)]

/-- The arguments as the command line understands them: those with a value first. -/
def understood (a : Arguments) : Fields :=
  Keyed.present (a.valuedEntries ++ a.switchEntries)

theorem given_understood (a : Arguments) : Tool.given a.understood = a.present := by
  have hnodup : ((a.valuedEntries ++ a.switchEntries).map Prod.fst).Nodup := by
    show ["detectorName", "detectorNamePattern", "indices", "lastUpdateTime", "sortString",
      "sortOrder", "size", "startIndex", "highCardinality", "running", "disabled", "failed"].Nodup
    decide
  refine given_eq rfl a.entries_ne_null fun entry hentry => .inl ?_
  -- The fields stand in another order, but each is looked up by its name.
  have hmem : entry ∈ a.valuedEntries ++ a.switchEntries := by
    simp only [entries, valuedEntries, switchEntries, List.cons_append, List.nil_append,
      List.mem_cons] at hentry ⊢
    tauto
  rw [understood, Keyed.find?_present hnodup, Keyed.find?_of_mem hnodup hmem, Option.join_some]

/-! ## 3. Options that are understood -/

theorem fit_slots (a : Arguments) : Slot.Fit a.slots := by
  have hvalued (name : String) (value : Option String) (option : String × String)
      (h : (valuedSlot name value).given = some option) :
      option.1 ∈ (valuedSlot name value).names := by
    obtain ⟨_, -, rfl⟩ := Option.map_eq_some_iff.1 h
    exact List.mem_cons_self
  have hswitch (on off : String) (flag : Option Bool) (option : String × String)
      (h : (switchSlot on off flag).given = some option) :
      option.1 ∈ (switchSlot on off flag).names := by
    obtain ⟨flag, -, rfl⟩ := Option.map_eq_some_iff.1 h
    cases flag <;> simp [switchSlot]
  simp only [Slot.Fit, slots, List.forall_mem_cons]
  exact ⟨hvalued _ _, hvalued _ _, hvalued _ _, hswitch _ _ _, hvalued _ _, hvalued _ _,
    hvalued _ _, hvalued _ _, hvalued _ _, hswitch _ _ _, hswitch _ _ _, hswitch _ _ _,
    List.forall_mem_nil _⟩

/-- The names in each slot, and their kind. -/
def slotNames : List (List String × OptionKind) :=
  [(["--name"], .valued), (["--name-pattern"], .valued), (["--indices"], .valued),
   (["--high-cardinality", "--single-entity"], .alone), (["--last-update-time"], .valued),
   (["--sort-order"], .valued), (["--sort-string"], .valued), (["--size"], .valued),
   (["--start-index"], .valued), (["--running", "--not-running"], .alone),
   (["--disabled", "--not-disabled"], .alone), (["--failed", "--not-failed"], .alone)]

theorem map_slots (a : Arguments) :
    a.slots.map (fun slot => (slot.names, slot.kind)) = slotNames :=
  rfl

theorem mem_slotNames {slot : Slot} (h : slot ∈ a.slots) : (slot.names, slot.kind) ∈ slotNames :=
  a.map_slots ▸ List.mem_map_of_mem h

theorem apart_slots (a : Arguments) : Slot.Apart a.slots := by
  have hnames : slotNames.Pairwise fun a b => ∀ name ∈ a.1, name ∉ b.1 := by decide
  rw [← a.map_slots, List.pairwise_map] at hnames
  exact hnames

/-- The options that a search understands, help included. -/
def knownOptions : Keyed OptionKind :=
  Keyed.put helpOption .alone searchOptions

/-- The options of the arguments are known by their kinds. -/
theorem known_of_mem {slot : Slot} (h : slot ∈ a.slots) :
    ∀ name ∈ slot.names, Keyed.find? name knownOptions = some slot.kind ∧ IsName name := by
  have hnames : ∀ entry ∈ slotNames, ∀ name ∈ entry.1,
      Keyed.find? name knownOptions = some entry.2 ∧ IsName name := by decide
  exact hnames _ (mem_slotNames h)

/-- Neither help nor a time for the lookups is among the arguments. -/
theorem last?_of_other {name : String} (hname : name = helpOption ∨ name = timeoutOption)
    (hgiven : given.options.Perm (a.slots.filterMap Slot.given)) : given.last? [name] = none := by
  have hother : ∀ entry ∈ slotNames, helpOption ∉ entry.1 ∧ timeoutOption ∉ entry.1 := by decide
  refine Slot.last?_of_stranger a.fit_slots hgiven fun slot hslot other hmem => ?_
  obtain rfl := List.mem_singleton.1 hmem
  obtain ⟨hhelp, htimeout⟩ := hother _ (mem_slotNames hslot)
  rcases hname with rfl | rfl
  · exact hhelp
  · exact htimeout

/-- Options that spell the arguments are understood as they are meant. -/
theorem read_spelled (h : a.Spelled words) :
    ∃ given, Given.read searchOptions false words = .ok given ∧ given.words = [] ∧
      given.options.Perm (a.slots.filterMap Slot.given) := by
  obtain ⟨meant, spelled, hperm, hspells, rfl⟩ := h
  have hknown : ∀ option ∈ meant, Knows knownOptions option := by
    intro option hoption
    obtain ⟨slot, hslot, hgiven⟩ := List.mem_filterMap.1 (hperm.mem_iff.1 hoption)
    obtain ⟨given, hslotGiven, rfl⟩ := Option.map_eq_some_iff.1 hgiven
    exact known_of_mem hslot given.1 (a.fit_slots slot hslot given hslotGiven)
  have hscan : scan (Keyed.put helpOption .alone searchOptions) false spelled.flatten =
      .ok ⟨meant.map Prod.snd, []⟩ := scan_spelled hknown hspells
  have hoptions : (meant.map Prod.snd).Perm (a.slots.filterMap Slot.given) := by
    rw [← Slot.options_meant]
    exact hperm.map Prod.snd
  have hhelp : Given.last? [helpOption] ⟨meant.map Prod.snd, []⟩ = none :=
    last?_of_other (.inl rfl) hoptions
  refine ⟨⟨meant.map Prod.snd, []⟩, ?_, rfl, hoptions⟩
  simp only [Given.read, hscan, Given.value?, hhelp]
  rfl

/-- Where each item is read, all of them are. -/
theorem mapM_of_forall₂ {α β γ ε : Type} {read : α → Except ε γ} {make : β → γ} {xs : List α}
    {ys : List β} (h : List.Forall₂ (fun x y => read x = .ok (make y)) xs ys) :
    xs.mapM read = .ok (ys.map make) := by
  induction h with
  | nil => rfl
  | cons hx _ ih =>
      rw [List.mapM_cons, hx, ih]
      rfl

/-- Where an item has a fault, and no item has another one, this fault is the end. -/
theorem mapM_of_error {α β ε : Type} {read : α → Except ε β} {fault : ε} {xs : List α} {x : α}
    (hx : x ∈ xs) (hfault : read x = .error fault)
    (hall : ∀ x ∈ xs, (∃ y, read x = .ok y) ∨ read x = .error fault) :
    xs.mapM read = .error fault := by
  induction xs with
  | nil => cases hx
  | cons first rest ih =>
      obtain ⟨hfirst, hrest⟩ := List.forall_mem_cons.1 hall
      rw [List.mapM_cons]
      rcases hfirst with ⟨y, hfirst⟩ | hfirst
      · have hmem : x ∈ rest := by
          refine (List.mem_cons.1 hx).resolve_left fun heq => ?_
          cases (heq ▸ hfault).symm.trans hfirst
        rw [hfirst, ih hmem hrest]
        rfl
      · rw [hfirst]
        rfl

theorem present_of_forall₂ {α β : Type} {read : α → Option (String × β)} {xs : List α}
    {entries : Keyed (Option β)}
    (h : List.Forall₂ (fun x entry => read x = entry.2.map (entry.1, ·)) xs entries) :
    xs.filterMap read = Keyed.present entries := by
  induction h with
  | nil => rfl
  | cons hx _ ih =>
      rw [List.filterMap_cons, hx, ih, Keyed.present, Keyed.present, List.filterMap_cons]

/-- What an option with a value gives: it is left out, or its text is read. -/
theorem field_eq (console : Console) (given : Given) (option : ValuedOption) :
    option.field console given =
      match given.last? [option.option] with
      | none => .ok none
      | some (_, text) =>
          match option.read console text with
          | none => .error .misused
          | some value => .ok (some (option.argument, value)) := by
  rw [ValuedOption.field, readValue?, Given.value?]
  cases given.last? [option.option] with
  | none => rfl
  | some found =>
      obtain ⟨_, text⟩ := found
      dsimp only [Option.map_some]
      cases option.read console text <;> rfl

theorem field_cases (console : Console) (given : Given) (option : ValuedOption) :
    (∃ found, option.field console given = .ok found) ∨
      option.field console given = .error .misused := by
  rw [field_eq]
  split
  · exact .inl ⟨_, rfl⟩
  · split
    · exact .inr rfl
    · exact .inl ⟨_, rfl⟩

variable {name argument on off : String}

/-- An option is read as the value that its text spells. -/
theorem field_spelled {α : Type} {spell : α → String} {make : α → Value}
    {read : Console → String → Option Value} {value : Option α}
    (h : given.last? [name] = (value.map spell).map (name, ·))
    (hread : ∀ v, value = some v → read console (spell v) = some (make v)) :
    ValuedOption.field console given ⟨name, argument, read⟩ =
      .ok ((value.map make).map (argument, ·)) := by
  rw [field_eq]
  dsimp only
  rw [h]
  cases value with
  | none => rfl
  | some v =>
      dsimp only [Option.map_some]
      rw [hread v rfl]

theorem field_text {text : Option String} (h : given.last? [name] = text.map (name, ·)) :
    ValuedOption.field console given ⟨name, argument, readText⟩ =
      .ok ((text.map Value.text).map (argument, ·)) :=
  @field_spelled given console name argument _ id _ _ text (by rw [h, Option.map_id_fun, id])
    fun _ _ => rfl

theorem field_integer {number : Option Int}
    (h : given.last? [name] = (number.map integerText).map (name, ·))
    (hread : ∀ n, number = some n → console.integer? (integerText n) = some n) :
    ValuedOption.field console given ⟨name, argument, readInteger⟩ =
      .ok ((number.map Value.int).map (argument, ·)) :=
  field_spelled h fun n hn => by rw [readInteger, hread n hn, Option.map_some]

theorem field_unread {number : Option Int} {n : Int}
    (h : given.last? [name] = (number.map integerText).map (name, ·))
    (hn : number = some n) (hunread : console.integer? (integerText n) = none) :
    ValuedOption.field console given ⟨name, argument, readInteger⟩ = .error .misused := by
  rw [field_eq]
  dsimp only
  rw [h, hn]
  dsimp only [Option.map_some]
  rw [readInteger, hunread, Option.map_none]

theorem field_switch {flag : Option Bool} (hne : on ≠ off)
    (h : given.last? [on, off] = flag.map fun flag => (if flag then on else off, "")) :
    Switch.field given ⟨on, off, argument⟩ = (flag.map Value.bool).map (argument, ·) := by
  rw [Switch.field]
  dsimp only
  rw [h]
  cases flag with
  | none => rfl
  | some flag =>
      cases flag with
      | false => simp [Ne.symm hne]
      | true => simp

/-- What is found in each slot of the options that are given. -/
theorem last?_slots (hgiven : given.options.Perm (a.slots.filterMap Slot.given)) :
    ∀ slot ∈ a.slots, given.last? slot.names = slot.given :=
  fun _ => Slot.last?_of_slot a.fit_slots a.apart_slots hgiven

/-- Options with a value are read as the arguments that they are given for. -/
theorem fields_valued (hgiven : given.options.Perm (a.slots.filterMap Slot.given))
    (hread : a.ReadBy console) :
    List.Forall₂ (fun option entry => option.field console given = .ok (entry.2.map (entry.1, ·)))
      valuedOptions a.valuedEntries := by
  have hinteger (number : Option Int) (hmem : number ∈ [a.lastUpdateTime, a.size, a.startIndex])
      (n : Int) (hn : number = some n) : console.integer? (integerText n) = some n :=
    hread n (List.mem_filterMap.2 ⟨number, hmem, hn⟩)
  have hlast := last?_slots hgiven
  simp only [slots, List.forall_mem_cons] at hlast
  obtain ⟨hname, hpattern, hindices, -, hupdated, horder, hsort, hsize, hstart, -⟩ := hlast
  exact .cons (field_text hname) (.cons (field_text hpattern) (.cons (field_text hindices)
    (.cons (field_integer hupdated (hinteger _ (by simp))) (.cons (field_text hsort)
      (.cons (field_text horder) (.cons (field_integer hsize (hinteger _ (by simp)))
        (.cons (field_integer hstart (hinteger _ (by simp))) .nil)))))))

/-- Options that stand alone are read as the arguments that they are given for. -/
theorem fields_switch (hgiven : given.options.Perm (a.slots.filterMap Slot.given)) :
    List.Forall₂ (fun switch entry => Switch.field given switch = entry.2.map (entry.1, ·))
      switches a.switchEntries := by
  have hlast := last?_slots hgiven
  simp only [slots, List.forall_mem_cons] at hlast
  obtain ⟨-, -, -, hhigh, -, -, -, -, -, hrunning, hdisabled, hfailed, -⟩ := hlast
  exact .cons (field_switch (by decide) hhigh) (.cons (field_switch (by decide) hrunning)
    (.cons (field_switch (by decide) hdisabled) (.cons (field_switch (by decide) hfailed) .nil)))

/-- Options that spell the arguments are read as the arguments. -/
theorem readSearch_spelled (h : a.Spelled words) (hread : a.ReadBy console) :
    Command.readSearch console words = .ok (.search a.understood none) := by
  obtain ⟨given, hgivenRead, hwords, hgiven⟩ := read_spelled h
  have hvalued := mapM_of_forall₂ (fields_valued hgiven hread)
  have htimeout : given.value? timeoutOption = none := by
    rw [Given.value?, last?_of_other (.inr rfl) hgiven, Option.map_none]
  have hfields : (a.valuedEntries.map fun entry => entry.2.map (entry.1, ·)).filterMap id =
      Keyed.present a.valuedEntries := by
    rw [List.filterMap_map]
    rfl
  simp only [Command.readSearch, hgivenRead, hvalued, readValue?, htimeout, hwords, hfields,
    present_of_forall₂ (fields_switch hgiven), bind, Except.bind, List.isEmpty_nil, Bool.not_true,
    Bool.false_eq_true, if_false]
  rw [understood, Keyed.present_append]
  rfl

/-- Where an integer is not read, the search does not begin. -/
theorem readSearch_unread {number : Int} (h : a.Spelled words) (hnumber : number ∈ a.integers)
    (hunread : console.integer? (integerText number) = none) :
    Command.readSearch console words = .error .misused := by
  obtain ⟨given, hread, -, hgiven⟩ := read_spelled h
  have hlast := last?_slots hgiven
  simp only [slots, List.forall_mem_cons] at hlast
  obtain ⟨-, -, -, -, hupdated, -, -, hsize, hstart, -⟩ := hlast
  obtain ⟨field, hfield, hsome⟩ := List.mem_filterMap.1 hnumber
  -- Whichever field it is, the option of this field cannot be read.
  have hfault : ∃ option ∈ valuedOptions, option.field console given = .error .misused := by
    simp only [List.mem_cons, List.not_mem_nil, or_false] at hfield
    rcases hfield with rfl | rfl | rfl
    · exact ⟨⟨"--last-update-time", "lastUpdateTime", readInteger⟩, by simp [valuedOptions],
        field_unread hupdated hsome hunread⟩
    · exact ⟨⟨"--size", "size", readInteger⟩, by simp [valuedOptions],
        field_unread hsize hsome hunread⟩
    · exact ⟨⟨"--start-index", "startIndex", readInteger⟩, by simp [valuedOptions],
        field_unread hstart hsome hunread⟩
  obtain ⟨option, hoption, hmisused⟩ := hfault
  have hvalued := mapM_of_error hoption hmisused fun option _ => field_cases console given option
  simp only [Command.readSearch, hread, hvalued, bind, Except.bind]

/-- The standard console reads integers of at most 4300 digits. -/
theorem Short.readBy (h : a.Short) (onTerminal : Bool) : a.ReadBy (.standard onTerminal) :=
  fun number hnumber => by rw [Console.standard_integer?, if_pos (h number hnumber)]

end Arguments

end DetectorSearch
