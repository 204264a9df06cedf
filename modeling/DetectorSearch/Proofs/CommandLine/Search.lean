import DetectorSearch.Proofs.CommandLine.Arguments
import DetectorSearch.Proofs.Text
import DetectorSearch.Proofs.Tool.Failures

/-!
# The command line and an agent

An agent gives arguments by name, the command line by options, and both tell about the
same run of the tool. The agent returns a string. The command line writes the same
string: as it is on a terminal, where a failure is red, and without its codes elsewhere.
What the command line cannot do is to take an integer of more than 4300 digits, and to
write a text that has no bytes.

Results:
1. `run_search`, `ofNotice_written`: a search that begins, and what it writes.
2. `run_tells`: the command line and an agent on any console.
3. `run_answers`: the command line and an agent on the standard console.
4. `run_differs`: what the command line does not take, and what it writes otherwise.
-/

namespace DetectorSearch

open CommandLine Op

/-! ## 1. A search that begins -/

namespace CommandLine

variable {σ : Type} {console : Console} {around : Surroundings σ} {environment : Environment}
  {stored : String → Stored} {catalog : Catalog} {service : StatusService} {world : σ}
  {arguments : List String} {preamble : Preamble} {words : List String} {settings : Settings}
  {session : Session σ} {a : Arguments}

/-- The end of a search that begins: what it tells, or the failure that breaks it off. -/
def endingOf (console : Console) : Outcome Notice → Ending
  | .ok notice => .ofNotice console notice
  | .error failure => .failed failure

theorem run_search {fields : Fields} {timeout : Option Float}
    (hpreamble : Preamble.read arguments = .ok preamble)
    (hsettings : preamble.settings environment stored = .ok settings)
    (hcommand : preamble.command = "search" :: words)
    (hread : Command.readSearch console words = .ok (.search fields timeout))
    (hsession : Session.ofSettings environment settings catalog service world = .ok session) :
    (run console around environment stored catalog service world arguments).1 =
      endingOf console (Tool.report (((Tool.ofSettings settings).run around (Tool.given fields)
        (timeout.map .real)).outcome session).1) := by
  have hcommandRead : Command.read console preamble.command = .ok (.search fields timeout) := by
    rw [hcommand, ← hread]
    rfl
  rw [← Tool.search_eq]
  simp only [run, hpreamble, hsettings, hcommandRead, Command.session, hsession]
  show (match (search around (Tool.ofSettings settings) fields timeout).outcome session with
    | (.ok notice, session) => (Ending.ofNotice console notice, session)
    | (.error failure, session) => (.failed failure, session)).1 = _
  cases (search around (Tool.ofSettings settings) fields timeout).outcome session with
  | mk result ended => cases result <;> rfl

theorem run_misused (hpreamble : Preamble.read arguments = .ok preamble)
    (hsettings : preamble.settings environment stored = .ok settings)
    (hcommand : preamble.command = "search" :: words)
    (hread : Command.readSearch console words = .error .misused) :
    (run console around environment stored catalog service world arguments).1 =
      .halted .misused := by
  have hcommandRead : Command.read console preamble.command = .error .misused := by
    rw [hcommand, ← hread]
    rfl
  simp only [run, hpreamble, hsettings, hcommandRead]

/-- A report without half of a surrogate pair is written. -/
theorem ofNotice_written {notice : Notice} {code : Nat} {line : String}
    (hreport : notice.report console = ⟨code, line ++ "\n"⟩) (h : Text.hasHalf line = false) :
    Ending.ofNotice console notice = .reported ⟨code, line ++ "\n"⟩ := by
  have hbytes : Text.encodeFault? (line ++ "\n").toList = none := by
    rw [Text.encodeFault?_eq_none_iff, String.toList_append]
    refine List.forall_mem_append.2 ⟨?_, List.forall_mem_singleton.2 rfl⟩
    simpa [Text.hasHalf] using h
  rw [Ending.ofNotice, hreport]
  dsimp only
  rw [hbytes]

/-! ## 2. The command line and an agent -/

/-- On any console that reads the integers among the arguments, the command line and an agent tell the
same. If a run of the tool over the arguments that are given ends in a text, both tell this text; if
it ends in a failure of the search, both tell the text about this failure, and the program exits with
one. -/
theorem run_tells (hpreamble : Preamble.read arguments = .ok preamble)
    (hsettings : preamble.settings environment stored = .ok settings)
    (hsession : Session.ofSettings environment settings catalog service world = .ok session)
    (hcommand : preamble.command = "search" :: words) (hspelled : a.Spelled words)
    (hread : a.ReadBy console) :
    (∀ text, (((Tool.ofSettings settings).run around a.present none).outcome session).1 = .ok text →
      (((Tool.ofSettings settings).call around a.fields).outcome session).1 = .ok text ∧
      (Text.hasHalf text = false →
        (run console around environment stored catalog service world arguments).1 =
          .reported ⟨0, console.shown text ++ "\n"⟩)) ∧
    (∀ failure, (((Tool.ofSettings settings).run around a.present none).outcome session).1 =
        .error failure → failure.isOwn = true →
      (((Tool.ofSettings settings).call around a.fields).outcome session).1 =
        .ok (Tool.failureText failure) ∧
      (Text.hasHalf (Tool.failureText failure) = false →
        (run console around environment stored catalog service world arguments).1 =
          .reported ⟨1, console.shownFailure (Tool.failureText failure) ++ "\n"⟩)) := by
  have hrun := @run_search σ console around environment stored catalog service world arguments
    preamble words settings session a.understood none hpreamble hsettings hcommand
    (Arguments.readSearch_spelled hspelled hread) hsession
  rw [Arguments.given_understood, Option.map_none] at hrun
  -- Both are now told about one run, of the arguments that are given.
  rw [Tool.call_eq, Arguments.given_fields, hrun]
  refine ⟨fun text htext => ?_, fun failure hfailure hown => ?_⟩
  · rw [htext]
    refine ⟨rfl, fun hwhole => ofNotice_written ?_ (Console.hasHalf_shown hwhole)⟩
    rw [Notice.report, Console.echo_eq]
  · rw [hfailure, Tool.answer, Tool.report, if_pos hown, if_pos hown]
    refine ⟨rfl, fun hwhole => ofNotice_written ?_ (Console.hasHalf_shownFailure hwhole)⟩
    rw [Notice.report, Console.echo_red]

/-! ## 3. The standard console -/

/-- On the standard console, the command line and an agent tell the same about arguments whose integers
have at most 4300 digits each. A text of a run and the text about a failure of the search are returned
to the agent. Where the text has bytes, the command line writes it and exits with zero for a text of a
run, with one for a failure. On a terminal a text of a run stands as it is, and a failure in red.
Elsewhere codes are left out, so that exactly the texts that hold none stand as they are. -/
theorem run_answers (onTerminal : Bool) (hpreamble : Preamble.read arguments = .ok preamble)
    (hsettings : preamble.settings environment stored = .ok settings)
    (hsession : Session.ofSettings environment settings catalog service world = .ok session)
    (hcommand : preamble.command = "search" :: words) (hspelled : a.Spelled words)
    (hshort : a.Short) :
    (∀ text, (((Tool.ofSettings settings).run around a.present none).outcome session).1 = .ok text →
      (((Tool.ofSettings settings).call around a.fields).outcome session).1 = .ok text ∧
      (Text.hasHalf text = false →
        (run (.standard onTerminal) around environment stored catalog service world arguments).1 =
          .reported ⟨0, (if onTerminal then text else Console.plain text) ++ "\n"⟩)) ∧
    (∀ failure, (((Tool.ofSettings settings).run around a.present none).outcome session).1 =
        .error failure → failure.isOwn = true →
      (((Tool.ofSettings settings).call around a.fields).outcome session).1 =
        .ok (Tool.failureText failure) ∧
      (Text.hasHalf (Tool.failureText failure) = false →
        (run (.standard onTerminal) around environment stored catalog service world arguments).1 =
          .reported ⟨1, (if onTerminal then Console.red (Tool.failureText failure)
            else Console.plain (Tool.failureText failure)) ++ "\n"⟩)) ∧
    ∀ text, Console.plain text = text ↔ ¬ Console.HoldsCode text := by
  obtain ⟨htext, hfailure⟩ := @run_tells σ (.standard onTerminal) around environment stored catalog
    service world arguments preamble words settings session a hpreamble hsettings hsession hcommand
    hspelled (hshort.readBy onTerminal)
  exact ⟨htext, hfailure, fun _ => Console.plain_eq_iff⟩

/-- Two detectors at most, and only those that are not disabled. -/
def enabledArguments : Arguments :=
  ⟨none, none, none, none, none, none, none, some 2, none, none, some false, none⟩

/-- The words that ask for them. -/
def enabledWords : List String := ["--not-disabled", "--size", "2"]

theorem spelled_enabled : enabledArguments.Spelled enabledWords :=
  ⟨[(.alone, "--not-disabled", ""), (.valued, "--size", "2")], [["--not-disabled"], ["--size", "2"]],
    List.Perm.swap _ _ _, .cons (.alone _) (.cons (.apart _ _) .nil), rfl⟩

/-- The standard tool over documents in memory. -/
def told (documents : List Detector) (service : StatusService) (a : Arguments) : Outcome String :=
  ((Tool.standardTool.run Tool.stillSurroundings a.present none).outcome
    (Session.start (.memory (.ofDocuments documents)) (.memory service) ())).1

/-- What an agent is told over documents in memory. -/
def called (documents : List Detector) (service : StatusService) (a : Arguments) : Outcome String :=
  ((Tool.standardTool.call Tool.stillSurroundings a.fields).outcome
    (Session.start (.memory (.ofDocuments documents)) (.memory service) ())).1

/-- How the program ends over documents in memory, with standard settings and on the standard
console. -/
def ended (onTerminal : Bool) (documents : List Detector) (service : StatusService)
    (words : List String) : Ending :=
  (run (.standard onTerminal) Tool.stillSurroundings [] (fun _ => .nothing) (.ofDocuments documents)
    service () ("detectors" :: "search" :: words)).1

theorem read_bare (words : List String) :
    Preamble.read ("detectors" :: words) = .ok ⟨none, "WARNING", words⟩ :=
  rfl

theorem settings_bare (words : List String) :
    Preamble.settings [] (fun _ => .nothing) ⟨none, "WARNING", words⟩ = .ok Settings.standard := by
  have hrank : Preamble.leastRank? ⟨none, "WARNING", words⟩ = some 30 := by
    show Keyed.find? (String.ofList (Text.capitals "WARNING".toList)) logLevels = some 30
    decide +kernel
  rw [Preamble.settings, hrank]
  rfl

theorem session_bare (documents : List Detector) (service : StatusService) :
    Session.ofSettings [] Settings.standard (.ofDocuments documents) service () =
      .ok (Session.start (.memory (.ofDocuments documents)) (.memory service) ()) :=
  rfl

theorem exists_told {documents : List Detector} {service : StatusService} {a : Arguments}
    {test : String → Bool} (h : (told documents service a).toOption.map test = some true) :
    ∃ text, told documents service a = .ok text ∧ test text = true := by
  obtain ⟨text, htext, htest⟩ := Option.map_eq_some_iff.1 h
  exact ⟨text, Outcome.eq_ok_of_toOption htext, htest⟩

/-- What is known about a run over documents in memory. -/
theorem ended_of_told (onTerminal : Bool) (documents : List Detector) (service : StatusService)
    (hspelled : a.Spelled words) (hshort : a.Short) :
    (∀ text, told documents service a = .ok text → called documents service a = .ok text ∧
      (Text.hasHalf text = false → ended onTerminal documents service words =
        .reported ⟨0, (Console.standard onTerminal).shown text ++ "\n"⟩)) ∧
    (∀ failure, told documents service a = .error failure → failure.isOwn = true →
      called documents service a = .ok (Tool.failureText failure) ∧
      (Text.hasHalf (Tool.failureText failure) = false → ended onTerminal documents service words =
        .reported ⟨1, (Console.standard onTerminal).shownFailure (Tool.failureText failure) ++
          "\n"⟩)) :=
  run_tells (read_bare _) (settings_bare _) (session_bare documents service) rfl hspelled
    (hshort.readBy onTerminal)

/-- Integers of one digit are short. -/
theorem short_of_small (h : ∀ number ∈ a.integers, number.natAbs < 10) : a.Short :=
  fun number hnumber => Nat.lt_of_lt_of_le (h number hnumber) ten_le_limit

theorem short_enabled : enabledArguments.Short :=
  short_of_small (by decide)

theorem run_answers_enabled :
    ∃ text, called Tool.trioDocuments Tool.trioService enabledArguments = .ok text ∧
      ended true Tool.trioDocuments Tool.trioService enabledWords = .reported ⟨0, text ++ "\n"⟩ ∧
      ended false Tool.trioDocuments Tool.trioService enabledWords = .reported ⟨0, text ++ "\n"⟩ := by
  have htest : (told Tool.trioDocuments Tool.trioService enabledArguments).toOption.map
      (fun text => !Text.hasHalf text && decide (Console.plain text = text)) = some true := by
    decide +kernel
  obtain ⟨text, htold, hclean⟩ := exists_told htest
  simp only [Bool.and_eq_true, Bool.not_eq_true', decide_eq_true_eq] at hclean
  obtain ⟨hwhole, hplain⟩ := hclean
  have hends (onTerminal : Bool) := (run_answers onTerminal (read_bare _) (settings_bare _)
    (session_bare Tool.trioDocuments Tool.trioService) rfl spelled_enabled short_enabled).1 text htold
  have hshown := (hends false).2 hwhole
  rw [if_neg Bool.false_ne_true, hplain] at hshown
  exact ⟨text, (hends true).1, (hends true).2 hwhole, hshown⟩

/-! ## 4. What the command line does not do -/

/-- No argument at all. -/
def noArguments : Arguments :=
  ⟨none, none, none, none, none, none, none, none, none, none, none, none⟩

/-- More detectors than can be written in 4300 digits. -/
def longArguments : Arguments :=
  { noArguments with size := some (tenTo digitLimit) }

/-- The words that ask for them. -/
def longWords : List String := ["--size", integerText (tenTo digitLimit)]

/-- Fewer detectors than none. -/
def negativeArguments : Arguments :=
  { noArguments with size := some (-1) }

theorem spelled_none : noArguments.Spelled [] :=
  ⟨[], [], .refl _, .nil, rfl⟩

theorem spelled_long : longArguments.Spelled longWords :=
  ⟨[(.valued, "--size", integerText (tenTo digitLimit))], [longWords], .refl _,
    .cons (.apart _ _) .nil, rfl⟩

theorem spelled_negative : negativeArguments.Spelled ["--size", "-1"] :=
  ⟨[(.valued, "--size", "-1")], [["--size", "-1"]], .refl _, .cons (.apart _ _) .nil, rfl⟩

theorem short_none : noArguments.Short :=
  short_of_small (by decide)

theorem short_negative : negativeArguments.Short :=
  short_of_small (by decide)

/-- A detector whose id is half of a surrogate pair. -/
def halfDocuments : List Detector :=
  [⟨String.singleton (Text.charOfCode 0xD800), []⟩]

/-- A detector with a code in its name. -/
def codeDocuments : List Detector :=
  [⟨"d1", [("name", .text "a\x1b[31mb")]⟩]

theorem read_long : Command.readSearch (.standard false) longWords = .error .misused := by
  have hmem : (tenTo digitLimit : Int) ∈ longArguments.integers := List.mem_cons_self
  have hunread : (Console.standard false).integer? (integerText (tenTo digitLimit)) = none := by
    rw [Console.standard_integer?, Int.natAbs_natCast, if_neg (Nat.lt_irrefl _)]
  exact Arguments.readSearch_unread spelled_long hmem hunread

/-- A search that cannot be read does not begin. -/
theorem ended_misused {onTerminal : Bool} (documents : List Detector) (service : StatusService)
    (hread : Command.readSearch (.standard onTerminal) words = .error .misused) :
    ended onTerminal documents service words = .halted .misused :=
  run_misused (read_bare _) (settings_bare _) rfl hread

/-- A text with half of a surrogate pair, and without codes, is not written. -/
theorem ofNotice_unwritten {text : String} (hplain : Console.plain text = text)
    (h : Text.hasHalf text = true) :
    ∃ failure, Ending.ofNotice (.standard false) (.success text) = .failed failure := by
  have hreport : Notice.report (.standard false) (.success text) = ⟨0, text ++ "\n"⟩ := by
    rw [Notice.report, Console.echo_eq]
    show Report.mk 0 (Console.plain text ++ "\n") = _
    rw [hplain]
  rw [Ending.ofNotice, hreport]
  dsimp only
  cases hfault : Text.encodeFault? (text ++ "\n").toList with
  | some message => exact ⟨_, rfl⟩
  | none =>
      obtain ⟨c, hc, hhalf⟩ := List.any_eq_true.1 h
      have hwhole := Text.encodeFault?_eq_none_iff.1 hfault c
        (by rw [String.toList_append]; exact List.mem_append_left _ hc)
      cases hhalf.symm.trans hwhole

/-- A search that tells a text with half of a surrogate pair breaks off as it is written. -/
theorem ended_unwritten {documents : List Detector} {text : String} (hspelled : a.Spelled words)
    (hshort : a.Short) (htold : told documents service a = .ok text)
    (hplain : Console.plain text = text) (hhalf : Text.hasHalf text = true) :
    ∃ failure, ended false documents service words = .failed failure := by
  have hrun := @run_search _ (.standard false) Tool.stillSurroundings [] (fun _ => .nothing)
    (.ofDocuments documents) service () _ _ words _ _ a.understood none
    (read_bare ("search" :: words)) (settings_bare _) rfl
    (Arguments.readSearch_spelled hspelled (hshort.readBy false)) (session_bare documents service)
  have hreport : (((Tool.ofSettings Settings.standard).run Tool.stillSurroundings
      (Tool.given a.understood) (Option.map .real none)).outcome
        (Session.start (.memory (.ofDocuments documents)) (.memory service) ())).1 = .ok text := by
    rw [Arguments.given_understood, Option.map_none]
    exact htold
  rw [hreport] at hrun
  obtain ⟨failure, hfailure⟩ := ofNotice_unwritten hplain hhalf
  exact ⟨failure, hrun.trans hfailure⟩

/-- What an agent is told is what the tool tells. -/
theorem called_of_told {documents : List Detector} {text : String}
    (htold : told documents service a = .ok text) : called documents service a = .ok text := by
  rw [called, Tool.call_eq, Arguments.given_fields]
  exact congrArg Tool.answer htold

theorem told_long : (told [] ⟨[], []⟩ longArguments).toOption.map (fun _ => true) = some true := by
  decide +kernel

theorem told_half : (told halfDocuments ⟨[], []⟩ noArguments).toOption.map
    (fun text => Text.hasHalf text && decide (Console.plain text = text)) = some true := by
  decide +kernel

theorem told_code : (told codeDocuments ⟨[], []⟩ noArguments).toOption.map
    (fun text => !Text.hasHalf text && decide (Console.plain text ≠ text)) = some true := by
  decide +kernel

theorem told_negative : (told [] ⟨[], []⟩ negativeArguments).failsTest
    (fun failure => failure.isOwn && !Text.hasHalf (Tool.failureText failure)) = true := by
  decide +kernel

/-- Four searches about which the command line does not print what an agent is told: one for very many
detectors, which it does not begin; one that finds a detector whose id it cannot write; one that finds
a detector with a code in its name, which it leaves out; and one that fails, which it tells in red on
a terminal. -/
theorem run_differs :
    (∃ text, longArguments.Spelled longWords ∧ told [] ⟨[], []⟩ longArguments = .ok text ∧
      called [] ⟨[], []⟩ longArguments = .ok text ∧
      ended false [] ⟨[], []⟩ longWords = .halted .misused) ∧
    (∃ text failure, noArguments.Spelled [] ∧ told halfDocuments ⟨[], []⟩ noArguments = .ok text ∧
      called halfDocuments ⟨[], []⟩ noArguments = .ok text ∧
      ended false halfDocuments ⟨[], []⟩ [] = .failed failure) ∧
    (∃ text line, noArguments.Spelled [] ∧ told codeDocuments ⟨[], []⟩ noArguments = .ok text ∧
      called codeDocuments ⟨[], []⟩ noArguments = .ok text ∧
      ended false codeDocuments ⟨[], []⟩ [] = .reported ⟨0, line ++ "\n"⟩ ∧ line ≠ text) ∧
    ∃ failure line, negativeArguments.Spelled ["--size", "-1"] ∧
      told [] ⟨[], []⟩ negativeArguments = .error failure ∧
      called [] ⟨[], []⟩ negativeArguments = .ok (Tool.failureText failure) ∧
      ended true [] ⟨[], []⟩ ["--size", "-1"] = .reported ⟨1, line ++ "\n"⟩ ∧
      line ≠ Tool.failureText failure := by
  refine ⟨?_, ?_, ?_, ?_⟩
  · obtain ⟨text, htold, -⟩ := exists_told told_long
    exact ⟨text, spelled_long, htold, called_of_told htold, ended_misused _ _ read_long⟩
  · obtain ⟨text, htold, htest⟩ := exists_told told_half
    simp only [Bool.and_eq_true, decide_eq_true_eq] at htest
    obtain ⟨failure, hended⟩ := ended_unwritten spelled_none short_none htold htest.2 htest.1
    exact ⟨text, failure, spelled_none, htold, called_of_told htold, hended⟩
  · obtain ⟨text, htold, htest⟩ := exists_told told_code
    simp only [Bool.and_eq_true, Bool.not_eq_true', decide_eq_true_eq] at htest
    obtain ⟨hcalled, hended⟩ :=
      (ended_of_told false codeDocuments ⟨[], []⟩ spelled_none short_none).1 text htold
    exact ⟨text, _, spelled_none, htold, hcalled, hended htest.1, htest.2⟩
  · obtain ⟨failure, htold, htest⟩ := Outcome.exists_of_failsTest told_negative
    simp only [Bool.and_eq_true, Bool.not_eq_true'] at htest
    obtain ⟨hcalled, hended⟩ :=
      (ended_of_told true [] ⟨[], []⟩ spelled_negative short_negative).2 failure htold htest.1
    exact ⟨failure, _, spelled_negative, htold, hcalled, hended htest.2, Console.red_ne _⟩

end CommandLine

end DetectorSearch
