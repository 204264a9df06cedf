import DetectorSearch.CommandLine.Console
import DetectorSearch.CommandLine.Options
import DetectorSearch.SettingsFile
/-! # Commands

What the arguments of the program ask for. In front of a command stand the options that hold for
every command: the file of settings and the level of the log. A command searches for detectors or
shows the state of one of them.
-/

namespace DetectorSearch.CommandLine

/-- What stands in front of a command, and the arguments behind it. -/
structure Preamble where
  settingsFile : Option String
  logLevel : String
  command : List String
  deriving Repr

/-- The names of the levels that a log may have, each with the least rank that it shows. -/
def logLevels : Keyed Nat :=
  [("CRITICAL", 50), ("FATAL", 50), ("ERROR", 40), ("WARN", 30), ("WARNING", 30), ("INFO", 20),
   ("DEBUG", 10), ("NOTSET", 0)]

namespace Preamble

/-- Reads what stands in front of a command. -/
def read (arguments : List String) : Except Halt Preamble := do
  let given ← Given.read [("--config", .valued), ("--log-level", .valued)] true arguments
  match given.words with
  | "detectors" :: command =>
      return ⟨given.value? "--config", (given.value? "--log-level").getD "WARNING", command⟩
  | _ => throw .misused

/-- The least rank that the log shows. The name of its level may be spelled in letters of any
case. -/
def leastRank? (preamble : Preamble) : Option Nat :=
  Keyed.find? (String.ofList (Text.capitals preamble.logLevel.toList)) logLevels

/-- The settings of the program. The level of the log is checked before they are loaded. -/
def settings (environment : Environment) (stored : String → Stored) (preamble : Preamble) :
    Outcome Settings :=
  match preamble.leastRank? with
  | some _ => Settings.load environment stored preamble.settingsFile
  | none => .error (.fault .badValue ("Unknown level: " ++ preamble.logLevel))

end Preamble

/-- What the program is asked to do. -/
inductive Command where
  /-- Search with the arguments that an agent would give, and with a time for the lookups. -/
  | search (arguments : Fields) (timeout : Option Float)
  /-- Show the state of a detector. -/
  | status (detector : String)

/-- An argument of a search that an option has the value of. -/
structure ValuedOption where
  option : String
  argument : String
  read : Console → String → Option Value

/-- An argument of a search that one option turns on and another one turns off. -/
structure Switch where
  on : String
  off : String
  argument : String

/-- Every text is a text. -/
def readText (_ : Console) (text : String) : Option Value := some (.text text)

/-- An integer in text. -/
def readInteger (console : Console) (text : String) : Option Value :=
  (console.integer? text).map .int

/-- The options of a search that have a value. -/
def valuedOptions : List ValuedOption :=
  [⟨"--name", "detectorName", readText⟩,
   ⟨"--name-pattern", "detectorNamePattern", readText⟩,
   ⟨"--indices", "indices", readText⟩,
   ⟨"--last-update-time", "lastUpdateTime", readInteger⟩,
   ⟨"--sort-string", "sortString", readText⟩,
   ⟨"--sort-order", "sortOrder", readText⟩,
   ⟨"--size", "size", readInteger⟩,
   ⟨"--start-index", "startIndex", readInteger⟩]

/-- The options of a search that stand alone. -/
def switches : List Switch :=
  [⟨"--high-cardinality", "--single-entity", "highCardinality"⟩,
   ⟨"--running", "--not-running", "running"⟩,
   ⟨"--disabled", "--not-disabled", "disabled"⟩,
   ⟨"--failed", "--not-failed", "failed"⟩]

/-- The option of a search that limits the time of its lookups. -/
def timeoutOption : String := "--timeout"

/-- All options of a search. -/
def searchOptions : Keyed OptionKind :=
  (timeoutOption, .valued) :: valuedOptions.map (fun o => (o.option, .valued)) ++
    switches.flatMap fun s => [(s.on, .alone), (s.off, .alone)]

/-- The value of an option, if it is given and can be read. -/
def readValue? {α : Type} (option : String) (read : String → Option α) (given : Given) :
    Except Halt (Option α) :=
  match given.value? option with
  | none => .ok none
  | some text =>
      match read text with
      | some value => .ok (some value)
      | none => .error .misused

/-- The argument that a valued option gives, if it is given. -/
def ValuedOption.field (console : Console) (given : Given) (option : ValuedOption) :
    Except Halt (Option (String × Value)) := do
  let value ← readValue? option.option (option.read console) given
  return value.map fun value => (option.argument, value)

/-- The argument that the later of two switches gives, if one is given. -/
def Switch.field (given : Given) (switch : Switch) : Option (String × Value) :=
  (given.last? [switch.on, switch.off]).map fun last =>
    (switch.argument, .bool (last.1 == switch.on))

namespace Command

/-- Reads the arguments of a search. -/
def readSearch (console : Console) (arguments : List String) : Except Halt Command := do
  let given ← Given.read searchOptions false arguments
  let valued ← valuedOptions.mapM (·.field console given)
  let timeout ← readValue? timeoutOption console.real? given
  if !given.words.isEmpty then throw .misused
  return .search (valued.filterMap id ++ switches.filterMap (·.field given)) timeout

/-- Reads the arguments of a look at one detector. -/
def readStatus (arguments : List String) : Except Halt Command := do
  match (← Given.read [] false arguments).words with
  | [detector] => return .status detector
  | _ => throw .misused

/-- Reads a command. -/
def read (console : Console) (arguments : List String) : Except Halt Command := do
  match (← Given.read [] true arguments).words with
  | "search" :: rest => readSearch console rest
  | "status" :: rest => readStatus rest
  | _ => throw .misused

end Command

end DetectorSearch.CommandLine
