import DetectorSearch.CommandLine.Command
import DetectorSearch.Tool
/-! # The command line

A run of the program reads what stands in front of its command, loads its settings, and only then
reads the command itself. What goes wrong in between ends the run in that order. A failure of a
search, and every failure to look up the state of one detector, is reported as a text; other
failures break the run off.
-/

namespace DetectorSearch.CommandLine

variable {σ : Type}

/-- What a command has to tell. -/
inductive Notice where
  /-- What it was asked for. -/
  | success (text : String)
  /-- Why it failed. -/
  | failure (text : String)
  deriving DecidableEq, Repr

/-- What the program writes, and the code that it exits with. -/
structure Report where
  exitCode : Nat
  output : String
  deriving DecidableEq, Repr

/-- The report of what a command has to tell. A failure is told in red. -/
def Notice.report (console : Console) : Notice → Report
  | success text => ⟨0, console.echo text⟩
  | failure text => ⟨1, console.echo (Console.red text)⟩

/-- How a run ends. -/
inductive Ending where
  /-- The command did not begin. -/
  | halted (halt : Halt)
  /-- The command ended and wrote its report. -/
  | reported (report : Report)
  /-- A failure broke the run off. -/
  | failed (failure : Failure)

/-- The end of a run whose command has something to tell. A report without bytes cannot be written. -/
def Ending.ofNotice (console : Console) (notice : Notice) : Ending :=
  let report := notice.report console
  match Text.encodeFault? report.output.toList with
  | some message => .failed (.fault .unwritable message)
  | none => .reported report

/-- The code that a run exits with. -/
def Ending.exitCode : Ending → Nat
  | halted .help => 0
  | halted .misused => 2
  | reported report => report.exitCode
  | failed _ => 1

/-- A search, whose connections are closed at its end. -/
def search (around : Surroundings σ) (tool : Tool) (arguments : Fields) (timeout : Option Float) :
    Op σ Notice :=
  tryCatch
    (do
      let fields := Tool.given arguments
      let text ← Tool.closing (tool.run around fields (timeout.map .real))
      return .success text)
    fun failure =>
      if failure.isOwn then return .failure (Tool.failureText failure) else throw failure

/-- The line about the state of a detector. -/
def statusLine (status : Status) : String :=
  status.detector ++ "\t" ++ status.state.name

/-- A look at one detector. Only a call-off is not reported. -/
def showStatus (around : Surroundings σ) (detector : String) : Op σ Notice :=
  tryCatch
    (do
      let status ← Tool.closing (StatusLookup.fetch around detector)
      return .success (statusLine status))
    fun failure =>
      if failure.isCancelled then throw failure
      else
        return .failure ("Failed to get anomaly detector profile: " ++ failure.message)

namespace Command

/-- The session in which a command is performed. A look at one detector needs no catalog. -/
def session (environment : Environment) (settings : Settings) (catalog : Catalog)
    (service : StatusService) (world : σ) : Command → Outcome (Session σ)
  | search _ _ => Session.ofSettings environment settings catalog service world
  | status _ => do
      let kind ← Backend.chooseStatus environment none settings
      return Session.start (.memory catalog) (.ofKind kind settings service) world

/-- Performs a command. -/
def perform (around : Surroundings σ) (settings : Settings) : Command → Op σ Notice
  | search arguments timeout =>
      CommandLine.search around (Tool.ofSettings settings) arguments timeout
  | status detector => showStatus around detector

end Command

/-- Runs the program. -/
def run (console : Console) (around : Surroundings σ) (environment : Environment)
    (stored : String → Stored) (catalog : Catalog) (service : StatusService) (world : σ)
    (arguments : List String) : Ending × Session σ :=
  let idle := Session.start (.memory catalog) (.memory service) world
  match Preamble.read arguments with
  | .error halt => (.halted halt, idle)
  | .ok preamble =>
      match preamble.settings environment stored with
      | .error failure => (.failed failure, idle)
      | .ok settings =>
          match Command.read console preamble.command with
          | .error halt => (.halted halt, idle)
          | .ok command =>
              match command.session environment settings catalog service world with
              | .error failure => (.failed failure, idle)
              | .ok session =>
                  match (command.perform around settings).run.run session with
                  | (.ok notice, session) => (.ofNotice console notice, session)
                  | (.error failure, session) => (.failed failure, session)

/-- Where the settings of a run are stored, if the run gets so far. -/
def settingsPath? (environment : Environment) (arguments : List String) : Option String :=
  match Preamble.read arguments with
  | .ok preamble => some (Settings.filePath environment preamble.settingsFile)
  | .error _ => none

/-- The lines of the log that a run shows. -/
def logLines (arguments : List String) (session : Session σ) : List String :=
  match Preamble.read arguments with
  | .error _ => []
  | .ok preamble =>
      let shown := (Event.records session.events).filter fun record =>
        (preamble.leastRank?.map fun least => decide (least ≤ record.level.rank)).getD false
      shown.map LogRecord.line

/-- The options and words that the program understands. -/
def usage : String :=
  "detectors search | detectors status DETECTOR_ID\n" ++
  "  in front: --config FILE --log-level LEVEL\n" ++
  "  search:   " ++ String.intercalate " " (searchOptions.map (·.1))

end DetectorSearch.CommandLine
