import DetectorSearch.CommandLine
/-! # The program

Reads the environment and the file of settings, runs the command line and writes its report. The
program has no network of its own: a request to a server breaks before it is connected.
-/

open DetectorSearch

/-- Surroundings without a network, in which chance is drawn from a generator. No record is ever read
from a payload, so that no words are needed for what is wrong with it. -/
def offline : Surroundings StdGen where
  exchange _ generator :=
    (⟨none, .error (.fault (.transport .connect) "All connection attempts failed")⟩, generator)
  draw generator :=
    let limit := twoTo 53
    let (number, generator) := randNat generator 0 (limit - 1)
    (Float.ofNat number / Float.ofNat limit, generator)
  words _ _ := ""

/-- Reads what is stored at a path. -/
def readStored (path : String) : IO Stored := do
  try
    return .file (← IO.FS.readFile path)
  catch
    | .noFileOrDirectory _ _ _ => return .nothing
    | _ => return .folder

/-- Reads the variables of the environment. -/
def readEnvironment : IO Environment :=
  Environment.names.filterMapM fun name => do
    return (← IO.getEnv name).map fun value => (name, value)

/-- Runs the command line on its arguments. -/
def main (arguments : List String) : IO UInt32 := do
  let environment ← readEnvironment
  let stored ←
    match CommandLine.settingsPath? environment arguments with
    | some path => readStored path
    | none => pure .nothing
  let seed ← IO.rand 0 (twoTo 32)
  let console := CommandLine.Console.standard (← (← IO.getStdout).isTty)
  let (ending, session) := CommandLine.run console offline environment (fun _ => stored)
    (Catalog.ofDocuments []) ⟨[], []⟩ (mkStdGen seed) arguments
  for line in CommandLine.logLines arguments session do
    IO.eprintln line
  match ending with
  | .reported report => IO.print report.output
  | .halted .help => IO.println CommandLine.usage
  | .halted .misused => IO.eprintln CommandLine.usage
  | .failed failure => IO.eprintln failure.message
  return ending.exitCode.toUInt32
