import DetectorSearch.Detector
import DetectorSearch.Parameters
import DetectorSearch.Retry
import DetectorSearch.Service.Backend
import DetectorSearch.Service.CatalogSearch
import DetectorSearch.Service.StatusLookup
/-! # The search tool

The tool searches the catalog, looks up the states of the page if any were asked for, keeps the
detectors in those states, and shows the rest as a text. An agent calls it with named arguments and
always gets a text; a failure of the search is told in it.
-/

namespace DetectorSearch

/-- The tool as an agent knows it. -/
structure Tool where
  name : String
  description : String
  settings : Settings

namespace Tool

variable {σ : Type}

/-- The tool under its usual name. -/
def ofSettings (settings : Settings) : Tool :=
  ⟨"SearchAnomalyDetectorsTool", "Use this tool to search anomaly detectors.", settings⟩

/-- What is logged about the detectors that were kept. -/
def keptRecord (kept page : List Detector) : LogRecord :=
  ⟨.info, .tool,
    "Kept " ++ toString kept.length ++ " of " ++ toString page.length ++
      " detector(s) after state filtering"⟩

/-- How long lookups may take: the span asked for, else the one that is set. -/
def spanFor (settings : Settings) (deadline : Option Seconds) : Seconds :=
  deadline.getD (.real settings.timeout)

/-- One attempt of a search. -/
def attempt (around : Surroundings σ) (settings : Settings) (parameters : Parameters)
    (deadline : Option Seconds) : Op σ String := do
  let page ← CatalogSearch.search around parameters.request
  if !parameters.predicate.isActive then
    Session.ofOutcome (Presentation.render page.detectors page.total)
  else
    let kept ← StatusLookup.enrich around
      ⟨page.detectors, parameters.predicate, spanFor settings deadline⟩
    Session.record [.logged (keptRecord kept page.detectors)]
    Session.ofOutcome (Presentation.render kept kept.length)

/-- Searches with parameters of no fixed shape. -/
def run (around : Surroundings σ) (tool : Tool) (fields : Fields) (deadline : Option Seconds) :
    Op σ String := do
  let parameters ← Session.ofOutcome (Parameters.ofFields fields tool.settings.defaults)
  Retry.run around tool.settings.retry (attempt around tool.settings parameters deadline)

/-- Whether parameters can be read. -/
def validate (tool : Tool) (fields : Fields) : Outcome Bool :=
  Parameters.areValid fields tool.settings.defaults

/-- Closes the connections. -/
def close : Op σ Unit := do
  CatalogSearch.disconnect
  StatusLookup.disconnect

/-- Runs an operation and closes the connections, however it ends. -/
def closing {α : Type} (operation : Op σ α) : Op σ α := do
  let result ← tryCatch operation fun failure => do
    close
    throw failure
  close
  return result

/-- The names of the arguments that an agent may give. -/
def argumentNames : List String :=
  ["detectorName", "detectorNamePattern", "indices", "highCardinality", "lastUpdateTime",
   "sortOrder", "sortString", "size", "startIndex", "running", "disabled", "failed"]

/-- The arguments that are given: null means that an argument is not. -/
def given (arguments : Fields) : Fields :=
  argumentNames.filterMap fun name =>
    match Keyed.find? name arguments with
    | none => none
    | some .null => none
    | some value => some (name, value)

/-- The text about a failed search. -/
def failureText (failure : Failure) : String :=
  "Failed to search anomaly detectors: " ++ failure.message

/-- Searches for an agent. A failure of the search is answered as a text. -/
def call (around : Surroundings σ) (tool : Tool) (arguments : Fields) : Op σ String :=
  tryCatch (run around tool (given arguments) none) fun failure =>
    if failure.isOwn then do
      Session.record [.logged ⟨.error, .tool, failureText failure⟩]
      return failureText failure
    else throw failure

end Tool

/-- A session over the backends that the settings and the environment choose. -/
def Session.ofSettings {σ : Type} (environment : Environment) (settings : Settings) (catalog : Catalog)
    (service : StatusService) (world : σ) : Outcome (Session σ) := do
  let search ← Backend.chooseSearch environment none settings
  let status ← Backend.chooseStatus environment none settings
  return Session.start (.ofKind search settings catalog) (.ofKind status settings service) world

end DetectorSearch
