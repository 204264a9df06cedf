import DetectorSearch.Environment
import DetectorSearch.Schema.Reader
import DetectorSearch.Settings
import DetectorSearch.Text.Letter
import DetectorSearch.Yaml.Document
/-! # Files of settings

Settings are kept in a file of YAML. Where there is no file, or nothing in it that holds, every
setting has its default. The environment names the file when nobody else does, and replaces the
address of the server and the names of the backends afterwards, without any check of them.
-/

namespace DetectorSearch

namespace Settings

/-- The file that is read when no other is named. -/
def standardFile : String := "adsearch.yaml"

/-- The path of the file: the one asked for, unless it is empty, or else that of the environment,
even if it is empty. -/
def filePath (environment : Environment) (asked : Option String) : String :=
  ((asked.filter (· ≠ "")).or (Keyed.find? Environment.settingsFile environment)).getD standardFile

/-- The settings in a document. -/
def ofDocument (document : Yaml.Document) : Outcome Settings :=
  if document.hasOtherKeys then .error (.misuse .wrongKind)
  else
    match document.value with
    | .object fields => (ofFields fields).outcome
    | value => if value.holds then .error (.misuse .wrongKind) else .ok standard

/-- The levels of a document that settings are on: the document, its sections, and what they hold. -/
def levels : Nat := 3

/-- The settings in a text. -/
def ofText (text : String) : Outcome Settings :=
  match Yaml.Document.read levels text.toList with
  | .ok document => ofDocument document
  | .error fault => .error fault.failure

/-- The settings that are stored. -/
def ofStored : Stored → Outcome Settings
  | .nothing => .ok standard
  | .folder => .error (.fault .isFolder "a folder holds no settings")
  | .file text => ofText text

/-- The settings with those replaced that the environment sets. -/
def replaced (environment : Environment) (settings : Settings) : Settings :=
  let server := settings.server
  let address := (environment.nonempty? Environment.serverAddress).getD server.baseUrl
  let search := environment.nonempty? Environment.searchBackend
  let status := environment.nonempty? Environment.statusBackend
  { settings with
    server := { server with baseUrl := address }
    searchBackend := (search.map Text.lowered).getD settings.searchBackend
    statusBackend := (status.map Text.lowered).getD settings.statusBackend }

/-- Loads the settings. Nothing is stored at the empty path. -/
def load (environment : Environment) (stored : String → Stored) (asked : Option String) :
    Outcome Settings := do
  let path := filePath environment asked
  let settings ← ofStored (if path = "" then .nothing else stored path)
  return settings.replaced environment

end Settings

end DetectorSearch
