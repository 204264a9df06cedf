import DetectorSearch.Schema.Reader
/-! # Settings

The settings of a search: which backends it uses, how to reach the server, the deadline of an
enrichment, the defaults of parameters and the policy of retries. Every setting has a default.
-/

namespace DetectorSearch

/-- How to reach the server of the catalog and of the profiles. -/
structure ServerSettings where
  baseUrl : String
  username : Option String
  password : Option String
  verifySsl : Bool
  requestTimeout : Float

/-- The order in which hits are asked for. -/
inductive SortOrder where
  | asc
  | desc
  deriving DecidableEq, Repr

/-- The name of an order. -/
def SortOrder.name : SortOrder → String
  | asc => "asc"
  | desc => "desc"

/-- The window and the order that are used when parameters leave them out. -/
structure Defaults where
  size : Int
  sortField : String
  sortOrder : SortOrder

/-- How often and how slowly a failed search is tried again. -/
structure RetryPolicy where
  maxAttempts : Int
  backoffBase : Float

/-- All settings of a search. -/
structure Settings where
  searchBackend : String
  statusBackend : String
  server : ServerSettings
  timeout : Float
  defaults : Defaults
  retry : RetryPolicy

namespace ServerSettings

/-- A server on this machine, without a user. -/
def standard : ServerSettings :=
  ⟨"http://localhost:9200", none, none, true, 10.0⟩

/-- Reads the settings of a server. -/
def ofFields (fields : Fields) : Reading ServerSettings :=
  ServerSettings.mk
    <$> fields.withDefault "base_url" Reader.text standard.baseUrl
    <*> fields.optional "username" Reader.text
    <*> fields.optional "password" Reader.text
    <*> fields.withDefault "verify_ssl" Reader.flag standard.verifySsl
    <*> fields.withDefault "request_timeout" Reader.real standard.requestTimeout

end ServerSettings

/-- The name of the backend that keeps everything in memory. -/
def inMemoryBackend : String := "inmemory"

/-- The name of the backend that asks a server. -/
def serverBackend : String := "opensearch"

/-- Reads the choice of a backend. -/
def readBackend (fields : Fields) : Reading String :=
  fields.withDefault "backend" (Reader.word [inMemoryBackend, serverBackend]) inMemoryBackend

namespace Defaults

/-- Twenty hits by rising name. -/
def standard : Defaults := ⟨20, "name.keyword", .asc⟩

/-- Reads the name of an order. -/
def readOrder : Reader SortOrder := fun value =>
  (fun name => if name = SortOrder.asc.name then SortOrder.asc else SortOrder.desc) <$>
    Reader.word [SortOrder.asc.name, SortOrder.desc.name] value

/-- Reads the defaults of parameters. -/
def ofFields (fields : Fields) : Reading Defaults :=
  Defaults.mk
    <$> fields.withDefault "size" Reader.integer standard.size
    <*> fields.withDefault "sort_string" Reader.text standard.sortField
    <*> fields.withDefault "sort_order" readOrder standard.sortOrder

end Defaults

namespace RetryPolicy

/-- No further attempt. -/
def standard : RetryPolicy := ⟨0, 1.5⟩

/-- Reads the policy of retries. -/
def ofFields (fields : Fields) : Reading RetryPolicy :=
  RetryPolicy.mk
    <$> fields.withDefault "max_attempts" Reader.integer standard.maxAttempts
    <*> fields.withDefault "backoff_base" Reader.real standard.backoffBase

end RetryPolicy

namespace Settings

/-- The deadline of an enrichment, in seconds, unless another is set. -/
def standardTimeout : Float := 30.0

/-- The settings that hold where nothing else is set. -/
def standard : Settings :=
  ⟨inMemoryBackend, inMemoryBackend, ServerSettings.standard, standardTimeout, Defaults.standard,
    RetryPolicy.standard⟩

/-- Reads settings from their fields. -/
def ofFields (fields : Fields) : Reading Settings :=
  Settings.mk
    <$> fields.withDefault "search" (Reader.record readBackend) inMemoryBackend
    <*> fields.withDefault "status" (Reader.record readBackend) inMemoryBackend
    <*> fields.withDefault "opensearch" (Reader.record ServerSettings.ofFields)
      ServerSettings.standard
    <*> fields.withDefault "enrichment"
      (Reader.record fun fields => fields.withDefault "timeout" Reader.real standardTimeout)
      standardTimeout
    <*> fields.withDefault "defaults" (Reader.record Defaults.ofFields) Defaults.standard
    <*> fields.withDefault "retry" (Reader.record RetryPolicy.ofFields) RetryPolicy.standard

end Settings

end DetectorSearch
