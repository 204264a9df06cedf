import DetectorSearch.Catalog
import DetectorSearch.Enrichment.Lookup
import DetectorSearch.Environment
import DetectorSearch.Service.Link
/-! # Backends

The catalog and the states are each held in memory or asked of a server. Which backend is used is
chosen by name. A name that is asked for outright counts first, then
one that the environment sets, then the configured one; empty names do not count. Names may be
spelled in letters of any case.
-/

namespace DetectorSearch

/-- Where the catalog is searched. -/
inductive SearchBackend where
  | memory (catalog : Catalog)
  | server (link : Link)

/-- Where states are looked up. -/
inductive StatusBackend where
  | memory (service : StatusService)
  | server (link : Link)

namespace Backend

/-- The two kinds of backend. -/
inductive Kind where
  | memory
  | server
  deriving DecidableEq, Repr

/-- The name that counts, in small letters. -/
def chosenName (asked environmental : Option String) (configured : String) : String :=
  Text.lowered (((asked.filter (· ≠ "")).or environmental).getD configured)

/-- The kind of backend that a name stands for. `purpose` is what the backend is for. -/
def ofName (purpose name : String) : Outcome Kind :=
  if name = inMemoryBackend then .ok .memory
  else if name = serverBackend then .ok .server
  else .error (.fault .badValue ("Unsupported " ++ purpose ++ " backend: " ++ name))

/-- Chooses the backend of the catalog. -/
def chooseSearch (environment : Environment) (asked : Option String) (settings : Settings) :
    Outcome Kind :=
  ofName "search"
    (chosenName asked (environment.nonempty? Environment.searchBackend) settings.searchBackend)

/-- Chooses the backend of the states. -/
def chooseStatus (environment : Environment) (asked : Option String) (settings : Settings) :
    Outcome Kind :=
  ofName "status"
    (chosenName asked (environment.nonempty? Environment.statusBackend) settings.statusBackend)

end Backend

/-- The backend of the catalog of the given kind. -/
def SearchBackend.ofKind (kind : Backend.Kind) (settings : Settings) (catalog : Catalog) :
    SearchBackend :=
  match kind with
  | .memory => .memory catalog
  | .server => .server (Link.standard settings.server)

/-- The backend of the states of the given kind. -/
def StatusBackend.ofKind (kind : Backend.Kind) (settings : Settings) (service : StatusService) :
    StatusBackend :=
  match kind with
  | .memory => .memory service
  | .server => .server (Link.standard settings.server)

end DetectorSearch
