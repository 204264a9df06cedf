import DetectorSearch.Journal
import DetectorSearch.Service.Backend
/-! # Sessions

A session is what a search works on: the clock, the two backends, and the world behind the servers.
It also keeps what an observer sees: the events, the connections that were opened and the requests
that were sent. How the world behaves is not fixed here; `Surroundings` say it.
-/

namespace DetectorSearch

/-- What a search works on, and what an observer sees of it. -/
structure Session (σ : Type) where
  clock : Instant
  search : SearchBackend
  status : StatusBackend
  world : σ
  events : List Event
  opened : List Opening
  sent : List Http.Request

/-- How the world behaves towards a session: what it does with a request, and which number between
zero and one chance draws. How it words a refusal is up to the library that reads records. -/
structure Surroundings (σ : Type) where
  exchange : Http.Request → σ → Http.Exchange × σ
  draw : σ → Float × σ
  /-- The words for what is wrong with the fields of a record that is read from a payload. -/
  words : Value → Complaints → String

/-- An operation on a session. A failure keeps what the operation has done so far. -/
abbrev Op (σ α : Type) := ExceptT Failure (StateM (Session σ)) α

namespace Session

variable {σ : Type}

/-- A session at the start of the clock that nothing has happened in. -/
def start (search : SearchBackend) (status : StatusBackend) (world : σ) : Session σ :=
  ⟨0.0, search, status, world, [], [], []⟩

/-- Takes note of events. -/
def record (events : List Event) : Op σ Unit :=
  modify fun session => { session with events := session.events ++ events }

/-- Writes a log record. -/
def log (level : LogLevel) (source : LogSource) (message : String) : Op σ Unit :=
  record [.logged ⟨level, source, message⟩]

/-- The instant after waiting for a span. Waiting for nothing or less takes no time. -/
def after (clock : Instant) (span : Seconds) : Outcome Instant :=
  if span.isPositive then span.asReal.map fun _ => clock.after span else .ok clock

/-- An outcome as the end of an operation. -/
def ofOutcome {α : Type} : Outcome α → Op σ α
  | .ok value => pure value
  | .error failure => throw failure

/-- Waits for a span. -/
def sleep (span : Seconds) : Op σ Unit := do
  let session ← get
  set { session with clock := ← ofOutcome (after session.clock span) }

/-- What a backend does to connect or disconnect that needs no connection. -/
def idle : Op σ Unit := pure ()

/-- An operation that a backend leaves out. -/
def leftOut {α : Type} : Op σ α := throw (.fault .notImplemented "")

/-- The connection of a link, opened if there is none. `keep` puts the changed link back. -/
def connect (link : Link) (keep : Link → Session σ → Session σ) : Op σ Connection :=
  match link.connection with
  | some connection => pure connection
  | none => do
      modify fun session => { session with opened := session.opened ++ [link.opening] }
      let connection ← ofOutcome link.dial
      modify (keep { link with connection := some connection, owned := true })
      return connection

/-- Sends a request and learns what the server does with it. -/
def send (around : Surroundings σ) (request : Http.Request) : Op σ Http.Exchange := do
  let session ← get
  let (exchange, world) := around.exchange request session.world
  set { session with world, sent := session.sent ++ [request] }
  return exchange

/-- Draws a number between zero and one. -/
def draw (around : Surroundings σ) : Op σ Float := do
  let session ← get
  let (share, world) := around.draw session.world
  set { session with world }
  return share

end Session

end DetectorSearch
