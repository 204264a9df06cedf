/-! # What an operation leaves behind

Log records, and the traces of lookups: which were made, which ended, and which were called off
before their end.
-/

namespace DetectorSearch

/-- How serious a log record is. -/
inductive LogLevel where
  | info
  | warning
  | error
  deriving DecidableEq, Repr

/-- The name of a level. -/
def LogLevel.name : LogLevel → String
  | info => "INFO"
  | warning => "WARNING"
  | error => "ERROR"

/-- How a level compares with others, and with the least level that a log shows. -/
def LogLevel.rank : LogLevel → Nat
  | info => 20
  | warning => 30
  | error => 40

/-- The part of a search that writes a record. -/
inductive LogSource where
  | enrichment
  | tool
  | serverSearch
  deriving DecidableEq, Repr

/-- The name that records of a part are filed under. -/
def LogSource.name : LogSource → String
  | enrichment => "adsearch.enrich"
  | tool => "adsearch.tool"
  | serverSearch => "adsearch.search.opensearch"

/-- One log record. -/
structure LogRecord where
  level : LogLevel
  source : LogSource
  message : String
  deriving DecidableEq, Repr

/-- The line of a record. -/
def LogRecord.line (record : LogRecord) : String :=
  record.level.name ++ ":" ++ record.source.name ++ ":" ++ record.message

/-- What happens to a lookup, or is logged on the way. -/
inductive Event where
  /-- A lookup was made. -/
  | called (detector : String)
  /-- A lookup came to its end, with a state or with a failure. -/
  | completed (detector : String)
  /-- A lookup was called off before its end. -/
  | cancelled (detector : String)
  | logged (record : LogRecord)
  deriving DecidableEq, Repr

namespace Event

/-- The ids of the lookups that were made. -/
def calls (events : List Event) : List String :=
  events.filterMap fun
    | called id => some id
    | _ => none

/-- The ids of the lookups that came to their end. -/
def completions (events : List Event) : List String :=
  events.filterMap fun
    | completed id => some id
    | _ => none

/-- The ids of the lookups that were called off. -/
def cancellations (events : List Event) : List String :=
  events.filterMap fun
    | cancelled id => some id
    | _ => none

/-- The log records. -/
def records (events : List Event) : List LogRecord :=
  events.filterMap fun
    | logged record => some record
    | _ => none

end Event

end DetectorSearch
