import DetectorSearch.Decimal.Integer
import DetectorSearch.Schema.Complaint
import DetectorSearch.Seconds
import DetectorSearch.Text.Quoted
/-! # Failures

Everything that can end an operation without its result. The failures of a search itself come first;
a failed lookup carries the failure that caused it. The others are complaints about data, values
that are used as something they are not, and faults that a service, a file or a caller brings in.
-/

namespace DetectorSearch

/-- A value used as something it is not. The kinds are those of `Value.kindName`. -/
inductive Misuse where
  /-- A field that is not there was taken out of an object. -/
  | missingKey (key : String)
  /-- An item was taken by position out of an object. -/
  | missingPosition (position : Nat)
  /-- A field was taken out of a value without parts. -/
  | notSubscriptable (kind : String)
  /-- A field was taken out of a list. -/
  | listIndex
  /-- A field was taken out of a text. -/
  | textIndex
  /-- The items of a value without items were asked for. -/
  | notIterable (kind : String)
  /-- An operation was asked of a value that does not have it. -/
  | noMember (kind member : String)
  /-- A value that stands for no number was to be an integer. -/
  | notNumber (kind : String)
  /-- A value that has no form in JSON was to be written. -/
  | notSerializable (kind : String)
  /-- Something that is no text was to be put among bytes. -/
  | notBytes (position : Nat) (kind : String)
  /-- Two values without an order were compared, or a value without members was searched. The words
  for it depend on which two met first, which is not kept here: no text takes them up. -/
  | wrongKind
  deriving DecidableEq, Repr

namespace Misuse

/-- The message of a misuse. -/
def message : Misuse → String
  | missingKey key => Text.quoted key
  | missingPosition position => toString position
  | notSubscriptable kind => "'" ++ kind ++ "' object is not subscriptable"
  | listIndex => "list indices must be integers or slices, not str"
  | textIndex => "string indices must be integers, not 'str'"
  | notIterable kind => "'" ++ kind ++ "' object is not iterable"
  | noMember kind member => "'" ++ kind ++ "' object has no attribute '" ++ member ++ "'"
  | notNumber kind =>
      "int() argument must be a string, a bytes-like object or a real number, not '" ++ kind ++ "'"
  | notSerializable kind => "Object of type " ++ kind ++ " is not JSON serializable"
  | notBytes position kind =>
      "sequence item " ++ toString position ++ ": expected a bytes-like object, " ++ kind ++ " found"
  | wrongKind => ""

/-- The class of a misuse, in the word that error texts use. -/
def className : Misuse → String
  | missingKey _ | missingPosition _ => "KeyError"
  | noMember _ _ => "AttributeError"
  | _ => "TypeError"

/-- The misuse as a report quotes it: its class around its literal message. -/
def report : Misuse → String
  | missingKey key => "KeyError(" ++ Text.quoted key ++ ")"
  | missingPosition position => "KeyError(" ++ toString position ++ ")"
  | misuse => misuse.className ++ "(" ++ Text.quoted misuse.message ++ ")"

end Misuse

/-- How a request can break on its way. -/
inductive TransportFault where
  | connect
  | read
  | connectTimeout
  | readTimeout
  | poolTimeout
  | protocol
  | redirects
  deriving DecidableEq, Repr

/-- The kinds of faults that are brought in from outside. -/
inductive FaultKind where
  | badValue
  | runtime
  | connection
  | missingKey
  | timeout
  | notFound
  | system
  | other
  | wrongKind
  | overflow
  | zeroDivision
  | isFolder
  | notImplemented
  | transport (fault : TransportFault)
  | badAddress
  | badStatus
  | badJson
  | badText
  /-- A text has no bytes. -/
  | unwritable
  /-- The name of a host stands for no domain. -/
  | badDomain
  /-- A label has a character that is none of labels. -/
  | badLabelCharacter
  /-- A label has a character where it may not stand. -/
  | badLabelPlace
  /-- The directions of a label do not agree. -/
  | badLabelDirection
  | badDocument
  | tooDeep
  | outOfRange
  deriving DecidableEq, Repr

/-- What ends an operation without its result. -/
inductive Failure where
  /-- The parameters of a search could not be read. -/
  | invalidParameters (reason : String)
  /-- The catalog could not be searched. -/
  | searchUnavailable (reason : String)
  /-- A lookup failed, and the enrichment with it. -/
  | lookupFailed (cause : Failure) (detector : Option String)
  /-- Lookups were pending when the deadline came. -/
  | enrichmentTimeout (deadline : Seconds) (pending : Int)
  /-- A status names a detector that is not on the page, or names one once too often. -/
  | unknownIdentity (detector : String)
  /-- Detectors of the page got no status. -/
  | missingResult (detectors : List String)
  /-- Statuses could not be joined to the page for another reason. -/
  | correlation (reason : String)
  /-- The search failed for another reason. -/
  | search (reason : String)
  /-- The caller, or the service, called the operation off. -/
  | cancelled (reason : String)
  /-- The fields of a record are wrong. No text takes up the words for it. -/
  | invalid (complaints : Complaints)
  /-- The fields of a record are wrong, with the words for it. -/
  | refused (complaints : Complaints) (words : String)
  /-- A value was used as something it is not. -/
  | misuse (what : Misuse)
  /-- A fault from outside. -/
  | fault (kind : FaultKind) (reason : String)

namespace Failure

/-- The message of a failure. -/
def message : Failure → String
  | invalidParameters reason => reason
  | searchUnavailable reason => reason
  | lookupFailed cause detector =>
      let target :=
        match detector with
        | some id => if id = "" then "" else " for detector " ++ id
        | none => ""
      "Status lookup failed" ++ target ++ ": " ++ cause.message
  | enrichmentTimeout deadline pending =>
      toString pending ++ " status lookup(s) still pending after " ++ deadline.text ++ "s"
  | unknownIdentity detector => "Status result for unknown detector " ++ detector
  | missingResult detectors =>
      "No status result for detector(s): " ++ String.intercalate ", " detectors
  | correlation reason => reason
  | search reason => reason
  | cancelled reason => reason
  | invalid _ => ""
  | refused _ words => words
  | misuse what => what.message
  | fault _ reason => reason

/-- Whether the failure is one of a search, and not one that a search brings in from outside. -/
def isOwn : Failure → Bool
  | invalidParameters _ | searchUnavailable _ | lookupFailed _ _ | enrichmentTimeout _ _
  | unknownIdentity _ | missingResult _ | correlation _ | search _ => true
  | _ => false

/-- Whether the failure says that statuses do not fit the page. -/
def isCorrelation : Failure → Bool
  | unknownIdentity _ | missingResult _ | correlation _ => true
  | _ => false

/-- Whether a search that failed so is worth another attempt. -/
def isRetryable : Failure → Bool
  | searchUnavailable _ | lookupFailed _ _ | enrichmentTimeout _ _ => true
  | _ => false

/-- Whether the failure is a call-off. -/
def isCancelled : Failure → Bool
  | cancelled _ => true
  | _ => false

/-- Whether the failure says that a value, a text or a field could not be taken as it is. -/
def isBadValue : Failure → Bool
  | invalid _ | refused _ _ => true
  | fault kind _ =>
      [.badValue, .badJson, .badText, .unwritable, .badDomain, .badLabelCharacter, .badLabelPlace,
        .badLabelDirection].contains kind
  | _ => false

/-- Whether the failure comes from a request to a server: it broke on its way, or the reply has a
status of failure. -/
def isTransport : Failure → Bool
  | fault (.transport _) _ | fault .badStatus _ => true
  | _ => false

/-- The failure with words for the fields that are wrong. -/
def worded (words : Complaints → String) : Failure → Failure
  | invalid complaints => refused complaints (words complaints)
  | failure => failure

/-- An integer has too many digits to be written. -/
def longInteger : Failure := .fault .badValue longIntegerWords

/-- A text has too many digits to be read as an integer. -/
def longNumeral (digits : Nat) : Failure := .fault .badValue (longNumeralWords digits)

/-- An infinity is no integer. -/
def endlessInteger : Failure := .fault .overflow "cannot convert float infinity to integer"

/-- A whole number is beyond all reals. -/
def beyondReals : Failure := .fault .overflow "int too large to convert to float"

end Failure

/-- The result of an operation, or why there is none. -/
abbrev Outcome (α : Type) := Except Failure α

/-- A span as a real. -/
def Seconds.asReal (span : Seconds) : Outcome Float :=
  match span.toFloat? with
  | some count => .ok count
  | none => .error .beyondReals

/-- The failure of a deadline that came while lookups were pending. It tells the deadline as a real. -/
def Failure.ofDeadline (deadline : Seconds) (pending : Int) : Outcome Failure :=
  deadline.asReal.map fun _ => .enrichmentTimeout deadline pending

end DetectorSearch
