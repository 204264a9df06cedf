import DetectorSearch.Failure
import DetectorSearch.Http.Address
import DetectorSearch.Json.Reader
/-! # Requests and replies

A reply has a status and a body. By the rule that httpx documents for checking a status, only one
from 200 to 299 is one of success; any other is a fault, whose message names the status, the
address and, for a redirection, where it leads. The body is read as JSON, in the encoding that its
first bytes tell.
-/

namespace DetectorSearch.Http

/-- What a request does. -/
inductive Method where
  | get
  | post
  deriving DecidableEq, Repr

/-- The name of a method. -/
def Method.name : Method → String
  | get => "GET"
  | post => "POST"

/-- A request as it is sent. -/
structure Request where
  method : Method
  address : Address
  /-- The name and the password that the request carries. -/
  user : Option (String × String)
  body : Option Value

/-- The body of a reply: one that is known to hold a value, or bytes. -/
inductive Body where
  | json (value : Value)
  | bytes (octets : List Nat)

/-- The reply to a request. -/
structure Reply where
  status : Nat
  location : Option String
  body : Body

/-- What a server does with a request: it waits, if at all, and then replies, or the request
breaks. -/
structure Exchange where
  wait : Option Seconds
  reply : Outcome Reply

/-- The words for a status, empty when there are none. -/
def reason (status : Nat) : String :=
  match status with
  | 100 => "Continue"
  | 101 => "Switching Protocols"
  | 102 => "Processing"
  | 103 => "Early Hints"
  | 200 => "OK"
  | 201 => "Created"
  | 202 => "Accepted"
  | 203 => "Non-Authoritative Information"
  | 204 => "No Content"
  | 205 => "Reset Content"
  | 206 => "Partial Content"
  | 207 => "Multi-Status"
  | 208 => "Already Reported"
  | 226 => "IM Used"
  | 300 => "Multiple Choices"
  | 301 => "Moved Permanently"
  | 302 => "Found"
  | 303 => "See Other"
  | 304 => "Not Modified"
  | 305 => "Use Proxy"
  | 307 => "Temporary Redirect"
  | 308 => "Permanent Redirect"
  | 400 => "Bad Request"
  | 401 => "Unauthorized"
  | 402 => "Payment Required"
  | 403 => "Forbidden"
  | 404 => "Not Found"
  | 405 => "Method Not Allowed"
  | 406 => "Not Acceptable"
  | 407 => "Proxy Authentication Required"
  | 408 => "Request Timeout"
  | 409 => "Conflict"
  | 410 => "Gone"
  | 411 => "Length Required"
  | 412 => "Precondition Failed"
  | 413 => "Request Entity Too Large"
  | 414 => "Request-URI Too Long"
  | 415 => "Unsupported Media Type"
  | 416 => "Requested Range Not Satisfiable"
  | 417 => "Expectation Failed"
  | 418 => "I'm a teapot"
  | 421 => "Misdirected Request"
  | 422 => "Unprocessable Entity"
  | 423 => "Locked"
  | 424 => "Failed Dependency"
  | 425 => "Too Early"
  | 426 => "Upgrade Required"
  | 428 => "Precondition Required"
  | 429 => "Too Many Requests"
  | 431 => "Request Header Fields Too Large"
  | 451 => "Unavailable For Legal Reasons"
  | 500 => "Internal Server Error"
  | 501 => "Not Implemented"
  | 502 => "Bad Gateway"
  | 503 => "Service Unavailable"
  | 504 => "Gateway Timeout"
  | 505 => "HTTP Version Not Supported"
  | 506 => "Variant Also Negotiates"
  | 507 => "Insufficient Storage"
  | 508 => "Loop Detected"
  | 510 => "Not Extended"
  | 511 => "Network Authentication Required"
  | _ => ""

/-- The class of a status that is not one of success. -/
def statusClass (status : Nat) : String :=
  match status / 100 with
  | 1 => "Informational response"
  | 3 => "Redirect response"
  | 4 => "Client error"
  | 5 => "Server error"
  | _ => "Invalid status code"

/-- The value that a body holds. -/
def Body.read : Body → Outcome Value
  | .json value => .ok value
  | .bytes octets =>
      match Text.decodeText octets with
      | .error fault => .error (.fault .badText fault.message)
      | .ok chars =>
          match Json.read chars with
          | .ok value => .ok value
          | .error fault =>
              let kind :=
                match fault with
                | .malformed _ _ _ _ => FaultKind.badJson
                | .longInteger _ => .badValue
                | .tooDeep _ => .tooDeep
              .error (.fault kind fault.message)

namespace Reply

/-- Whether a reply is one of success. -/
def succeeded (reply : Reply) : Bool :=
  200 ≤ reply.status && reply.status ≤ 299

/-- Where a redirection leads. -/
def redirection (reply : Reply) : Option String :=
  if [301, 302, 303, 307, 308].contains reply.status then reply.location else none

/-- Reads where a redirection leads. A place on no host is one on the host that replied. -/
def readRedirection (address : Address) (location : String) : Outcome Unit :=
  match Address.read location.toList with
  | .error (.fault .badAddress reason) =>
      .error (.fault (.transport .protocol) ("Invalid URL in location header: " ++ reason ++ "."))
  | .error failure => .error failure
  | .ok place =>
      if !place.scheme.isEmpty && place.host.isEmpty then (place.withHostOf address).map fun _ => ()
      else Host.check place.host

/-- Takes a reply from an address: the address tells its kind, and a redirection leads to an
address. -/
def take (address : Address) (reply : Reply) : Outcome Reply := do
  if !address.tellsKind then throw (.fault .badValue address.unknownKind)
  reply.redirection.forM (readRedirection address)
  return reply

/-- The message of a reply that is not one of success. -/
def statusMessage (address : Address) (reply : Reply) : String :=
  let code := toString reply.status
  let redirected :=
    match reply.redirection with
    | some location => "Redirect location: '" ++ location ++ "'\n"
    | none => ""
  statusClass reply.status ++ " '" ++ code ++ " " ++ reason reply.status ++ "' for url '" ++
    address.text ++ "'\n" ++ redirected ++
    "For more information check: https://developer.mozilla.org/en-US/docs/Web/HTTP/Status/" ++ code

/-- The value that a reply of success holds. -/
def payload (address : Address) (reply : Reply) : Outcome Value := do
  let reply ← reply.take address
  if reply.succeeded then reply.body.read
  else .error (.fault .badStatus (reply.statusMessage address))

end Reply

end DetectorSearch.Http
