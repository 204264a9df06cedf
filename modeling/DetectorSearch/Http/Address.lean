import DetectorSearch.Decimal.Integer
import DetectorSearch.Http.Host
import DetectorSearch.Http.Parts
/-! # Addresses

A request goes to a path under the base address of a server, as httpx documents it for a client
with a base address. An address is read from its text: scheme and host come in small letters, a
port that the scheme implies is left out, steps `.` and `..` in the path are resolved, and in each
part the characters that may not stand there are percent coded. A text that is no address is
refused, for the first reason that is found.
-/

namespace DetectorSearch.Http

/-- An address. Parts that are not there are empty, or nothing. -/
structure Address where
  scheme : List Char
  /-- The user, with a password behind a colon. -/
  user : List Char
  host : List Char
  port : Option Int
  path : List Char
  query : Option (List Char)
  fragment : Option (List Char)
  deriving DecidableEq, Repr

namespace Address

/-- User, host and port in one text. A host with colons stands between brackets. -/
def authority (address : Address) : List Char :=
  (if address.user.isEmpty then [] else address.user ++ ['@']) ++
    (if address.host.contains ':' then '[' :: (address.host ++ [']']) else address.host) ++
    (match address.port with
    | some port => ':' :: integerChars port
    | none => [])

/-- A part with the mark in front of it, nothing when it is not there. -/
def marked (mark : Char) (part : Option (List Char)) : List Char :=
  match part with
  | some part => mark :: part
  | none => []

/-- The address in one text without its fragment. -/
def charsToQuery (address : Address) : List Char :=
  (if address.scheme.isEmpty then [] else address.scheme ++ [':']) ++
    (if address.authority.isEmpty then [] else '/' :: '/' :: address.authority) ++
    address.path ++ marked '?' address.query

/-- The address in one text. -/
def chars (address : Address) : List Char :=
  address.charsToQuery ++ marked '#' address.fragment

/-- The address in one text. -/
def text (address : Address) : String :=
  String.ofList address.chars

/-- Path and query of the address, as a request asks for them. -/
def target (address : Address) : List Char :=
  (if address.path.isEmpty then ['/'] else address.path) ++ marked '?' address.query

/-- Visible ASCII characters. -/
def isVisible (c : Char) : Bool :=
  0x21 ≤ c.toNat && c.toNat ≤ 0x7E

/-- The characters that stand for themselves in a query. -/
def isQuerySafe (c : Char) : Bool :=
  isVisible c && !(['"', '#', '<', '>'].contains c)

/-- The characters that stand for themselves in a path. -/
def isPathSafe (c : Char) : Bool :=
  isQuerySafe c && !(['?', '\x60', '\x7b', '\x7d'].contains c)

/-- The characters that stand for themselves in a fragment. -/
def isFragmentSafe (c : Char) : Bool :=
  isVisible c && !(['"', '<', '>', '\x60'].contains c)

/-- The characters that stand for themselves in a user. -/
def isUserSafe (c : Char) : Bool :=
  isPathSafe c && !(['/', ';', '=', '@', '[', '\\', ']', '^', '|'].contains c)

/-- Takes the step of one segment. `done` are the segments so far, the last one first. A step up
stays at the root. -/
def step (done : List (List Char)) (segment : List Char) : List (List Char) :=
  if segment = ['.'] then done
  else if segment = ['.', '.'] then if done = [] ∨ done = [[]] then done else done.drop 1
  else segment :: done

/-- A path without steps `.` and `..`. -/
def resolve (path : List Char) : List Char :=
  let segments := path.splitOn '/'
  if segments.contains ['.'] || segments.contains ['.', '.'] then
    List.intercalate ['/'] (segments.foldl step []).reverse
  else path

/-- A text that is refused as an address. -/
def refused {α : Type} (reason : String) : Outcome α :=
  .error (.fault .badAddress reason)

/-- A part with the characters coded that may not stand there. Half of a surrogate pair has no code. -/
def encode (isSafe : Char → Bool) (part : List Char) : Outcome (List Char) :=
  match part.findSome? fun c => Text.encodeFault? [c] with
  | some message => .error (.fault .unwritable message)
  | none => .ok (Text.percentEncode isSafe part)

/-- A part, if it is there, with the characters coded that may not stand there. -/
def encodeAny (isSafe : Char → Bool) : Option (List Char) → Outcome (Option (List Char))
  | some part => (encode isSafe part).map some
  | none => .ok none

/-- The port that a scheme implies. -/
def impliedPort? (scheme : List Char) : Option Int :=
  match String.ofList scheme with
  | "ftp" => some 21
  | "http" => some 80
  | "https" => some 443
  | "ws" => some 80
  | "wss" => some 443
  | _ => none

/-- Reads a port; one that the scheme implies is left out. -/
def readPort (scheme port : List Char) : Outcome (Option Int) :=
  if port.isEmpty then .ok none
  else
    match readInteger? port with
    | some number => .ok (if impliedPort? scheme = some number then none else some number)
    | none => refused ("Invalid port: " ++ Text.quoted (String.ofList port))

/-- Checks how a path begins, by what stands in front of it. -/
def checkPath (hasScheme hasAuthority : Bool) (path : List Char) : Outcome Unit :=
  if hasAuthority && !path.isEmpty && path.head? != some '/' then
    refused "For absolute URLs, path must be empty or begin with '/'"
  else if hasScheme || hasAuthority then .ok ()
  else if path.take 2 == ['/', '/'] then
    refused "Relative URLs cannot have a path starting with '//'"
  else if path.head? == some ':' then
    refused "Relative URLs cannot have a path starting with ':'"
  else .ok ()

/-- The address that parts make up. The port is looked at with the scheme as it is written. -/
def ofParts (parts : Parts) : Outcome Address := do
  let written := parts.scheme.getD []
  let authority := AuthorityParts.ofChars (parts.authority.getD [])
  let scheme := written.map Char.toLower
  let user ← encode isUserSafe authority.user
  let host ← Host.encode authority.host
  let port ← readPort written authority.port
  let hasScheme := !scheme.isEmpty
  let hasAuthority := !user.isEmpty || !host.isEmpty || port.isSome
  checkPath hasScheme hasAuthority parts.path
  let path ← encode isPathSafe
    (if hasScheme || hasAuthority then resolve parts.path else parts.path)
  let query ← encodeAny isQuerySafe parts.query
  let fragment ← encodeAny isFragmentSafe parts.fragment
  return ⟨scheme, user, host, port, path, query, fragment⟩

/-- The most characters that an address, or a part of one, may have. -/
def lengthLimit : Nat := 65536

/-- The first character of ASCII that cannot be shown, with its position. -/
def control? (position : Nat) : List Char → Option (Char × Nat)
  | [] => none
  | c :: rest =>
      if c.toNat < 0x20 || c.toNat == 0x7F then some (c, position) else control? (position + 1) rest

/-- Reads an address. -/
def read (s : List Char) : Outcome Address :=
  if lengthLimit < s.length then refused "URL too long"
  else
    match control? 0 s with
    | some (c, position) =>
        refused ("Invalid non-printable ASCII character in URL, " ++ Text.quoted c.toString ++
          " at position " ++ toString position ++ ".")
    | none => ofParts (Parts.ofChars s)

/-- Checks the length of a part. -/
def checkLength (name : String) (part : List Char) : Outcome Unit :=
  if lengthLimit < part.length then refused ("URL component '" ++ name ++ "' too long") else .ok ()

/-- The address with other parts in place of some of its own. -/
def rebuild (address : Address) (change : Parts → Parts) : Outcome Address := do
  let parts := change
    ⟨some address.scheme, some address.authority, address.path, address.query, address.fragment⟩
  checkLength "scheme" (parts.scheme.getD [])
  checkLength "authority" (parts.authority.getD [])
  checkLength "path" parts.path
  checkLength "query" (parts.query.getD [])
  checkLength "fragment" (parts.fragment.getD [])
  ofParts parts

/-- The address with another path and query. -/
def withTarget (address : Address) (target : List Char) : Outcome Address :=
  let (path, query) := splitAtFirst '?' target
  address.rebuild fun parts => { parts with path, query }

/-- The address with the host of another one. -/
def withHostOf (address other : Address) : Outcome Address :=
  let host := { other with user := [], port := none }.authority
  address.rebuild fun parts => { parts with authority := some host }

/-- The base address of a server. What a request to it asks for ends with a slash. -/
def ofBase (base : List Char) : Outcome Address := do
  let address ← read base
  if address.target.getLast? == some '/' then return address
  else address.withTarget (address.target ++ ['/'])

/-- The address of a target under a base address. The fragment of a target is not sent. -/
def locate (base : Address) (target : List Char) : Outcome Address := do
  let address ← read target
  if !address.scheme.isEmpty && !address.host.isEmpty then return address
  else base.withTarget (base.target ++ address.target.dropWhile (· == '/'))

/-- The host and the port that an address names. -/
def hostChars (address : Address) : List Char :=
  { address with user := [] }.authority

/-- Checks that a request to an address can name its host: it is no broken name of a domain, and in
ASCII. -/
def check (address : Address) : Outcome Unit := do
  Host.check address.host
  match Text.asciiFault? address.hostChars with
  | some message => throw (.fault .unwritable message)
  | none => return ()

/-- The name and the password that an address brings along, unless both are empty. -/
def credentials? (address : Address) : Option (String × String) :=
  let (name, password) := splitAtFirst ':' address.user
  let decode := fun coded => String.ofList (Text.percentDecode coded)
  let credentials := (decode name, decode (password.getD []))
  if credentials.1 = "" ∧ credentials.2 = "" then none else some credentials

/-- Whether an address tells by which rule it is asked: some characters up to a colon do, and no slash
among them. -/
def tellsKind (address : Address) : Bool :=
  let s := address.charsToQuery
  let head := s.takeWhile fun c => c != ':' && c != '/'
  !head.isEmpty && (s.drop head.length).head? == some ':'

/-- The message about an address that does not tell its kind. The mark of a fragment is left out where
nothing follows it. -/
def unknownKind (address : Address) : String :=
  let shown := if address.chars.getLast? == some '#' then address.chars.dropLast else address.chars
  "unknown url type: " ++ Text.quoted (String.ofList shown)

end Address

end DetectorSearch.Http
