import DetectorSearch.Http.Reply
import DetectorSearch.Settings
/-! # Links to a server

A link knows how to reach a server and holds a connection to it, or none. It opens a connection when
one is needed. A connection that was handed in is used, but not closed, by the link.
-/

namespace DetectorSearch

/-- How a connection is opened. -/
structure Opening where
  baseUrl : String
  /-- The name that requests carry, and its password. -/
  user : Option (String × Option String)
  verifySsl : Bool
  /-- How long a request may take, in seconds; nothing means any time. -/
  timeout : Option Seconds

/-- An open connection. -/
structure Connection where
  base : Http.Address
  user : Option (String × String)

/-- A connection to a base address. -/
def Connection.ofBase (base : Http.Address) : Connection :=
  ⟨base, base.credentials?⟩

/-- A link to a server. -/
structure Link where
  baseUrl : String
  username : Option String
  password : Option String
  verifySsl : Bool
  timeout : Option Seconds
  connection : Option Connection
  /-- Whether the connection is the link's own, to be closed by it. -/
  owned : Bool

namespace Link

/-- A text without the slashes at its end. -/
def withoutSlashes (s : String) : String :=
  String.ofList (s.toList.reverse.dropWhile (· == '/')).reverse

/-- A link by its settings, with a connection that is handed in or without one. -/
def ofSettings (settings : ServerSettings) (timeout : Option Seconds)
    (handedIn : Option Connection) : Link :=
  ⟨withoutSlashes settings.baseUrl, settings.username, settings.password, settings.verifySsl,
    timeout, handedIn, handedIn.isNone⟩

/-- The link that settings describe. -/
def standard (settings : ServerSettings) : Link :=
  ofSettings settings (some (.real settings.requestTimeout)) none

/-- The user of a connection: no name, no user. -/
def user (link : Link) : Option (String × Option String) :=
  match link.username with
  | some name => if name = "" then none else some (name, link.password)
  | none => none

/-- How the link opens a connection. -/
def opening (link : Link) : Opening :=
  ⟨link.baseUrl, link.user, link.verifySsl, link.timeout⟩

/-- A text that a request carries; half of a surrogate pair cannot be sent. -/
def checkText (s : String) : Outcome Unit :=
  match Text.encodeFault? s.toList with
  | some message => .error (.fault .unwritable message)
  | none => .ok ()

/-- A connection as the link opens it. A user without a password cannot be sent. Without a user, the
base address may bring one along. -/
def dial (link : Link) : Outcome Connection := do
  let base ← Http.Address.ofBase link.baseUrl.toList
  match link.user with
  | none => return .ofBase base
  | some (name, password) =>
      checkText name
      match password with
      | some password => checkText password; return ⟨base, some (name, password)⟩
      | none => throw (.misuse (.notBytes 1 Value.null.kindName))

/-- The link without its own connection. -/
def disconnect (link : Link) : Link :=
  if link.owned then { link with connection := none } else link

end Link

end DetectorSearch
