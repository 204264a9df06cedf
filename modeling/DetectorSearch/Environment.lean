import DetectorSearch.Keyed
/-! # Environment and folders

Variables that are set around a program choose its backends, its server and its file of settings. An
empty variable chooses nothing.

What is stored at a path is seen from a folder whose contents are known. A path is walked part by part:
a dot stays where it is, two dots go up, a name goes down. Above the folder there are folders only,
and what they hold besides is not known, so that nothing is found there.
-/

namespace DetectorSearch

/-- The variables of the environment. -/
abbrev Environment := Keyed String

namespace Environment

/-- The variable that names the backend of the catalog. -/
def searchBackend : String := "ADSEARCH_SEARCH_BACKEND"

/-- The variable that names the backend of the states. -/
def statusBackend : String := "ADSEARCH_STATUS_BACKEND"

/-- The variable that gives the base address of the server. -/
def serverAddress : String := "ADSEARCH_OPENSEARCH_URL"

/-- The variable that names the file with the settings. -/
def settingsFile : String := "ADSEARCH_CONFIG"

/-- The variables that the program looks at. -/
def names : List String := [searchBackend, statusBackend, serverAddress, settingsFile]

/-- The value of a variable that is set and not empty. -/
def nonempty? (environment : Environment) (name : String) : Option String :=
  (Keyed.find? name environment).filter (· ≠ "")

end Environment

/-- What is stored at a path. -/
inductive Stored where
  | nothing
  | folder
  | file (text : String)
  deriving DecidableEq, Repr

/-- The contents of a folder: what is stored under each name. A name may lead through folders, with
slashes between its parts. -/
abbrev Folder := Keyed Stored

namespace Folder

/-- Where a walk stands: in a folder above the known one, or at what is reached by going down. -/
inductive Spot where
  | above
  | within (parts : List String) (found : Stored)

/-- The name of what lies below a folder. -/
def name (parts : List String) : String :=
  String.intercalate "/" parts

/-- What is stored under a name. A folder need not be listed if something in it is. -/
def entry (folder : Folder) (parts : List String) : Stored :=
  match Keyed.find? (name parts) folder with
  | some stored => stored
  | none =>
      let inside := (name parts ++ "/").toList
      if folder.any fun entry => inside.isPrefixOf entry.1.toList then .folder else .nothing

/-- Takes one step of a walk. -/
def step (folder : Folder) (part : String) : Spot → Spot
  | .above => if part = "" ∨ part = "." ∨ part = ".." then .above else .within [] .nothing
  | .within parts .folder =>
      if part = "" ∨ part = "." then .within parts .folder
      else if part = ".." then if parts.isEmpty then .above else .within parts.dropLast .folder
      else .within (parts ++ [part]) (folder.entry (parts ++ [part]))
  | .within parts _ => .within parts .nothing

/-- What is stored at a path. A path that begins with a slash leads from above; the empty path leads
nowhere. -/
def find (folder : Folder) (path : String) : Stored :=
  let chars := path.toList
  if chars.isEmpty then .nothing
  else
    let start : Spot := if chars.head? == some '/' then .above else .within [] .folder
    let parts := (chars.splitOn '/').map String.ofList
    match parts.foldl (fun spot part => folder.step part spot) start with
    | .above => .folder
    | .within _ found => found

example : find [("a", .file "x"), ("d", .folder)] "d/../a" = .file "x" := by decide +kernel

example : find [("a", .file "x")] "a/" = .nothing := by decide +kernel

example : find [("a", .file "x")] "." = .folder := by decide +kernel

end Folder

end DetectorSearch
