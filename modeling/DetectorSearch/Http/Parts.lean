/-! # The parts of an address

An address as it is written, taken apart as httpx documents it: a scheme up to a colon, an
authority behind two slashes, a path, a query behind a question mark and a fragment behind a number
sign. Only the path is always there, though it may be empty. The authority has a user in front of
its last at sign, then a host, which may stand between brackets, and a port.
-/

namespace DetectorSearch.Http

/-- The parts of an address as they are written. -/
structure Parts where
  scheme : Option (List Char)
  authority : Option (List Char)
  path : List Char
  query : Option (List Char)
  fragment : Option (List Char)
  deriving DecidableEq, Repr

/-- The parts of an authority as they are written. -/
structure AuthorityParts where
  user : List Char
  host : List Char
  port : List Char
  deriving DecidableEq, Repr

/-- A text split at the first of a character; without it, all is in front. -/
def splitAtFirst (mark : Char) (s : List Char) : List Char × Option (List Char) :=
  match s.dropWhile (· != mark) with
  | [] => (s, none)
  | _ :: behind => (s.takeWhile (· != mark), some behind)

/-- A text split at the last of a character; without it, all is behind. -/
def splitAtLast (mark : Char) (s : List Char) : Option (List Char) × List Char :=
  match splitAtFirst mark s.reverse with
  | (behind, some front) => (some front.reverse, behind.reverse)
  | (_, none) => (none, s)

namespace Parts

/-- Whether a character may stand in a scheme. -/
def isSchemeChar (c : Char) : Bool :=
  c.isAlphanum || c == '+' || c == '.' || c == '-'

/-- Whether a text is a scheme, which may be empty. -/
def isScheme : List Char → Bool
  | [] => true
  | c :: rest => c.isAlpha && rest.all isSchemeChar

/-- The scheme of an address and what stands behind it. -/
def splitScheme (s : List Char) : Option (List Char) × List Char :=
  match splitAtFirst ':' s with
  | (scheme, some rest) => if isScheme scheme then (some scheme, rest) else (none, s)
  | (_, none) => (none, s)

/-- The authority of what stands behind a scheme, and the rest. -/
def splitAuthority : List Char → Option (List Char) × List Char
  | '/' :: '/' :: rest =>
      let ends := fun c : Char => c == '/' || c == '?' || c == '#'
      (some (rest.takeWhile fun c => !ends c), rest.dropWhile fun c => !ends c)
  | s => (none, s)

/-- The parts of an address. -/
def ofChars (s : List Char) : Parts :=
  let (scheme, s) := splitScheme s
  let (authority, s) := splitAuthority s
  let (s, fragment) := splitAtFirst '#' s
  let (path, query) := splitAtFirst '?' s
  ⟨scheme, authority, path, query, fragment⟩

example : ofChars "http://h/p?q=1#f".toList =
    ⟨some "http".toList, some "h".toList, "/p".toList, some "q=1".toList, some "f".toList⟩ := by
  decide +kernel

end Parts

namespace AuthorityParts

/-- The host of an authority without its user, and what stands behind it. -/
def splitHost (s : List Char) : List Char × List Char :=
  match s, splitAtLast ']' s with
  | '[' :: _, (some front, behind) => (front ++ [']'], behind)
  | _, _ => (s.takeWhile (· != ':'), s.dropWhile (· != ':'))

/-- The parts of an authority. -/
def ofChars (s : List Char) : AuthorityParts :=
  let (user, s) := splitAtLast '@' s
  let (host, rest) := splitHost s
  let port :=
    match rest with
    | ':' :: port => port
    | port => port
  ⟨user.getD [], host, port⟩

example : ofChars "u:p@[::1]:80".toList = ⟨"u:p".toList, "[::1]".toList, "80".toList⟩ := by
  decide +kernel

end AuthorityParts

end DetectorSearch.Http
