import DetectorSearch.Failure
import DetectorSearch.Http.Label
import DetectorSearch.Text.Encoding
import DetectorSearch.Text.Letter
/-! # Hosts

A host is an address by number, of the fourth or, between brackets, the sixth version, or a name.
What is taken for which of them follows httpx. Names of ASCII are sent in small letters with
percent coding. Names with other characters are sent as domains, in ASCII, label by label, by IDNA
2008; a name that is sent in that way stands for a domain, unless one of its labels has a fault.
-/

namespace DetectorSearch.Http

/-- Why a text is no domain. -/
inductive DomainFault where
  | tooLong
  | label (fault : LabelFault)
  deriving DecidableEq, Repr

/-- The message of a fault. -/
def DomainFault.message : DomainFault → String
  | tooLong => "Domain too long"
  | label fault => fault.message

namespace Domain

/-- Whether a character stands between labels. -/
def isDot (c : Char) : Bool :=
  ['.', '\u3002', '\uFF0E', '\uFF61'].contains c

/-- The labels of a domain, and whether a dot stands behind the last one. -/
def labels (domain : List Char) : List (List Char) × Bool :=
  let labels := domain.splitOnP isDot
  let isDotted := 1 < labels.length && labels.getLast? == some []
  (if isDotted then labels.dropLast else labels, isDotted)

/-- The most characters that a domain may have as it is sent, without a dot at its end. -/
def lengthLimit : Nat := 253

/-- A domain as it is sent. -/
def encode (domain : List Char) : Except DomainFault (List Char) := do
  let (labels, isDotted) := labels (Text.lowerChars [] domain)
  let sent ← (labels.mapM Label.encode).mapError DomainFault.label
  let name := List.intercalate ['.'] sent
  if lengthLimit < name.length then throw .tooLong
  return if isDotted then name ++ ['.'] else name

/-- Whether a host is sent as the name of a domain that begins outside ASCII. -/
def isCoded (host : List Char) : Bool :=
  Label.mark.isPrefixOf host

/-- Why a name that is sent stands for no domain. A dot at its end may exceed the limit. -/
def sentFault? (name : List Char) : Option DomainFault :=
  if lengthLimit + 1 < name.length then some .tooLong
  else ((labels name).1.findSome? Label.sentFault?).map .label

end Domain

end DetectorSearch.Http

namespace DetectorSearch.Http.Host

/-- How far a row of numbers has come: how many are complete, and whether the next one has begun. -/
structure Place where
  complete : Nat
  begun : Bool
  deriving DecidableEq

/-- The places behind a character. Any character may stand between two numbers, a digit too. -/
def Place.behind (c : Char) (place : Place) : List Place :=
  (if '0' ≤ c ∧ c ≤ '9' then [⟨place.complete, true⟩] else []) ++
    (if place.begun ∧ place.complete < 3 then [⟨place.complete + 1, false⟩] else [])

/-- Whether a text looks like four numbers with something between them. -/
def looksNumeric (s : List Char) : Bool :=
  let ends := s.foldl (fun places c => (places.flatMap (Place.behind c)).eraseDups) [⟨0, false⟩]
  ends.contains ⟨3, true⟩

/-- Whether a text is a number below 256 without needless zeros. -/
def isOctet (s : List Char) : Bool :=
  !s.isEmpty && s.length ≤ 3 && s.all (fun c => decide ('0' ≤ c ∧ c ≤ '9')) &&
    (s == ['0'] || s.head? != some '0') &&
    s.foldl (fun number c => 10 * number + (c.toNat - '0'.toNat)) 0 ≤ 255

/-- Whether a text is an address of the fourth version. -/
def isQuad (s : List Char) : Bool :=
  let octets := s.splitOn '.'
  octets.length == 4 && octets.all isOctet

/-- Whether a text is a group of an address of the sixth version. -/
def isGroup (s : List Char) : Bool :=
  !s.isEmpty && s.length ≤ 4 && s.all fun c => (Text.hexDigit? c).isSome

/-- How many groups stand on one side of a gap; an empty side has nothing between two colons. -/
def groupCount? (side : List (List Char)) : Option Nat :=
  if side == [[]] then some 0 else if side.all isGroup then some side.length else none

/-- Whether texts between colons are an address of the sixth version: eight groups, or less and one gap
between two of them. -/
def areGroups (parts : List (List Char)) : Bool :=
  let inner := (parts.drop 1).dropLast
  if inner.contains [] then
    let before := (inner.takeWhile (· != [])).length + 1
    match groupCount? (parts.take before), groupCount? (parts.drop (before + 1)) with
    | some high, some low => high + low < 8
    | _, _ => false
  else parts.length == 8 && parts.all isGroup

/-- The parts of an address of the sixth version, in which an address of the fourth version at the end
counts as two groups. -/
def groupsOf (parts : List (List Char)) : List (List Char) :=
  match parts.getLast? with
  | some last => if isQuad last then parts.dropLast ++ [['0'], ['0']] else parts
  | none => parts

/-- Whether a text is an address of the sixth version. A percent sign begins its scope, which may be
any text. -/
def isGrouped (s : List Char) : Bool :=
  let parts := (s.takeWhile (· != '%')).splitOn ':'
  let scopeFits :=
    match s.dropWhile (· != '%') with
    | [] => true
    | _ :: scope => !scope.isEmpty && !scope.contains '%'
  !s.contains '/' && scopeFits && 3 ≤ parts.length && areGroups (groupsOf parts)

/-- Letters and digits of ASCII and the marks that stand for themselves anywhere. -/
def isUnreserved (c : Char) : Bool :=
  c.isAlphanum || ['-', '.', '_', '~'].contains c

/-- The characters that stand for themselves in a name. -/
def isNameSafe (c : Char) : Bool :=
  isUnreserved c || "!$&'()*+,;=\"%|\\\x60\x7b\x7d".toList.contains c

/-- A host that is refused, by what it was taken for. -/
def refused (kind : String) (host : List Char) : Failure :=
  .fault .badAddress ("Invalid " ++ kind ++ ": " ++ Text.quoted (String.ofList host))

/-- A host as it is sent. Brackets are left out. -/
def encode (host : List Char) : Outcome (List Char) :=
  if looksNumeric host then
    if isQuad host then .ok host else .error (refused "IPv4 address" host)
  else if host.head? == some '[' && host.getLast? == some ']' then
    let inside := (host.drop 1).dropLast
    if isGrouped inside then .ok inside else .error (refused "IPv6 address" host)
  else if host.all fun c => c.toNat < 0x80 then
    .ok (Text.percentEncode isNameSafe (host.map Char.toLower))
  else
    match Domain.encode host with
    | .ok domain => .ok domain
    | .error _ => .error (refused "IDNA hostname" host)

/-- The kind of a fault in a domain. -/
def kindOf : DomainFault → FaultKind
  | .label (.misplaced _ _ _) => .badLabelPlace
  | .label (.notAllowed _ _ _) => .badLabelCharacter
  | .label (.undirected _) | .label (.against _ _) | .label .mixedDigits | .label .openEnding =>
      .badLabelDirection
  | _ => .badDomain

/-- Checks that a host that is sent as the name of a domain stands for one. -/
def check (host : List Char) : Outcome Unit :=
  match if Domain.isCoded host then Domain.sentFault? host else none with
  | some fault => .error (.fault (kindOf fault) fault.message)
  | none => .ok ()

example : isGrouped [':', ':', '1'] = true := by decide

example : isGrouped [':', ':', '1', ':', ':'] = false := by decide

end DetectorSearch.Http.Host
