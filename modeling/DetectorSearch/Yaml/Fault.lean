import DetectorSearch.Failure
import DetectorSearch.Value
/-! # Faults of YAML documents

What PyYAML refuses with its safe loader. Most faults make a document unreadable. A scalar whose
tag asks for more than its text gives is the fault of a value instead.
-/

namespace DetectorSearch.Yaml

/-- What is wrong with a document. -/
inductive Fault where
  /-- The document holds a character that none may hold. -/
  | forbidden (c : Char)
  /-- No token begins with this character. -/
  | noToken (c : Char)
  /-- A quoted scalar has no end. -/
  | unclosedQuote
  /-- A quoted scalar runs into the next document. -/
  | markerInQuotes
  /-- An escape of a double-quoted scalar is unknown or incomplete. -/
  | badEscape
  /-- The first line of a block scalar holds more than its header. -/
  | badHeader
  /-- An anchor or an alias has no proper name. -/
  | badName
  /-- A tag is not well-formed. -/
  | badTag
  /-- A directive is not well-formed, is given twice, or asks for another version. -/
  | badDirective
  /-- A question mark, a colon or a dash of a block stands where none may stand. -/
  | misplaced (indicator : Char)
  /-- A token has to be a key, but no colon follows it. -/
  | missingColon
  /-- The tokens stand in an order that means nothing. -/
  | unexpectedOrder
  /-- An alias names no anchor before it. -/
  | unknownAnchor (name : String)
  /-- Two anchors have one name. -/
  | repeatedAnchor (name : String)
  /-- The handle of a tag is not declared. -/
  | unknownHandle (handle : String)
  /-- A tag is not known. -/
  | unknownTag
  /-- A tag does not fit the shape of its node. -/
  | wrongShape
  /-- A sequence or a mapping is used as a key. -/
  | collectionKey
  /-- What is merged is no mapping. -/
  | badMerge
  /-- The octets of a binary scalar are cut short. -/
  | badOctets
  /-- More than one document is given. -/
  | secondDocument
  /-- An escape has a number that no character has. -/
  | noCharacter (code : Nat)
  /-- A scalar that is tagged as a number is none. -/
  | noNumber (text : String)
  /-- A scalar that is tagged as a number is empty. -/
  | emptyNumber
  /-- A real in base sixty has more digits than any has. -/
  | hugeNumber
  /-- A scalar that is tagged as a flag is none. -/
  | noFlag (text : String)
  /-- A scalar that is tagged as a date is none. -/
  | noDate
  /-- A date that no calendar has. -/
  | impossibleDate
  /-- A mapping is tagged as a date. -/
  | mappedDate
  /-- Nodes are nested too deeply, or stand for one another in a circle. -/
  | tooDeep
  deriving Repr

/-- A fault as a failure. Its kind is the one that loading a file of settings ends in. Its words are
short ones of this library and not those of PyYAML: such a failure breaks a run off before there is a
reply or a record that could take them up. -/
def Fault.failure : Fault → Failure
  | noCharacter code =>
      .fault (if code < 0x80000000 then .badValue else .overflow) "no character has this number"
  | noNumber text => .fault .badValue ("no number: " ++ text)
  | emptyNumber => .fault .outOfRange "a number without digits"
  | noFlag text => .misuse (.missingKey text)
  | noDate => .misuse (.noMember Value.null.kindName "date")
  | hugeNumber => .beyondReals
  | impossibleDate => .fault .badValue "no such date"
  | mappedDate => .misuse .wrongKind
  | tooDeep => .fault .tooDeep "maximum recursion depth exceeded"
  | _ => .fault .badDocument "the document cannot be read"

end DetectorSearch.Yaml
