import DetectorSearch.Yaml.Fault
/-! # Tokens of YAML

A document as a row of tokens, which are those of PyYAML. The layout of its lines is told by the
tokens that begin and end a block and by those that stand in front of a key and of its value.
-/

namespace DetectorSearch.Yaml

/-- The two kinds of brackets around collections. -/
inductive Bracket where
  /-- Around a sequence. -/
  | square
  /-- Around a mapping. -/
  | curly
  deriving DecidableEq, Repr

/-- What a directive in front of a document says. -/
inductive Directive where
  /-- The version that the document is written for. -/
  | version (major minor : Nat)
  /-- What a handle stands for in front of a tag. -/
  | handle (name meaning : String)
  /-- Something else, which is ignored. -/
  | other
  deriving DecidableEq, Repr

/-- A tag as it is written: with a handle, or in full. -/
structure WrittenTag where
  handle : Option String
  rest : String
  deriving DecidableEq, Repr

/-- The parts of a document. -/
inductive Token where
  | directive (what : Directive)
  | documentStart
  | documentEnd
  /-- A block of entries begins. -/
  | sequenceStart
  /-- A block of keys and values begins. -/
  | mappingStart
  | blockEnd
  | opening (bracket : Bracket)
  | closing (bracket : Bracket)
  | comma
  /-- The dash in front of an entry. -/
  | entry
  | key
  | value
  | alias (name : String)
  | anchor (name : String)
  | tag (tag : WrittenTag)
  | scalar (text : List Char) (isPlain : Bool)
  deriving DecidableEq, Repr

/-- The tokens of a text as far as it can be read, and the fault that ends them, if one does. -/
structure TokenRow where
  tokens : List Token
  fault : Option Fault

end DetectorSearch.Yaml
