import DetectorSearch.Yaml.Date
import DetectorSearch.Yaml.Number
import DetectorSearch.Yaml.Token
/-! # Tags

A tag says what a node stands for. A plain scalar without a tag gets one from its text, by the
patterns that YAML 1.1 gives for its types and PyYAML looks for.
-/

namespace DetectorSearch.Yaml

/-- What a node stands for. -/
inductive Tag where
  | null
  | flag
  | integer
  | real
  | text
  | date
  | octets
  | sequence
  | mapping
  /-- A sequence of mappings with one pair each, no two with one key. -/
  | orderedMapping
  /-- A sequence of mappings with one pair each. -/
  | pairs
  /-- The keys of a mapping. -/
  | set
  /-- The key under which other mappings are merged into one. -/
  | merge
  /-- The key of the value that a mapping stands for. -/
  | standIn
  | unknown
  deriving DecidableEq, Repr

namespace Tag

/-- What the tags of the language itself begin with. -/
def domain : String := "tag:yaml.org,2002:"

/-- The tags by their full names. -/
def names : List (String × Tag) :=
  [("null", null), ("bool", flag), ("int", integer), ("float", real), ("str", text),
   ("timestamp", date), ("binary", octets), ("seq", sequence), ("map", mapping),
   ("omap", orderedMapping), ("pairs", pairs), ("set", set), ("merge", merge), ("value", standIn)]

/-- Whether what a tag stands for has parts. -/
def isCollection (tag : Tag) : Bool :=
  [sequence, mapping, orderedMapping, pairs, set].contains tag

/-- The tag of a full name. -/
def ofName (name : String) : Tag :=
  ((names.find? fun entry => domain ++ entry.1 == name).map (·.2)).getD unknown

end Tag

/-- The words for a flag, and whether it is set. -/
def flagWords : List (String × Bool) :=
  [("yes", true), ("true", true), ("on", true), ("no", false), ("false", false), ("off", false)]

/-- Whether a text is a word in small letters, in capitals, or with one capital in front. -/
def isSpelling (word : String) (text : String) : Bool :=
  text == word || text == word.capitalize || text == word.toUpper

/-- The tag of a text without the end of a line. -/
def Tag.ofLine (s : List Char) : Tag :=
  let text := String.ofList s
  if flagWords.any fun entry => isSpelling entry.1 text then .flag
  else if isReal s then .real
  else if isInteger s then .integer
  else if text == "<<" then .merge
  else if text == "" || text == "~" || isSpelling "null" text then .null
  else if isDate s then .date
  else if text == "=" then .standIn
  else if ["!", "&", "*"].contains text then .unknown
  else .text

/-- The tag that a text asks for by itself. The end of a line behind it does not matter, unless it is
all there is. -/
def Tag.ofText (s : List Char) : Tag :=
  if s == ['\n'] then .text else ofLine (withoutLineEnd s)

end DetectorSearch.Yaml
