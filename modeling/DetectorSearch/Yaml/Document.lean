import DetectorSearch.Yaml.Node
import DetectorSearch.Yaml.Node.Reader
import DetectorSearch.Yaml.Scalar
import DetectorSearch.Yaml.Token.Layout
/-! # Documents as data

Whether all nodes of a document stand for something, and what the document is as a value. A survey
goes through the nodes in breadth, as PyYAML does when it makes plain data of them: a scalar is
read where it stands, a collection waits until those before it are done. So of several faults the
outermost one is told, and of those at one depth the first one. A collection is looked at once,
however many others hold it.

A key that is no text has no place in a value; whether the outermost mapping has such keys is told
beside it. A node may stand inside itself, so a value shows a document only down to a number of
levels.
-/

namespace DetectorSearch.Yaml.Graph

/-- What a key stands for. The key of a stand-in is a text here. -/
def key (graph : Graph) (place : Nat) : Except Fault Value :=
  let tag := graph.tag place
  if tag == .standIn then (graph.text place).map fun text => .text (String.ofList text)
  else if tag.isCollection then .error .collectionKey
  else graph.scalar place

/-- Looks at a node. A collection is put off. -/
def look (graph : Graph) (place : Nat) : Except Fault (List Nat) :=
  if (graph.tag place).isCollection then .ok [place] else (graph.scalar place).map fun _ => []

/-- The key and the value of a mapping that has to be a single pair. -/
def single (graph : Graph) (place : Nat) : Except Fault (Nat × Nat) :=
  match graph.node place with
  | .mapping _ [pair] => .ok pair
  | _ => .error .wrongShape

/-- Looks at the parts of a collection and tells those that are collections themselves. -/
def lookInside (graph : Graph) (place : Nat) : Except Fault (List Nat) :=
  match graph.node place with
  | .sequence .sequence items => do return (← items.mapM graph.look).flatten
  | .sequence .orderedMapping items | .sequence .pairs items => do
      let found ← items.mapM fun item => do
        let (key, value) ← graph.single item
        return (← graph.look key) ++ (← graph.look value)
      return found.flatten
  | .mapping .mapping _ | .mapping .set _ => do
      let found ← (← graph.pairs place).mapM fun (key, value) => do
        let _ ← graph.key key
        graph.look value
      return found.flatten
  | _ => .error .wrongShape

/-- Looks at the collections that wait, and at those inside them. `known` are all that have waited;
there are no more of them than nodes. -/
def surveyFrom (graph : Graph) : Nat → List Nat → List Nat → Except Fault Unit
  | 0, _, _ | _, _, [] => .ok ()
  | fuel + 1, known, place :: waiting => do
      let found := (← graph.lookInside place).eraseDups.filter fun place => !known.contains place
      surveyFrom graph fuel (known ++ found) (waiting ++ found)

/-- The fault of a document that begins at a place, if there is one. -/
def survey (graph : Graph) (root : Nat) : Except Fault Unit := do
  let found ← graph.look root
  graph.surveyFrom graph.size found found

end DetectorSearch.Yaml.Graph

namespace DetectorSearch.Yaml

/-- The fields whose keys are texts. -/
def textFields (pairs : List (Value × Value)) : Fields :=
  Keyed.ofPairs <| pairs.filterMap fun pair =>
    match pair.1 with
    | .text key => some (key, pair.2)
    | _ => none

/-- What a node stands for, down to a number of levels. Collections further down are shown empty. -/
def Graph.value (graph : Graph) : Nat → Nat → Except Fault Value
  | levels, place =>
      match levels, graph.node place with
      | 0, .mapping .mapping _ => .ok (.object [])
      | levels + 1, .mapping .mapping _ => do
          let fields ← (← graph.pairs place).mapM fun (key, value) =>
            return (← graph.key key, ← Graph.value graph levels value)
          return .object (textFields fields)
      | _ + 1, .mapping .set _ => do
          return .list (← (← graph.pairs place).mapM fun pair => graph.key pair.1)
      | levels + 1, .sequence .sequence items => do
          return .list (← items.mapM (Graph.value graph levels))
      | levels + 1, .sequence .orderedMapping items | levels + 1, .sequence .pairs items => do
          return .list (← items.mapM fun item => do
            let (key, value) ← graph.single item
            return .list [← Graph.value graph levels key, ← Graph.value graph levels value])
      | _, node => if node.tag.isCollection then .ok (.list []) else graph.scalar place

/-- A document as data. -/
structure Document where
  value : Value
  /-- Whether the outermost mapping has keys that are no texts. -/
  hasOtherKeys : Bool

namespace Document

/-- Whether a value is a text. -/
def isText : Value → Bool
  | .text _ => true
  | _ => false

/-- Whether a mapping has keys that are no texts. -/
def hasOtherKeysAt (graph : Graph) (place : Nat) : Except Fault Bool :=
  match graph.node place with
  | .mapping .mapping _ => do
      let keys ← (← graph.pairs place).mapM fun pair => graph.key pair.1
      return keys.any (!isText ·)
  | _ => .ok false

/-- The document that begins at a place, down to a number of levels. -/
def ofGraph (levels : Nat) (graph : Graph) (root : Nat) : Except Fault Document := do
  graph.survey root
  return ⟨← graph.value levels root, ← hasOtherKeysAt graph root⟩

/-- Reads a document, down to a number of levels. Where nothing is written the value is null. -/
def read (levels : Nat) (text : List Char) : Except Fault Document := do
  match ← Graph.ofTokens (Token.ofChars text) with
  | some (graph, root) => ofGraph levels graph root
  | none => return ⟨.null, false⟩

end Document

end DetectorSearch.Yaml
