import DetectorSearch.Yaml.Fault
import DetectorSearch.Yaml.Tag
/-! # Nodes

A document is a graph of scalars, sequences and mappings, each with a tag. Nodes stand at places,
by which others hold them; an alias holds the node that its anchor names, which may be one around
it.

By the merge key of YAML 1.1, mappings under it lend their pairs to the mapping around them, whose
own pairs come later and therefore count. A mapping that is lent to itself, perhaps by way of
others, lends its own pairs, since PyYAML merges each mapping in place.
-/

namespace DetectorSearch.Yaml

/-- A part of a document. It tells the places of its own parts. -/
inductive Node where
  | scalar (tag : Tag) (text : List Char)
  | sequence (tag : Tag) (items : List Nat)
  | mapping (tag : Tag) (pairs : List (Nat × Nat))

namespace Node

/-- The node that stands where nothing is written. -/
def empty : Node := .scalar .null []

/-- The tag of a node. -/
def tag : Node → Tag
  | scalar tag _ => tag
  | sequence tag _ => tag
  | mapping tag _ => tag

end Node

/-- The nodes of a document by their places. -/
abbrev Graph := Array Node

namespace Graph

/-- The node at a place. Where none stands, it is the empty one. -/
def node (graph : Graph) (place : Nat) : Node :=
  graph.getD place .empty

/-- The tag of the node at a place. -/
def tag (graph : Graph) (place : Nat) : Tag :=
  (graph.node place).tag

end Graph

end DetectorSearch.Yaml

namespace DetectorSearch.Yaml.Graph

/-- Whether the key of a pair is the one under which other mappings are merged. -/
def isMerge (graph : Graph) (pair : Nat × Nat) : Bool :=
  graph.tag pair.1 == .merge

/-- The pairs that a node under a merge key lends, given those of a mapping. Of several mappings the
first one counts most. -/
def lent (graph : Graph) (pairsAt : Nat → Except Fault (List (Nat × Nat))) (place : Nat) :
    Except Fault (List (Nat × Nat)) :=
  match graph.node place with
  | .mapping _ _ => pairsAt place
  | .sequence _ items => do return (← items.mapM pairsAt).reverse.flatten
  | .scalar _ _ => .error .badMerge

/-- The pairs of a mapping with those that are lent to it in front. `around` are the mappings that are
being merged already; there are fewer of them than nodes. -/
def pairsAt (graph : Graph) : Nat → List Nat → Nat → Except Fault (List (Nat × Nat))
  | 0, _, _ => .ok []
  | fuel + 1, around, place =>
      match graph.node place with
      | .mapping _ pairs =>
          let (merges, own) := pairs.partition graph.isMerge
          if around.contains place then .ok own
          else do
            let borrowed ← merges.mapM fun pair =>
              graph.lent (pairsAt graph fuel (place :: around)) pair.2
            return borrowed.flatten ++ own
      | _ => .error .badMerge

/-- The pairs of a mapping with all merges done. -/
def pairs (graph : Graph) (place : Nat) : Except Fault (List (Nat × Nat)) :=
  graph.pairsAt (graph.size + 1) [] place

end DetectorSearch.Yaml.Graph
