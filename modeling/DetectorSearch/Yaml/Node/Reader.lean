import DetectorSearch.Keyed
import DetectorSearch.Yaml.Node
/-! # From tokens to nodes

`Graph.ofTokens` reads the one document that a row of tokens may hold, by the grammar of YAML 1.1
that PyYAML parses. Where a node is left out, the empty scalar stands. A collection gets its place
before its parts are read, so that an alias among them can hold it. Each step takes a token or
begins the node at hand, so twice the number of tokens bounds the steps.
-/

namespace DetectorSearch.Yaml

/-- The tokens that are left, the fault behind the last one, if there is one, the nodes so far, and the
places that anchors have named. -/
structure Remaining extends TokenRow where
  anchors : Keyed Nat
  nodes : Graph

namespace Remaining

/-- What is left behind the first token. -/
def next (r : Remaining) : Remaining :=
  { r with tokens := r.tokens.drop 1 }

/-- Whether the first token is one of some. -/
def isAt (tokens : List Token) (r : Remaining) : Bool :=
  (r.tokens.head?.map tokens.contains).getD false

/-- What is wrong where another token has to follow. -/
def unexpected (r : Remaining) : Fault :=
  if r.tokens.isEmpty then r.fault.getD .unexpectedOrder else .unexpectedOrder

/-- Makes sure that there is a token, or no fault that keeps it away. -/
def check (r : Remaining) : Except Fault Unit :=
  match r.tokens, r.fault with
  | [], some fault => .error fault
  | _, _ => .ok ()

/-- Gives a node a place. -/
def add (node : Node) (r : Remaining) : Nat × Remaining :=
  (r.nodes.size, { r with nodes := r.nodes.push node })

/-- Puts a node at a place. -/
def fill (place : Nat) (node : Node) (r : Remaining) : Remaining :=
  { r with nodes := r.nodes.setIfInBounds place node }

end Remaining

/-- What stands in front of a node: an anchor, a tag, or both in any order. -/
structure Marks where
  anchor : Option String
  tag : Option WrittenTag

/-- Whether no other mark can follow. -/
def Marks.areFull (marks : Marks) : Bool :=
  marks.anchor.isSome && marks.tag.isSome

/-- Reads the marks in front of a node. -/
def Marks.read (r : Remaining) : Marks × Remaining :=
  match r.tokens with
  | .anchor name :: .tag tag :: rest => (⟨some name, some tag⟩, { r with tokens := rest })
  | .anchor name :: rest => (⟨some name, none⟩, { r with tokens := rest })
  | .tag tag :: .anchor name :: rest => (⟨some name, some tag⟩, { r with tokens := rest })
  | .tag tag :: rest => (⟨none, some tag⟩, { r with tokens := rest })
  | _ => (⟨none, none⟩, r)

/-- What the handles stand for that need no directive. -/
def standardHandles : Keyed String :=
  [("!", "!"), ("!!", Tag.domain)]

/-- The tag of a node, given what handles stand for. A lone exclamation mark leaves the choice to the
text. -/
def Marks.tag? (handles : Keyed String) (marks : Marks) : Except Fault (Option Tag) :=
  match marks.tag with
  | none => .ok none
  | some ⟨none, rest⟩ => .ok (if rest = "!" then none else some (Tag.ofName rest))
  | some ⟨some handle, rest⟩ =>
      match Keyed.find? handle (handles ++ standardHandles) with
      | some meaning => .ok (some (Tag.ofName (meaning ++ rest)))
      | none => .error (.unknownHandle handle)

/-- Gives a node a place, and a name if it has an anchor. -/
def Marks.add (marks : Marks) (node : Node) (r : Remaining) : Nat × Remaining :=
  let (place, r) := r.add node
  match marks.anchor with
  | some name => (place, { r with anchors := Keyed.put name place r.anchors })
  | none => (place, r)

/-- Whether the anchor names another node already. -/
def Marks.isTaken (marks : Marks) (r : Remaining) : Bool :=
  (marks.anchor.map fun name => Keyed.has name r.anchors).getD false

/-- The tag of a scalar: the one that is given, that of a plain text, or else that of a text. -/
def scalarTag (marks : Marks) (tag : Option Tag) (text : List Char) (isPlain : Bool) : Tag :=
  match tag with
  | some tag => tag
  | none => if isPlain || marks.tag.isSome then Tag.ofText text else .text

/-- The node that is left out behind its marks. -/
def leftOut (marks : Marks) (tag : Option Tag) : Except Fault Node :=
  if marks.anchor.isNone && marks.tag.isNone then .error .unexpectedOrder
  else .ok (.scalar (tag.getD .null) [])

/-- What may follow a dash without a node between: another dash or the end of the block. -/
def entryEnds : List Token := [.entry, .blockEnd]

/-- What may follow a key or a colon of a block without a node between. -/
def pairEnds : List Token := [.key, .value, .blockEnd]

/-- The most collections that one may be in. -/
def depthLimit : Nat := 485

/-- How many collections may yet be entered inside one more. -/
def entered : Nat → Except Fault Nat
  | 0 => .error .tooDeep
  | depth + 1 => .ok depth

mutual

/-- Reads a node and tells its place. Blocks are allowed only outside brackets; `afterKey` says that
dashes in the column of the key are a sequence. `depth` is how many collections may yet be entered. -/
def readNode (handles : Keyed String) :
    Nat → Nat → Bool → Bool → Remaining → Except Fault (Nat × Remaining)
  | 0, _, _, _, _ => .error .unexpectedOrder
  | fuel + 1, depth, inBlock, afterKey, r =>
      match r.tokens with
      | .alias name :: _ =>
          match Keyed.find? name r.anchors with
          | some place => .ok (place, r.next)
          | none => .error (.unknownAnchor name)
      | _ => do
          let (marks, r) := Marks.read r
          if !marks.areFull then r.check
          let tag ← marks.tag? handles
          r.check
          if marks.isTaken r then throw (.repeatedAnchor (marks.anchor.getD ""))
          let ofItems := Node.sequence (tag.getD .sequence)
          let ofPairs := Node.mapping (tag.getD .mapping)
          match r.tokens with
          | .scalar text isPlain :: _ =>
              return marks.add (.scalar (scalarTag marks tag text isPlain) text) r.next
          | .opening .square :: _ =>
              let (place, r) := marks.add (ofItems []) r.next
              let (items, r) ← readItems handles fuel (← entered depth) true r
              return (place, r.fill place (ofItems items))
          | .opening .curly :: _ =>
              let (place, r) := marks.add (ofPairs []) r.next
              let (pairs, r) ← readFields handles fuel (← entered depth) true r
              return (place, r.fill place (ofPairs pairs))
          | .entry :: _ =>
              if !afterKey then return marks.add (← leftOut marks tag) r
              let (place, r) := marks.add (ofItems []) r
              let (items, r) ← readEntries handles fuel (← entered depth) false r
              return (place, r.fill place (ofItems items))
          | .sequenceStart :: _ =>
              if !inBlock then return marks.add (← leftOut marks tag) r
              let (place, r) := marks.add (ofItems []) r.next
              let (items, r) ← readEntries handles fuel (← entered depth) true r
              return (place, r.fill place (ofItems items))
          | .mappingStart :: _ =>
              if !inBlock then return marks.add (← leftOut marks tag) r
              let (place, r) := marks.add (ofPairs []) r.next
              let (pairs, r) ← readPairs handles fuel (← entered depth) r
              return (place, r.fill place (ofPairs pairs))
          | _ => return marks.add (← leftOut marks tag) r

/-- Reads a node, or takes the empty one in front of some tokens. -/
def readOptional (handles : Keyed String) :
    Nat → Nat → List Token → Bool → Bool → Remaining → Except Fault (Nat × Remaining)
  | 0, _, _, _, _, _ => .error .unexpectedOrder
  | fuel + 1, depth, ends, inBlock, afterKey, r =>
      if r.isAt ends then .ok (r.add .empty) else readNode handles fuel depth inBlock afterKey r

/-- Reads the entries of a block. One that stands in the column of its key has no end of its own. -/
def readEntries (handles : Keyed String) :
    Nat → Nat → Bool → Remaining → Except Fault (List Nat × Remaining)
  | 0, _, _, _ => .error .unexpectedOrder
  | fuel + 1, depth, hasEnd, r =>
      match r.tokens with
      | .entry :: _ => do
          let ends := if hasEnd then entryEnds else .entry :: pairEnds
          let (item, r) ← readOptional handles fuel depth ends true false r.next
          let (items, r) ← readEntries handles fuel depth hasEnd r
          return (item :: items, r)
      | _ =>
          if !hasEnd then .ok ([], r)
          else if r.isAt [.blockEnd] then .ok ([], r.next)
          else .error r.unexpected

/-- Reads the keys and values of a block. -/
def readPairs (handles : Keyed String) :
    Nat → Nat → Remaining → Except Fault (List (Nat × Nat) × Remaining)
  | 0, _, _ => .error .unexpectedOrder
  | fuel + 1, depth, r =>
      match r.tokens with
      | .blockEnd :: _ => .ok ([], r.next)
      | .key :: _ => do
          let (key, r) ← readOptional handles fuel depth pairEnds true true r.next
          let (value, r) ← readValue handles fuel depth pairEnds true r
          let (pairs, r) ← readPairs handles fuel depth r
          return ((key, value) :: pairs, r)
      | _ => .error r.unexpected

/-- Reads the value of a key, if there is one. -/
def readValue (handles : Keyed String) :
    Nat → Nat → List Token → Bool → Remaining → Except Fault (Nat × Remaining)
  | 0, _, _, _, _ => .error .unexpectedOrder
  | fuel + 1, depth, ends, inBlock, r =>
      if r.isAt [.value] then readOptional handles fuel depth ends inBlock inBlock r.next
      else .ok (r.add .empty)

/-- Reads the items inside square brackets; a key and its value make an item. `isFirst` says that no
comma has to stand in front. -/
def readItems (handles : Keyed String) :
    Nat → Nat → Bool → Remaining → Except Fault (List Nat × Remaining)
  | 0, _, _, _ => .error .unexpectedOrder
  | fuel + 1, depth, isFirst, r =>
      let close := Token.closing .square
      if r.isAt [close] then .ok ([], r.next)
      else if !isFirst && !r.isAt [.comma] then .error r.unexpected
      else
        let r := if isFirst then r else r.next
        if r.isAt [close] then .ok ([], r.next)
        else if r.isAt [.key] then do
          let inside ← entered depth
          let (key, r) ← readOptional handles fuel inside [.value, .comma, close] false false r.next
          let (value, r) ← readValue handles fuel inside [.comma, close] false r
          let (place, r) := r.add (.mapping .mapping [(key, value)])
          let (items, r) ← readItems handles fuel depth false r
          return (place :: items, r)
        else do
          let (item, r) ← readNode handles fuel depth false false r
          let (items, r) ← readItems handles fuel depth false r
          return (item :: items, r)

/-- Reads the keys and values inside curly brackets; a node that is no key has no value. -/
def readFields (handles : Keyed String) :
    Nat → Nat → Bool → Remaining → Except Fault (List (Nat × Nat) × Remaining)
  | 0, _, _, _ => .error .unexpectedOrder
  | fuel + 1, depth, isFirst, r =>
      let close := Token.closing .curly
      if r.isAt [close] then .ok ([], r.next)
      else if !isFirst && !r.isAt [.comma] then .error r.unexpected
      else
        let r := if isFirst then r else r.next
        if r.isAt [close] then .ok ([], r.next)
        else if r.isAt [.key] then do
          let (key, r) ← readOptional handles fuel depth [.value, .comma, close] false false r.next
          let (value, r) ← readValue handles fuel depth [.comma, close] false r
          let (pairs, r) ← readFields handles fuel depth false r
          return ((key, value) :: pairs, r)
        else do
          let (key, r) ← readNode handles fuel depth false false r
          let (empty, r) := r.add .empty
          let (pairs, r) ← readFields handles fuel depth false r
          return ((key, empty) :: pairs, r)

end

/-- The directives in front of a document, as what its handles stand for. A version or a handle may
be declared only once, and only version one is known. -/
def readDirectives : Bool → Keyed String → List Token → Except Fault (Keyed String × List Token)
  | hasVersion, handles, .directive (.version major _) :: rest =>
      if hasVersion || major ≠ 1 then .error .badDirective
      else readDirectives true handles rest
  | hasVersion, handles, .directive (.handle name meaning) :: rest =>
      if Keyed.has name handles then .error .badDirective
      else readDirectives hasVersion (Keyed.put name meaning handles) rest
  | hasVersion, handles, .directive .other :: rest => readDirectives hasVersion handles rest
  | _, handles, tokens => .ok (handles, tokens)

/-- Whether a token is a directive. -/
def isDirective : Token → Bool
  | .directive _ => true
  | _ => false

/-- Whether a token cannot begin what a document holds. -/
def isBetweenDocuments : Token → Bool
  | .directive _ | .documentStart | .documentEnd => true
  | _ => false

/-- Makes sure that no other document follows. -/
def Remaining.checkEnd (r : Remaining) : Except Fault Unit := do
  let rest := r.tokens.dropWhile (· == .documentEnd)
  Remaining.check { r with tokens := rest.dropWhile isDirective }
  if !rest.isEmpty then throw .secondDocument

/-- Reads the content of a document and makes sure that no other document follows. -/
def readContent (handles : Keyed String) (row : TokenRow) : Except Fault (Graph × Nat) := do
  let start : Remaining := ⟨row, [], #[]⟩
  start.check
  let (root, r) ←
    match row.tokens with
    | [] => .ok (start.add .empty)
    | first :: _ =>
        if isBetweenDocuments first then .ok (start.add .empty)
        else readNode handles (2 * row.tokens.length + 2) depthLimit true false start
  r.checkEnd
  return (r.nodes, root)

/-- The document that tokens hold, if they hold any: its nodes, and the place of the outermost. -/
def Graph.ofTokens (row : TokenRow) : Except Fault (Option (Graph × Nat)) :=
  match row.tokens with
  | [] =>
      match row.fault with
      | some fault => .error fault
      | none => .ok none
  | tokens@(.directive _ :: _) | tokens@(.documentStart :: _) => do
      let (handles, rest) ← readDirectives false [] tokens
      Remaining.check ⟨⟨rest, row.fault⟩, [], #[]⟩
      if rest.head? ≠ some .documentStart then throw .unexpectedOrder
      some <$> readContent handles ⟨rest.drop 1, row.fault⟩
  | .documentEnd :: _ => .error .unexpectedOrder
  | _ => some <$> readContent [] row

end DetectorSearch.Yaml
