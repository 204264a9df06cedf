import DetectorSearch.Yaml.Scalar.Block
import DetectorSearch.Yaml.Scalar.Plain
import DetectorSearch.Yaml.Scalar.Quoted
import DetectorSearch.Yaml.Token.Mark
/-! # From characters to tokens

The columns at which lines begin tell which blocks begin and end. A token is known to be a key only
when a colon follows it, on the same line and after at most 1024 characters, the limit of YAML 1.1
for a simple key; so the place of the last token that may be a key is kept, and the tokens that
announce a key are put in front of it afterwards, as PyYAML does. Inside brackets the columns do
not count.
-/

namespace DetectorSearch.Yaml

/-- A token that may turn out to be a key. -/
structure PossibleKey where
  /-- How many tokens come before it. -/
  position : Nat
  /-- Whether it stands where only a key can stand. -/
  isRequired : Bool
  begins : Cursor

namespace PossibleKey

/-- How many characters a key may have at most, with what follows it before its colon. -/
def reach : Nat := 1024

/-- Whether a colon at a place would come too late. -/
def isStale (key : PossibleKey) (c : Cursor) : Bool :=
  key.begins.line ≠ c.line || reach < c.offset - key.begins.offset

end PossibleKey

/-- The tokens so far, and what decides about those to come. -/
structure Layout where
  cursor : Cursor
  tokens : Array Token
  /-- The columns of the open blocks, the innermost first. -/
  columns : List Nat
  /-- Whether a key may begin here. -/
  keyAllowed : Bool
  /-- The last token that may be a key, outside or inside the innermost brackets. -/
  key : Option PossibleKey
  /-- The same for what holds the brackets, one for each open bracket. -/
  outer : List (Option PossibleKey)

namespace Layout

/-- The layout at the beginning of a document. -/
def start (text : List Char) : Layout :=
  ⟨Cursor.start text, #[], [], true, none, []⟩

/-- Whether brackets are open. -/
def inFlow (l : Layout) : Bool := !l.outer.isEmpty

/-- The least column of what the innermost block holds. -/
def floor (l : Layout) : Nat :=
  match l.columns with
  | [] => 0
  | column :: _ => column + 1

/-- The layout with a token more, and the place behind it. -/
def push (token : Token) (after : Cursor) (l : Layout) : Layout :=
  { l with tokens := l.tokens.push token, cursor := after }

/-- Gives up a possible key, unless it has to be one. -/
def giveUp : Option PossibleKey → Except Fault (Option PossibleKey)
  | some key => if key.isRequired then .error .missingColon else .ok none
  | none => .ok none

/-- Gives up the last possible key. -/
def dropKey (l : Layout) : Except Fault Layout := do
  return { l with key := ← giveUp l.key }

/-- Gives up the possible keys for which a colon would come too late. -/
def dropStaleKeys (l : Layout) : Except Fault Layout := do
  let check := fun (key : Option PossibleKey) =>
    if (key.map (·.isStale l.cursor)).getD false then giveUp key else .ok key
  return { l with key := ← check l.key, outer := ← l.outer.mapM check }

/-- Notes that the next token may be a key. -/
def noteKey (l : Layout) : Except Fault Layout :=
  if !l.keyAllowed then .ok l
  else do
    let l ← l.dropKey
    let isRequired := !l.inFlow && l.columns.head? == some l.cursor.column
    return { l with key := some ⟨l.tokens.size, isRequired, l.cursor⟩ }

/-- Ends the blocks that begin at columns of a class, the innermost first. -/
def closeBlocks (closes : Nat → Bool) (l : Layout) : Layout :=
  if l.inFlow then l
  else
    { l with
      columns := l.columns.dropWhile closes
      tokens := l.tokens ++ Array.replicate (l.columns.takeWhile closes).length .blockEnd }

/-- Whether a block at a column would be deeper than the innermost one. -/
def isDeeper (column : Nat) (l : Layout) : Bool :=
  l.floor ≤ column

/-- Begins a block at a column, its token put after the given count of tokens, unless the innermost
block is as deep already. -/
def openBlock (token : Token) (column position : Nat) (l : Layout) : Layout :=
  if !l.inFlow && l.isDeeper column then
    { l with
      columns := column :: l.columns
      tokens := l.tokens.insertIdxIfInBounds position token }
  else l

/-- Passes over spaces, comments and line ends. At the beginning of a line outside brackets a key
may begin. -/
def skipGaps : Nat → Layout → Layout
  | 0, l => l
  | fuel + 1, l =>
      let c := l.cursor.skipComment
      match c.rest with
      | [] => { l with cursor := c }
      | first :: _ =>
          if isBreak first then
            skipGaps fuel { l with cursor := c.next, keyAllowed := l.keyAllowed || !l.inFlow }
          else { l with cursor := c }

/-- An indicator of a block: a dash, a question mark or a colon without a key in front of it. -/
def readIndicator (block token : Token) (indicator : Char) (keyAfter : Bool) (l : Layout) :
    Except Fault Layout := do
  if !l.inFlow && !l.keyAllowed then throw (.misplaced indicator)
  let l := l.openBlock block l.cursor.column l.tokens.size
  let l ← l.dropKey
  return { l.push token l.cursor.next with keyAllowed := keyAfter }

/-- A colon. A possible key in front of it is one, and may begin a block. -/
def readColon (l : Layout) : Except Fault Layout :=
  match l.key with
  | some key =>
      let announced :=
        { l with tokens := l.tokens.insertIdxIfInBounds key.position .key, key := none }
      let l := announced.openBlock .mappingStart key.begins.column key.position
      .ok { l.push .value l.cursor.next with keyAllowed := false }
  | none => l.readIndicator .mappingStart .value ':' (!l.inFlow)

/-- An opening bracket. -/
def readOpening (bracket : Bracket) (l : Layout) : Except Fault Layout := do
  let l ← l.noteKey
  return { l.push (.opening bracket) l.cursor.next with
    outer := l.key :: l.outer, key := none, keyAllowed := true }

/-- A closing bracket. -/
def readClosing (bracket : Bracket) (l : Layout) : Except Fault Layout := do
  let l ← l.dropKey
  match l.outer with
  | [] => throw .unexpectedOrder
  | key :: outer =>
      return { l.push (.closing bracket) l.cursor.next with
        outer := outer, key := key, keyAllowed := false }

/-- A comma inside brackets. -/
def readComma (l : Layout) : Except Fault Layout := do
  let l ← l.dropKey
  return { l.push .comma l.cursor.next with keyAllowed := true }

/-- A mark between documents, or a directive, that ends all blocks. -/
def endDocument (token : Token) (after : Cursor) (l : Layout) : Except Fault Layout := do
  let l ← (l.closeBlocks fun _ => true).dropKey
  return { l.push token after with keyAllowed := false }

/-- A token that may be a key, and the place behind it. -/
def pushNode (token : Token) (after : Cursor) (l : Layout) : Except Fault Layout := do
  let l ← l.noteKey
  return { l.push token after with keyAllowed := false }

/-- A directive. -/
def readDirectiveLine (l : Layout) : Except Fault Layout := do
  let (directive, rest) ← readDirective (l.cursor.rest.drop 1)
  let atEnd := (l.cursor.skipTo rest).skipComment
  if endsLine atEnd.rest then l.endDocument (.directive directive) atEnd.next
  else throw .badDirective

/-- A plain scalar. A key may follow it only on a line of its own. -/
def readPlainScalar (l : Layout) : Except Fault Layout := do
  let (text, gap) := readPlain l.inFlow l.floor l.cursor
  let l ← l.pushNode (.scalar text true) gap.after
  return { l with keyAllowed := gap.crosses }

/-- A block scalar. -/
def readBlockScalar (fold : Bool) (l : Layout) : Except Fault Layout := do
  let l ← l.dropKey
  let (text, after) ← readBlock fold l.floor l.cursor
  return { l.push (.scalar text false) after with keyAllowed := true }

/-- A quoted scalar. -/
def readQuotedScalar (double : Bool) (l : Layout) : Except Fault Layout := do
  let (text, after) ← readQuoted double l.cursor
  l.pushNode (.scalar text false) after

/-- An anchor, an alias or a tag that a reader finds in front of what it gives back. -/
def readMark {α : Type} (read : List Char → Except Fault (α × List Char)) (token : α → Token)
    (s : List Char) (l : Layout) : Except Fault Layout := do
  let (mark, rest) ← read s
  l.pushNode (token mark) (l.cursor.skipTo rest)

/-- Whether a plain scalar may begin with a character, given what follows it. -/
def beginsPlain (inFlow : Bool) (first : Char) (rest : List Char) : Bool :=
  !(isGap first || "-?:,[]\x7b\x7d#&*!|>'\"%@\x60".toList.contains first) ||
    (!endsWord rest && (first == '-' || (!inFlow && (first == '?' || first == ':'))))

/-- The token that begins with a character; `rest` follows it. -/
def readToken (first : Char) (rest : List Char) (l : Layout) : Except Fault Layout :=
  let c := l.cursor
  let atLineStart := c.column == 0
  let ofBlock := endsWord rest
  if atLineStart && first == '%' then l.readDirectiveLine
  else if atLineStart && c.isAtMark '-' then l.endDocument .documentStart (c.skip 3)
  else if atLineStart && c.isAtMark '.' then l.endDocument .documentEnd (c.skip 3)
  else if first == '[' then l.readOpening .square
  else if first == '\x7b' then l.readOpening .curly
  else if first == ']' then l.readClosing .square
  else if first == '\x7d' then l.readClosing .curly
  else if first == ',' then l.readComma
  else if first == '-' && ofBlock then l.readIndicator .sequenceStart .entry '-' true
  else if first == '?' && (l.inFlow || ofBlock) then
    l.readIndicator .mappingStart .key '?' (!l.inFlow)
  else if first == ':' && (l.inFlow || ofBlock) then l.readColon
  else if first == '*' then l.readMark readName .alias rest
  else if first == '&' then l.readMark readName .anchor rest
  else if first == '!' then l.readMark readTag .tag (first :: rest)
  else if (first == '|' || first == '>') && !l.inFlow then l.readBlockScalar (first == '>')
  else if first == '\'' || first == '"' then l.readQuotedScalar (first == '"')
  else if beginsPlain l.inFlow first rest then l.readPlainScalar
  else .error (.noToken first)

/-- Reads the next token, with the ends of blocks in front of it, and tells whether there was one. -/
def readNext (l : Layout) : Except Fault (Layout × Bool) := do
  let l ← (l.skipGaps (l.cursor.rest.length + 1)).dropStaleKeys
  let l := l.closeBlocks (l.cursor.column < ·)
  match l.cursor.rest with
  | [] => return (← (l.closeBlocks fun _ => true).dropKey, false)
  | first :: rest => return (← l.readToken first rest, true)

/-- How many tokens are known for sure: from the first one that may yet be a key, others may come. -/
def settled (l : Layout) : Nat :=
  let keys := ((l.key :: l.outer).filterMap id).filter (!·.isStale l.cursor)
  keys.foldl (fun count key => min count key.position) l.tokens.size

/-- The tokens up to the end. Each step takes at least one character. Where a fault stops the reading,
the tokens known for sure are left. -/
def readAll : Nat → Layout → TokenRow
  | 0, l => ⟨l.tokens.toList, some .unexpectedOrder⟩
  | fuel + 1, l =>
      match l.readNext with
      | .ok (l, true) => readAll fuel l
      | .ok (l, false) => ⟨l.tokens.toList, none⟩
      | .error fault => ⟨l.tokens.toList.take l.settled, some fault⟩

end Layout

/-- The tokens of a document. -/
def Token.ofChars (text : List Char) : TokenRow :=
  match text.find? (!isAllowed ·) with
  | some c => ⟨[], some (.forbidden c)⟩
  | none =>
      let text := unifyBreaks text
      let text := if text.head? == some byteOrderMark then text.drop 1 else text
      Layout.readAll (text.length + 1) (Layout.start text)

end DetectorSearch.Yaml
