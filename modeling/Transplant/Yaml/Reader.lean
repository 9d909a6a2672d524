import Transplant.Yaml.Graph

/-!
# Reading nodes

The nodes of a document are read from its tokens. An alias is the node that it names, which may be one
whose parts are still being read.
-/

namespace Transplant.Yaml.Graph

/-- The state of the reader: the lexer, the tag handles in force, the named nodes and all nodes. -/
structure Reader where
  lexer : Lexer
  handles : List (List Char × List Char) := []
  anchors : List (List Char × NodeId) := []
  graph : Graph := ⟨#[]⟩

/-- A read of a part of the document. -/
abbrev Parse := StateT Reader (Except Fault)

/-- The fault at a place, inside a part that starts at another. -/
def fail {α : Type} (problem : Problem) (mark : Mark) (context : Option (String × Mark) := none) : Parse α :=
  throw (.found problem mark (context.map fun (subject, start) => (.during .parsing subject, some start)))

/-- The next piece of the document. -/
def peekPiece : Parse Piece := do
  let r ← get
  let lexer ← r.lexer.fill (r.lexer.cursor.rest.length + 2)
  set { r with lexer := lexer }
  return lexer.tokens.headD ⟨.streamEnd, lexer.cursor.mark, lexer.cursor.mark⟩

/-- The next token. -/
def peek : Parse Token :=
  return (← peekPiece).token

/-- Takes the next token. -/
def advance : Parse Unit :=
  modify fun r => { r with
    lexer := { r.lexer with tokens := r.lexer.tokens.tail, taken := r.lexer.taken + 1 } }

/-- Takes the next token when it is a given one; the result is where it ends. -/
def accept? (t : Token) : Parse (Option Mark) := do
  let p ← peekPiece
  if p.token == t then
    advance
    return some p.stop
  else return none

/-- Takes the next token when it is a given one. -/
def accept (t : Token) : Parse Bool :=
  return (← accept? t).isSome

/-- The fault of the next token in the place of something else. -/
def failAtToken {α : Type} (wanted subject : String) (start : Mark) : Parse α := do
  let p ← peekPiece
  fail (.expected wanted (.piece p.token.name)) p.start (some (subject, start))

/-- The fault of the next token in the place of a comma or the end of a flow collection. -/
def failBetween {α : Type} (closing : Char) (subject : String) (start : Mark) : Parse α := do
  let p ← peekPiece
  fail (.noSeparator closing p.token.name) p.start (some (subject, start))

/-- Adds a node. -/
def add (node : Node) : Parse NodeId := do
  let r ← get
  set { r with graph := r.graph.push node }
  return r.graph.size

/-- The empty scalar where a node is left out. -/
def addEmpty (mark : Mark) : Parse NodeId :=
  add ⟨.null, .scalar ⟨[], true, none⟩, mark⟩

/-! ## Properties -/

/-- The anchor and the tag in front of a node, and where they start. -/
structure Properties where
  anchor : Option (List Char) := none
  tag : Option (Option (List Char) × List Char × Mark) := none
  start : Option Mark := none

/-- Reads the anchor and the tag in front of a node, in either order. -/
def properties : Parse Properties := do
  let first ← peekPiece
  match first.token with
  | .anchor name =>
    advance
    let second ← peekPiece
    match second.token with
    | .tag handle suffix =>
      advance
      return ⟨some name, some (handle, suffix, second.start), some first.start⟩
    | _ => return ⟨some name, none, some first.start⟩
  | .tag handle suffix =>
    advance
    let second ← peekPiece
    match second.token with
    | .anchor name =>
      advance
      return ⟨some name, some (handle, suffix, first.start), some first.start⟩
    | _ => return ⟨none, some (handle, suffix, first.start), some first.start⟩
  | _ => return ⟨none, none, none⟩

/-- The full name of a tag, nothing for the mark `!` that leaves the type open. -/
def expandTag (p : Properties) : Parse (Option (List Char)) := do
  match p.tag with
  | none => return none
  | some (none, suffix, _) => return some suffix
  | some (some handle, suffix, mark) =>
    match (← get).handles.find? fun h => h.1 == handle with
    | some (_, expansion) => return some (expansion ++ suffix)
    | none => fail (.unknownHandle handle) mark (p.start.map fun start => ("a node", start))

/-- Adds a node that may have a name. -/
def addNamed (anchor : Option (List Char)) (node : Node) : Parse NodeId := do
  let id ← add node
  match anchor with
  | none => return id
  | some name =>
    modify fun r => { r with anchors := (name, id) :: r.anchors }
    return id

/-- Refuses a name that has been given before. -/
def checkAnchor (anchor : Option (List Char)) (mark : Mark) : Parse Unit := do
  match anchor with
  | none => return
  | some name =>
    let r ← get
    match r.anchors.find? fun a => a.1 == name with
    | some (_, id) =>
      throw (.found .secondOccurrence mark (some (.firstOccurrence name, some (r.graph.node id).mark)))
    | none => return

/-- The node that an alias names. -/
def resolve (name : List Char) (mark : Mark) : Parse NodeId := do
  match (← get).anchors.find? fun a => a.1 == name with
  | some (_, id) => return id
  | none => fail (.unknownAlias name) mark

/-- The type of a scalar with its written tag. -/
def scalarTag (tag : Option (List Char)) (s : Scalar) : Tag :=
  match tag with
  | none => if s.plain then Tag.ofPlain s.text else .text
  | some ['!'] => Tag.ofPlain s.text
  | some name => Tag.ofName name

/-- The type of a collection with its written tag. -/
def collectionTag (tag : Option (List Char)) (usual : Tag) : Tag :=
  match tag with
  | none | some ['!'] => usual
  | some name => Tag.ofName name

/-! ## Nodes -/

/-- Whether an entry of a block mapping is left out before a token. -/
def endsBlockEntry (t : Token) : Bool :=
  t == .key || t == .value || t == .blockEnd

mutual

/-- A node. In a block, block collections may follow; where a key or value of a block mapping is
expected, so may a sequence without indentation. -/
def parseNode (block indentless : Bool) : (fuel : Nat) → Parse NodeId
  | 0 => do
    failAtToken "the node content" "a node" (← peekPiece).start
  | fuel + 1 => do
    let first ← peekPiece
    match first.token with
    | .alias name =>
      advance
      resolve name first.start
    | _ =>
      let props ← properties
      let anchor := props.anchor
      let tag ← expandTag props
      let p ← peekPiece
      let start := props.start.getD p.start
      let collection (usual : Tag) (empty : Content) (read : Parse Content) : Parse NodeId := do
        checkAnchor anchor start
        let id ← addNamed anchor ⟨collectionTag tag usual, empty, start⟩
        let content ← read
        modify fun r => { r with graph := r.graph.setContent id content }
        return id
      let sequence (read : Parse (List NodeId)) : Parse NodeId :=
        collection .sequence (.sequence []) (.sequence <$> read)
      let mapping (read : Parse (List (NodeId × NodeId))) : Parse NodeId :=
        collection .mapping (.mapping []) (.mapping <$> read)
      let scalar (s : Scalar) : Parse NodeId := do
        checkAnchor anchor start
        addNamed anchor ⟨scalarTag tag s, .scalar s, start⟩
      let leftOut : Parse NodeId := do
        if anchor.isSome || tag.isSome then scalar ⟨[], true, none⟩
        else failAtToken "the node content" (if block then "a block node" else "a flow node") start
      match p.token with
      | .blockEntry => if indentless then sequence (indentlessItems fuel) else leftOut
      | .scalar s =>
        advance
        scalar s
      | .flowSequenceStart =>
        sequence do
          advance
          flowItems p.start true fuel
      | .flowMappingStart =>
        mapping do
          advance
          flowEntries p.start true fuel
      | .blockSequenceStart =>
        if block then
          sequence do
            advance
            blockItems p.start fuel
        else leftOut
      | .blockMappingStart =>
        if block then
          mapping do
            advance
            blockEntries p.start fuel
        else leftOut
      | _ => leftOut

/-- The items of a block sequence. -/
def blockItems (start : Mark) : (fuel : Nat) → Parse (List NodeId)
  | 0 => return []
  | fuel + 1 => do
    match ← accept? .blockEntry with
    | some stop =>
      let t ← peek
      let item ←
        if t == .blockEntry || t == .blockEnd then addEmpty stop else parseNode true false fuel
      return item :: (← blockItems start fuel)
    | none =>
      if ← accept .blockEnd then return [] else failAtToken "<block end>" "a block collection" start

/-- The items of a sequence without indentation of its own. -/
def indentlessItems : (fuel : Nat) → Parse (List NodeId)
  | 0 => return []
  | fuel + 1 => do
    match ← accept? .blockEntry with
    | some stop =>
      let t ← peek
      let item ←
        if t == .blockEntry || endsBlockEntry t then addEmpty stop else parseNode true false fuel
      return item :: (← indentlessItems fuel)
    | none => return []

/-- The entries of a block mapping. -/
def blockEntries (start : Mark) : (fuel : Nat) → Parse (List (NodeId × NodeId))
  | 0 => return []
  | fuel + 1 => do
    let part (stop : Mark) : Parse NodeId := do
      if endsBlockEntry (← peek) then addEmpty stop else parseNode true true fuel
    match ← accept? .key with
    | some stop =>
      let key ← part stop
      let value ← match ← accept? .value with
        | some stop => part stop
        | none => do addEmpty (← peekPiece).start
      return (key, value) :: (← blockEntries start fuel)
    | none =>
      if ← accept .blockEnd then return [] else failAtToken "<block end>" "a block mapping" start

/-- The key and value of an entry of a flow collection, up to a `,` or the closing token. -/
def flowPair (closing : Token) (stop : Mark) : (fuel : Nat) → Parse (NodeId × NodeId)
  | 0 => return (← addEmpty stop, ← addEmpty stop)
  | fuel + 1 => do
    let isLeftOut (t : Token) := t == .flowEntry || t == closing
    let t ← peek
    let key ← if t == .value || isLeftOut t then addEmpty stop else parseNode false false fuel
    let value ← match ← accept? .value with
      | some stop => if isLeftOut (← peek) then addEmpty stop else parseNode false false fuel
      | none => do addEmpty (← peekPiece).start
    return (key, value)

/-- The items of a flow sequence; an item may be a single entry of a mapping. -/
def flowItems (start : Mark) (first : Bool) : (fuel : Nat) → Parse (List NodeId)
  | 0 => return []
  | fuel + 1 => do
    if ← accept .flowSequenceEnd then return []
    if !first then
      if !(← accept .flowEntry) then failBetween ']' "a flow sequence" start
    let p ← peekPiece
    match ← accept? .key with
    | some stop =>
      let entry ← flowPair .flowSequenceEnd stop fuel
      let item ← add ⟨.mapping, .mapping [entry], p.start⟩
      return item :: (← flowItems start false fuel)
    | none =>
      if ← accept .flowSequenceEnd then return []
      let item ← parseNode false false fuel
      return item :: (← flowItems start false fuel)

/-- The entries of a flow mapping. -/
def flowEntries (start : Mark) (first : Bool) : (fuel : Nat) → Parse (List (NodeId × NodeId))
  | 0 => return []
  | fuel + 1 => do
    if ← accept .flowMappingEnd then return []
    if !first then
      if !(← accept .flowEntry) then failBetween '\x7d' "a flow mapping" start
    match ← accept? .key with
    | some stop =>
      let entry ← flowPair .flowMappingEnd stop fuel
      return entry :: (← flowEntries start false fuel)
    | none =>
      if ← accept .flowMappingEnd then return []
      let key ← parseNode false false fuel
      let value ← addEmpty (← peekPiece).start
      return (key, value) :: (← flowEntries start false fuel)

end

/-! ## Documents -/

/-- The tag handles that every document has. -/
def usualHandles : List (List Char × List Char) :=
  [(['!'], ['!']), (['!', '!'], Tag.standard)]

/-- Reads the directives before a document. -/
def directives : (fuel : Nat) → (versioned : Bool) → Parse Unit
  | 0, _ => return
  | fuel + 1, versioned => do
    let p ← peekPiece
    match p.token with
    | .version major =>
      if versioned then fail .secondVersion p.start
      if major != 1 then fail .futureVersion p.start
      advance
      directives fuel true
    | .tagHandle handle expansion =>
      if (← get).handles.any (·.1 == handle) then fail (.secondHandle handle) p.start
      advance
      modify fun r => { r with handles := (handle, expansion) :: r.handles }
      directives fuel versioned
    | .directive =>
      advance
      directives fuel versioned
    | _ => modify fun r => { r with
        handles := r.handles ++ usualHandles.filter fun h => !r.handles.any (·.1 == h.1) }

/-- Whether a token starts or ends a document rather than its content. -/
def isEdge : Token → Bool
  | .version _ | .tagHandle .. | .directive | .documentStart | .documentEnd | .streamEnd => true
  | _ => false

/-- Takes the ends of documents. -/
def skipEnds : (fuel : Nat) → Parse Unit
  | 0 => return
  | fuel + 1 => do if ← accept .documentEnd then skipEnds fuel

/-- Reads the start of a document, with its directives. -/
def documentStart (fuel : Nat) : Parse Unit := do
  modify fun r => { r with handles := [] }
  directives fuel false
  let p ← peekPiece
  if !(← accept .documentStart) then fail (.expected "'<document start>'" (.piece p.token.name)) p.start

/-- The only document of a stream, nothing for an empty stream. -/
def single (fuel : Nat) : Parse (Option NodeId) := do
  let first ← peek
  let root ←
    if !isEdge first || first == .documentEnd then do
      modify fun r => { r with handles := usualHandles }
      let root ← parseNode true false fuel
      pure (some root)
    else if first == .streamEnd then pure none
    else do
      documentStart fuel
      let p ← peekPiece
      if isEdge p.token then some <$> addEmpty p.start else some <$> parseNode true false fuel
  skipEnds fuel
  let p ← peekPiece
  match root with
  | some id =>
    if p.token != .streamEnd then
      documentStart fuel
      throw (.found .secondDocument p.start (some (.stream, some ((← get).graph.node id).mark)))
  | none => return none
  return root

/-- The root of a document with all its nodes, nothing for an empty one. A character leads to four tokens at
most, and each token is reached in four steps at most. -/
def ofSource? (source : Source) : Except Fault (Option NodeId × Graph) :=
  ((single (16 * source.chars.length + 64)).run { lexer := Lexer.start source }).map fun (root, r) =>
    (root, r.graph)

end Transplant.Yaml.Graph
