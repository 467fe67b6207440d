import Escrow.Yaml.Tag
import Escrow.Yaml.Token

/-!
# Nodes

A document as a graph of tagged scalars, sequences and mappings, read from its tokens.  A node may be
named by an anchor and stand again, under an alias, wherever it is known, also inside itself.
-/

namespace Escrow.Yaml

/-- What a node holds; other nodes are held by their numbers. -/
inductive Content where
  | scalar (text : String)
  | sequence (items : List Nat)
  | mapping (entries : List (Nat × Nat))
  deriving Inhabited

/-- A node of a document. -/
structure Node where
  tag : String
  content : Content
  deriving Inhabited

/-- The nodes of a document by their numbers, and the number of its root. -/
structure Graph where
  nodes : Array Node
  root : Nat

/-- What is known while nodes are read. -/
structure Reader where
  tokens : List Token
  /-- Why there are no more tokens, if the text goes on. -/
  fault : Option Fault
  nodes : Array Node := #[]
  /-- The named nodes. -/
  anchors : List (String × Nat) := []
  /-- What the handles of tags stand for. -/
  handles : List (String × String)

/-- A reading of nodes. -/
abbrev Read := StateT Reader (Except Fault)

/-- How deep collections may be nested. -/
def greatestDepth : Nat := 489

namespace Node

/-- The next token. -/
def peek : Read (Option Token) := do
  let reader ← get
  match reader.tokens, reader.fault with
  | token :: _, _ => return some token
  | [], some fault => throw fault
  | [], none => return none

/-- Drop the next token. -/
def drop : Read Unit := modify fun reader => { reader with tokens := reader.tokens.drop 1 }

/-- Read the next token if it is the given one. -/
def accept (token : Token) : Read Bool := do
  if (← peek) = some token then
    drop
    return true
  return false

/-- Read the given token. -/
def expect (token : Token) : Read Unit := do
  if !(← accept token) then throw .malformedDocument

/-- Is the next token one of these, or missing? -/
def isNext (tokens : List Token) : Read Bool := do
  match ← peek with
  | some token => return tokens.contains token
  | none => return true

/-- The tag of a scalar: its own, or one by its form if it is plain. -/
def scalarTag (tag : Option String) (isPlain : Bool) (text : String) : String :=
  match tag with
  | some "!" => (Form.ofText text).tag
  | some tag => tag
  | none => if isPlain then (Form.ofText text).tag else Form.text.tag

/-- The tag of a collection: its own, or the usual one. -/
def collectionTag (tag : Option String) (usual : String) : String :=
  match tag with
  | some "!" => coreTag usual
  | some tag => tag
  | none => coreTag usual

/-- The tag that a handle and a text stand for. -/
def completeTag (handle : Option String) (text : String) : Read String := do
  match handle with
  | none => return text
  | some handle =>
    match (← get).handles.lookup handle with
    | some start => return start ++ text
    | none => throw .malformedDocument

/-- Read the anchor and the tag of a node, in either order. -/
def properties : Nat → Option String → Option String → Read (Option String × Option String)
  | 0, anchor, tag => return (anchor, tag)
  | fuel + 1, anchor, tag => do
    match ← peek, anchor, tag with
    | some (.anchor name), none, _ =>
      drop
      properties fuel (some name) tag
    | some (.tag handle text), _, none =>
      drop
      properties fuel anchor (some (← completeTag handle text))
    | _, _, _ => return (anchor, tag)

/-- Add a node under its name, if it has one; every name is given once. -/
def add (anchor : Option String) (tag : String) (content : Content) : Read Nat := do
  let reader ← get
  let number := reader.nodes.size
  let anchors ←
    match anchor with
    | none => pure reader.anchors
    | some name =>
      if (reader.anchors.lookup name).isSome then throw .malformedDocument
      pure ((name, number) :: reader.anchors)
  set { reader with nodes := reader.nodes.push ⟨tag, content⟩, anchors := anchors }
  return number

/-- Add a node that is not written. -/
def addMissing : Read Nat := add none Form.null.tag (.scalar "")

/-- Say what a node holds. -/
def fill (number : Nat) (content : Content) : Read Nat := do
  modify fun reader => { reader with
    nodes := reader.nodes.modify number fun node => { node with content := content } }
  return number

/-- Add a node of which only the properties are written. -/
def addEmpty (anchor tag : Option String) : Read Nat := do
  if anchor.isNone && tag.isNone then throw .malformedDocument
  add anchor (scalarTag tag tag.isNone "") (.scalar "")

mutual

/-- Read a node that stands at a depth.  `block` allows block collections, and `indentless` a
sequence whose dashes stand in the column of the key before it. -/
def node (depth : Nat) (block indentless : Bool) : Nat → Read Nat
  | 0 => throw .tooDeep
  | fuel + 1 => do
    if greatestDepth < depth then throw .tooDeep
    if let some (.alias name) := ← peek then
      drop
      match (← get).anchors.lookup name with
      | some number => return number
      | none => throw .malformedDocument
    let (anchor, tag) ← properties 2 none none
    let sequence (items : Read (List Nat)) : Read Nat := do
      let number ← add anchor (collectionTag tag "seq") (.sequence [])
      fill number (.sequence (← items))
    let mapping (entries : Read (List (Nat × Nat))) : Read Nat := do
      let number ← add anchor (collectionTag tag "map") (.mapping [])
      fill number (.mapping (← entries))
    match ← peek with
    | some .blockEntry =>
      if indentless then sequence (indentlessItems (depth + 1) fuel) else addEmpty anchor tag
    | some (.scalar text isPlain) =>
      drop
      add anchor (scalarTag tag isPlain text) (.scalar text)
    | some .flowSequenceStart =>
      drop
      sequence (flowItems (depth + 1) true fuel)
    | some .flowMappingStart =>
      drop
      mapping (flowEntries (depth + 1) true fuel)
    | some .blockSequenceStart =>
      if block then
        drop
        sequence (blockItems (depth + 1) fuel)
      else addEmpty anchor tag
    | some .blockMappingStart =>
      if block then
        drop
        mapping (blockEntries (depth + 1) fuel)
      else addEmpty anchor tag
    | _ => addEmpty anchor tag
  termination_by structural fuel => fuel

/-- Read a node, or take it as missing if one of these tokens is next. -/
def nodeUnless (tokens : List Token) (depth : Nat) (block indentless : Bool) : Nat → Read Nat
  | 0 => throw .tooDeep
  | fuel + 1 => do
    if ← isNext tokens then addMissing
    else node depth block indentless fuel
  termination_by structural fuel => fuel

/-- Read the value behind a key, or take it as missing if one of these tokens is next. -/
def valueUnless (tokens : List Token) (depth : Nat) (block : Bool) : Nat → Read Nat
  | 0 => throw .tooDeep
  | fuel + 1 => do
    if ← accept .value then nodeUnless tokens depth block block fuel
    else addMissing
  termination_by structural fuel => fuel

/-- Read the items of a block sequence, and its end. -/
def blockItems (depth : Nat) : Nat → Read (List Nat)
  | 0 => throw .tooDeep
  | fuel + 1 => do
    if ← accept .blockEntry then
      let item ← nodeUnless [.blockEntry, .blockEnd] depth true false fuel
      return item :: (← blockItems depth fuel)
    expect .blockEnd
    return []
  termination_by structural fuel => fuel

/-- Read the items of a sequence in the column of its key. -/
def indentlessItems (depth : Nat) : Nat → Read (List Nat)
  | 0 => throw .tooDeep
  | fuel + 1 => do
    if ← accept .blockEntry then
      let item ← nodeUnless [.blockEntry, .key, .value, .blockEnd] depth true false fuel
      return item :: (← indentlessItems depth fuel)
    return []
  termination_by structural fuel => fuel

/-- Read the entries of a block mapping, and its end. -/
def blockEntries (depth : Nat) : Nat → Read (List (Nat × Nat))
  | 0 => throw .tooDeep
  | fuel + 1 => do
    let ends : List Token := [.key, .value, .blockEnd]
    if ← accept .key then
      let key ← nodeUnless ends depth true true fuel
      let value ← valueUnless ends depth true fuel
      return (key, value) :: (← blockEntries depth fuel)
    expect .blockEnd
    return []
  termination_by structural fuel => fuel

/-- Read the items of a flow sequence, and its end.  An item with a key is a mapping of its own. -/
def flowItems (depth : Nat) (first : Bool) : Nat → Read (List Nat)
  | 0 => throw .tooDeep
  | fuel + 1 => do
    if ← accept .flowSequenceEnd then return []
    if !first then expect .flowEntry
    if ← accept .key then
      let item ← add none (coreTag "map") (.mapping [])
      let ends : List Token := [.flowEntry, .flowSequenceEnd]
      let key ← nodeUnless (.value :: ends) (depth + 1) false false fuel
      let value ← valueUnless ends (depth + 1) false fuel
      let item ← fill item (.mapping [(key, value)])
      return item :: (← flowItems depth false fuel)
    if ← accept .flowSequenceEnd then return []
    let item ← node depth false false fuel
    return item :: (← flowItems depth false fuel)
  termination_by structural fuel => fuel

/-- Read the entries of a flow mapping, and its end. -/
def flowEntries (depth : Nat) (first : Bool) : Nat → Read (List (Nat × Nat))
  | 0 => throw .tooDeep
  | fuel + 1 => do
    if ← accept .flowMappingEnd then return []
    if !first then expect .flowEntry
    if ← accept .key then
      let ends : List Token := [.flowEntry, .flowMappingEnd]
      let key ← nodeUnless (.value :: ends) depth false false fuel
      let value ← valueUnless ends depth false fuel
      return (key, value) :: (← flowEntries depth false fuel)
    if ← accept .flowMappingEnd then return []
    let key ← node depth false false fuel
    return (key, ← addMissing) :: (← flowEntries depth false fuel)
  termination_by structural fuel => fuel

end

/-- The usual handles of tags. -/
def usualHandles : List (String × String) := [("!", "!"), ("!!", coreTag "")]

/-- Read the directives before a document: the version, which must be of the first kind, and the
handles of tags, each given once. -/
def directives : Nat → Bool → List (String × String) → Read (List (String × String))
  | 0, _, _ => throw .malformedDocument
  | fuel + 1, seen, handles => do
    match ← peek with
    | some (.directive directive) =>
      drop
      match directive with
      | .version major =>
        if seen || major ≠ 1 then throw .malformedDocument
        directives fuel true handles
      | .tag handle start =>
        if (handles.lookup handle).isSome then throw .malformedDocument
        directives fuel seen ((handle, start) :: handles)
      | .other => directives fuel seen handles
    | _ => return handles

/-- Read over the marks of the end of a document. -/
def skipEnds : Nat → Read Unit
  | 0 => return
  | fuel + 1 => do
    if ← accept .documentEnd then skipEnds fuel

/-- Read what may follow a document, which is nothing but marks of its end. -/
def expectEnd : Read Unit := do
  let fuel := (← get).tokens.length + 1
  skipEnds fuel
  if (← peek).isSome then
    let _ ← directives fuel false []
    let _ ← peek
    throw .malformedDocument

/-- Does a document without content end here? -/
def endsDocument : Option Token → Bool
  | none => true
  | some (.directive _) => true
  | some .documentStart => true
  | some .documentEnd => true
  | _ => false

/-- Read the root of the only document of a text; an empty text has none. -/
def document : Read (Option Nat) := do
  let fuel := 3 * (← get).tokens.length + 10
  let root ←
    match ← peek with
    | none => return none
    | some (.directive _) | some .documentStart =>
      let handles ← directives fuel false []
      modify fun reader => { reader with handles := handles ++ usualHandles }
      expect .documentStart
      if endsDocument (← peek) then addMissing else node 1 true false fuel
    | some _ => node 1 true false fuel
  expectEnd
  return some root

end Node

/-- The graph of a stream of tokens, if it holds a document. -/
def Graph.ofTokens (stream : TokenStream) : Except Fault (Option Graph) := do
  let (root, reader) ← Node.document.run {
    tokens := stream.tokens, fault := stream.fault, handles := Node.usualHandles }
  return root.map fun root => ⟨reader.nodes, root⟩

end Escrow.Yaml
