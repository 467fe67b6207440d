import Escrow.Yaml.Node
import Escrow.Yaml.Scalar
import Escrow.Yaml.Tree

/-!
# Documents

What the nodes of a document stand for.  Every node is made into one datum or collection, however
many places it stands in.  Collections are filled after they have been made, one rank after another,
so that a collection may hold itself.  Only the plain tags of the language are known.  A mapping may
take over the entries of others by the key `<<`, and its own entries go before theirs.
-/

namespace Escrow.Yaml

/-- What a node stands for; others are held by their numbers. -/
inductive Part where
  | datum (value : Value)
  | list (items : List Nat)
  | tuple (items : List Nat)
  | set (members : List Nat)
  | mapping (entries : List (Nat × Nat))
  deriving Inhabited

/-- The parts of a document by their numbers. -/
structure Document where
  parts : Array Part
  root : Nat

/-- What is known while parts are made. -/
structure Maker where
  nodes : Array Node
  parts : Array (Option Part)
  /-- The collections that are to be filled, last one first. -/
  waiting : List Nat := []

/-- A making of parts. -/
abbrev Make := StateT Maker (Except Fault)

namespace Make

/-- The node of a number. -/
def node (number : Nat) : Make Node := do
  match (← get).nodes[number]? with
  | some node => return node
  | none => throw .malformedDocument

/-- Change the node of a number. -/
def change (number : Nat) (node : Node) : Make Unit :=
  modify fun maker => { maker with nodes := maker.nodes.setIfInBounds number node }

/-- Say what a node stands for. -/
def put (number : Nat) (part : Part) : Make Unit :=
  modify fun maker => { maker with parts := maker.parts.setIfInBounds number (some part) }

/-- Add a part that is no node of its own. -/
def add (part : Part) : Make Nat := do
  let maker ← get
  set { maker with parts := maker.parts.push (some part) }
  return maker.parts.size

/-- The text under a scalar tag: that of a scalar, or the one that a mapping gives for itself under
the key `=`.  A mapping that gives itself has none. -/
def scalarText : Nat → Nat → Make String
  | 0, _ => throw .tooDeep
  | fuel + 1, number => do
    match (← node number).content with
    | .scalar text => return text
    | .sequence _ => throw .malformedDocument
    | .mapping entries =>
      let found ← entries.findM? fun (key, _) => return (← node key).tag == Form.value.tag
      match found with
      | some (_, value) => scalarText fuel value
      | none => throw .malformedDocument

/-- The datum of a node with a scalar tag. -/
def scalar (number : Nat) (read : String → Except Fault Value) : Make Value := do
  let text ← scalarText ((← get).nodes.size + 1) number
  let node ← node number
  match node.content with
  | .scalar _ => read text
  | _ => if node.tag == Form.timestamp.tag then throw .wrongKind else read text

/-- The tags of lists of pairs. -/
def pairTags : List String := [coreTag "omap", coreTag "pairs"]

/-- The empty collection of a tag. -/
def empty? (tag : String) : Option Part :=
  if tag == coreTag "seq" || pairTags.contains tag then some (.list [])
  else if tag == coreTag "map" then some (.mapping [])
  else if tag == coreTag "set" then some (.set [])
  else none

/-- Make the part of a node, unless it has been made. -/
def part (number : Nat) : Make Part := do
  if let some (some part) := (← get).parts[number]? then return part
  let tag := (← node number).tag
  let part ←
    match scalarReading? tag, empty? tag with
    | some read, _ => pure (Part.datum (← scalar number read))
    | none, some part =>
      modify fun maker => { maker with waiting := number :: maker.waiting }
      pure part
    | none, none => throw .malformedDocument
  put number part
  return part

/-! ## Entries that are taken over -/

/-- The entries of a mapping. -/
def entries (number : Nat) : Make (List (Nat × Nat)) := do
  match (← node number).content with
  | .mapping entries => return entries
  | _ => throw .malformedDocument

/-- Give a mapping other entries. -/
def setEntries (number : Nat) (entries : List (Nat × Nat)) : Make Unit := do
  change number { ← node number with content := .mapping entries }

mutual

/-- Put the entries that a mapping takes over in front of its own, from an index on; `taken` are
those that have been found.  A key `=` becomes a text. -/
def flattenFrom (number index : Nat) (taken : List (Nat × Nat)) : Nat → Make Unit
  | 0 => throw .tooDeep
  | fuel + 1 => do
    let own ← entries number
    match own[index]? with
    | none => if !taken.isEmpty then setEntries number (taken ++ own)
    | some (key, value) =>
      let keyNode ← node key
      if keyNode.tag == Form.merge.tag then
        setEntries number (own.eraseIdx index)
        let given ←
          match (← node value).content with
          | .mapping _ => flattened [value] fuel
          | .sequence items => flattened items fuel
          | .scalar _ => throw .malformedDocument
        flattenFrom number index (taken ++ given) fuel
      else
        if keyNode.tag == Form.value.tag then change key { keyNode with tag := Form.text.tag }
        flattenFrom number (index + 1) taken fuel
  termination_by structural fuel => fuel

/-- The entries that mappings give away; those of the first go behind the others. -/
def flattened : List Nat → Nat → Make (List (Nat × Nat))
  | _, 0 => throw .tooDeep
  | [], _ => return []
  | item :: rest, fuel + 1 => do
    let _ ← entries item
    flattenFrom item 0 [] fuel
    let given ← entries item
    return (← flattened rest fuel) ++ given
  termination_by structural _ fuel => fuel

end

/-- How many steps taking over may need. -/
def flattenSteps : Make Nat := do
  let count := (← get).nodes.foldl
    (fun count node => count + match node.content with
      | .mapping entries => entries.length
      | .sequence items => items.length
      | .scalar _ => 0) 2
  return Nat.pow count 4

/-! ## Filling collections -/

/-- The datum of a key, which must be a single one. -/
def key (number : Nat) : Make Value := do
  match ← part number with
  | .datum value => return value
  | _ => throw .malformedDocument

/-- Do two data count as the same key?  What is no number counts as itself. -/
def sameKey (a b : Value) : Bool := a.same b || (a = .double .nan && b = .double .nan)

/-- Entries with a value written at a key: in place if the key is there, at the end otherwise. -/
def insert (key : Nat × Value) (value : Nat) :
    List ((Nat × Value) × Nat) → List ((Nat × Value) × Nat)
  | [] => [(key, value)]
  | (old, before) :: rest =>
    if sameKey old.2 key.2 then (old, value) :: rest else (old, before) :: insert key value rest

/-- The entries of a mapping after it has taken over others: the last value of a key wins, its first
form stays. -/
def members (number : Nat) : Make (List (Nat × Nat)) := do
  let _ ← entries number
  flattenFrom number 0 [] (← flattenSteps)
  let done ← (← entries number).foldlM
    (fun done (keyNumber, value) => do
      let key ← key keyNumber
      let _ ← part value
      return insert (keyNumber, key) value done) []
  return done.map fun ((key, _), value) => (key, value)

/-- The items of a sequence. -/
def items (number : Nat) : Make (List Nat) := do
  match (← node number).content with
  | .sequence items => return items
  | _ => throw .malformedDocument

/-- The pair that a mapping of one entry is. -/
def pair (number : Nat) : Make Nat := do
  match ← entries number with
  | [(key, value)] =>
    let _ ← part key
    let _ ← part value
    add (.tuple [key, value])
  | _ => throw .malformedDocument

/-- Fill the collection of a node. -/
def fill (number : Nat) : Make Unit := do
  let tag := (← node number).tag
  if tag == coreTag "map" then put number (.mapping (← members number))
  else if tag == coreTag "set" then put number (.set ((← members number).map Prod.fst))
  else if pairTags.contains tag then put number (.list (← (← items number).mapM pair))
  else
    let items ← items number
    items.forM fun item => do let _ ← part item
    put number (.list items)

/-- Fill the collections that wait, and those that come to wait meanwhile. -/
def fillAll : Nat → Make Unit
  | 0 => throw .tooDeep
  | ranks + 1 => do
    let rank := (← get).waiting.reverse
    if !rank.isEmpty then
      modify ({ · with waiting := [] })
      rank.forM fill
      fillAll ranks

end Make

namespace Document

/-- The document of a graph. -/
def ofGraph (graph : Graph) : Except Fault Document := do
  let start : Maker :=
    { nodes := graph.nodes, parts := Array.replicate graph.nodes.size none }
  let making : Make Unit := do
    let _ ← Make.part graph.root
    Make.fillAll (graph.nodes.size + 1)
  let (_, maker) ← making.run start
  return ⟨maker.parts.map fun part => part.getD (.datum .null), graph.root⟩

/-- The number that tells a datum apart. -/
def label? (number : Nat) : Value → Option Nat
  | .date _ => some number
  | .moment _ => some number
  | _ => none

/-- The tree at a part, if it is nested less than so deep. -/
def tree? (document : Document) : Nat → Nat → Option Tree
  | 0, _ => none
  | depth + 1, number =>
    let tree := document.tree? depth
    match document.parts[number]? with
    | none => none
    | some (.datum value) => some (.datum (label? number value) value)
    | some (.list items) => (items.mapM tree).map (.list (some number))
    | some (.tuple items) => (items.mapM tree).map (.tuple (some number))
    | some (.set members) => (members.mapM tree).map (.set (some number))
    | some (.mapping entries) =>
      (entries.mapM fun (key, value) => do return (← tree key, ← tree value)).map
        (.mapping (some number))

/-- The top of the tree at a part, with nothing inside the collections at a depth. -/
def top (document : Document) : Nat → Nat → Tree
  | 0, number =>
    match document.parts[number]? with
    | some (.datum value) => .datum (label? number value) value
    | some (.tuple _) => .tuple (some number) []
    | some (.set _) => .set (some number) []
    | some (.mapping _) => .mapping (some number) []
    | _ => .list (some number) []
  | depth + 1, number =>
    let top := document.top depth
    match document.parts[number]? with
    | some (.datum value) => .datum (label? number value) value
    | some (.list items) => .list (some number) (items.map top)
    | some (.tuple items) => .tuple (some number) (items.map top)
    | some (.set members) => .set (some number) (members.map top)
    | some (.mapping entries) =>
      .mapping (some number) (entries.map fun (key, value) => (top key, top value))
    | none => .list (some number) []

end Document

/-- The document of a text; an empty text has none. -/
def read (text : String) : Except Fault (Option Document) := do
  match ← Graph.ofTokens (tokens text) with
  | some graph => return some (← Document.ofGraph graph)
  | none => return none

end Escrow.Yaml
