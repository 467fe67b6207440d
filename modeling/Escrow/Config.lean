import Escrow.Path
import Escrow.Pool
import Escrow.Text.Content
import Escrow.Yaml.Document
import Escrow.Yaml.Writing

/-!
# Configurations

The settings of an engine and the definitions of its pools, read from any value or from a file.  The
settings are checked when the configuration is read; a definition is checked when its pool is built,
so a configuration can be shown and saved with definitions that build no pool.
-/

namespace Escrow

/-- The greatest length of messages unless another is set, in bytes. -/
def defaultMemoLimit : Int := 200

/-- The path of the archive unless another is set. -/
def defaultHistoryPath : String := "settlement_history.db"

/-- The parts of a file that a configuration keeps, as trees, for the file may have one node in
several places. -/
structure ConfigTrees where
  /-- The path of the archive. -/
  history : Option Yaml.Tree
  definitions : List Yaml.Tree

/-- The settings of an engine and the definitions of its pools. -/
structure Config where
  /-- The greatest length of memos and rejection messages, in bytes. -/
  memoLimit : Whole := .number defaultMemoLimit
  /-- The path of the archive. -/
  historyPath : Value := .text defaultHistoryPath
  definitions : List Value := []
  memoLimit_valid : 0 ≤ memoLimit.toInt := by decide
  /-- The trees of the parts, if they come from a file. -/
  trees : Option ConfigTrees := none

namespace Config

instance : Inhabited Config := ⟨{}⟩

/-! ## Settings -/

/-- The name of the setting for the greatest length of messages. -/
def memoLimitName : String := "max_memo_length"

/-- The name of the setting for the path of the archive. -/
def historyPathName : String := "history_db"

/-- The values that occur, each one once. -/
def distinct (values : List Value) : List Value :=
  values.foldl (fun done value => if done.any (·.same value) then done else done ++ [value]) []

/-- The names of settings that are unknown.  They have no effect, but are put in order and written to
the log. -/
def unknownNames (settings : Value) : Except Fault (List Value) := do
  let isKnown (name : Value) : Bool :=
    name.same (.text memoLimitName) || name.same (.text historyPathName)
  match settings.elements? with
  | none => throw .wrongKind
  | some names =>
    if !names.all Value.isKey then throw .wrongKind
    match Value.sorted? (distinct (names.filter fun name => !isKnown name)) with
    | some sorted => if sorted.all Value.isWritable then return sorted else throw .badValue
    | none => throw .wrongKind

/-- A setting, or its usual value.  Settings that are no mapping must not even show the name. -/
def setting (name : String) (usual settings : Value) : Except Fault Value :=
  match settings with
  | .mapping entries => .ok (Value.fieldOr name usual entries)
  | .list items => if items.any (·.same (.text name)) then .error .wrongKind else .ok usual
  | .tuple items => if items.any (·.same (.text name)) then .error .wrongKind else .ok usual
  | .set members => if members.any (·.same (.text name)) then .error .wrongKind else .ok usual
  | .text s => if Text.occurs name.toList s.toList then .error .wrongKind else .ok usual
  | _ => .error .wrongKind

/-- The configuration with the given settings and definitions. -/
def make (memoLimit historyPath : Value) (definitions : List Value) : Except SetupCause Config :=
  match memoLimit.whole? with
  | none => .error .badMemoLimit
  | some limit =>
    if valid : 0 ≤ limit.toInt then .ok ⟨limit, historyPath, definitions, valid, none⟩
    else .error .badMemoLimit

/-- The configuration that a value stands for. -/
def ofValue (raw : Value) : Answer Config := do
  let faulty {α : Type} (result : Except Fault α) : Answer α := result.mapError .fault
  let entries ← if raw.isTruthy then faulty raw.fields else pure []
  let settings := (Value.field "engine" entries).orElse (.mapping [])
  let _ ← faulty (unknownNames settings)
  let memoLimit ← faulty (setting memoLimitName (.int defaultMemoLimit) settings)
  let historyPath ← faulty (setting historyPathName (.text defaultHistoryPath) settings)
  let checked ← (make memoLimit historyPath []).mapError fun cause => .ofCause (.setup cause)
  match ((Value.field "pools" entries).orElse (.list [])).elements? with
  | some definitions => return { checked with definitions := definitions }
  | none => throw (.fault .wrongKind)

/-! ## Files -/

/-- The usual path of a configuration file. -/
def defaultPath : String := "settlement_config.yaml"

/-- How deep the settings are looked into: to the names and what these hold. -/
def settingsDepth : Nat := 4

/-- The document of the text of a configuration file. -/
def readText (path text : String) : Answer (Option Yaml.Document) :=
  match Yaml.read text with
  | .ok document => .ok document
  | .error .malformedDocument => .error (.ofCause (.setup (.malformedFile path)))
  | .error fault => .error (.fault fault)

/-- The tree at a part of a document, if it is not nested too deeply. -/
def treeAt (document : Yaml.Document) (number : Nat) : Except Fault Yaml.Tree :=
  match document.tree? Yaml.greatestDepth number with
  | some tree => .ok tree
  | none => .error .tooDeep

/-- The part under a name in a mapping of a document. -/
def partAt? (document : Yaml.Document) (name : String) (entries : List (Nat × Nat)) : Option Nat :=
  (entries.find? fun (key, _) => (document.top 0 key).value.same (.text name)).map Prod.snd

/-- The path of the archive in a document, if its settings have it. -/
def historyOf (document : Yaml.Document) (settings : Option Nat) :
    Except Fault (Option Yaml.Tree) :=
  match settings.bind fun number => document.parts[number]? with
  | some (.mapping entries) => (partAt? document historyPathName entries).mapM (treeAt document)
  | _ => .ok none

/-- The definitions in a document.  Only the keys of a mapping are definitions. -/
def definitionsOf (document : Yaml.Document) (pools : Option Nat) :
    Except Fault (List Yaml.Tree) :=
  match pools.bind fun number => document.parts[number]? with
  | some (.list items) => items.mapM (treeAt document)
  | some (.set members) => members.mapM (treeAt document)
  | some (.mapping entries) => (entries.map Prod.fst).mapM (treeAt document)
  | some (.datum value) => .ok ((value.elements?.getD []).map Yaml.Tree.ofValue)
  | _ => .ok []

/-- The configuration of a document whose root has the given entries.  Only the parts that are kept
must not be nested too deeply. -/
def ofDocument (document : Yaml.Document) (entries : List (Nat × Nat)) : Answer Config := do
  let settings := partAt? document "engine" entries
  let pools := partAt? document "pools" entries
  let topOf (depth : Nat) (name : String) (part : Option Nat) : List (Value × Value) :=
    (part.map fun number => (.text name, (document.top depth number).value)).toList
  let checked ←
    ofValue (.mapping (topOf settingsDepth "engine" settings ++ topOf 1 "pools" pools))
  let trees : ConfigTrees :=
    ⟨← (historyOf document settings).mapError .fault, ← (definitionsOf document pools).mapError .fault⟩
  return { checked with
    historyPath := (trees.history.map Yaml.Tree.value).getD checked.historyPath
    definitions := trees.definitions.map Yaml.Tree.value
    trees := some trees }

/-- The configuration of the file at a path; where there is no file it is the usual one. -/
def load (path : String) (content : Option ByteArray) : Answer Config := do
  match content with
  | none => return {}
  | some bytes =>
    let text ← (Text.ofContent bytes).mapError .fault
    match ← readText path text with
    | none => return {}
    | some document =>
      match document.parts[document.root]? with
      | some (.mapping []) => return {}
      | some (.mapping entries) => ofDocument document entries
      | _ =>
        if (document.top 1 document.root).value.isTruthy then
          throw (.ofCause (.setup (.notMapping path)))
        return {}

/-- The configuration of the file that a path names.  A path without a meaning names no file; the
content of one that can be made is what has been written into it. -/
def loadAt (path : Value) (content : Option ByteArray) : Answer Config := do
  let .text path := path | throw (.fault .wrongKind)
  match ← (Path.standing path).mapError .fault with
  | .directory => throw (.fault .directory)
  | .file canMake =>
    if content.isSome && !canMake then throw (.fault .missingFile)
    load path content
  | .nothing =>
    if content.isSome then throw (.fault (if Text.hasHalf path then .unencodable else .badValue))
    return {}

/-- The settings as a record. -/
def settings (config : Config) : Value :=
  .mapping [(.text memoLimitName, config.memoLimit.toValue),
    (.text historyPathName, config.historyPath)]

/-- The configuration as a value. -/
def toValue (config : Config) : Value :=
  .mapping [(.text "engine", config.settings), (.text "pools", .list config.definitions)]

/-- The configuration as a tree. -/
def toTree (config : Config) : Yaml.Tree :=
  match config.trees with
  | none => .ofValue config.toValue
  | some trees =>
    let entry (name : String) (tree : Yaml.Tree) : Yaml.Tree × Yaml.Tree :=
      (.datum none (.text name), tree)
    .mapping none [
      entry "engine" (.mapping none [
        entry memoLimitName (.datum none config.memoLimit.toValue),
        entry historyPathName (trees.history.getD (.ofValue config.historyPath))]),
      entry "pools" (.list none trees.definitions)]

/-- How deep a configuration may be nested that is written. -/
def greatestWrittenDepth : Nat := 328

/-- The text of the configuration in a file. -/
def fileText (config : Config) : Except Fault String :=
  let tree := config.toTree
  if greatestWrittenDepth < tree.depth then .error .tooDeep else .ok tree.write

/-! ## Pools -/

/-- The names of the fields that every definition must have. -/
def identityFields : List String := ["pool_id", "operator", "asset"]

/-- The text of a required field of a definition. -/
def required (definition : Value) (name : String) : Except Fault String :=
  match definition with
  | .mapping entries =>
    match Value.find? (.text name) entries with
    | some value => if value.isWritable then .ok value.plain else .error .badValue
    | none => .error (.missingKey name)
  | _ => .error .wrongKind

/-- The id, the operator and the asset of the definition at an index.  A field that is missing is
refused, and so is what has no fields; a field that cannot be written is a fault. -/
def identityOf (index : Nat) (definition : Value) : Answer (String × String × String) :=
  let read : Except Fault (String × String × String) := do
    return (← required definition "pool_id", ← required definition "operator",
      ← required definition "asset")
  read.mapError fun fault =>
    match fault with
    | .wrongKind | .missingKey _ => .ofCause (.setup (.unreadablePool index fault))
    | _ => .fault fault

/-- The fee schedule of a pool.  What is refused, and any data of the wrong kind or without meaning,
makes the schedule invalid; every other fault is passed on. -/
def scheduleOf (pool : String) (fees : Value) : Answer Schedule :=
  match Schedule.ofConfig fees with
  | .ok schedule => .ok schedule
  | .error (.refused ⟨.fee cause, _⟩) => .error (.ofCause (.setup (.invalidSchedule pool cause)))
  | .error (.fault fault) =>
    match fault with
    | .wrongKind | .badValue | .badNumeral _ =>
      .error (.ofCause (.setup (.unreadableSchedule pool fault)))
    | _ => .error (.fault fault)
  | .error problem => .error problem

/-- The pool of the definition at an index, with its id, which must not be taken. -/
def poolOf (index : Nat) (taken : List String) (definition : Value) : Answer (String × Pool) := do
  let (id, operator, asset) ← identityOf index definition
  if id ∈ taken then throw (.ofCause (.setup (.duplicatePool id)))
  let entries :=
    match definition with
    | .mapping entries => entries
    | _ => []
  let schedule ← scheduleOf id (Value.field "fees" entries)
  let decimals ← (Value.fieldOr "decimals" (.int 6) entries).readInt.mapError .fault
  return (id, .make (.text id) (.text operator) (.text asset) (Value.field "authority" entries)
    (Value.field "custody" entries) (.int decimals) schedule)

/-- The pools of definitions, of which the first has the given index. -/
def poolsOf (index : Nat) (taken : List String) : List Value → Answer (List Pool)
  | [] => .ok []
  | definition :: rest => do
    let (id, pool) ← poolOf index taken definition
    return pool :: (← poolsOf (index + 1) (id :: taken) rest)

/-- The pools of a configuration. -/
def pools (config : Config) : Answer (List Pool) := poolsOf 0 [] config.definitions

end Config
end Escrow
