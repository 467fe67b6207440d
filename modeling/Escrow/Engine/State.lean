import Escrow.Archive.Basic
import Escrow.Config
import Escrow.Ledger.Basic

/-!
# The state of an engine

Pools and transfers by id, the ledger that moves their funds, the clock, and the listeners with what
they have heard.  A pruned transfer is gone from the register, but its id is kept, so that it is
never used again.  Ids are told apart in canonical form, and everything keeps the form that it was
given in.
-/

namespace Escrow

/-- Who is told of events. -/
inductive Listener where
  /-- Writes down what it hears. -/
  | observer (tag : Value)
  /-- Writes down what it hears, in a task of its own. -/
  | deferred (tag : Value)
  /-- Writes down what it hears, and fails. -/
  | broken (tag : Value)
  /-- Writes down what it hears, and accepts every new transfer in the name of a caller. -/
  | acceptor (tag caller : Value)
  /-- Keeps the archive. -/
  | archivist
  deriving DecidableEq

/-- The tag under which a listener writes down what it hears. -/
def Listener.tag? : Listener → Option Value
  | .observer tag => some tag
  | .deferred tag => some tag
  | .broken tag => some tag
  | .acceptor tag _ => some tag
  | .archivist => none

/-- An event that a listener has heard. -/
structure Hearing where
  tag : Value
  event : Event
  deriving DecidableEq

/-- The state of an engine. -/
structure Engine where
  ledger : Ledger
  /-- What the clock shows; a clock that stands still shows nothing. -/
  clock : Option Instant
  /-- Does the engine read the clock in universal time? -/
  isUniversal : Bool := false
  /-- The greatest length of memos and rejection messages, in bytes. -/
  memoLimit : Value := .int defaultMemoLimit
  pools : Table Value Pool := .empty
  transfers : Table Value Transfer := .empty
  /-- The pruned transfers as they were last, by id. -/
  pruned : Table Value Transfer := .empty
  /-- How many ids the engine has drawn. -/
  drawn : Nat := 0
  listeners : List Listener := []
  /-- What the listeners have heard, oldest first. -/
  heard : List Hearing := []
  archive : Option Archive := none
  deriving DecidableEq

/-- A clock as it is read in universal time. -/
def universalTime (clock : Option Instant) : Except Fault Instant :=
  match clock with
  | none => .error .missingMember
  | some instant =>
    match instant.toUniversal? with
    | some instant => .ok instant
    | none => .error .outOfRange

namespace Engine

/-- The present instant in universal time.  There is one clock for everything: the ledger stamps its
journal, and the archive its rows, by the clock that the engine reads. -/
def now (engine : Engine) : Except Fault Instant := universalTime engine.clock

/-- What the engine reads from its clock. -/
def reading (engine : Engine) : Except Fault (Option Instant) :=
  if engine.isUniversal then engine.now.map some else .ok engine.clock

/-- A value of a table at an id, if it is there. -/
def find? {α : Type} (table : Table Value α) (id : Value) : Except Fault (Option α) :=
  if id.isKey then .ok (table.get? id.canonical) else .error .wrongKind

/-- A registered pool. -/
def pool (engine : Engine) (id : Value) : Answer Pool := do
  match ← (find? engine.pools id).mapError .fault with
  | some pool => return pool
  | none => throw (.ofCause (.call (.unknownPool id)))

/-- A transfer that is not pruned. -/
def transfer (engine : Engine) (id : Value) : Answer Transfer := do
  match ← (find? engine.transfers id).mapError .fault with
  | some transfer => return transfer
  | none =>
    if engine.pruned.contains id.canonical then throw (.about id .transferPruned)
    else throw (.about id (.unknownTransfer id))

/-- Has the id been given to a transfer? -/
def isTaken (engine : Engine) (id : Value) : Bool :=
  engine.transfers.contains id.canonical || engine.pruned.contains id.canonical

/-- The pending transfers of a pool, or of all, in the order of their creation. -/
def pending (engine : Engine) (pool : Value) : List Transfer :=
  engine.transfers.values.filter fun transfer =>
    transfer.isActive && (decide (pool = .null) || transfer.pool.same pool)

/-- Register a pool under an id that is free. -/
def register (engine : Engine) (pool : Pool) : Answer Engine := do
  match ← (find? engine.pools pool.id).mapError .fault with
  | some _ => throw (.ofCause (.call (.poolRegistered pool.id)))
  | none => return { engine with pools := engine.pools.set pool.id.canonical pool }

/-- Register pools one after another. -/
def registerAll (engine : Engine) : List Pool → Answer Engine
  | [] => .ok engine
  | pool :: rest => do (← engine.register pool).registerAll rest

/-- Give a pool another fee schedule in the name of its authority. -/
def updateFees (engine : Engine) (id caller : Value) (schedule : Schedule) : Answer Engine := do
  let pool ← engine.pool id
  if !caller.same pool.authority then throw (.ofCause (.call (.notAuthority caller id)))
  return { engine with
    pools := engine.pools.set id.canonical { pool with schedule := schedule } }

/-- Archive a settled transfer. -/
def archiveTransfer (engine : Engine) (id : Value) : Answer (Engine × Transfer) := do
  let transfer ← engine.transfer id
  let archived := { transfer with toProgress := ← transfer.archive transfer.id }
  return ({ engine with transfers := engine.transfers.set id.canonical archived }, archived)

/-- The archived transfers by id. -/
def archived (engine : Engine) : Table Value Transfer :=
  engine.transfers.filter fun _ transfer => transfer.isArchived

/-- Drop the archived transfers and keep their ids. -/
def prune (engine : Engine) : Engine :=
  { engine with
    transfers := engine.transfers.filter fun _ transfer => !transfer.isArchived
    pruned := engine.archived.entries.foldl (fun table (id, transfer) => table.set id transfer)
      engine.pruned }

/-- The last record of a transfer that was created under an id, pruned or not. -/
def lastRecord? (engine : Engine) (id : Value) : Option Transfer :=
  engine.transfers.get? id.canonical <|> engine.pruned.get? id.canonical

/-- A message that is short enough; no message at all is one. -/
def checkMessage (engine : Engine) (message transfer : Value) : Answer (Option String) :=
  match message with
  | .null => .ok none
  | .text text =>
    if Text.hasHalf text then .error (.fault .unencodable)
    else
      match engine.memoLimit.less? (.int text.utf8ByteSize) with
      | some false => .ok (some text)
      | some true =>
        .error (.refused ⟨.call (.messageTooLong text.utf8ByteSize engine.memoLimit), transfer⟩)
      | none => .error (.fault .wrongKind)
  | _ => .error (.fault .missingMember)

end Engine
end Escrow
