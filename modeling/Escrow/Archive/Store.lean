import Escrow.Archive.Row
import Escrow.Table

/-!
# The store of the archive

Three tables: one row for each transfer, and the events and errors as they were recorded.  A write
either succeeds as a whole or leaves every row as it was.
-/

namespace Escrow

/-- The tables of the archive. -/
structure Store where
  transfers : Table String TransferRow := .empty
  /-- How many writes to the transfers have succeeded; each of them uses up one row number. -/
  transferWrites : Nat := 0
  events : List EventRow := []
  errors : List ErrorRow := []
  deriving DecidableEq

namespace Store

instance : Inhabited Store := ⟨{}⟩

/-- How a write ends. -/
inductive WriteResult where
  | written
  /-- A required cell would be empty, or a rule of the table would be broken. -/
  | refused
  /-- A datum fits in no cell. -/
  | unfit
  deriving DecidableEq

/-- The result of a write: what is not written leaves the store as it is. -/
def written (store : Store) (attempt : Except CellError (Option Store)) :
    Except Fault (Store × WriteResult) :=
  match attempt with
  | .ok (some changed) => .ok (changed, .written)
  | .ok none => .ok (store, .refused)
  | .error error =>
    match error.fault? with
    | some fault => .error fault
    | none => .ok (store, .unfit)

/-- The text of an amount. -/
def amountCell (amount : Value) : Except CellError String :=
  if amount.isWritable then Cell.textCell amount.plain else .error .unwritable

/-- The text of an amount that may be unknown. -/
def knownAmount (amount : Value) : Except CellError (Option String) :=
  if amount = .null then .ok none else (amountCell amount).map some

/-- The row of an entry; there is none if a required cell is empty. -/
def rowOf (number : Nat) (entry : TransferEntry) (createdAt : Instant) (fee net : Value)
    (archivedAt : Option Instant) : Except CellError (Option TransferRow) := do
  let transfer ← Cell.ofText entry.transfer
  let pool ← Cell.ofText entry.pool
  let sender ← Cell.ofText entry.sender
  let recipient ← Cell.ofText entry.recipient
  let amount ← amountCell entry.amount
  let fee ← knownAmount fee
  let net ← knownAmount net
  let memo ← Cell.ofText entry.memo
  let reasonCode ← Cell.ofNumber entry.reasonCode
  let reasonMessage ← Cell.ofText entry.reasonMessage
  match transfer, pool, sender, recipient with
  | some transfer, some pool, some sender, some recipient =>
    return some
      { number := number
        transfer := transfer
        pool := pool
        sender := sender
        recipient := recipient
        amount := amount
        memo := memo
        createdAt := createdAt.text
        expiresAt := entry.expiresAt.map Instant.text
        fee := fee
        net := net
        status := entry.status
        reasonCode := reasonCode
        reasonMessage := reasonMessage
        resolvedAt := entry.resolvedAt.map Instant.text
        archivedAt := archivedAt.map Instant.text }
  | _, _, _, _ => return none

/-- The store with a row written: a new transfer gets the row as it is, and a known one has the
later part of its row replaced. -/
def putRow (store : Store) (row : TransferRow) : Store :=
  let kept :=
    match store.transfers.get? row.transfer with
    | some old => old.updatedBy row
    | none => row
  { store with
    transfers := store.transfers.set row.transfer kept
    transferWrites := store.transferWrites + 1 }

/-- The time that an entry is marked with as archived. -/
def archivingTime (entry : TransferEntry) (now : Except Fault Instant) :
    Except Fault (Option Instant) :=
  if entry.isArchived then now.map some else .ok none

/-- Write a transfer. -/
def archiveTransfer (store : Store) (entry : TransferEntry) (fee net : Value)
    (archivedAt : Option Instant) : Except Fault (Store × WriteResult) :=
  match entry.createdAt with
  | none => .error .missingMember
  | some createdAt =>
    store.written ((rowOf (store.transferWrites + 1) entry createdAt fee net archivedAt).map
      (·.map store.putRow))

/-- The kinds of events that are archived. -/
def eventKinds : List String := ["created", "settled"]

/-- The row of an event; there is none if a required cell is empty or the kind is unknown. -/
def eventRowOf (number : Nat) (entry : EventEntry) (occurredAt : Instant) :
    Except CellError (Option EventRow) := do
  let transfer ← Cell.ofText entry.transfer
  let pool ← Cell.ofText entry.pool
  let kind ← Cell.ofText entry.kind
  let outcome ← Cell.ofText entry.outcome
  let amount ← amountCell entry.amount
  let fee ← amountCell entry.fee
  let net ← amountCell entry.net
  let reasonCode ← Cell.ofNumber entry.reasonCode
  let reasonMessage ← Cell.ofText entry.reasonMessage
  let reference ← Cell.ofText entry.reference
  match transfer, pool, kind, outcome with
  | some transfer, some pool, some kind, some outcome =>
    if eventKinds.contains kind then
      return some
        { number := number
          transfer := transfer
          pool := pool
          kind := kind
          outcome := outcome
          amount := amount
          fee := fee
          net := net
          reasonCode := reasonCode
          reasonMessage := reasonMessage
          reference := reference
          occurredAt := occurredAt.text }
    else return none
  | _, _, _, _ => return none

/-- Write an event. -/
def recordEvent (store : Store) (entry : EventEntry) : Except Fault (Store × WriteResult) :=
  match entry.occurredAt with
  | none => .error .missingMember
  | some occurredAt =>
    store.written ((eventRowOf (store.events.length + 1) entry occurredAt).map
      (·.map fun row => { store with events := store.events ++ [row] }))

/-- The row of an error; there is none if a required cell is empty. -/
def errorRowOf (number : Nat) (transfer kind message : Value) (now : Instant) :
    Except CellError (Option ErrorRow) := do
  let transfer ← Cell.ofText transfer
  let kind ← Cell.ofText kind
  let message ← Cell.ofText message
  match kind, message with
  | some kind, some message => return some ⟨number, transfer, kind, message, now.text⟩
  | _, _ => return none

/-- Write an error. -/
def recordError (store : Store) (transfer kind message : Value) (now : Instant) :
    Except Fault (Store × WriteResult) :=
  store.written ((errorRowOf (store.errors.length + 1) transfer kind message now).map
    (·.map fun row => { store with errors := store.errors ++ [row] }))

/-- The row of a transfer. -/
def transferRow? (store : Store) (transfer : Value) : Except Fault (Option TransferRow) :=
  (Cell.searchText transfer).map fun key => key.bind store.transfers.get?

/-- The events of a transfer, in the order of their recording. -/
def eventsOf (store : Store) (transfer : Value) : Except Fault (List EventRow) :=
  (Cell.searchText transfer).map fun key =>
    store.events.filter fun row => decide (some row.transfer = key)

/-- The errors of a transfer, or all of them, in the order of their recording. -/
def errorsOf (store : Store) (transfer : Value) : Except Fault (List ErrorRow) :=
  if transfer = .null then .ok store.errors
  else
    (Cell.searchText transfer).map fun key =>
      store.errors.filter fun row => row.transfer.isSome && decide (row.transfer = key)

/-- Does the first row stand before the second, or in its place?  Later creation comes first, by its
text; of one text the transfer ids are in order. -/
def isNewer (a b : TransferRow) : Bool :=
  if a.createdAt = b.createdAt then decide (a.transfer ≤ b.transfer)
  else decide (b.createdAt ≤ a.createdAt)

/-- The rows that pass a test, newest first. -/
def newestFirst (store : Store) (keep : TransferRow → Bool) : List TransferRow :=
  (store.transfers.values.filter keep).mergeSort isNewer

/-- Which side of its transfers a wallet is looked for on. -/
inductive Direction where
  | sent
  | received
  | both
  deriving DecidableEq

/-- The direction of a name; every other name means both. -/
def Direction.ofValue (name : Value) : Direction :=
  if name = .text "sent" then .sent
  else if name = .text "received" then .received
  else .both

/-- Is the wallet on this side of the row? -/
def Direction.admits (direction : Direction) (wallet : String) (row : TransferRow) : Bool :=
  match direction with
  | .sent => row.sender == wallet
  | .received => row.recipient == wallet
  | .both => row.sender == wallet || row.recipient == wallet

/-- The rows of a wallet, newest first. -/
def walletRows (store : Store) (wallet : Value) (direction : Direction) :
    Except Fault (List TransferRow) :=
  (Cell.searchText wallet).map fun key =>
    match key with
    | some name => store.newestFirst (direction.admits name)
    | none => []

/-- The pool that a search is restricted to, if it is. -/
def poolFilter (pool : Value) : Except Fault (TransferRow → Bool) :=
  if pool = .null then .ok fun _ => true
  else (Cell.searchText pool).map fun key row => decide (some row.pool = key)

/-- The rows of a status, newest first. -/
def rowsByStatus (store : Store) (status pool : Value) : Except Fault (List TransferRow) := do
  let name ← Cell.searchText status
  let inPool ← poolFilter pool
  return store.newestFirst fun row => decide (some row.status.name = name) && inPool row

/-- The rows of a pool, or all of them, in the order of their first writing. -/
def rowsOfPool (store : Store) (pool : Value) : Except Fault (List TransferRow) :=
  (poolFilter pool).map fun inPool => store.transfers.values.filter inPool

end Store
end Escrow
