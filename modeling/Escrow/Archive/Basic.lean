import Escrow.Archive.Place
import Escrow.Archive.Statistics

/-!
# The archive

A store at a path, open or closed.  Every reading and writing of a closed archive is a fault.

A refused error record is not rolled back, and its refusal stays on record until the archive does
something else with success.  Until then a statement that has been prepared before, and whose first
datum fits in no cell, is answered with that refusal instead of its own fault.
-/

namespace Escrow

/-- The statements that an archive prepares, each one when it is first used. -/
inductive Statement where
  | writeTransfer
  | writeEvent
  | writeError
  | findTransfer
  | findEvents
  | findErrors (ofTransfer : Bool)
  | findWallet (direction : Store.Direction)
  | findStatus (inPool : Bool)
  | findRows (ofPool : Bool)
  deriving DecidableEq

/-- The archive of transfers, events and errors. -/
structure Archive where
  path : String
  kept : Place.Kept
  store : Store := {}
  isOpen : Bool := true
  /-- The statements that have been prepared since the archive was opened. -/
  prepared : List Statement := []
  /-- Is a refusal on record? -/
  hasRefused : Bool := false
  deriving DecidableEq

/-- A question to the archive: the statement that serves it, the first datum that it hands over, and
the answer of a store. -/
structure Query (α : Type) where
  statement : Statement
  first : Value
  answer : Store → Except Fault α

namespace Query

/-- The row of a transfer. -/
def transferRow (transfer : Value) : Query (Option TransferRow) :=
  ⟨.findTransfer, transfer, (·.transferRow? transfer)⟩

/-- The events of a transfer. -/
def eventsOf (transfer : Value) : Query (List EventRow) :=
  ⟨.findEvents, transfer, (·.eventsOf transfer)⟩

/-- The errors of a transfer, or all of them. -/
def errorsOf (transfer : Value) : Query (List ErrorRow) :=
  ⟨.findErrors (decide (transfer ≠ .null)), transfer, (·.errorsOf transfer)⟩

/-- The rows of a wallet. -/
def walletRows (wallet : Value) (direction : Store.Direction) : Query (List TransferRow) :=
  ⟨.findWallet direction, wallet, (·.walletRows wallet direction)⟩

/-- The rows of a status. -/
def rowsByStatus (status pool : Value) : Query (List TransferRow) :=
  ⟨.findStatus (decide (pool ≠ .null)), status, (·.rowsByStatus status pool)⟩

/-- The statistics of a pool, or of all. -/
def statistics (pool : Value) : Query Statistics :=
  ⟨.findRows (decide (pool ≠ .null)), pool, (·.statistics pool)⟩

/-- The counters of a pool rebuilt from its rows. -/
def reconcile (pool : Value) : Query Reconciliation :=
  ⟨.findRows (decide (pool ≠ .null)), pool, (·.reconcile pool)⟩

/-- The query with its answer worked on. -/
def andThen {α β : Type} (query : Query α) (work : α → Except Fault β) : Query β :=
  ⟨query.statement, query.first, fun store => (query.answer store).bind work⟩

end Query

namespace Archive

/-- The path of an archive that is kept only while it is open. -/
def memoryPath : String := Place.memoryName

/-- Open the archive at a path. -/
def openAt (path : Value) : Answer Archive :=
  match path with
  | .text path =>
    match Place.ofPath path with
    | .ok kept => .ok { path := path, kept := kept }
    | .error fault => .error (.fault fault)
  | _ => .error (.fault .wrongKind)

/-- The archive without access. -/
def close (archive : Archive) : Archive := { archive with isOpen := false }

/-- Open the archive again. -/
def reopen (archive : Archive) : Archive where
  path := archive.path
  kept := archive.kept
  store :=
    match archive.kept with
    | .transient => {}
    | .inFile => archive.store

/-- Is a datum of a statement answered with the refusal on record? -/
def repeatsRefusal (archive : Archive) (statement : Statement) (first : Value) : Bool :=
  archive.hasRefused && archive.prepared.contains statement && !Cell.isFit first

/-- The archive with a statement prepared. -/
def prepare (archive : Archive) (statement : Statement) : Archive :=
  if archive.prepared.contains statement then archive
  else { archive with prepared := statement :: archive.prepared }

/-- Read from the store of an open archive. -/
def read {α : Type} (archive : Archive) (query : Query α) : Except Fault α :=
  if !archive.isOpen then .error .archiveClosed
  else if archive.repeatsRefusal query.statement query.first then .error .refusedRow
  else query.answer archive.store

/-- The archive after a reading. -/
def afterReading {α : Type} (archive : Archive) (query : Query α) : Archive :=
  if !archive.isOpen then archive
  else
    { archive.prepare query.statement with
      hasRefused := archive.repeatsRefusal query.statement query.first }

/-- Write to the store of an open archive; the answer says whether the write succeeded. -/
def write (archive : Archive) (statement : Statement) (first : Value)
    (attempt : Store → Except Fault (Store × Store.WriteResult)) : Archive × Except Fault Bool :=
  let isError := decide (statement = .writeError)
  if !archive.isOpen then (archive, .error .archiveClosed)
  else
    let ready := archive.prepare statement
    if archive.repeatsRefusal statement first then
      ({ ready with hasRefused := isError }, .ok false)
    else
      match attempt archive.store with
      | .ok (store, result) =>
        ({ ready with
            store := store
            hasRefused := isError && decide (result = .refused) },
          .ok (decide (result = .written)))
      | .error .missingMember => (archive, .error .missingMember)
      | .error fault => ({ ready with hasRefused := false }, .error fault)

/-- Write a transfer.  The time of archiving is asked for first. -/
def writeTransfer (archive : Archive) (entry : TransferEntry) (fee net : Value)
    (now : Except Fault Instant) : Archive × Except Fault Bool :=
  match Store.archivingTime entry now with
  | .ok archivedAt =>
    archive.write .writeTransfer entry.transfer (·.archiveTransfer entry fee net archivedAt)
  | .error fault => (archive, .error fault)

/-- Write an event. -/
def writeEvent (archive : Archive) (entry : EventEntry) : Archive × Except Fault Bool :=
  archive.write .writeEvent entry.transfer (·.recordEvent entry)

/-- Write an error.  The time is asked for last. -/
def writeError (archive : Archive) (transfer kind message : Value) (now : Except Fault Instant) :
    Archive × Except Fault Bool :=
  match archive.isOpen, now with
  | true, .error fault => (archive, .error fault)
  | _, .ok now =>
    archive.write .writeError transfer (·.recordError transfer kind message now)
  | false, .error _ => (archive, .error .archiveClosed)

end Archive
end Escrow
