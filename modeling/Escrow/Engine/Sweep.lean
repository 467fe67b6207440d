import Escrow.Engine.Delivery

/-!
# Housekeeping with an archive

The sweep expires every overdue transfer and records what stands in the way of one; the wallet view
splits the archived transfers of a wallet into active and completed ones; the pool report shows the
counters of a pool beside those rebuilt from the archive.
-/

namespace Escrow

/-- The caller of a sweep that is named by nobody. -/
def sweeperName : String := "expiry-sweeper"

/-- A row of a wallet: whether the wallet is the sender, and who is on the other side. -/
structure WalletRow where
  row : TransferRow
  isSent : Bool
  deriving DecidableEq

namespace WalletRow

/-- The name of the direction. -/
def direction (entry : WalletRow) : String := if entry.isSent then "SENT" else "RECEIVED"

/-- Who is on the other side. -/
def counterparty (entry : WalletRow) : String :=
  if entry.isSent then entry.row.recipient else entry.row.sender

/-- A row as the wallet sees it. -/
def ofRow (wallet : Value) (row : TransferRow) : WalletRow where
  row := row
  isSent := decide (Value.text row.sender = wallet)

/-- The row as a record. -/
def toValue (entry : WalletRow) : Except Fault Value := do
  return .mapping ((← entry.row.toEntries) ++
    [(.text "direction", .text entry.direction), (.text "counterparty", .text entry.counterparty)])

end WalletRow

/-- The archived transfers of a wallet. -/
structure WalletView where
  active : List WalletRow
  completed : List WalletRow
  deriving DecidableEq

namespace WalletView

/-- Split rows by whether their transfers are pending. -/
def ofRows (wallet : Value) (rows : List TransferRow) : WalletView where
  active := (rows.filter fun row => !row.status.isTerminal).map (WalletRow.ofRow wallet)
  completed := (rows.filter fun row => row.status.isTerminal).map (WalletRow.ofRow wallet)

/-- The view as a record. -/
def toValue (view : WalletView) : Except Fault Value := do
  let active ← view.active.mapM WalletRow.toValue
  let completed ← view.completed.mapM WalletRow.toValue
  return .mapping [(.text "active", .list active), (.text "completed", .list completed)]

end WalletView

/-- The counters of a pool beside those rebuilt from the archive. -/
structure PoolReport where
  pool : Pool
  archive : Reconciliation
  pending : Nat

namespace PoolReport

/-- The counters that are compared. -/
def compared (report : PoolReport) : List (Counter × Value × Int) :=
  [(.deposited, report.pool.deposited, report.archive.deposited),
    (.withdrawn, report.pool.withdrawn, report.archive.withdrawn),
    (.feesCollected, report.pool.feesCollected, report.archive.feesCollected),
    (.resolved, report.pool.resolved, report.archive.resolved)]

/-- The counters that differ. -/
def mismatches (report : PoolReport) : List (Counter × Value × Int) :=
  report.compared.filter fun (_, counted, rebuilt) => !counted.same (.int rebuilt)

/-- Do the counters agree? -/
def isConsistent (report : PoolReport) : Bool := report.mismatches.isEmpty

/-- The report as a record. -/
def toValue (report : PoolReport) : Except Fault Value := do
  let mismatchEntry : Counter × Value × Int → Value × Value
    | (counter, counted, rebuilt) =>
      (.text counter.name, .mapping [(.text "pool", counted), (.text "archive", .int rebuilt)])
  return .mapping [(.text "pool", ← report.pool.toValue),
    (.text "archive", report.archive.toValue), (.text "consistent", .bool report.isConsistent),
    (.text "mismatches", .mapping (report.mismatches.map mismatchEntry)),
    (.text "pending_transfers", .int report.pending)]

end PoolReport

namespace Engine

/-- Set the engine up with an archive, kept by a listener. -/
def withArchive (engine : Engine) (archive : Archive) : Engine :=
  { engine with archive := some archive, listeners := engine.listeners ++ [.archivist] }

/-- Read from the archive, if there is one. -/
def readArchive {α : Type} (engine : Engine) (query : Query α) : Except Fault α :=
  match engine.archive with
  | none => .error .missingMember
  | some archive => archive.read query

/-- The engine after a reading from its archive. -/
def afterReading {α : Type} (engine : Engine) (query : Query α) : Engine :=
  { engine with archive := engine.archive.map (·.afterReading query) }

/-- The overdue pending transfers of a pool, or of all. -/
def overdue (engine : Engine) (pool : Value) : Except Fault (List Transfer) := do
  let now ← engine.reading
  (engine.pending pool).filterM fun transfer => transfer.isExpired now

/-- Record in the archive what stands in the way of a transfer. -/
def recordRefusal (engine : Engine) (id : Value) (refusal : Refusal) :
    Engine × Except Fault Bool :=
  engine.writeArchive fun archive =>
    archive.writeError id (.text refusal.cause.kind.code) (refusal.cause.given Fault.describe)
      engine.now

/-- Expire transfers one after another.  A refusal is recorded and the sweep goes on; a fault ends
it. -/
def sweepEach (engine : Engine) (caller : Value) : List Value → Engine × Answer (List Event)
  | [] => (engine, .ok [])
  | id :: rest =>
    match engine.serve id (.expire caller) with
    | (engine, .ok event) =>
      let (engine, swept) := engine.sweepEach caller rest
      (engine, swept.map (event :: ·))
    | (engine, .error (.fault fault)) => (engine, .error (.fault fault))
    | (engine, .error (.refused refusal)) =>
      match engine.recordRefusal id refusal with
      | (engine, .ok _) => engine.sweepEach caller rest
      | (engine, .error fault) => (engine, .error (.fault fault))

/-- Expire every overdue transfer of a pool, or of all. -/
def sweep (engine : Engine) (pool caller : Value) : Engine × Answer (List Event) :=
  match engine.archive with
  | none => (engine, .error (.fault .missingMember))
  | some _ =>
    match engine.overdue pool with
    | .error fault => (engine, .error (.fault fault))
    | .ok transfers => engine.sweepEach caller (transfers.map (·.id))

/-- The archived transfers of a wallet. -/
def walletView (engine : Engine) (wallet : Value) : Except Fault WalletView :=
  (engine.readArchive (.walletRows wallet .both)).map (WalletView.ofRows wallet)

/-- The report of a pool. -/
def poolReport (engine : Engine) (id : Value) : Answer PoolReport := do
  if engine.archive.isNone then throw (.fault .missingMember)
  let pool ← engine.pool id
  let _ ← pool.toValue.mapError .fault
  let reconciliation ← (engine.readArchive (.reconcile id)).mapError .fault
  return ⟨pool, reconciliation, (engine.pending id).length⟩

/-- Close the archive. -/
def closeArchive (engine : Engine) : Answer Engine :=
  match engine.archive with
  | none => .error (.fault .missingMember)
  | some archive => .ok { engine with archive := some archive.close }

end Engine
end Escrow
