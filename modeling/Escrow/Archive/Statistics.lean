import Escrow.Archive.Store
import Escrow.Double.Fixed
import Escrow.Text.Case

/-!
# Statistics of the archive

The counts and sums over the archived transfers of one pool or of all, and the counters of a pool
rebuilt from its rows.  Only settled transfers count into the volume and the fees.
-/

namespace Escrow

/-- The sums over archived transfers. -/
structure Statistics where
  /-- How many transfers have each status. -/
  count : Status → Nat
  settled : Nat
  volume : Int
  fees : Int

/-- The counters of a pool, rebuilt from its rows. -/
structure Reconciliation where
  pool : Value
  deposited : Int
  withdrawn : Int
  feesCollected : Int
  resolved : Nat
  deriving DecidableEq

namespace Store

/-- The sum of the whole numbers that are read from rows. -/
def sumOf (read : TransferRow → Except Fault Int) : List TransferRow → Except Fault Int
  | [] => .ok 0
  | row :: rest => do return (← read row) + (← sumOf read rest)

/-- The amount of a row. -/
def amountOf (row : TransferRow) : Except Fault Int := readAmount row.amount

/-- The fee of a row; no fee counts as zero. -/
def feeOf (row : TransferRow) : Except Fault Int :=
  match row.fee with
  | none => .ok 0
  | some fee => if fee.isEmpty then .ok 0 else readAmount fee

/-- The rows of settled transfers. -/
def settledRows (rows : List TransferRow) : List TransferRow :=
  rows.filter fun row => row.status.isTerminal

/-- The statistics of a pool, or of all. -/
def statistics (store : Store) (pool : Value) : Except Fault Statistics := do
  let rows ← store.rowsOfPool pool
  let settled := settledRows rows
  return {
    count := fun status => (rows.filter fun row => decide (row.status = status)).length
    settled := settled.length
    volume := ← sumOf amountOf settled
    fees := ← sumOf feeOf settled }

/-- The counters of a pool rebuilt from its rows. -/
def reconcile (store : Store) (pool : Value) : Except Fault Reconciliation := do
  let rows ← store.rowsOfPool pool
  let settled := settledRows rows
  return {
    pool := pool
    deposited := ← sumOf amountOf rows
    withdrawn := ← sumOf amountOf settled
    feesCollected := ← sumOf feeOf settled
    resolved := settled.length }

end Store

namespace Statistics

/-- How many transfers there are. -/
def total (statistics : Statistics) : Nat :=
  Status.all.foldl (fun total status => total + statistics.count status) 0

/-- A share in percent.  The share itself must be in the range of the doubles. -/
def percentage (part whole : Int) : Except Fault Double :=
  match Double.ofRatio (decide (part < 0)) part.natAbs whole.natAbs with
  | .infinite _ => .error .outOfRange
  | share => .ok (share.mul (.ofInt 100))

/-- A share in percent as a value; of nothing the share is the number zero. -/
def percentageValue (part whole : Int) : Except Fault Value :=
  if 0 < whole then (percentage part whole).map .double else .ok (.int 0)

/-- A share in percent with a number of places. -/
def percentageText (places : Nat) (part whole : Int) : Except Fault String :=
  (if 0 < whole then percentage part whole else .ok (.ofInt 0)).map (·.fixedText places)

/-- The statistics as a record. -/
def toValue (statistics : Statistics) : Except Fault Value := do
  return .mapping [(.text "total_transfers", .int statistics.total),
    (.text "settled_transfers", .int statistics.settled),
    (.text "by_status", .mapping (Status.all.map fun status =>
      (.text status.name, .int (statistics.count status)))),
    (.text "acceptance_rate",
      ← percentageValue (statistics.count (.settled .accepted)) statistics.settled),
    (.text "total_volume", .int statistics.volume), (.text "total_fees", .int statistics.fees),
    (.text "avg_fee_percent", ← percentageValue statistics.fees statistics.volume)]

/-- A line of equals signs. -/
def rule : String := Text.times 80 "="

/-- A word filled up with blanks to a width. -/
def padded (width : Nat) (word : String) : String :=
  word ++ Text.times (width - word.length) " "

/-- The statistics as printed lines. -/
def lines (statistics : Statistics) (pool : Value) : Except Fault (List String) := do
  let acceptance ← percentageText 1 (statistics.count (.settled .accepted)) statistics.settled
  let averageFee ← percentageText 2 statistics.fees statistics.volume
  return ["", rule, "SETTLEMENT STATISTICS" ++ (if pool.isTruthy then s!" ({pool})" else ""), rule,
      s!"Total Transfers:      {statistics.total}", s!"Settled:              {statistics.settled}"] ++
    Status.all.map (fun status =>
      "  " ++ padded 19 (Text.capitalize status.name) ++ s!" {statistics.count status}") ++
    ["Acceptance Rate:      " ++ acceptance ++ "%",
      "Total Volume:         " ++ Text.grouped statistics.volume,
      "Total Fees:           " ++ Text.grouped statistics.fees,
      "Avg Fee:              " ++ averageFee ++ "%", rule, ""]

/-- The statistics as printed text. -/
def report (statistics : Statistics) (pool : Value) : Except Fault String :=
  (statistics.lines pool).map fun lines => String.join (lines.map (· ++ "\n"))

end Statistics

namespace Reconciliation

/-- What is held for pending transfers. -/
def escrowed (reconciliation : Reconciliation) : Int :=
  reconciliation.deposited - reconciliation.withdrawn

/-- The reconciliation as a record. -/
def toValue (reconciliation : Reconciliation) : Value :=
  .mapping [(.text "pool_id", reconciliation.pool),
    (.text "total_deposited", .int reconciliation.deposited),
    (.text "total_withdrawn", .int reconciliation.withdrawn),
    (.text "total_fees_collected", .int reconciliation.feesCollected),
    (.text "transfers_resolved", .int reconciliation.resolved),
    (.text "escrowed_balance", .int reconciliation.escrowed)]

end Reconciliation
end Escrow
