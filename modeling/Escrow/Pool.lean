import Escrow.Fee.Schedule
import Escrow.Value.Arithmetic

/-!
# Pools

A pool holds the deposits of one asset under one operator and one fee schedule.  Its five counters
only grow and fit in an amount.  A settlement releases the whole deposit and keeps the fee in
custody, so what is still held for pending transfers is deposited minus withdrawn, and the custody
account holds the collected fees on top of it.

Every operation checks before it writes: a refused operation gives no new pool.  The counters start
as whatever a caller gives, and count only if those are numbers.
-/

namespace Escrow

/-- A pool and its counters. -/
structure Pool where
  id : Value
  /-- Who accepts and rejects transfers. -/
  operator : Value
  asset : Value
  /-- Who changes the fee schedule. -/
  authority : Value
  /-- The ledger account of the pool. -/
  custody : Value
  /-- Decimal places of the asset, shown with the pool. -/
  decimals : Value := .int 6
  schedule : Schedule := {}
  deposited : Value := .int 0
  withdrawn : Value := .int 0
  feesCollected : Value := .int 0
  created : Value := .int 0
  resolved : Value := .int 0
  deriving DecidableEq

namespace Pool

/-- The custody account of a pool that names none. -/
def defaultCustody (id : Value) : Value := .text s!"pool:{id}"

/-- A new pool.  Without an authority the operator is it, and without a custody account the pool has
one named after itself. -/
def make (id operator asset authority custody decimals : Value) (schedule : Schedule) : Pool where
  id := id
  operator := operator
  asset := asset
  authority := if authority = .null then operator else authority
  custody := if custody = .null then defaultCustody id else custody
  decimals := decimals
  schedule := schedule

/-- What the pool still holds for pending transfers. -/
def escrowed (pool : Pool) : Except Fault Value := pool.deposited.sub pool.withdrawn

/-- What the custody account of the pool holds. -/
def inCustody (pool : Pool) : Except Fault Value := do (← pool.escrowed).add pool.feesCollected

/-- A refusal by a pool. -/
def refuse {α : Type} (cause : PoolCause) : Answer α := .error (.ofCause (.pool cause))

/-- A counter after an increment, which must be a whole number that is not negative. -/
def increased (counter : Counter) (current amount : Value) : Answer Value :=
  match amount.toInt? with
  | none => refuse (.badIncrement counter amount)
  | some n =>
    if n < 0 then refuse (.badIncrement counter amount)
    else do
      let total ← (current.add amount).mapError .fault
      if ← ((Value.int greatestAmount).less total).mapError .fault then
        refuse (.counterOverflow counter current amount)
      else return total

/-- The withdrawn total after a withdrawal, which the deposits must cover. -/
def nextWithdrawn (pool : Pool) (amount : Value) : Answer Value := do
  let total ← increased .withdrawn pool.withdrawn amount
  if ← (pool.deposited.less total).mapError .fault then
    refuse (.withdrawalExceedsDeposits amount pool.withdrawn pool.deposited)
  else return total

/-- The collected total after a fee, which the given withdrawn total must cover. -/
def nextFees (pool : Pool) (amount withdrawn : Value) : Answer Value := do
  let total ← increased .feesCollected pool.feesCollected amount
  if ← (withdrawn.less total).mapError .fault then
    refuse (.feesExceedWithdrawals amount pool.feesCollected withdrawn)
  else return total

/-- The pool after a deposit. -/
def addDeposit (pool : Pool) (amount : Value) : Answer Pool := do
  return { pool with deposited := ← increased .deposited pool.deposited amount }

/-- The pool after a withdrawal. -/
def addWithdrawal (pool : Pool) (amount : Value) : Answer Pool := do
  return { pool with withdrawn := ← pool.nextWithdrawn amount }

/-- The pool after it kept a fee; no fee changes nothing. -/
def addFee (pool : Pool) (amount : Value) : Answer Pool :=
  if amount.same (.int 0) then .ok pool
  else do return { pool with feesCollected := ← pool.nextFees amount pool.withdrawn }

/-- The pool with one more created transfer. -/
def addCreated (pool : Pool) : Answer Pool := do
  return { pool with created := ← increased .created pool.created (.int 1) }

/-- The pool with one more resolved transfer. -/
def addResolved (pool : Pool) : Answer Pool := do
  return { pool with resolved := ← increased .resolved pool.resolved (.int 1) }

/-- Would a deposit for a new transfer be taken? -/
def checkDeposit (pool : Pool) (amount : Value) : Answer Unit := do
  let _ ← increased .deposited pool.deposited amount
  let _ ← increased .created pool.created (.int 1)

/-- Would a settlement with this fee be taken? -/
def checkSettlement (pool : Pool) (amount fee : Value) : Answer Unit := do
  let withdrawn ← pool.nextWithdrawn amount
  let _ ← pool.nextFees fee withdrawn
  let _ ← increased .resolved pool.resolved (.int 1)

/-- The pool after a deposit for a new transfer. -/
def bookDeposit (pool : Pool) (amount : Int) : Answer Pool := do
  (← pool.addDeposit (.int amount)).addCreated

/-- The pool after a settlement: the whole amount is released, and the fee is kept. -/
def bookSettlement (pool : Pool) (amount : Int) (fee : Whole) : Answer Pool := do
  (← (← pool.addWithdrawal (.int amount)).addFee fee.toValue).addResolved

/-- The counters of a pool with the two balances. -/
def counters (pool : Pool) : Except Fault (List Value) := do
  return [pool.deposited, pool.withdrawn, pool.feesCollected, pool.created, pool.resolved,
    ← pool.escrowed, ← pool.inCustody]

/-- The pool as a record. -/
def toValue (pool : Pool) : Except Fault Value := do
  return .mapping [(.text "pool_id", pool.id), (.text "operator", pool.operator),
    (.text "authority", pool.authority), (.text "custody", pool.custody),
    (.text "asset", pool.asset), (.text "decimals", pool.decimals),
    (.text "fee_schedule", pool.schedule.toValue),
    (.text Counter.deposited.name, pool.deposited),
    (.text Counter.withdrawn.name, pool.withdrawn),
    (.text Counter.feesCollected.name, pool.feesCollected),
    (.text Counter.created.name, pool.created),
    (.text Counter.resolved.name, pool.resolved),
    (.text "escrowed_balance", ← pool.escrowed),
    (.text "custody_balance", ← pool.inCustody)]

end Pool
end Escrow
