import Escrow.Engine.State

/-!
# Settling a transfer

A settlement call is served in steps: it is admitted, for which its caller may have to be the right
one; it is prepared, which fixes the fee and the move of funds and checks everything that could
still be refused; the ledger moves the funds; and the settlement is booked.  Nothing but the ledger
is touched before the booking.
-/

namespace Escrow

/-- A call that settles a transfer. -/
inductive SettlementCall where
  | accept (caller : Value)
  | reject (caller code message : Value)
  | expire (caller : Value)
  | cancel (caller : Value)
  deriving DecidableEq

/-- A prepared settlement. -/
structure Payout where
  /-- The id of the transfer and of its pool, as they were given to the engine. -/
  transfer : Value
  pool : Value
  settlement : Settlement
  fee : Whole
  move : Move
  deriving DecidableEq

/-- A refusal of a ledger, about the given transfer unless it is about one already. -/
def Problem.attributedTo (transfer : Value) : Problem → Problem
  | .refused refusal =>
    if refusal.cause.kind = .ledger ∧ refusal.transfer = .null then
      .refused { refusal with transfer := transfer }
    else .refused refusal
  | problem => problem

namespace Engine

/-- The reason code of an expired transfer. -/
def expiredCode : Int := 255

/-- May the caller settle the transfer this way?  The transfer is named as the call names it. -/
def authorize (pool : Pool) (transfer : Transfer) (id : Value) : SettlementCall → Answer Unit
  | .accept caller =>
    if caller.same pool.operator then .ok () else .error (.about id (.notOperator caller pool.id))
  | .reject caller _ _ =>
    if caller.same pool.operator then .ok () else .error (.about id (.notOperator caller pool.id))
  | .expire _ => .ok ()
  | .cancel caller =>
    if caller.same transfer.sender then .ok () else .error (.about id (.notSender caller id))

/-- Admit a call: its transfer and pool are known, and its caller may make it. -/
def checkCaller (engine : Engine) (id : Value) (call : SettlementCall) : Answer Unit := do
  let transfer ← engine.transfer id
  authorize (← engine.pool transfer.pool) transfer id call

/-- A reason code of one byte. -/
def checkReasonCode (transfer code : Value) : Answer Int :=
  match code with
  | .int n => if 0 ≤ n ∧ n ≤ 255 then .ok n else .error (.about transfer (.badReasonCode code))
  | _ => .error (.about transfer (.badReasonCode code))

/-- Refuse a transfer whose deadline has not passed. -/
def checkDue (transfer : Transfer) (id : Value) (now : Option Instant) : Answer Unit :=
  match transfer.expiresAt with
  | none => .error (.about id .noExpiry)
  | some deadline =>
    match transfer.isExpired now with
    | .error fault => .error (.fault fault)
    | .ok true => .ok ()
    | .ok false => .error (.about id (.expiryAhead deadline))

/-- The settlement that a call asks for, if the transfer and the arguments allow it. -/
def settlementOf (engine : Engine) (transfer : Transfer) (id : Value) :
    SettlementCall → Answer Settlement
  | .accept _ => .ok .accept
  | .reject _ code message => do
    let kept ← engine.checkMessage message id
    return .reject (.int (← checkReasonCode id code)) ((kept.map Value.text).getD .null)
  | .expire _ => do
    checkDue transfer id (← engine.reading.mapError .fault)
    return .expire (.int expiredCode)
  | .cancel _ => .ok .cancel

/-- Who is paid by a settlement: the recipient if it is accepted, else the sender. -/
def payee (transfer : Transfer) : Settlement → Value
  | .accept => transfer.recipient
  | _ => transfer.sender

/-- Prepare a settlement of a pending transfer. -/
def prepare (engine : Engine) (id : Value) (call : SettlementCall) : Answer Payout := do
  let transfer ← engine.transfer id
  let pool ← engine.pool transfer.pool
  transfer.validateActive transfer.id
  let settlement ← engine.settlementOf transfer id call
  let fee := pool.schedule.fee settlement.outcome (.number transfer.amount)
  pool.checkSettlement (.int transfer.amount) fee.toValue
  return {
    transfer := transfer.id
    pool := pool.id
    settlement := settlement
    fee := fee
    move := ⟨pool.custody, payee transfer settlement, .int (transfer.amount - fee.toInt),
      pool.asset⟩ }

/-- Book a settlement whose funds have moved.  The pool is written first, so that it is written even
where the time of the settlement is not known. -/
def book (engine : Engine) (payout : Payout) (reference : Value) : Engine × Answer Event :=
  let booking : Answer (Transfer × Pool) := do
    let transfer ← engine.transfer payout.transfer
    let pool ← engine.pool payout.pool
    return (transfer, ← pool.bookSettlement transfer.amount payout.fee)
  match booking with
  | .error problem => (engine, .error problem)
  | .ok (transfer, pool) =>
    let counted := { engine with pools := engine.pools.set payout.pool.canonical pool }
    match engine.reading with
    | .error fault => (counted, .error (.fault fault))
    | .ok shown =>
      -- A clock that shows nothing leaves the time to be asked for elsewhere.
      let now := shown.elim engine.now .ok
      let (progress, written) := transfer.settle transfer.id payout.settlement now
      let settled := { transfer with toProgress := progress }
      let written? : Answer Event := do
        written
        return .settled settled pool.id payout.fee (← now.mapError .fault) reference
      ({ counted with transfers := engine.transfers.set payout.transfer.canonical settled },
        written?)

/-- Settle a transfer, without telling the listeners. -/
def settle (engine : Engine) (id : Value) (call : SettlementCall) : Engine × Answer Event :=
  match (do engine.checkCaller id call; engine.prepare id call : Answer Payout) with
  | .error problem => (engine, .error problem)
  | .ok payout =>
    let (ledger, moved) := engine.ledger.move payout.move engine.now
    let paid := { engine with ledger := ledger }
    match moved with
    | .error problem => (paid, .error (problem.attributedTo payout.transfer))
    | .ok reference => paid.book payout reference

end Engine
end Escrow
