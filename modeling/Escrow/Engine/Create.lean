import Escrow.Engine.State

/-!
# Creating a transfer

A transfer is created in steps: it is drafted from its request, which needs a known pool, a valid
amount, a short memo and a deadline ahead; it is prepared, which needs an unused id and a pool that
takes the deposit; the ledger moves the deposit into custody; and the transfer is booked.
-/

namespace Escrow

/-- What is asked for in a new transfer. -/
structure CreateRequest where
  pool : Value
  sender : Value
  recipient : Value
  amount : Value
  /-- The deadline, if there is one. -/
  expiresAt : Value := .null
  memo : Value := .text ""
  /-- The id that the caller chose; one that counts as nothing lets the engine choose. -/
  id : Value := .null
  deriving DecidableEq

/-- The id of a number that the engine has drawn: 32 hexadecimal digits. -/
def drawnId (n : Nat) : String :=
  let digits := Nat.toDigits 16 n
  String.ofList (List.replicate (32 - digits.length) '0' ++ digits)

namespace Engine

/-- A whole number that is an amount. -/
def checkAmount (amount : Value) : Answer Int :=
  match amount with
  | .int n => if IsAmount n then .ok n else .error (.ofCause (.call (.amountOutOfRange n)))
  | _ => .error (.ofCause (.call (.amountNotWhole amount)))

/-- The deadline that is asked for; one without a zone is refused, and one that is not ahead. -/
def readExpiry (expiresAt : Value) (now : Option Instant) : Answer (Option Instant) :=
  match expiresAt with
  | .null => .ok none
  | .moment deadline =>
    if deadline.offset.isNone then .error (.ofCause (.call (.expiryWithoutZone deadline)))
    else
      match now.bind deadline.atOrBefore? with
      | none => .error (.fault .wrongKind)
      | some true => .error (.ofCause (.call (.expiryNotInFuture deadline)))
      | some false => .ok (some deadline)
  | _ => .error (.fault .missingMember)

/-- The transfer that a valid request asks for, under the given id. -/
def draft (engine : Engine) (request : CreateRequest) (id : Value) : Answer Transfer := do
  let _ ← engine.pool request.pool
  let amount ← checkAmount request.amount
  let memo ← engine.checkMessage request.memo .null
  let now ← engine.reading.mapError .fault
  let deadline ← readExpiry request.expiresAt now
  return {
    id := id
    pool := request.pool
    sender := request.sender
    recipient := request.recipient
    amount := amount
    createdAt := now
    expiresAt := deadline
    memo := memo.getD "" }

/-- Draft a transfer.  The engine draws an id for a valid request without one. -/
def drafted (engine : Engine) (request : CreateRequest) : Engine × Answer Transfer :=
  if request.id.isTruthy then (engine, engine.draft request request.id)
  else
    match engine.draft request (.text (drawnId (engine.drawn + 1))) with
    | .ok transfer => ({ engine with drawn := engine.drawn + 1 }, .ok transfer)
    | .error problem => (engine, .error problem)

/-- Prepare the deposit of a drafted transfer. -/
def prepareDeposit (engine : Engine) (transfer : Transfer) : Answer Move := do
  let pool ← engine.pool transfer.pool
  if !transfer.id.isKey then throw (.fault .wrongKind)
  if engine.isTaken transfer.id then throw (.about transfer.id (.transferExists transfer.id))
  pool.checkDeposit (.int transfer.amount)
  return ⟨transfer.sender, pool.custody, .int transfer.amount, pool.asset⟩

/-- Book a transfer whose deposit has moved. -/
def bookDeposit (engine : Engine) (transfer : Transfer) : Answer Engine := do
  let pool ← engine.pool transfer.pool
  let booked ← pool.bookDeposit transfer.amount
  return { engine with
    pools := engine.pools.set transfer.pool.canonical booked
    transfers := engine.transfers.set transfer.id.canonical transfer }

/-- Create a transfer, without telling the listeners. -/
def deposit (engine : Engine) (request : CreateRequest) : Engine × Answer (Transfer × Event) :=
  match engine.drafted request with
  | (engine, .error problem) => (engine, .error problem)
  | (engine, .ok transfer) =>
    match engine.prepareDeposit transfer with
    | .error problem => (engine, .error problem)
    | .ok move =>
      let (ledger, moved) := engine.ledger.move move engine.now
      let paid := { engine with ledger := ledger }
      match moved with
      | .error problem => (paid, .error problem)
      | .ok reference =>
        match paid.bookDeposit transfer with
        | .error problem => (paid, .error problem)
        | .ok created => (created, .ok (transfer, .created transfer reference))

end Engine
end Escrow
