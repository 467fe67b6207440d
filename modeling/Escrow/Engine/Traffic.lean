import Escrow.Engine.Call

/-!
# Calls in traffic

Calls that are served at the same time.  A call is suspended at two points: where it waits for the
lock of its pool, and where it waits for the ledger, which moves the funds at any later time.  What
it does up to the next such point is one turn, so that every order of turns that the locks allow is
a list of turns.  A turn whose time has not come changes nothing.

A settlement holds on to the record that it has found, even if another one of the same id takes its
place.  The listeners are left out: they are told when a call is over, and an acceptance of theirs
is a call of its own.
-/

namespace Escrow

/-- A call that waits for the lock of its pool. -/
inductive Errand where
  /-- Create the transfer that has been drafted. -/
  | create (transfer : Transfer)
  /-- Settle the transfer whose record was found in this pool. -/
  | settle (transfer pool : Value) (call : SettlementCall)
  | updateFees (pool : Value) (schedule : Schedule)

namespace Errand

/-- The pool whose lock is waited for. -/
def pool : Errand → Value
  | .create transfer => transfer.pool
  | .settle _ pool _ => pool
  | .updateFees pool _ => pool

end Errand

/-- What a call books when its funds have moved. -/
inductive Business where
  | deposit (transfer : Transfer)
  | payout (payout : Payout)

/-- A call that has passed its checks and has the lock of its pool. -/
structure Flight where
  business : Business
  move : Move
  /-- What the ledger has answered, once it has. -/
  answer : Option (Answer Value) := none

/-- An engine and the calls that are under way. -/
structure Traffic where
  engine : Engine
  waiting : List Errand := []
  /-- The calls that have the lock of a pool, by the key of the pool. -/
  holders : Table Value Flight := .empty
  /-- The records whose place another one has taken, by the keys of the transfer and of its pool. -/
  replaced : Table (Value × Value) Transfer := .empty
  /-- The answers of the calls that are over, oldest first. -/
  replies : List (Answer Reply) := []

/-- The next thing that happens in traffic. -/
inductive Turn where
  | create (request : CreateRequest)
  | settle (transfer : Value) (call : SettlementCall)
  | updateFees (pool caller : Value) (schedule : Schedule)
  /-- One of the waiting calls gets the lock that it waits for. -/
  | enter (number : Nat)
  /-- The ledger serves the call that has the lock of a pool. -/
  | move (key : Value)
  /-- The call that has the lock of a pool goes on with the ledger's answer. -/
  | finish (key : Value)
  | register (pool : Pool)
  /-- Something else happens to the ledger. -/
  | setLedger (ledger : Ledger)
  | setClock (clock : Option Instant)

namespace Traffic

/-- An engine with no call under way. -/
def ofEngine (engine : Engine) : Traffic := { engine := engine }

/-- The traffic with the answer of a call that is over. -/
def reply (traffic : Traffic) (answer : Answer Reply) : Traffic :=
  { traffic with replies := traffic.replies ++ [answer] }

/-- The engine as it looks to a call that holds on to the record of a transfer in a pool.  No two
records of one id are in the same pool, because the lock of the pool keeps them apart. -/
def seenFrom (traffic : Traffic) (transfer pool : Value) : Engine :=
  match traffic.replaced.get? (transfer.canonical, pool.canonical) with
  | some record =>
    { traffic.engine with
      transfers := traffic.engine.transfers.set transfer.canonical record }
  | none => traffic.engine

/-- The traffic after its engine was changed as seen from a record. -/
def changedFrom (traffic : Traffic) (transfer pool : Value) (engine : Engine) : Traffic :=
  match traffic.replaced.get? (transfer.canonical, pool.canonical) with
  | some record =>
    { traffic with
      engine := { engine with transfers := traffic.engine.transfers }
      replaced := traffic.replaced.set (transfer.canonical, pool.canonical)
        ((engine.transfers.get? transfer.canonical).getD record) }
  | none => { traffic with engine := engine }

/-! ## Up to the lock -/

/-- Let a call that may go on wait for its lock. -/
def wait (traffic : Traffic) (errand : Answer Errand) : Traffic :=
  match errand with
  | .ok errand => { traffic with waiting := traffic.waiting ++ [errand] }
  | .error problem => traffic.reply (.error problem)

/-- Begin a creation: the transfer is drafted. -/
def create (traffic : Traffic) (request : CreateRequest) : Traffic :=
  let (engine, drafted) := traffic.engine.drafted request
  { traffic with engine := engine }.wait (drafted.map .create)

/-- Begin a settlement: its record is found, and its caller may make it. -/
def settle (traffic : Traffic) (id : Value) (call : SettlementCall) : Traffic :=
  traffic.wait do
    traffic.engine.checkCaller id call
    return .settle id (← traffic.engine.transfer id).pool call

/-- Begin a change of fees: its caller may make it. -/
def updateFees (traffic : Traffic) (id caller : Value) (schedule : Schedule) : Traffic :=
  traffic.wait ((traffic.engine.updateFees id caller schedule).map fun _ => .updateFees id schedule)

/-! ## Up to the ledger -/

/-- Give the lock of a pool to a call that waits for the ledger next. -/
def hold (traffic : Traffic) (pool : Value) (flight : Flight) : Traffic :=
  { traffic with holders := traffic.holders.set pool.canonical flight }

/-- Go on with a call that has got its lock. -/
def proceed (traffic : Traffic) : Errand → Traffic
  | .create transfer =>
    match traffic.engine.prepareDeposit transfer with
    | .ok move => traffic.hold transfer.pool ⟨.deposit transfer, move, none⟩
    | .error problem => traffic.reply (.error problem)
  | .settle id pool call =>
    match (traffic.seenFrom id pool).prepare id call with
    | .ok payout => traffic.hold pool ⟨.payout payout, payout.move, none⟩
    | .error problem => traffic.reply (.error problem)
  | .updateFees id schedule =>
    match traffic.engine.pool id with
    | .ok pool =>
      { traffic with
        engine := { traffic.engine with
          pools := traffic.engine.pools.set id.canonical
            { pool with schedule := schedule } } }.reply (.ok .done)
    | .error problem => traffic.reply (.error problem)

/-- Give a waiting call its lock, if it is free. -/
def enter (traffic : Traffic) (number : Nat) : Traffic :=
  match traffic.waiting[number]? with
  | none => traffic
  | some errand =>
    if traffic.holders.contains errand.pool.canonical then traffic
    else { traffic with waiting := traffic.waiting.eraseIdx number }.proceed errand

/-- Let the ledger serve a call. -/
def move (traffic : Traffic) (key : Value) : Traffic :=
  match traffic.holders.get? key with
  | some ⟨business, move, none⟩ =>
    let (ledger, answer) := traffic.engine.ledger.move move traffic.engine.now
    { traffic with
      engine := { traffic.engine with ledger := ledger }
      holders := traffic.holders.set key ⟨business, move, some answer⟩ }
  | _ => traffic

/-! ## Up to the end -/

/-- The replaced records after a transfer has taken its place in the register. -/
def replacedBy (traffic : Traffic) (transfer : Transfer) : Table (Value × Value) Transfer :=
  match traffic.engine.transfers.get? transfer.id.canonical with
  | some record =>
    traffic.replaced.set (transfer.id.canonical, record.pool.canonical) record
  | none => traffic.replaced

/-- Go on with a call whose funds the ledger has moved, or has refused to move. -/
def book (traffic : Traffic) : Business → Answer Value → Traffic
  | .deposit transfer, .ok _ =>
    match traffic.engine.bookDeposit transfer with
    | .ok engine =>
      { traffic with
        engine := engine
        replaced := traffic.replacedBy transfer }.reply (.ok (.transfer transfer))
    | .error problem => traffic.reply (.error problem)
  | .deposit _, .error problem => traffic.reply (.error problem)
  | .payout payout, .ok reference =>
    let (engine, settled) :=
      (traffic.seenFrom payout.transfer payout.pool).book payout reference
    (traffic.changedFrom payout.transfer payout.pool engine).reply (settled.map .event)
  | .payout payout, .error problem =>
    traffic.reply (.error (problem.attributedTo payout.transfer))

/-- Let a call that the ledger has answered give its lock back and end. -/
def finish (traffic : Traffic) (key : Value) : Traffic :=
  match traffic.holders.get? key with
  | some ⟨business, _, some answer⟩ =>
    { traffic with holders := traffic.holders.erase key }.book business answer
  | _ => traffic

/-! ## Runs -/

/-- Register a pool. -/
def register (traffic : Traffic) (pool : Pool) : Traffic :=
  match traffic.engine.register pool with
  | .ok engine => { traffic with engine := engine }.reply (.ok (.pool pool))
  | .error problem => traffic.reply (.error problem)

/-- The traffic after a turn. -/
def turn (traffic : Traffic) : Turn → Traffic
  | .create request => traffic.create request
  | .settle id call => traffic.settle id call
  | .updateFees id caller schedule => traffic.updateFees id caller schedule
  | .enter number => traffic.enter number
  | .move key => traffic.move key
  | .finish key => traffic.finish key
  | .register pool => traffic.register pool
  | .setLedger ledger => { traffic with engine := { traffic.engine with ledger := ledger } }
  | .setClock clock => { traffic with engine := { traffic.engine with clock := clock } }

/-- Take turns one after another. -/
def run (traffic : Traffic) (turns : List Turn) : Traffic := turns.foldl turn traffic

end Traffic
end Escrow
