import Escrow.Engine.Sweep

/-!
# Calls and runs

Everything that can happen to an engine, as data: the calls of its users, the passing of time, and
what its ledger is told from outside.  A run is a list of calls; each call is served whether or not
the ones before it succeeded.
-/

namespace Escrow

/-- Something that happens to an engine. -/
inductive Call where
  | create (request : CreateRequest)
  | settle (transfer : Value) (call : SettlementCall)
  | updateFees (pool caller : Value) (schedule : Schedule)
  | register (pool : Pool)
  | archive (transfer : Value)
  | prune
  | sweep (pool caller : Value)
  | listen (listener : Listener)
  | setClock (clock : Option Instant)
  | advance (micros : Int)
  /-- Arm a failure of the books. -/
  | arm (message : Value)
  | credit (account : Account) (amount : Value)
  /-- Let the ledger refuse its next move. -/
  | refuseNext (message transfer : Value)
  /-- Change what the exchange will answer. -/
  | script (changes : List (Value × Value))
  | closeArchive
  deriving DecidableEq

/-- The result of a call. -/
inductive Reply where
  | done
  | transfer (transfer : Transfer)
  | event (event : Event)
  | events (events : List Event)
  | pool (pool : Pool)
  | count (n : Nat)
  deriving DecidableEq

namespace Reply

/-- The reply as a record. -/
def toValue : Reply → Except Fault Value
  | .done => .ok .null
  | .transfer record => record.toValue
  | .event news => news.toValue
  | .events news => (news.mapM Event.toValue).map .list
  | .pool registered => registered.toValue
  | .count n => .ok (.int n)

end Reply

namespace Engine

/-- The engine after a change that may be refused. -/
def changed (engine : Engine) (change : Answer Engine) : Engine × Answer Reply :=
  match change with
  | .ok next => (next, .ok .done)
  | .error problem => (engine, .error problem)

/-- Change the books of the engine's ledger, if it has any. -/
def onBooks (engine : Engine) (change : Books → Books × Answer Unit) : Engine × Answer Reply :=
  match engine.ledger.backing with
  | .books books =>
    let (books, result) := change books
    ({ engine with ledger := { engine.ledger with backing := .books books } },
      result.map fun _ => .done)
  | .custody _ => (engine, .error (.fault .missingMember))

/-- Change the exchange of the engine's ledger, if it has one. -/
def onExchange (engine : Engine) (change : Exchange → Exchange) : Engine × Answer Reply :=
  match engine.ledger.backing with
  | .books _ => (engine, .error (.fault .missingMember))
  | .custody custody =>
    let custody := { custody with exchange := change custody.exchange }
    ({ engine with ledger := { engine.ledger with backing := .custody custody } }, .ok .done)

/-- Serve a call. -/
def perform (engine : Engine) : Call → Engine × Answer Reply
  | .create request =>
    let (engine, result) := engine.create request
    (engine, result.map .transfer)
  | .settle id call =>
    let (engine, result) := engine.serve id call
    (engine, result.map .event)
  | .updateFees id caller schedule => engine.changed (engine.updateFees id caller schedule)
  | .register pool =>
    match engine.register pool with
    | .ok next => (next, .ok (.pool pool))
    | .error problem => (engine, .error problem)
  | .archive id =>
    match engine.archiveTransfer id with
    | .ok (next, transfer) => (next, .ok (.transfer transfer))
    | .error problem => (engine, .error problem)
  | .prune => (engine.prune, .ok (.count engine.archived.size))
  | .sweep pool caller =>
    let (engine, result) := engine.sweep pool caller
    (engine, result.map .events)
  | .listen listener => ({ engine with listeners := engine.listeners ++ [listener] }, .ok .done)
  | .setClock clock => ({ engine with clock := clock }, .ok .done)
  | .advance micros =>
    match engine.clock.map (·.after? micros) with
    | some (some clock) => ({ engine with clock := some clock }, .ok .done)
    | some none => (engine, .error (.fault .outOfRange))
    | none => (engine, .error (.fault .wrongKind))
  | .arm message => engine.onBooks fun books => (books.arm message, .ok ())
  | .credit account amount => engine.onBooks fun books => books.credit account amount
  | .refuseNext message transfer =>
    ({ engine with ledger := engine.ledger.refuseNext message transfer }, .ok .done)
  | .script changes => engine.onExchange (·.update changes)
  | .closeArchive => engine.changed engine.closeArchive

/-- Serve calls one after another. -/
def run (engine : Engine) (calls : List Call) : Engine :=
  calls.foldl (fun engine call => (engine.perform call).1) engine

end Engine
end Escrow
