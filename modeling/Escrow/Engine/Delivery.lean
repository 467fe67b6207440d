import Escrow.Engine.Create
import Escrow.Engine.Settle

/-!
# Telling the listeners

Every created and every settled transfer is told to all listeners, in the order in which they were
added.  A listener that fails does not disturb the others.  A listener may accept a transfer that it
hears of; then all listeners hear of the settlement before the remaining ones hear of the creation.
-/

namespace Escrow.Engine

/-- Write down that a listener has heard an event. -/
def hear (engine : Engine) (listener : Listener) (event : Event) : Engine :=
  match listener.tag? with
  | some tag => { engine with heard := engine.heard ++ [⟨tag, event⟩] }
  | none => engine

/-- Write to the archive, if there is one. -/
def writeArchive (engine : Engine) (attempt : Archive → Archive × Except Fault Bool) :
    Engine × Except Fault Bool :=
  match engine.archive with
  | none => (engine, .error .missingMember)
  | some archive =>
    let (archive, success) := attempt archive
    ({ engine with archive := some archive }, success)

/-- Write a transfer to the archive. -/
def writeTransfer (engine : Engine) (transfer : Transfer) (fee net : Value) : Engine :=
  (engine.writeArchive (·.writeTransfer transfer.toEntry fee net engine.now)).1

/-- Keep the archive: record the event and the transfer's row, and archive a settled transfer. -/
def archiveEvent (engine : Engine) (event : Event) : Engine :=
  match engine.writeArchive (·.writeEvent event.toEntry) with
  | (engine, .error _) => engine
  | (engine, .ok _) =>
    if event.status.isTerminal then
      match engine.archiveTransfer event.transfer with
      | .ok (engine, transfer) =>
        engine.writeTransfer transfer event.fee.toValue (.int event.net)
      | .error _ => engine
    else
      match engine.transfer event.transfer with
      | .ok transfer => engine.writeTransfer transfer .null .null
      | .error _ => engine

/-- Tell a listener of a settled transfer. -/
def tellSettled (event : Event) (engine : Engine) (listener : Listener) : Engine :=
  match listener with
  | .archivist => engine.archiveEvent event
  | _ => engine.hear listener event

/-- Tell all listeners of a settled transfer. -/
def announceSettled (engine : Engine) (event : Event) : Engine :=
  engine.listeners.foldl (tellSettled event) engine

/-- Serve a settlement call. -/
def serve (engine : Engine) (id : Value) (call : SettlementCall) : Engine × Answer Event :=
  match engine.settle id call with
  | (engine, .ok event) => (engine.announceSettled event, .ok event)
  | failed => failed

/-- Tell a listener of a created transfer. -/
def tellCreated (event : Event) (engine : Engine) (listener : Listener) : Engine :=
  match listener with
  | .archivist => engine.archiveEvent event
  | .acceptor _ caller => ((engine.hear listener event).serve event.transfer (.accept caller)).1
  | _ => engine.hear listener event

/-- Tell all listeners of a created transfer. -/
def announceCreated (engine : Engine) (event : Event) : Engine :=
  engine.listeners.foldl (tellCreated event) engine

/-- Create a transfer.  The answer is its record after all listeners have heard of it. -/
def create (engine : Engine) (request : CreateRequest) : Engine × Answer Transfer :=
  match engine.deposit request with
  | (engine, .error problem) => (engine, .error problem)
  | (engine, .ok (transfer, event)) =>
    let told := engine.announceCreated event
    (told, .ok ((told.lastRecord? transfer.id).getD transfer))

end Escrow.Engine
