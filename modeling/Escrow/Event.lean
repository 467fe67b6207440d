import Escrow.Transfer

/-!
# Events

An event tells the listeners that a transfer was created or settled.
-/

namespace Escrow

/-- The news of one created or settled transfer. -/
structure Event where
  transfer : Value
  pool : Value
  sender : Value
  recipient : Value
  amount : Int
  fee : Whole
  /-- What the ledger moved. -/
  net : Int
  /-- The status that the transfer entered: pending when it was created. -/
  status : Status
  occurredAt : Option Instant
  reasonCode : Value := .null
  reasonMessage : Value := .null
  /-- What the ledger calls the move. -/
  reference : Value := .null
  deriving DecidableEq

namespace Event

/-- The name of an event's kind. -/
def kindName (event : Event) : String := if event.status.isTerminal then "settled" else "created"

/-- The news of a new transfer. -/
def created (transfer : Transfer) (reference : Value) : Event where
  transfer := transfer.id
  pool := transfer.pool
  sender := transfer.sender
  recipient := transfer.recipient
  amount := transfer.amount
  fee := 0
  net := transfer.amount
  status := .pending
  occurredAt := transfer.createdAt
  reference := reference

/-- The news of a settled transfer of a pool. -/
def settled (transfer : Transfer) (pool : Value) (fee : Whole) (now : Instant) (reference : Value) :
    Event where
  transfer := transfer.id
  pool := pool
  sender := transfer.sender
  recipient := transfer.recipient
  amount := transfer.amount
  fee := fee
  net := transfer.amount - fee.toInt
  status := transfer.status
  occurredAt := some now
  reasonCode := transfer.reasonCode
  reasonMessage := transfer.reasonMessage
  reference := reference

/-- The event as a record, which must tell when it happened. -/
def toValue (event : Event) : Except Fault Value :=
  match event.occurredAt with
  | none => .error .missingMember
  | some occurredAt =>
    .ok (.mapping [(.text "event_type", .text event.kindName),
      (.text "transfer_id", event.transfer), (.text "pool_id", event.pool),
      (.text "sender", event.sender), (.text "recipient", event.recipient),
      (.text "amount", .int event.amount), (.text "fee", event.fee.toValue),
      (.text "net_amount", .int event.net), (.text "outcome", .text event.status.name),
      (.text "occurred_at", .text occurredAt.text), (.text "reason_code", event.reasonCode),
      (.text "reason_message", event.reasonMessage), (.text "ledger_reference", event.reference)])

end Event
end Escrow
