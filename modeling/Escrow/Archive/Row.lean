import Escrow.Archive.Cell
import Escrow.Event
import Escrow.Value.Read

/-!
# Rows of the archive

What is handed to the archive, and the rows that it keeps: one for each transfer, one for each event
and one for each recorded error.  Amounts are kept as texts, because they may need 64 bits without a
sign, and are read back as whole numbers.
-/

namespace Escrow

/-- What is archived of an event. -/
structure EventEntry where
  transfer : Value
  pool : Value
  kind : Value
  outcome : Value
  amount : Value
  fee : Value
  net : Value
  occurredAt : Option Instant
  reasonCode : Value := .null
  reasonMessage : Value := .null
  reference : Value := .null
  deriving DecidableEq

/-- An event for the archive. -/
def Event.toEntry (event : Event) : EventEntry where
  transfer := event.transfer
  pool := event.pool
  kind := .text event.kindName
  outcome := .text event.status.name
  amount := .int event.amount
  fee := event.fee.toValue
  net := .int event.net
  occurredAt := event.occurredAt
  reasonCode := event.reasonCode
  reasonMessage := event.reasonMessage
  reference := event.reference

/-- The archived state of a transfer.  The first part is written once, with the row; the second part
is written again whenever the transfer is archived again. -/
structure TransferRow where
  number : Nat
  transfer : String
  pool : String
  sender : String
  recipient : String
  amount : String
  memo : Option String
  createdAt : String
  expiresAt : Option String
  fee : Option String
  net : Option String
  status : Status
  reasonCode : Value
  reasonMessage : Option String
  resolvedAt : Option String
  archivedAt : Option String
  deriving DecidableEq

/-- An archived event. -/
structure EventRow where
  number : Nat
  transfer : String
  pool : String
  kind : String
  outcome : String
  amount : String
  fee : String
  net : String
  reasonCode : Value
  reasonMessage : Option String
  reference : Option String
  occurredAt : String
  deriving DecidableEq

/-- A recorded error. -/
structure ErrorRow where
  number : Nat
  transfer : Option String
  kind : String
  message : String
  occurredAt : String
  deriving DecidableEq

/-- The whole number in a text cell. -/
def readAmount (cell : String) : Except Fault Int := Value.readInt (.text cell)

/-- A text cell that may be empty, as a value. -/
def cellValue (cell : Option String) : Value := (cell.map Value.text).getD .null

/-- The whole number in a text cell that may be empty, as a value. -/
def amountValue : Option String → Except Fault Value
  | none => .ok .null
  | some cell => (readAmount cell).map .int

namespace TransferRow

/-- Write the later part of a row over an earlier row. -/
def updatedBy (old new : TransferRow) : TransferRow :=
  { old with
    fee := new.fee
    net := new.net
    status := new.status
    reasonCode := new.reasonCode
    reasonMessage := new.reasonMessage
    resolvedAt := new.resolvedAt
    archivedAt := new.archivedAt }

/-- The row as a record. -/
def toEntries (row : TransferRow) : Except Fault (List (Value × Value)) := do
  return [(.text "id", .int row.number), (.text "transfer_id", .text row.transfer),
    (.text "pool_id", .text row.pool), (.text "sender", .text row.sender),
    (.text "recipient", .text row.recipient), (.text "amount", ← amountValue (some row.amount)),
    (.text "fee", ← amountValue row.fee), (.text "net_amount", ← amountValue row.net),
    (.text "memo", cellValue row.memo), (.text "status", .text row.status.name),
    (.text "reason_code", row.reasonCode), (.text "reason_message", cellValue row.reasonMessage),
    (.text "created_at", .text row.createdAt), (.text "expires_at", cellValue row.expiresAt),
    (.text "resolved_at", cellValue row.resolvedAt),
    (.text "archived_at", cellValue row.archivedAt)]

/-- The row as a value. -/
def toValue (row : TransferRow) : Except Fault Value := row.toEntries.map .mapping

end TransferRow

/-- The row as a value. -/
def EventRow.toValue (row : EventRow) : Except Fault Value := do
  return .mapping [(.text "id", .int row.number), (.text "transfer_id", .text row.transfer),
    (.text "pool_id", .text row.pool), (.text "event_type", .text row.kind),
    (.text "outcome", .text row.outcome), (.text "amount", ← amountValue (some row.amount)),
    (.text "fee", ← amountValue (some row.fee)), (.text "net_amount", ← amountValue (some row.net)),
    (.text "reason_code", row.reasonCode), (.text "reason_message", cellValue row.reasonMessage),
    (.text "ledger_reference", cellValue row.reference),
    (.text "occurred_at", .text row.occurredAt)]

/-- The row as a value. -/
def ErrorRow.toValue (row : ErrorRow) : Value :=
  .mapping [(.text "id", .int row.number), (.text "transfer_id", cellValue row.transfer),
    (.text "error_type", .text row.kind), (.text "error_message", .text row.message),
    (.text "occurred_at", .text row.occurredAt)]

end Escrow
