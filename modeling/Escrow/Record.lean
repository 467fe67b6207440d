import Escrow.Archive.Row
import Escrow.Pool

/-!
# Records

Pools, transfers and events read from named fields, as callers hand them in.  A field that is
missing or unknown is a fault.
-/

namespace Escrow

namespace Record

/-- Refuse records with unknown fields or without a required one. -/
def check (required optional : List String) (entries : List (Value × Value)) : Except Fault Unit :=
  let isKnown (key : Value) : Bool := (required ++ optional).any fun name => key = .text name
  if required.all (fun name => (Value.find? (.text name) entries).isSome) &&
      entries.all (fun (key, _) => isKnown key) then .ok ()
  else .error .wrongKind

/-- An instant given as its text; nothing stands for no instant. -/
def readMoment : Value → Except Fault (Option Instant)
  | .null => .ok none
  | .text s =>
    match Instant.ofText? s with
    | some moment => .ok (some moment)
    | none => .error .badValue
  | _ => .error .wrongKind

/-- The status of a name; a transfer is pending unless something else is said. -/
def readStatus (entries : List (Value × Value)) : Except Fault Status :=
  match Value.find? (.text "status") entries with
  | none => .ok .pending
  | some (.text name) =>
    match Status.ofName? name with
    | some status => .ok status
    | none => .error .badValue
  | some _ => .error .badValue

/-- The required fields of a transfer. -/
def transferFields : List String :=
  ["transfer_id", "pool_id", "sender", "recipient", "amount", "created_at"]

/-- The optional fields of a transfer. -/
def laterTransferFields : List String :=
  ["expires_at", "memo", "status", "resolved_at", "reason_code", "reason_message", "archived"]

end Record

/-- The transfer of a record.  Its times are read before its fields are looked at. -/
def TransferEntry.ofFields (entries : List (Value × Value)) : Except Fault TransferEntry := do
  let field (name : String) : Value := Value.field name entries
  let status ← Record.readStatus entries
  let createdAt ← Record.readMoment (field "created_at")
  let expiresAt ← Record.readMoment (field "expires_at")
  let resolvedAt ← Record.readMoment (field "resolved_at")
  Record.check Record.transferFields Record.laterTransferFields entries
  return {
    transfer := field "transfer_id"
    pool := field "pool_id"
    sender := field "sender"
    recipient := field "recipient"
    amount := field "amount"
    createdAt := createdAt
    expiresAt := expiresAt
    memo := Value.fieldOr "memo" (.text "") entries
    status := status
    resolvedAt := resolvedAt
    reasonCode := field "reason_code"
    reasonMessage := field "reason_message"
    archived := Value.fieldOr "archived" (.bool false) entries }

/-- The event of a record, for the archive.  Its time is read before its fields are looked at. -/
def EventEntry.ofFields (entries : List (Value × Value)) : Except Fault EventEntry := do
  let occurredAt ← Record.readMoment (Value.field "occurred_at" entries)
  Record.check ["event_type", "transfer_id", "pool_id", "sender", "recipient", "amount", "fee",
    "net_amount", "outcome", "occurred_at"] ["reason_code", "reason_message", "ledger_reference"]
    entries
  let field (name : String) : Value := Value.field name entries
  return {
    transfer := field "transfer_id"
    pool := field "pool_id"
    kind := field "event_type"
    outcome := field "outcome"
    amount := field "amount"
    fee := field "fee"
    net := field "net_amount"
    occurredAt := occurredAt
    reasonCode := field "reason_code"
    reasonMessage := field "reason_message"
    reference := field "ledger_reference" }

/-- The pool of a record, with the given fee schedule. -/
def Pool.ofFields (entries : List (Value × Value)) (schedule : Schedule) : Except Fault Pool := do
  Record.check ["pool_id", "operator", "asset"]
    (["authority", "custody", "decimals"] ++ [Counter.deposited, .withdrawn, .feesCollected,
      .created, .resolved].map Counter.name) entries
  let field (name : String) : Value := Value.field name entries
  let count (counter : Counter) : Value := Value.fieldOr counter.name (.int 0) entries
  let pool := Pool.make (field "pool_id") (field "operator") (field "asset")
    (field "authority") (field "custody") (Value.fieldOr "decimals" (.int 6) entries) schedule
  return { pool with
    deposited := count .deposited
    withdrawn := count .withdrawn
    feesCollected := count .feesCollected
    created := count .created
    resolved := count .resolved }

end Escrow
