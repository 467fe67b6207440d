import Escrow.Error

/-!
# Transfers

A transfer holds an amount in a pool until it is settled.  It leaves the pending status once, by one
of four settlements, and can be archived afterwards.  How far it has come is a record of its own,
because a transfer that a caller describes, with any data in its other fields, runs through the same
stages as one of an engine.
-/

namespace Escrow

/-- How far a transfer has come. -/
structure Progress where
  status : Status := .pending
  /-- When the transfer was settled. -/
  resolvedAt : Option Instant := none
  reasonCode : Value := .null
  reasonMessage : Value := .null
  /-- Is the transfer archived?  It is if this counts as something. -/
  archived : Value := .bool false
  deriving DecidableEq

/-- How a transfer leaves the pending status, with the reason that is kept. -/
inductive Settlement where
  | accept
  | reject (code message : Value)
  | expire (code : Value)
  | cancel
  deriving DecidableEq

namespace Settlement

/-- The outcome of a settlement. -/
def outcome : Settlement → Outcome
  | .accept => .accepted
  | .reject .. => .rejected
  | .expire _ => .expired
  | .cancel => .cancelled

end Settlement

namespace Progress

/-- Is the transfer pending? -/
def isActive (progress : Progress) : Bool := decide (progress.status = .pending)

/-- Is the transfer archived? -/
def isArchived (progress : Progress) : Bool := progress.archived.isTruthy

/-- Refuse a transfer that is no longer pending. -/
def validateActive (progress : Progress) (transfer : Value) : Answer Unit :=
  if progress.isActive then .ok ()
  else .error (.about transfer (.notPending progress.status))

/-- The reason that a settlement leaves.  An accepted or cancelled transfer keeps the one that it
had. -/
def withReason (progress : Progress) : Settlement → Progress
  | .reject code message => { progress with reasonCode := code, reasonMessage := message }
  | .expire code => { progress with reasonCode := code, reasonMessage := .text "expired" }
  | .accept => progress
  | .cancel => progress

/-- The progress with a settlement written into it.  The status comes first, so that it is written
even where the time is not known; then nothing else is. -/
def withSettlement (progress : Progress) (settlement : Settlement) (now : Except Fault Instant) :
    Progress × Answer Unit :=
  let entered := { progress with status := .settled settlement.outcome }
  match now with
  | .ok instant => ({ entered with resolvedAt := some instant }.withReason settlement, .ok ())
  | .error fault => (entered, .error (.fault fault))

/-- Settle a pending transfer. -/
def settle (progress : Progress) (transfer : Value) (settlement : Settlement)
    (now : Except Fault Instant) : Progress × Answer Unit :=
  match progress.validateActive transfer with
  | .ok () => progress.withSettlement settlement now
  | .error problem => (progress, .error problem)

/-- Archive a settled transfer. -/
def archive (progress : Progress) (transfer : Value) : Answer Progress :=
  if progress.status.isTerminal then .ok { progress with archived := .bool true }
  else .error (.about transfer .notSettled)

end Progress

/-- A transfer record. -/
structure Transfer extends Progress where
  id : Value
  /-- The id of the pool, as the creator wrote it. -/
  pool : Value
  sender : Value
  recipient : Value
  amount : Int
  createdAt : Option Instant
  /-- From when on anyone may expire the transfer. -/
  expiresAt : Option Instant := none
  memo : String := ""
  deriving DecidableEq

/-- Has a deadline passed?  There is no answer without a present time, nor if only one of the two
clocks has a zone. -/
def deadlinePassed (deadline now : Option Instant) : Except Fault Bool :=
  match deadline with
  | none => .ok false
  | some deadline =>
    match now.bind deadline.atOrBefore? with
    | some reached => .ok reached
    | none => .error .wrongKind

/-- A transfer as a caller describes it, with any data in most of its fields. -/
structure TransferEntry extends Progress where
  transfer : Value
  pool : Value
  sender : Value
  recipient : Value
  amount : Value
  createdAt : Option Instant
  expiresAt : Option Instant := none
  memo : Value := .text ""
  deriving DecidableEq

namespace TransferEntry

/-- The text of an instant that may be missing. -/
def momentText (moment : Option Instant) : Value :=
  (moment.map fun t => Value.text t.text).getD .null

/-- The transfer as a record, which must tell when it was created. -/
def toValue (entry : TransferEntry) : Except Fault Value :=
  match entry.createdAt with
  | none => .error .missingMember
  | some createdAt =>
    .ok (.mapping [(.text "transfer_id", entry.transfer), (.text "pool_id", entry.pool),
      (.text "sender", entry.sender), (.text "recipient", entry.recipient),
      (.text "amount", entry.amount), (.text "created_at", .text createdAt.text),
      (.text "expires_at", momentText entry.expiresAt), (.text "memo", entry.memo),
      (.text "status", .text entry.status.name),
      (.text "resolved_at", momentText entry.resolvedAt),
      (.text "reason_code", entry.reasonCode), (.text "reason_message", entry.reasonMessage),
      (.text "archived", entry.archived)])

end TransferEntry

namespace Transfer

/-- Has the deadline of a transfer passed? -/
def isExpired (transfer : Transfer) (now : Option Instant) : Except Fault Bool :=
  deadlinePassed transfer.expiresAt now

/-- The transfer with all its data as values. -/
def toEntry (transfer : Transfer) : TransferEntry :=
  { transfer.toProgress with
    transfer := transfer.id
    pool := transfer.pool
    sender := transfer.sender
    recipient := transfer.recipient
    amount := .int transfer.amount
    createdAt := transfer.createdAt
    expiresAt := transfer.expiresAt
    memo := .text transfer.memo }

/-- The transfer as a record. -/
def toValue (transfer : Transfer) : Except Fault Value := transfer.toEntry.toValue

end Transfer
end Escrow
