import Escrow.Status
import Escrow.Value.Print

/-!
# Why a call fails

A call of the library is refused for a cause, or it meets a fault: data of a kind that no rule
covers, or a resource that is not there.  A cause is data; its kind, stable code and wording are
functions of it.  Causes are grouped by the rule that finds them.  A wording shows every number of its
cause in full, also one of more digits than can be written, which leaves a real refusal without words
and so makes it a fault.
-/

namespace Escrow

/-- What goes wrong outside the rules of the library. -/
inductive Fault where
  /-- Data of a kind that an operation does not take. -/
  | wrongKind
  /-- Data of the right kind with a value that has no meaning. -/
  | badValue
  /-- A text, or bytes, that stand for no whole number. -/
  | badNumeral (numeral : Value)
  /-- Data without the fields that are read from it. -/
  | missingMember
  /-- A mapping without a key that is read from it. -/
  | missingKey (key : String)
  /-- A place behind the end of a list. -/
  | missingItem
  /-- A number outside the range of its place. -/
  | outOfRange
  /-- A decimal operation without a defined result. -/
  | invalidOperation
  /-- A decimal result beyond the greatest exponent. -/
  | decimalOverflow
  /-- Data that an archive cell cannot hold. -/
  | unstorable
  /-- A row that the archive has refused. -/
  | refusedRow
  /-- The archive has been closed. -/
  | archiveClosed
  /-- The archive cannot be opened. -/
  | unopenable
  | missingFile
  /-- A directory in the place of a file. -/
  | directory
  /-- A path that cannot be looked at. -/
  | badPath
  /-- Bytes that are no text. -/
  | badEncoding
  /-- A text with characters that have no bytes. -/
  | unencodable
  /-- A text with characters that a cell cannot hold. -/
  | illegalCharacter
  /-- A roster without a header. -/
  | noHeader
  /-- Rows of a roster that do not fit its header. -/
  | malformedRows
  /-- A text that is no document of its format. -/
  | malformedDocument
  /-- Data that is nested too deeply, or that holds itself. -/
  | tooDeep
  deriving DecidableEq, Inhabited

/-- How many characters of a datum a message about a numeral shows. -/
def shownNumeralLength : Nat := 200

/-- A datum as a message about a numeral shows it. -/
def shownNumeral (numeral : Value) : String :=
  let shown :=
    match numeral with
    | .bytes data => Text.quotedBytes (data.take shownNumeralLength)
    | _ => numeral.quoted
  String.ofList (shown.toList.take shownNumeralLength)

/-- How this library words a fault inside a message. -/
def Fault.describe : Fault → String
  | .badNumeral numeral => "invalid literal for int() with base 10: " ++ shownNumeral numeral
  | .missingKey key => Text.quoted key
  | .wrongKind => "data of the wrong kind"
  | .badValue => "a value without meaning"
  | .missingMember => "data without the fields that are read"
  | .missingItem => "a place behind the end of a list"
  | .outOfRange => "a number out of range"
  | .invalidOperation => "an undefined decimal operation"
  | .decimalOverflow => "a decimal overflow"
  | .unstorable => "data that cannot be stored"
  | .refusedRow => "a row that was refused"
  | .archiveClosed => "a closed archive"
  | .unopenable => "an archive that cannot be opened"
  | .missingFile => "a missing file"
  | .directory => "a directory in the place of a file"
  | .badPath => "a path that cannot be looked at"
  | .badEncoding => "bytes that are no text"
  | .unencodable => "a text that has no bytes"
  | .illegalCharacter => "a text that no cell can hold"
  | .noHeader => "a roster without a header"
  | .malformedRows => "rows that do not fit the header"
  | .malformedDocument => "a text that is no document"
  | .tooDeep => "data that is nested too deeply"

/-- The kinds of refusals, told apart by callers without reading messages. -/
inductive Kind where
  | settlement
  | unauthorized
  | inactiveTransfer
  | invalidMemoLength
  | arithmeticOverflow
  | ledger
  | expiryNotReached
  | invalidAmount
  | invalidFeePolicy
  | transferNotFound
  | poolNotFound
  | configuration
  | invalidExpiry
  | invalidReasonCode
  deriving DecidableEq, Inhabited

/-- The stable code of a kind. -/
def Kind.code : Kind → String
  | .settlement => "settlement_error"
  | .unauthorized => "unauthorized"
  | .inactiveTransfer => "inactive_transfer"
  | .invalidMemoLength => "invalid_memo_length"
  | .arithmeticOverflow => "arithmetic_overflow"
  | .ledger => "ledger_error"
  | .expiryNotReached => "expiry_not_reached"
  | .invalidAmount => "invalid_amount"
  | .invalidFeePolicy => "invalid_fee_policy"
  | .transferNotFound => "transfer_not_found"
  | .poolNotFound => "pool_not_found"
  | .configuration => "configuration_error"
  | .invalidExpiry => "invalid_expiry"
  | .invalidReasonCode => "invalid_reason_code"

/-- The counters of a pool. -/
inductive Counter where
  | deposited
  | withdrawn
  | feesCollected
  | created
  | resolved
  deriving DecidableEq, Inhabited

/-- The name of a counter in records and messages. -/
def Counter.name : Counter → String
  | .deposited => "total_deposited"
  | .withdrawn => "total_withdrawn"
  | .feesCollected => "total_fees_collected"
  | .created => "transfers_created"
  | .resolved => "transfers_resolved"

/-- What is wrong with a fee policy, a fee schedule or a use of one. -/
inductive FeeCause where
  | rateOutOfRange (rate : Value)
  | minimumOutOfRange (fee : Value)
  | maximumOutOfRange (fee : Value)
  | maximumBelowMinimum (maximum minimum : Whole)
  | unknownOutcomes (names : List Value)
  | unknownOutcome (name : String)
  | amountOutOfRange (amount : Value)
  deriving DecidableEq

/-- The wording of a fee cause. -/
def FeeCause.message : FeeCause → String
  | .rateOutOfRange rate => s!"rate_bps must be between 0 and 10000, got {rate}"
  | .minimumOutOfRange fee => s!"min_fee must be a u64, got {fee}"
  | .maximumOutOfRange fee => s!"max_fee must be a u64, got {fee}"
  | .maximumBelowMinimum maximum minimum => s!"max_fee {maximum} is below min_fee {minimum}"
  | .unknownOutcomes names => "Unknown fee outcomes: " ++ (Value.list names).quoted
  | .unknownOutcome name => s!"Unknown settlement outcome: {name}"
  | .amountOutOfRange amount => s!"Amount must be a u64, got {amount}"

/-- The kind of a fee cause. -/
def FeeCause.kind : FeeCause → Kind
  | .amountOutOfRange _ => .invalidAmount
  | _ => .invalidFeePolicy

/-- Why a counter of a pool cannot grow. -/
inductive PoolCause where
  | badIncrement (counter : Counter) (amount : Value)
  | counterOverflow (counter : Counter) (current amount : Value)
  | withdrawalExceedsDeposits (amount withdrawn deposited : Value)
  | feesExceedWithdrawals (amount fees withdrawn : Value)
  deriving DecidableEq

/-- The wording of a pool cause. -/
def PoolCause.message : PoolCause → String
  | .badIncrement counter amount =>
    s!"{counter.name} increment must be a non-negative integer, got {amount}"
  | .counterOverflow counter current amount =>
    s!"{counter.name} would overflow: {current} + {amount}"
  | .withdrawalExceedsDeposits amount withdrawn deposited =>
    s!"Withdrawal of {amount} exceeds deposits (withdrawn {withdrawn}, deposited {deposited})"
  | .feesExceedWithdrawals amount fees withdrawn =>
    s!"Fees of {amount} exceed released amounts (fees {fees}, withdrawn {withdrawn})"

/-- The kind of a pool cause. -/
def PoolCause.kind : PoolCause → Kind
  | .badIncrement .. => .invalidAmount
  | _ => .arithmeticOverflow

/-- Why a call on a pool or a transfer is refused. -/
inductive CallCause where
  | poolRegistered (pool : Value)
  | unknownPool (pool : Value)
  | unknownTransfer (transfer : Value)
  | transferExists (transfer : Value)
  | transferPruned
  | notPending (status : Status)
  | notSettled
  | amountNotWhole (amount : Value)
  | amountOutOfRange (amount : Int)
  | messageTooLong (bytes : Nat) (limit : Value)
  | expiryWithoutZone (expiry : Instant)
  | expiryNotInFuture (expiry : Instant)
  | notOperator (caller pool : Value)
  | notSender (caller transfer : Value)
  | notAuthority (caller pool : Value)
  | badReasonCode (code : Value)
  | noExpiry
  | expiryAhead (expiry : Instant)
  deriving DecidableEq

/-- The wording of a call cause. -/
def CallCause.message : CallCause → String
  | .poolRegistered pool => s!"Pool {pool} already registered"
  | .unknownPool pool => s!"Unknown pool {pool}"
  | .unknownTransfer transfer => s!"Unknown transfer {transfer}"
  | .transferExists transfer => s!"Transfer {transfer} already exists"
  | .transferPruned => "Transfer was settled and pruned"
  | .notPending status => s!"Transfer is {status.name}, not pending"
  | .notSettled => "Only settled transfers can be archived"
  | .amountNotWhole amount =>
    s!"Amount must be an integer number of base units, got {amount.quoted}"
  | .amountOutOfRange amount => s!"Amount {amount} is outside the u64 range"
  | .messageTooLong bytes limit => s!"Message of {bytes} bytes exceeds {limit}"
  | .expiryWithoutZone expiry => s!"Expiry {expiry.text} has no timezone"
  | .expiryNotInFuture expiry => s!"Expiry {expiry.text} is not in the future"
  | .notOperator caller pool => s!"{caller} is not the operator of pool {pool}"
  | .notSender caller transfer => s!"{caller} is not the sender of transfer {transfer}"
  | .notAuthority caller pool => s!"{caller} is not the authority of pool {pool}"
  | .badReasonCode code => s!"Reason code must fit in a u8, got {code.quoted}"
  | .noExpiry => "Transfer has no expiry"
  | .expiryAhead expiry => s!"Transfer expires at {expiry.text}"

/-- The kind of a call cause. -/
def CallCause.kind : CallCause → Kind
  | .poolRegistered _ => .settlement
  | .unknownPool _ => .poolNotFound
  | .unknownTransfer _ => .transferNotFound
  | .transferExists _ => .settlement
  | .transferPruned => .inactiveTransfer
  | .notPending _ => .inactiveTransfer
  | .notSettled => .settlement
  | .amountNotWhole _ => .invalidAmount
  | .amountOutOfRange _ => .invalidAmount
  | .messageTooLong .. => .invalidMemoLength
  | .expiryWithoutZone _ => .invalidExpiry
  | .expiryNotInFuture _ => .invalidExpiry
  | .notOperator .. => .unauthorized
  | .notSender .. => .unauthorized
  | .notAuthority .. => .unauthorized
  | .badReasonCode _ => .invalidReasonCode
  | .noExpiry => .expiryNotReached
  | .expiryAhead _ => .expiryNotReached

/-- What an exchange answers when it fails. -/
inductive ExchangeFailure where
  /-- A text of its own. -/
  | stated (text : String)
  /-- A fault on its side. -/
  | fault (reason : Fault)
  deriving DecidableEq

/-- The wording of an exchange's failure, given the wording of faults. -/
def ExchangeFailure.message (word : Fault → String) : ExchangeFailure → String
  | .stated text => text
  | .fault reason => word reason

/-- Why a ledger does not move funds. -/
inductive LedgerCause where
  /-- The ledger was told to refuse its next move. -/
  | refused (message : Value)
  | negativeAmount (amount : Value)
  | insufficientBalance (asset holder available amount : Value)
  | unknownDecimals (asset : Value)
  | depositsUnlisted (exchange : Value)
  | depositsFailed (failure : ExchangeFailure)
  /-- No unclaimed deposit has the amount, given as its decimal text. -/
  | noDeposit (amount : String) (asset sender : Value)
  | custodyElsewhere (holder : Value) (exchange : Value)
  | noAddress (holder : Value)
  | withdrawalFailed (failure : ExchangeFailure)
  | unsupportedExchange (name : String)
  | connectionFailed (name : String) (failure : ExchangeFailure)
  deriving DecidableEq

/-- The wording of a ledger cause, given the wording of faults. -/
def LedgerCause.message (word : Fault → String) : LedgerCause → String
  | .refused message => message.plain
  | .negativeAmount amount => s!"Negative amount {amount}"
  | .insufficientBalance asset holder available amount =>
    s!"Insufficient {asset} balance in {holder}: {available} < {amount}"
  | .unknownDecimals asset => s!"Unknown decimals for asset {asset}"
  | .depositsUnlisted exchange => s!"{exchange} cannot confirm deposits into custody"
  | .depositsFailed failure => "Fetching deposits failed: " ++ failure.message word
  | .noDeposit amount asset sender => s!"No unclaimed deposit of {amount} {asset} from {sender}"
  | .custodyElsewhere holder exchange => s!"Custody {holder} is not held on {exchange}"
  | .noAddress holder => s!"No withdrawal address for {holder}"
  | .withdrawalFailed failure => "Exchange withdrawal failed: " ++ failure.message word
  | .unsupportedExchange name => s!"Unsupported exchange: {name}"
  | .connectionFailed name failure => s!"Failed to initialize {name}: " ++ failure.message word

/-- Why a configuration file or a roster does not describe pools. -/
inductive SetupCause where
  | malformedFile (path : String)
  | notMapping (path : String)
  | badMemoLimit
  | unreadablePool (index : Nat) (fault : Fault)
  | duplicatePool (pool : String)
  | invalidSchedule (pool : String) (cause : FeeCause)
  | unreadableSchedule (pool : String) (fault : Fault)
  | unsupportedRoster (suffix : String)
  | missingColumns (columns : List String)
  | incompleteRow (pool : String)
  | notNumeric (column text : String)
  | invalidRowPolicy (pool : String) (cause : FeeCause)
  | duplicateRow (pool : String)
  deriving DecidableEq

/-- The code of a kind in brackets and a message, as a refusal is shown. -/
def Kind.label (kind : Kind) (message : String) : String := "[" ++ kind.code ++ "] " ++ message

/-- The wording of a setup cause, given the wording of faults. -/
def SetupCause.message (word : Fault → String) : SetupCause → String
  | .malformedFile path => s!"Invalid YAML in {path}: " ++ word .malformedDocument
  | .notMapping path => s!"{path} must contain a mapping at the top level"
  | .badMemoLimit => "max_memo_length must be a non-negative integer"
  | .unreadablePool index fault => s!"Pool #{index} is missing a required field: " ++ word fault
  | .duplicatePool pool => s!"Duplicate pool_id {pool}"
  | .invalidSchedule pool cause =>
    s!"Pool {pool} has an invalid fee schedule: " ++ cause.kind.label cause.message
  | .unreadableSchedule pool fault => s!"Pool {pool} has an invalid fee schedule: " ++ word fault
  | .unsupportedRoster suffix => s!"Unsupported roster format: {suffix}"
  | .missingColumns columns =>
    "Roster is missing columns: " ++ (Value.list (columns.map Value.text)).quoted
  | .incompleteRow pool => s!"Pool {pool} needs both operator and asset"
  | .notNumeric column text => s!"Column {column} must be numeric, got " ++ Text.quoted text
  | .invalidRowPolicy pool cause => s!"Pool {pool} has an invalid fee policy: " ++ cause.message
  | .duplicateRow pool => s!"Duplicate pool_id {pool} in roster"

/-- Why a call is refused. -/
inductive Cause where
  | fee (cause : FeeCause)
  | pool (cause : PoolCause)
  | call (cause : CallCause)
  | ledger (cause : LedgerCause)
  | setup (cause : SetupCause)
  /-- A refusal that a caller words itself. -/
  | stated (kind : Kind) (message : Value)
  deriving DecidableEq

namespace Cause

/-- The kind of a cause. -/
def kind : Cause → Kind
  | .fee cause => cause.kind
  | .pool cause => cause.kind
  | .call cause => cause.kind
  | .ledger _ => .ledger
  | .setup _ => .configuration
  | .stated kind _ => kind

/-- The wording of a cause, given the wording of faults. -/
def message (word : Fault → String) : Cause → String
  | .fee cause => cause.message
  | .pool cause => cause.message
  | .call cause => cause.message
  | .ledger cause => cause.message word
  | .setup cause => cause.message word
  | .stated _ message => message.plain

/-- What is kept as the message of a cause: its wording, or whatever a caller gave for one. -/
def given (word : Fault → String) : Cause → Value
  | .stated _ message => message
  | .ledger (.refused message) => message
  | cause => .text (cause.message word)

end Cause

/-- A refused call: the cause, and the transfer that it is about. -/
structure Refusal where
  cause : Cause
  /-- The transfer that the refusal names; nothing if it names none. -/
  transfer : Value := .null
  deriving DecidableEq

namespace Refusal

/-- The wording of a refusal, given the wording of faults. -/
def message (word : Fault → String) (refusal : Refusal) : String := refusal.cause.message word

/-- The full text: the code, the wording, and the transfer if one is named. -/
def text (word : Fault → String) (refusal : Refusal) : String :=
  let shown := refusal.cause.kind.label (refusal.message word)
  if refusal.transfer.isTruthy then shown ++ s!" (transfer {refusal.transfer})" else shown

end Refusal

/-- How a call ends without a result. -/
inductive Problem where
  | refused (refusal : Refusal)
  | fault (reason : Fault)
  deriving DecidableEq

namespace Problem

/-- A refusal that names no transfer. -/
def ofCause (cause : Cause) : Problem := .refused { cause := cause }

/-- A refusal about a transfer. -/
def about (transfer : Value) (cause : CallCause) : Problem := .refused ⟨.call cause, transfer⟩

instance : Coe FeeCause Problem := ⟨fun cause => ofCause (.fee cause)⟩
instance : Coe PoolCause Problem := ⟨fun cause => ofCause (.pool cause)⟩
instance : Coe CallCause Problem := ⟨fun cause => ofCause (.call cause)⟩
instance : Coe LedgerCause Problem := ⟨fun cause => ofCause (.ledger cause)⟩
instance : Coe SetupCause Problem := ⟨fun cause => ofCause (.setup cause)⟩
instance : Coe Fault Problem := ⟨Problem.fault⟩

end Problem

/-- The result of a call. -/
abbrev Answer := Except Problem

end Escrow
