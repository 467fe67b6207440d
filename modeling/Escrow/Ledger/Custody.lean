import Escrow.Decimal.Text
import Escrow.Ledger.Exchange
import Escrow.Text.Content

/-!
# Custody on an exchange

A ledger whose custody account is held on an exchange.  A move out of custody is a withdrawal to the
known address of its target.  A move into custody succeeds only if the exchange lists a completed
deposit of exactly this amount that no earlier move has claimed.  The exchange counts in whole
units, so base units are converted with the decimals of the asset, without any rounding.
-/

namespace Escrow

/-- Custody held on an exchange. -/
structure Custody where
  exchange : Exchange
  /-- The custody account. -/
  account : Value
  /-- The withdrawal addresses by identity. -/
  addresses : Value
  /-- The decimals by asset. -/
  decimals : Value
  network : Value := .null
  /-- The tags that some addresses need, by identity. -/
  tags : Value := .mapping []
  /-- The address that deposits must be sent to, if it counts as something. -/
  depositAddress : Value := .null
  /-- The deposits that moves have claimed, in the order of the claims. -/
  claimed : List Value := []
  deriving DecidableEq

namespace Custody

/-- A custody account; no tags are an empty table of them. -/
def make (exchange : Exchange) (account addresses decimals network tags depositAddress : Value) :
    Custody where
  exchange := exchange
  account := account
  addresses := addresses
  decimals := decimals
  network := network
  tags := tags.orElse (.mapping [])
  depositAddress := depositAddress

/-- The digits of a list of them. -/
def digitsOf? (items : List Value) : Option (List Nat) :=
  items.mapM fun item => item.toInt?.bind fun n => if 0 ≤ n ∧ n ≤ 9 then some n.toNat else none

/-- The decimal number with the given sign, digits and exponent, as far as these are some. -/
def numberOfParts? : List Value → Option Decimal
  | [sign, digits, exponent] => do
    let sign ← sign.toInt?
    if sign ≠ 0 ∧ sign ≠ 1 then none
    let digits ← match digits with
      | .list items => digitsOf? items
      | _ => none
    let negative := decide (sign = 1)
    let coefficient := digits.foldl (fun n digit => 10 * n + digit) 0
    match exponent with
    | .int n => some (.finite negative coefficient n)
    | .bool b => some (.finite negative coefficient (if b then 1 else 0))
    | .text "F" => some (.infinite negative)
    | .text "n" => some (.nan negative false coefficient)
    | .text "N" => some (.nan negative true coefficient)
    | _ => none
  | _ => none

/-- The decimal number that an amount stands for. -/
def amountNumber : Value → Except Fault Decimal
  | .int n => .ok (.ofInt n)
  | .bool b => .ok (.ofInt (if b then 1 else 0))
  | .double x => .ok (.ofDouble x)
  | .text s =>
    match Decimal.ofText? s with
    | some number => .ok number
    | none => .error .invalidOperation
  | .list items =>
    match numberOfParts? items with
    | some number => .ok number
    | none => .error .badValue
  | _ => .error .wrongKind

/-- The places of an asset, which must be a whole number. -/
def placesOf (decimals : Value) : Except Fault Int :=
  match decimals.toInt? with
  | some places => .ok places
  | none => .error .wrongKind

/-- The element of a list at an index, counted from the end if it is negative. -/
def itemAt (items : List Value) (index : Int) : Except Fault Value :=
  let place := if index < 0 then index + items.length else index
  if place < 0 then .error .missingItem
  else
    match items[place.toNat]? with
    | some item => .ok item
    | none => .error .missingItem

/-- The decimals of an asset, if it has any.  Without a table of them an asset that is found among
the decimals is taken for an index. -/
def decimalsOf (custody : Custody) (asset : Value) : Except Fault (Option Value) :=
  match custody.decimals with
  | .mapping entries => if asset.isKey then .ok (Value.find? asset entries) else .error .wrongKind
  | .list items =>
    if items.any (·.same asset) then
      match asset.toInt? with
      | some index => (itemAt items index).map some
      | none => .error .wrongKind
    else .ok none
  | .text s =>
    match asset with
    | .text part => if Text.occurs part.toList s.toList then .error .wrongKind else .ok none
    | _ => .error .wrongKind
  | _ => .error .wrongKind

/-- An amount of base units in whole units, as a decimal text. -/
def exchangeAmount (custody : Custody) (amount asset : Value) : Answer String := do
  match ← (custody.decimalsOf asset).mapError .fault with
  | none => throw (.ofCause (.ledger (.unknownDecimals asset)))
  | some decimals =>
    let number ← (amountNumber amount).mapError .fault
    let places ← (placesOf decimals).mapError .fault
    let scaled ← (number.shift (-places)).mapError .fault
    return (← scaled.reduced.mapError .fault).positionalText

/-- The value of a key in a table, where no key is missing and a list is no key. -/
def lookUp (table key : Value) : Answer Value :=
  match table with
  | .mapping entries =>
    if key.isKey then .ok ((Value.find? key entries).getD .null) else .error (.fault .wrongKind)
  | _ => .error (.fault .missingMember)

/-- Is the quoted amount of a deposit exactly the expected one?  A whole number is compared whatever its
length, although one of more than `Text.greatestDigitCount` digits has no text to compare. -/
def amountMatches (quoted : Value) (expected : Decimal) : Except Fault Bool :=
  match Decimal.ofText? quoted.plain with
  | some number => number.equals expected
  | none => .error .invalidOperation

/-- Is a deposit completed, of the expected amount, sent to the right address, and not known to come
from someone else than the sender? -/
def backs (custody : Custody) (deposit : List (Value × Value)) (sender : Value)
    (expected : Decimal) : Answer Bool := do
  let amount := Value.field "amount" deposit
  if !(Value.field "status" deposit).same (.text "ok") || amount = .null then return false
  if !(← (amountMatches amount expected).mapError .fault) then return false
  if custody.depositAddress.isTruthy &&
      !(Value.field "address" deposit).same custody.depositAddress then return false
  let known ← lookUp custody.addresses sender
  let source := Value.field "addressFrom" deposit
  return !(known.isTruthy && source.isTruthy && !source.same known)

/-- What a deposit is claimed by: its id, or else its transaction. -/
def claimKey (deposit : List (Value × Value)) : Value :=
  (Value.field "id" deposit).orElse (Value.field "txid" deposit)

/-- Has a deposit been claimed? -/
def isClaimed (custody : Custody) (key : Value) : Bool := custody.claimed.any (·.same key)

/-- The key of the first unclaimed deposit that backs a move. -/
def findDeposit (custody : Custody) (sender : Value) (expected : Decimal) :
    List Value → Answer (Option Value)
  | [] => .ok none
  | .mapping deposit :: rest => do
    let key := claimKey deposit
    if !key.isTruthy then return ← custody.findDeposit sender expected rest
    if !key.isKey then throw (.fault .wrongKind)
    if custody.isClaimed key then return ← custody.findDeposit sender expected rest
    if ← custody.backs deposit sender expected then return some key
    custody.findDeposit sender expected rest
  | _ :: _ => .error (.fault .missingMember)

/-- Does the exchange list deposits? -/
def listsDeposits (custody : Custody) : Answer Bool :=
  match custody.exchange.abilities.orElse (.mapping []) with
  | .mapping entries => .ok (Value.field "fetchDeposits" entries).isTruthy
  | _ => .error (.fault .missingMember)

/-- Claim the deposit that backs a move into custody. -/
def claim (custody : Custody) (sender amount asset : Value) : Answer (Custody × Value) := do
  let refuse (cause : LedgerCause) : Problem := .ofCause (.ledger cause)
  if !(← custody.listsDeposits) then
    throw (refuse (.depositsUnlisted custody.exchange.shownName))
  let shown ← custody.exchangeAmount amount asset
  let expected := (Decimal.ofText? shown).getD .notNumber
  match custody.exchange.listDeposits asset with
  | .error failure => throw (refuse (.depositsFailed failure))
  | .ok none => throw (.fault .wrongKind)
  | .ok (some deposits) =>
    match ← custody.findDeposit sender expected deposits with
    | some key => return ({ custody with claimed := custody.claimed ++ [key] }, key)
    | none => throw (refuse (.noDeposit expected.text asset sender))

/-- What a withdrawal carries besides its amount: the network and the tag, as far as there are
any. -/
def parameters (custody : Custody) (tag : Value) : Value :=
  let network := if custody.network.isTruthy then [(.text "network", custody.network)] else []
  let tagged := if tag.isTruthy then [(.text "tag", tag)] else []
  .mapping (network ++ tagged)

/-- The reference in the answer to a withdrawal.  The withdrawal is noted in the log with an extract of
its address; that the reference and the amount can be written there is taken for granted. -/
def referenceOf (answer address : Value) : Answer Value := do
  let entries ← answer.fields.mapError .fault
  let reference := (Value.field "txid" entries).orElse (Value.field "id" entries)
  match address with
  | .text _ => return reference
  | .list _ => return reference
  | _ => throw (.fault .wrongKind)

/-- Move funds.  Moving nothing needs no deposit and causes no withdrawal. -/
def move (custody : Custody) (source target amount asset : Value) : Custody × Answer Value :=
  let refuse (cause : LedgerCause) : Custody × Answer Value :=
    (custody, .error (.ofCause (.ledger cause)))
  let isNothing := amount.same (.int 0)
  if target.same custody.account then
    if isNothing then (custody, .ok .null)
    else
      match custody.claim source amount asset with
      | .ok (claiming, key) => (claiming, .ok key)
      | .error problem => (custody, .error problem)
  else if !source.same custody.account then
    refuse (.custodyElsewhere source custody.exchange.shownName)
  else
    match lookUp custody.addresses target with
    | .error problem => (custody, .error problem)
    | .ok address =>
      if !address.isTruthy then refuse (.noAddress target)
      else if isNothing then (custody, .ok .null)
      else
        match lookUp custody.tags target with
        | .error problem => (custody, .error problem)
        | .ok tag =>
          match custody.exchangeAmount amount asset with
          | .error problem => (custody, .error problem)
          | .ok shown =>
            match custody.exchange.withdraw ⟨asset, shown, address, tag, custody.parameters tag⟩ with
            | .error failure => refuse (.withdrawalFailed failure)
            | .ok (exchange, answer) =>
              ({ custody with exchange := exchange }, referenceOf answer address)

/-- Close the account on the exchange. -/
def close (custody : Custody) : Custody :=
  { custody with exchange := { custody.exchange with closed := true } }

/-- What a new connection is set up with. -/
def connectionSettings (credentials : List (Value × Value)) : Value :=
  let password :=
    match Value.find? (.text "password") credentials with
    | some password => [(.text "password", password)]
    | none => []
  .mapping ([(.text "enableRateLimit", .bool true),
    (.text "apiKey", Value.field "apiKey" credentials),
    (.text "secret", Value.field "secret" credentials),
    (.text "options", .mapping [(.text "defaultType", .text "spot")])] ++ password)

/-- The exchange after an attempt to connect, with the settings of the connection.  A connection
that fails is closed. -/
def connect (name : String) (known : Option Exchange) (credentials : Value) :
    Option (Value × Exchange) × Answer Exchange :=
  let refuse (cause : LedgerCause) : Answer Exchange := .error (.ofCause (.ledger cause))
  match known with
  | none => (none, refuse (.unsupportedExchange name))
  | some exchange =>
    match credentials.fields with
    | .error fault => (none, .error (.fault fault))
    | .ok entries =>
      let settings := connectionSettings entries
      match Exchange.failure? exchange.connectionFailure with
      | some failure =>
        (some (settings, { exchange with closed := true }), refuse (.connectionFailed name failure))
      | none => (some (settings, exchange), .ok exchange)

end Custody
end Escrow
