import Escrow.Value.Read

/-!
# Exchanges

An exchange account as its holder sees it: the deposits that it lists, the withdrawals that it
executes, and the failures that it reports instead.  What an exchange is called and what it can do
stays as it is; what it will answer next is part of its state and may change at any time.  Nothing is
assumed of the answers: a listing may hold anything, and so may the answer to a withdrawal.  Only a
scripted exchange has usual ones.
-/

namespace Escrow

/-- A withdrawal that an exchange was asked for and accepted. -/
structure Withdrawal where
  code : Value
  /-- The amount in whole units, as a decimal text. -/
  amount : String
  address : Value
  tag : Value
  params : Value
  deriving DecidableEq

/-- An exchange account. -/
structure Exchange where
  /-- What the exchange is called; some tell no name. -/
  name : Option Value := none
  /-- What kind of exchange it is; one that tells no name is called by its kind. -/
  kind : Value := .null
  /-- What the exchange says that it can do. -/
  abilities : Value := .null
  /-- What it answers to a listing of deposits. -/
  deposits : Value := .list []
  /-- Does a listing for a currency leave out what is known to be a deposit of another one? -/
  isSelective : Bool := false
  /-- The failure of the next listing, if it counts as something. -/
  listingFailure : Value := .null
  /-- The failure of the next withdrawal, if it counts as something. -/
  withdrawalFailure : Value := .null
  /-- What it answers to a withdrawal. -/
  withdrawalAnswer : Value := .mapping []
  /-- The failure of the connection, if it counts as something. -/
  connectionFailure : Value := .null
  withdrawals : List Withdrawal := []
  closed : Bool := false
  deriving DecidableEq

namespace Exchange

instance : Inhabited Exchange := ⟨{}⟩

/-- What the exchange is called. -/
def shownName (exchange : Exchange) : Value := exchange.name.getD exchange.kind

/-- Change what the exchange will answer; what is not mentioned stays. -/
def update (exchange : Exchange) (changes : List (Value × Value)) : Exchange :=
  let change (name : String) (old : Value) : Value := Value.fieldOr name old changes
  { exchange with
    deposits := change "deposits" exchange.deposits
    listingFailure := change "fetch_error" exchange.listingFailure
    withdrawalFailure := change "withdraw_error" exchange.withdrawalFailure
    withdrawalAnswer := change "withdraw_result" exchange.withdrawalAnswer
    connectionFailure := change "load_error" exchange.connectionFailure }

/-- A scripted exchange: it has the described name and abilities and answers as described, and as
usual where the script says nothing. -/
def ofScript (script : List (Value × Value)) : Exchange :=
  let usual : Exchange := {
    name := Value.find? (.text "id") script
    kind := .text "FakeExchange"
    abilities := Value.field "has" script
    isSelective := true
    withdrawalAnswer := .mapping [(.text "id", .text "w-1"), (.text "txid", .text "0xabc")] }
  usual.update script

/-- A reported failure, if it counts as something. -/
def failure? (reported : Value) : Option ExchangeFailure :=
  if reported.isTruthy then some (.stated reported.plain) else none

/-- Is an element of the list a deposit of another currency?  What is no record is never one. -/
def isForeign (code : Value) : Value → Bool
  | .mapping entries => !(Value.fieldOr "currency" code entries).same code
  | _ => false

/-- The listed deposits of a currency.  An exchange may answer with nothing at all. -/
def listDeposits (exchange : Exchange) (code : Value) :
    Except ExchangeFailure (Option (List Value)) :=
  match failure? exchange.listingFailure with
  | some failure => .error failure
  | none =>
    match exchange.deposits with
    | .null => .ok none
    | listed =>
      match listed.elements? with
      | some elements =>
        .ok (some (elements.filter fun element =>
          !(exchange.isSelective && isForeign code element)))
      | none => .error (.fault .wrongKind)

/-- Ask for a withdrawal: the exchange with the withdrawal in its books, and its answer. -/
def withdraw (exchange : Exchange) (withdrawal : Withdrawal) :
    Except ExchangeFailure (Exchange × Value) :=
  match failure? exchange.withdrawalFailure with
  | some failure => .error failure
  | none =>
    .ok ({ exchange with withdrawals := exchange.withdrawals ++ [withdrawal] },
      exchange.withdrawalAnswer)

end Exchange
end Escrow
