import Escrow.Table
import Escrow.Value.Arithmetic

/-!
# Books

A ledger kept in memory: a balance for each account and a journal of the moves.  A move is checked
against the balance that it takes from, so it happens as a whole or not at all, as long as accounts
and amounts are what they should be and the time of the move is known.
-/

namespace Escrow

/-- An account: who holds which asset. -/
structure Account where
  holder : Value
  asset : Value
  deriving DecidableEq

namespace Account

/-- The account in the form in which accounts are told apart. -/
def canonical (account : Account) : Account := ⟨account.holder.canonical, account.asset.canonical⟩

/-- Can the account be one of the books? -/
def isKey (account : Account) : Bool := account.holder.isKey && account.asset.isKey

end Account

/-- Funds to be moved between two holders. -/
structure Move where
  source : Value
  target : Value
  amount : Value
  asset : Value
  deriving DecidableEq

namespace Move

/-- The account that a move takes from. -/
def sourceAccount (move : Move) : Account := ⟨move.source, move.asset⟩

/-- The account that a move gives to. -/
def targetAccount (move : Move) : Account := ⟨move.target, move.asset⟩

end Move

/-- A move that has happened. -/
structure JournalEntry where
  move : Move
  reference : String
  movedAt : Instant
  deriving DecidableEq

/-- An account as it was first written, with its balance. -/
structure Holding where
  account : Account
  amount : Value
  deriving DecidableEq

/-- Balances, the journal with its oldest entry first, and the message of a failure that is armed
for the next move. -/
structure Books where
  /-- The balances, by account in canonical form. -/
  balances : Table Account Holding := .empty
  journal : List JournalEntry := []
  armed : Option Value := none
  deriving DecidableEq

namespace Books

instance : Inhabited Books := ⟨{}⟩

/-- The balance of an account that was written before. -/
def written? (books : Books) (account : Account) : Option Value :=
  (books.balances.get? account.canonical).map Holding.amount

/-- The balance of an account; an account that was never written holds nothing. -/
def balance (books : Books) (account : Account) : Value := (books.written? account).getD (.int 0)

/-- The books with a balance written. -/
def put (books : Books) (account : Account) (amount : Value) : Books :=
  let first :=
    match books.balances.get? account.canonical with
    | some holding => holding.account
    | none => account
  { books with balances := books.balances.set account.canonical ⟨first, amount⟩ }

/-- Books with starting balances; of several for one account the last counts. -/
def ofBalances (balances : List (Account × Value)) : Books :=
  balances.foldl (fun books (account, amount) => books.put account amount) {}

/-- A balance with an amount added to it.  A list takes up the elements of anything. -/
def raised (balance amount : Value) : Except Fault Value :=
  match balance, amount.elements? with
  | .list items, some others => .ok (.list (items ++ others))
  | _, _ => balance.add amount

/-- Add to the balance of an account.  The account is opened before the amount is looked at. -/
def add (books : Books) (account : Account) (amount : Value) : Books × Except Fault Unit :=
  if !account.isKey then (books, .error .wrongKind)
  else
    match raised (books.balance account) amount with
    | .ok total => (books.put account total, .ok ())
    | .error fault => (books.put account (books.balance account), .error fault)

/-- Credit new funds. -/
def credit (books : Books) (account : Account) (amount : Value) : Books × Answer Unit :=
  let (books, added) := books.add account amount
  (books, added.mapError .fault)

/-- Let the next move fail with a message; one that counts as nothing arms nothing. -/
def arm (books : Books) (message : Value) : Books :=
  { books with armed := if message.isTruthy then some message else none }

/-- The reference of the journal's next entry. -/
def nextReference (books : Books) : String := s!"mem-{books.journal.length + 1}"

/-- What a move leaves in the account that it takes from, which must cover it. -/
def remainder (books : Books) (move : Move) : Answer Value := do
  if ← (move.amount.less (.int 0)).mapError .fault then
    throw (.ofCause (.ledger (.negativeAmount move.amount)))
  if !move.sourceAccount.isKey then throw (.fault .wrongKind)
  let available := books.balance move.sourceAccount
  if ← (available.less move.amount).mapError .fault then
    throw (.ofCause (.ledger
      (.insufficientBalance move.asset move.source available move.amount)))
  (available.sub move.amount).mapError .fault

/-- Move funds.  An armed failure is used up; an amount below zero and one above the balance of the
source are refused.  The time is asked for when the funds have moved, and the journal is written
last.  The move is noted in the log behind that, where its amount is taken to be one that can be
written. -/
def move (books : Books) (move : Move) (now : Except Fault Instant) : Books × Answer String :=
  match books.armed with
  | some message =>
    ({ books with armed := none }, .error (.ofCause (.ledger (.refused message))))
  | none =>
    match books.remainder move with
    | .error problem => (books, .error problem)
    | .ok rest =>
      match (books.put move.sourceAccount rest).add move.targetAccount move.amount, now with
      | (moved, .error fault), _ => (moved, .error (.fault fault))
      | (moved, .ok ()), .error fault => (moved, .error (.fault fault))
      | (moved, .ok ()), .ok movedAt =>
        ({ moved with journal := books.journal ++ [⟨move, books.nextReference, movedAt⟩] },
          .ok books.nextReference)

end Books
end Escrow
