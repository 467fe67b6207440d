import Escrow.Ledger.Books
import Escrow.Ledger.Custody

/-!
# Ledgers

What moves the funds of an engine: books in memory, or custody on an exchange.  Books may be told
to refuse their next move.
-/

namespace Escrow

/-- What keeps the funds. -/
inductive Backing where
  | books (books : Books)
  | custody (custody : Custody)
  deriving DecidableEq

/-- A ledger. -/
structure Ledger where
  backing : Backing
  /-- The refusal that awaits the next move. -/
  refusal : Option Refusal := none
  deriving DecidableEq

namespace Ledger

/-- A ledger of books. -/
def ofBooks (books : Books) : Ledger := { backing := .books books }

/-- A ledger of custody on an exchange. -/
def ofCustody (custody : Custody) : Ledger := { backing := .custody custody }

/-- Let the next move of books be refused with a message about a transfer; custody on an exchange
is not told. -/
def refuseNext (ledger : Ledger) (message transfer : Value) : Ledger :=
  match ledger.backing with
  | .books _ => { ledger with refusal := some ⟨.ledger (.refused message), transfer⟩ }
  | .custody _ => ledger

/-- Move funds; the answer is the ledger's reference. -/
def move (ledger : Ledger) (move : Move) (now : Except Fault Instant) : Ledger × Answer Value :=
  match ledger.refusal with
  | some refusal => ({ ledger with refusal := none }, .error (.refused refusal))
  | none =>
    match ledger.backing with
    | .books books =>
      let (books, moved) := books.move move now
      ({ ledger with backing := .books books }, moved.map .text)
    | .custody custody =>
      let (custody, moved) := custody.move move.source move.target move.amount move.asset
      ({ ledger with backing := .custody custody }, moved)

end Ledger
end Escrow
