import Escrow.Ledger.Basic
import Escrow.Proofs.Value
import Escrow.Proofs.Table

/-!
# What a move does to a ledger

Moves of books, taken apart: a move that ends well takes its amount from one account, gives it to
another and writes one line into the journal; a move that fails writes none.  As long as the
balances are numbers, the accounts can be keys and the time is known, a move that fails leaves every
balance alone as well.
-/

namespace Escrow
namespace Books

variable {books after : Books} {move : Move} {now : Except Fault Instant}

/-! ## Balances after a write -/

private theorem written?_put (books : Books) (account other : Account) (amount : Value) :
    (books.put account amount).written? other =
      if other.canonical = account.canonical then some amount else books.written? other := by
  unfold written? put
  rw [Table.get?_set]
  split <;> simp

theorem balance_put (books : Books) (account other : Account) (amount : Value) :
    (books.put account amount).balance other =
      if other.canonical = account.canonical then amount else books.balance other := by
  unfold balance
  rw [written?_put]
  split <;> rfl

private theorem balance_of_canonical (books : Books) {account other : Account}
    (same : account.canonical = other.canonical) : books.balance account = books.balance other := by
  simp [balance, written?, same]

theorem balance_credit_of_ne {books : Books} {account other : Account} {amount : Value}
    (different : account.canonical ≠ other.canonical) :
    (books.credit other amount).1.balance account = books.balance account := by
  change (books.add other amount).1.balance account = books.balance account
  unfold Books.add
  split
  · rfl
  · split
    · rw [balance_put, if_neg different]
    · rw [balance_put, if_neg different]

theorem raised_int (balance amount : Int) :
    raised (.int balance) (.int amount) = .ok (.int (balance + amount)) := by
  simp [raised]

/-- Whole funds that are credited to an account are added to its balance, if it can be one of the
books. -/
theorem balance_credit_of_eq {books : Books} {account other : Account} {held n : Int}
    (same : account.canonical = other.canonical) (whole : books.balance account = .int held) :
    (books.credit other (.int n)).1.balance account =
      .int (held + if other.isKey then n else 0) := by
  have whole : books.balance other = .int held := by
    rw [← books.balance_of_canonical same]
    exact whole
  rw [books.credit other (.int n) |>.1.balance_of_canonical same]
  change (books.add other (.int n)).1.balance other = _
  unfold Books.add
  by_cases key : other.isKey
  · simp only [key, whole, raised_int]
    simp [balance_put]
  · simp [key, whole]

/-! ## Moves taken apart -/

/-- The reference of the journal entry at a position, counted from one. -/
def referenceAt (position : Nat) : String := s!"mem-{position}"

private theorem add_eq_ok {account : Account} {amount : Value}
    (added : books.add account amount = (after, .ok ())) :
    account.isKey ∧ ∃ total, raised (books.balance account) amount = .ok total ∧
      after = books.put account total := by
  unfold add at added
  split at added
  · cases added
  · rename_i key
    split at added
    · rename_i total raised_eq
      cases added
      exact ⟨by simpa using key, total, raised_eq, rfl⟩
    · cases added

theorem journal_add (books : Books) (account : Account) (amount : Value) :
    (books.add account amount).1.journal = books.journal := by
  unfold add
  split
  · rfl
  · split <;> rfl

theorem armed_add (books : Books) (account : Account) (amount : Value) :
    (books.add account amount).1.armed = books.armed := by
  unfold Books.add
  split
  · rfl
  · split <;> rfl

/-- A move leaves nothing armed. -/
theorem armed_move (books : Books) (move : Move) (now : Except Fault Instant) :
    (books.move move now).1.armed = none := by
  unfold Books.move
  split
  · rfl
  · rename_i unarmed
    split
    · exact unarmed
    · rename_i rest remains
      have added := armed_add (books.put move.sourceAccount rest) move.targetAccount move.amount
      split <;> rename_i added_eq <;> rw [added_eq] at added <;> exact added.trans unarmed

/-- The books after a move that ends well: the source is left with a remainder, the target is
raised, and the journal has one more entry. -/
theorem move_eq_ok {reference : String}
    (done : books.move move now = (after, .ok reference)) :
    books.armed = none ∧ reference = books.nextReference ∧ move.targetAccount.isKey ∧
      ∃ rest total movedAt, books.remainder move = .ok rest ∧
        raised ((books.put move.sourceAccount rest).balance move.targetAccount) move.amount =
          .ok total ∧
        now = .ok movedAt ∧
        after =
          { (books.put move.sourceAccount rest).put move.targetAccount total with
            journal := books.journal ++ [⟨move, books.nextReference, movedAt⟩] } := by
  unfold Books.move at done
  split at done
  · cases done
  · rename_i armed
    split at done
    · cases done
    · rename_i rest remains
      split at done
      · cases done
      · cases done
      · rename_i moved movedAt added
        obtain ⟨key, total, raised_eq, rfl⟩ := add_eq_ok added
        cases done
        exact ⟨armed, rfl, key, rest, total, movedAt, remains, raised_eq, rfl, rfl⟩

/-- A move that fails writes nothing into the journal. -/
theorem journal_move_of_error {problem : Problem}
    (failed : books.move move now = (after, .error problem)) : after.journal = books.journal := by
  unfold Books.move at failed
  split at failed
  · cases failed
    rfl
  · split at failed
    · cases failed
      rfl
    · rename_i rest remains
      split at failed
      · rename_i moved fault added
        cases failed
        have kept := journal_add (books.put move.sourceAccount rest) move.targetAccount move.amount
        rw [added] at kept
        exact kept
      · rename_i moved fault added
        cases failed
        have kept := journal_add (books.put move.sourceAccount rest) move.targetAccount move.amount
        rw [added] at kept
        exact kept
      · cases failed

theorem remainder_eq_ok {rest : Value} (remains : books.remainder move = .ok rest) :
    (books.balance move.sourceAccount).sub move.amount = .ok rest := by
  simp only [remainder, bind_eq_ok_iff, mapError_eq_ok_iff] at remains
  obtain ⟨negative, -, remains⟩ := remains
  split at remains
  · cases remains
  · split at remains
    · cases remains
    · obtain ⟨short, -, remains⟩ := bind_eq_ok_iff.mp remains
      split at remains
      · cases remains
      · exact mapError_eq_ok_iff.mp remains

/-- What a move takes is not negative. -/
theorem nonneg_of_remainder {rest : Value} (remains : books.remainder move = .ok rest) {n : Int}
    (amount_eq : move.amount = .int n) : 0 ≤ n := by
  by_contra negative
  simp only [remainder, amount_eq, Value.less_int, bind_eq_ok_iff, mapError_eq_ok_iff] at remains
  obtain ⟨below, compared, remains⟩ := remains
  obtain rfl : true = below := by
    have less : n < 0 := by omega
    simpa [less, Except.mapError] using compared
  cases remains

/-- What a move takes is covered by the balance that it takes it from. -/
theorem covered_of_remainder {rest : Value} (remains : books.remainder move = .ok rest)
    {n held : Int} (amount_eq : move.amount = .int n)
    (whole : books.balance move.sourceAccount = .int held) : n ≤ held := by
  by_contra short
  have missing : held < n := by omega
  simp only [remainder, amount_eq, whole, Value.less_int, bind_eq_ok_iff, mapError_eq_ok_iff]
    at remains
  obtain ⟨negative, -, remains⟩ := remains
  split at remains
  · cases remains
  · split at remains
    · cases remains
    · obtain ⟨insufficient, compared, remains⟩ := bind_eq_ok_iff.mp remains
      obtain rfl : true = insufficient := by simpa [missing, Except.mapError] using compared
      cases remains

/-- A move changes a whole balance by what it takes from the account and what it gives to it. -/
theorem balance_of_move_eq_ok {reference : String}
    (done : books.move move now = (after, .ok reference)) {n : Int}
    (amount_eq : move.amount = .int n) {account : Account} {held : Int}
    (whole : books.balance account = .int held) :
    after.balance account =
      .int (held - (if account.canonical = move.sourceAccount.canonical then n else 0) +
        (if account.canonical = move.targetAccount.canonical then n else 0)) := by
  obtain ⟨-, -, -, rest, total, movedAt, remains, raised_eq, -, rfl⟩ := move_eq_ok done
  have rest_eq := remainder_eq_ok remains
  rw [amount_eq] at rest_eq raised_eq
  -- The balance between the two writes.
  have between : (books.put move.sourceAccount rest).balance account =
      .int (held - if account.canonical = move.sourceAccount.canonical then n else 0) := by
    rw [balance_put]
    split
    · rename_i same
      rw [← books.balance_of_canonical same, whole, Value.sub_int] at rest_eq
      exact (Except.ok.inj rest_eq).symm
    · simpa using whole
  change ((books.put move.sourceAccount rest).put move.targetAccount total).balance account = _
  rw [balance_put]
  split
  · rename_i same
    rw [← balance_of_canonical _ same, between, raised_int] at raised_eq
    exact (Except.ok.inj raised_eq).symm
  · simpa using between

/-! ## Books of numbers -/

/-- Every balance is a number. -/
def HasNumbers (books : Books) : Prop := ∀ account, (books.balance account).isNumber

private theorem HasNumbers.put (numbers : books.HasNumbers) (account : Account) {amount : Value}
    (number : amount.isNumber) : (books.put account amount).HasNumbers := by
  intro other
  rw [balance_put]
  split
  · exact number
  · exact numbers other

/-- What empty books have and no written balance breaks, books that start with balances have. -/
theorem ofBalances_induction {holds : Books → Prop} {balances : List (Account × Value)}
    (start : holds {})
    (puts : ∀ books, ∀ entry ∈ balances, holds books → holds (books.put entry.1 entry.2)) :
    holds (ofBalances balances) :=
  List.foldlRecOn balances _ start fun books kept entry member => puts books entry member kept

/-- Books that start with numbers have numbers only. -/
theorem hasNumbers_ofBalances {balances : List (Account × Value)}
    (numbers : ∀ entry ∈ balances, entry.2.isNumber) : (ofBalances balances).HasNumbers :=
  ofBalances_induction (fun _ => rfl) fun _ entry member kept =>
    kept.put entry.1 (numbers entry member)

private theorem isNumber_of_raised {balance amount total : Value} (number : balance.isNumber)
    (raised_eq : raised balance amount = .ok total) : total.isNumber := by
  unfold raised at raised_eq
  split at raised_eq
  · simp [Value.isNumber] at number
  · exact Value.isNumber_of_add number raised_eq

private theorem raised_of_isNumber {balance : Value} (number : balance.isNumber) {n : Int}
    (amount : IsAmount n) : ∃ total, raised balance (.int n) = .ok total := by
  obtain ⟨total, added⟩ := Value.add_amount_of_isNumber number amount
  refine ⟨total, ?_⟩
  rw [← added]
  unfold raised
  split
  · simp [Value.isNumber] at number
  · rfl

private theorem HasNumbers.add (numbers : books.HasNumbers) (account : Account) (amount : Value) :
    (books.add account amount).1.HasNumbers := by
  unfold Books.add
  split
  · exact numbers
  · split
    · rename_i total raised_eq
      exact numbers.put account (isNumber_of_raised (numbers account) raised_eq)
    · exact numbers.put account (numbers account)

theorem HasNumbers.credit (numbers : books.HasNumbers) (account : Account) (amount : Value) :
    (books.credit account amount).1.HasNumbers := numbers.add account amount

private theorem HasNumbers.moved (numbers : books.HasNumbers) (move : Move)
    (now : Except Fault Instant) :
    (books.move move now).1.HasNumbers := by
  unfold Books.move
  split
  · exact numbers
  · split
    · exact numbers
    · rename_i rest remains
      have number := Value.isNumber_of_sub (remainder_eq_ok remains)
      have added := (numbers.put move.sourceAccount number).add move.targetAccount move.amount
      split
      · rename_i moved fault added_eq
        rwa [added_eq] at added
      · rename_i moved fault added_eq
        rwa [added_eq] at added
      · rename_i moved movedAt added_eq
        rw [added_eq] at added
        exact added

/-- Among numbers, a move of an amount between accounts that can be keys fails for a failure that is
armed or for the balance of its source, and then leaves the books as they were, but for an armed
failure that is used up. -/
theorem move_eq_error {problem : Problem} (failed : books.move move now = (after, .error problem))
    (numbers : books.HasNumbers) {n : Int} (amount_eq : move.amount = .int n)
    (amount : IsAmount n) (targetKey : move.targetAccount.isKey) {movedAt : Instant}
    (timely : now = .ok movedAt) :
    after = { books with armed := none } ∧
      ((∃ message, books.armed = some message ∧
          problem = .ofCause (.ledger (.refused message))) ∨
        books.remainder move = .error problem) := by
  unfold Books.move at failed
  split at failed
  · rename_i message armed
    cases failed
    exact ⟨rfl, .inl ⟨message, armed, rfl⟩⟩
  · rename_i unarmed
    have unchanged : books = { books with armed := none } := by rw [← unarmed]
    split at failed
    · rename_i remains
      cases failed
      exact ⟨unchanged, .inr remains⟩
    · rename_i rest remains
      have number := Value.isNumber_of_sub (remainder_eq_ok remains)
      obtain ⟨total, raised_eq⟩ := raised_of_isNumber
        (numbers.put move.sourceAccount number move.targetAccount) amount
      have added : (books.put move.sourceAccount rest).add move.targetAccount move.amount =
          ((books.put move.sourceAccount rest).put move.targetAccount total, .ok ()) := by
        unfold Books.add
        rw [amount_eq, raised_eq]
        simp [targetKey]
      rw [added, timely] at failed
      cases failed

private theorem remainder_of_covered {n held : Int} (amount_eq : move.amount = .int n)
    (nonneg : 0 ≤ n) (whole : books.balance move.sourceAccount = .int held) (covered : n ≤ held)
    (sourceKey : move.sourceAccount.isKey) : books.remainder move = .ok (.int (held - n)) := by
  have positive : ¬n < 0 := by omega
  have enough : ¬held < n := by omega
  simp [remainder, amount_eq, whole, sourceKey, positive, enough, Except.mapError, bind,
    Except.bind]

/-- A whole amount is refused by an account that it is not covered by, and by no other. -/
theorem remainder_eq_error {problem : Problem} {n held : Int} (amount_eq : move.amount = .int n)
    (nonneg : 0 ≤ n) (whole : books.balance move.sourceAccount = .int held)
    (sourceKey : move.sourceAccount.isKey) (failed : books.remainder move = .error problem) :
    problem = .ofCause
      (.ledger (.insufficientBalance move.asset move.source (.int held) (.int n))) := by
  by_cases covered : n ≤ held
  · rw [remainder_of_covered amount_eq nonneg whole covered sourceKey] at failed
    cases failed
  · have positive : ¬n < 0 := by omega
    have short : held < n := by omega
    simp only [remainder, amount_eq, whole, sourceKey, Value.less_int, positive, short] at failed
    cases failed
    rfl

/-- Among numbers, a move that the balance of its source covers ends well. -/
theorem move_of_covered (unarmed : books.armed = none) {n held : Int}
    (amount_eq : move.amount = .int n) (amount : IsAmount n)
    (whole : books.balance move.sourceAccount = .int held) (covered : n ≤ held)
    (numbers : books.HasNumbers) (sourceKey : move.sourceAccount.isKey)
    (targetKey : move.targetAccount.isKey) {movedAt : Instant} (timely : now = .ok movedAt) :
    (books.move move now).2 = .ok books.nextReference := by
  have remains := remainder_of_covered amount_eq amount.1 whole covered sourceKey
  have number : (Value.int (held - n)).isNumber := rfl
  obtain ⟨total, raised_eq⟩ := raised_of_isNumber
    (numbers.put move.sourceAccount number move.targetAccount) amount
  have added : (books.put move.sourceAccount (.int (held - n))).add move.targetAccount
      move.amount =
        ((books.put move.sourceAccount (.int (held - n))).put move.targetAccount total,
          .ok ()) := by
    unfold Books.add
    rw [amount_eq, raised_eq]
    simp [targetKey]
  unfold Books.move
  rw [unarmed]
  dsimp only
  rw [remains]
  dsimp only
  rw [added, timely]

/-! ## Books of whole numbers -/

/-- Every balance is a whole number. -/
def HasIntegers (books : Books) : Prop := ∀ account, ∃ held : Int, books.balance account = .int held

theorem HasIntegers.hasNumbers (integers : books.HasIntegers) : books.HasNumbers := by
  intro account
  obtain ⟨held, whole⟩ := integers account
  rw [whole]
  rfl

private theorem HasIntegers.put (integers : books.HasIntegers) (account : Account) (amount : Int) :
    (books.put account (.int amount)).HasIntegers := by
  intro other
  rw [balance_put]
  split
  · exact ⟨amount, rfl⟩
  · exact integers other

theorem HasIntegers.add (integers : books.HasIntegers) (account : Account) (amount : Int) :
    (books.add account (.int amount)).1.HasIntegers := by
  obtain ⟨held, whole⟩ := integers account
  unfold Books.add
  rw [whole, raised_int]
  split
  · exact integers
  · exact integers.put account (held + amount)

/-- Books that start with whole numbers have whole numbers only. -/
theorem hasIntegers_ofBalances {balances : List (Account × Value)}
    (integers : ∀ entry ∈ balances, ∃ n : Int, entry.2 = .int n) :
    (ofBalances balances).HasIntegers := by
  apply ofBalances_induction
  · exact fun _ => ⟨0, rfl⟩
  · intro books entry member kept
    obtain ⟨n, whole⟩ := integers entry member
    rw [whole]
    exact kept.put entry.1 n

/-- A whole amount that is moved keeps all balances whole, whether or not the move ends well. -/
theorem HasIntegers.moved (integers : books.HasIntegers) {n : Int} (amount_eq : move.amount = .int n)
    (now : Except Fault Instant) : (books.move move now).1.HasIntegers := by
  obtain ⟨held, whole⟩ := integers move.sourceAccount
  unfold Books.move
  split
  · exact integers
  · split
    · exact integers
    · rename_i rest remains
      have rest_eq := remainder_eq_ok remains
      rw [whole, amount_eq, Value.sub_int] at rest_eq
      obtain rfl := Except.ok.inj rest_eq
      have added := (integers.put move.sourceAccount (held - n)).add move.targetAccount n
      rw [← amount_eq] at added
      split
      · rename_i moved fault added_eq
        rwa [added_eq] at added
      · rename_i moved fault added_eq
        rwa [added_eq] at added
      · rename_i moved movedAt added_eq
        rw [added_eq] at added
        exact added

end Books

namespace Ledger

variable {ledger after : Ledger} {move : Move} {now : Except Fault Instant}

/-- The books of the ledger. -/
def books (ledger : Ledger) : Books :=
  match ledger.backing with
  | .books books => books
  | .custody _ => {}

/-- Does the ledger keep books? -/
def OnBooks (ledger : Ledger) : Prop := ledger.backing = .books ledger.books

/-- Does a failure await the next move of the ledger? -/
def isArmed (ledger : Ledger) : Bool := ledger.refusal.isSome || ledger.books.armed.isSome

/-- The ledger with the failure that awaits its next move used up. -/
def disarmed (ledger : Ledger) : Ledger :=
  match ledger.refusal, ledger.backing with
  | some _, _ => { ledger with refusal := none }
  | none, .books books => { ledger with backing := .books { books with armed := none } }
  | none, .custody _ => ledger

theorem OnBooks.moved (onBooks : ledger.OnBooks) (move : Move) (now : Except Fault Instant) :
    (ledger.move move now).1.OnBooks := by
  unfold Ledger.move
  split
  · exact onBooks
  · rw [onBooks]
    rfl

theorem books_disarmed (onBooks : ledger.OnBooks) :
    ledger.disarmed.books.balances = ledger.books.balances ∧
      ledger.disarmed.books.journal = ledger.books.journal := by
  unfold disarmed
  rw [onBooks]
  split <;> rename_i backing
  · exact ⟨rfl, rfl⟩
  · cases backing
    exact ⟨rfl, rfl⟩
  · cases backing

/-- A ledger on books moves funds as its books do. -/
theorem move_eq_ok (onBooks : ledger.OnBooks) {reference : Value}
    (done : ledger.move move now = (after, .ok reference)) :
    ∃ moved text, ledger.books.move move now = (moved, .ok text) ∧ reference = .text text ∧
      after = { ledger with backing := .books moved } := by
  unfold Ledger.move at done
  split at done
  · cases done
  · rw [onBooks] at done
    dsimp only at done
    obtain ⟨rfl, moved_eq⟩ := Prod.mk.inj done
    obtain ⟨text, text_eq, rfl⟩ := map_eq_ok_iff.mp moved_eq
    exact ⟨_, text, Prod.ext rfl text_eq, rfl, rfl⟩

/-- A move of a ledger on books that fails either finds a failure in its way or fails in the
books. -/
theorem move_eq_error (onBooks : ledger.OnBooks) {problem : Problem}
    (failed : ledger.move move now = (after, .error problem)) :
    (∃ refusal, ledger.refusal = some refusal ∧ problem = .refused refusal ∧
        after = ledger.disarmed) ∨
      ledger.refusal = none ∧ ∃ moved, ledger.books.move move now = (moved, .error problem) ∧
        after = { ledger with backing := .books moved } := by
  unfold Ledger.move at failed
  split at failed
  · rename_i refusal refused
    cases failed
    exact .inl ⟨refusal, refused, rfl, by simp [disarmed, refused]⟩
  · rename_i unrefused
    rw [onBooks] at failed
    dsimp only at failed
    obtain ⟨rfl, moved_eq⟩ := Prod.mk.inj failed
    refine .inr ⟨unrefused, _, Prod.ext rfl ?_, rfl⟩
    cases moved : (ledger.books.move move now).2 with
    | ok text =>
        rw [moved] at moved_eq
        cases moved_eq
    | error other =>
        rw [moved] at moved_eq
        cases moved_eq
        rfl

theorem balance_of_move_eq_ok (onBooks : ledger.OnBooks) {reference : Value}
    (done : ledger.move move now = (after, .ok reference)) {n : Int}
    (amount_eq : move.amount = .int n) {account : Account} {held : Int}
    (whole : ledger.books.balance account = .int held) :
    after.books.balance account =
      .int (held - (if account.canonical = move.sourceAccount.canonical then n else 0) +
        (if account.canonical = move.targetAccount.canonical then n else 0)) := by
  obtain ⟨books, text, moved, -, rfl⟩ := move_eq_ok onBooks done
  exact Books.balance_of_move_eq_ok moved amount_eq whole

/-- A move that ends well takes no more from an account than there is. -/
theorem covered_of_move_eq_ok (onBooks : ledger.OnBooks) {reference : Value}
    (done : ledger.move move now = (after, .ok reference)) {n : Int}
    (amount_eq : move.amount = .int n) {account : Account} {held : Int}
    (whole : ledger.books.balance account = .int held)
    (source : account.canonical = move.sourceAccount.canonical) : n ≤ held := by
  obtain ⟨books, text, moved, -, -⟩ := move_eq_ok onBooks done
  obtain ⟨-, -, -, rest, total, movedAt, remains, -⟩ := Books.move_eq_ok moved
  rw [Books.balance_of_canonical _ source] at whole
  exact Books.covered_of_remainder remains amount_eq whole

theorem hasNumbers_moved (onBooks : ledger.OnBooks) (numbers : ledger.books.HasNumbers)
    (move : Move) (now : Except Fault Instant) : (ledger.move move now).1.books.HasNumbers := by
  unfold Ledger.move
  split
  · exact numbers
  · rw [onBooks]
    exact numbers.moved move now

theorem hasIntegers_moved (onBooks : ledger.OnBooks) (integers : ledger.books.HasIntegers) {n : Int}
    (amount_eq : move.amount = .int n) (now : Except Fault Instant) :
    (ledger.move move now).1.books.HasIntegers := by
  unfold Ledger.move
  split
  · exact integers
  · rw [onBooks]
    exact integers.moved amount_eq now

/-- A move that ends well arms no failure. -/
theorem isArmed_of_move_eq_ok (onBooks : ledger.OnBooks) (unarmed : ledger.isArmed = false)
    {reference : Value} (done : ledger.move move now = (after, .ok reference)) :
    after.isArmed = false := by
  obtain ⟨unrefused, -⟩ : ledger.refusal = none ∧ ledger.books.armed = none := by
    simpa [isArmed] using unarmed
  obtain ⟨moved, text, moved_eq, -, rfl⟩ := move_eq_ok onBooks done
  obtain ⟨armed, -, -, rest, total, movedAt, -, -, -, rfl⟩ := Books.move_eq_ok moved_eq
  have refusal : ledger.refusal.isSome = false := by rw [unrefused]; rfl
  have failure : ledger.books.armed.isSome = false := by rw [armed]; rfl
  exact Bool.or_eq_false_iff.mpr ⟨refusal, failure⟩

theorem journal_move_of_error (onBooks : ledger.OnBooks) {problem : Problem}
    (failed : ledger.move move now = (after, .error problem)) :
    after.books.journal = ledger.books.journal := by
  rcases move_eq_error onBooks failed with ⟨refusal, -, -, rfl⟩ | ⟨-, moved, missed, rfl⟩
  · exact (books_disarmed onBooks).2
  · exact Books.journal_move_of_error missed

/-- A move of an armed ledger uses the failure up and fails. -/
theorem move_of_isArmed (onBooks : ledger.OnBooks) (armed : ledger.isArmed) (move : Move)
    (now : Except Fault Instant) :
    ∃ problem, ledger.move move now = (ledger.disarmed, .error problem) := by
  unfold Ledger.move disarmed
  cases refusal : ledger.refusal with
  | some refused => exact ⟨.refused refused, rfl⟩
  | none =>
      obtain ⟨message, armed⟩ : ∃ message, ledger.books.armed = some message := by
        rw [← Option.isSome_iff_exists]
        simpa [isArmed, refusal] using armed
      rw [onBooks]
      dsimp only
      unfold Books.move
      rw [armed]
      exact ⟨_, rfl⟩

/-- A move that fails among numbers leaves the ledger alone, but for a failure that is used up. -/
theorem move_of_error (onBooks : ledger.OnBooks) {problem : Problem}
    (failed : ledger.move move now = (after, .error problem)) (numbers : ledger.books.HasNumbers)
    {n : Int} (amount_eq : move.amount = .int n) (amount : IsAmount n)
    (targetKey : move.targetAccount.isKey) {movedAt : Instant} (timely : now = .ok movedAt) :
    after = ledger.disarmed := by
  rcases move_eq_error onBooks failed with
    ⟨refusal, -, -, rfl⟩ | ⟨unrefused, moved, missed, rfl⟩
  · rfl
  · rw [(Books.move_eq_error missed numbers amount_eq amount targetKey timely).1]
    unfold disarmed
    rw [unrefused, onBooks]

/-- A ledger that nothing is armed in makes every move that the balance of its source covers. -/
theorem move_of_covered (onBooks : ledger.OnBooks) (unarmed : ledger.isArmed = false)
    {n held : Int} (amount_eq : move.amount = .int n) (amount : IsAmount n)
    (whole : ledger.books.balance move.sourceAccount = .int held) (covered : n ≤ held)
    (numbers : ledger.books.HasNumbers) (sourceKey : move.sourceAccount.isKey)
    (targetKey : move.targetAccount.isKey) {movedAt : Instant} (timely : now = .ok movedAt) :
    ∃ after reference, ledger.move move now = (after, .ok reference) := by
  obtain ⟨unrefused, unarmed⟩ : ledger.refusal = none ∧ ledger.books.armed = none := by
    simpa [isArmed] using unarmed
  have moved := Books.move_of_covered unarmed amount_eq amount whole covered numbers sourceKey
    targetKey timely
  refine ⟨{ ledger with backing := .books (ledger.books.move move now).1 },
    .text ledger.books.nextReference, ?_⟩
  unfold Ledger.move
  rw [unrefused, onBooks]
  dsimp only
  rw [moved]
  rfl

end Ledger
end Escrow
