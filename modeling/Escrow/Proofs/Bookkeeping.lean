import Escrow.Proofs.Ledger

/-!
# Books add up

Books whose accounts are named by texts and whose amounts are whole, after any list of credits,
moves and armed failures.  A move is two writes, and the second one reads what the first one wrote;
so that a move of a holder to itself changes nothing, and that no funds appear or vanish, are facts
about the two writes together.  The start, the credits and the journal give every balance back.
-/

namespace Escrow

/-- An account that texts name. -/
structure AccountName where
  holder : String
  asset : String
  deriving DecidableEq

/-- A whole amount to be moved between two holders that texts name. -/
structure Order where
  source : String
  target : String
  amount : Int
  asset : String
  deriving DecidableEq

/-- An instruction to books. -/
inductive Instruction where
  | credit (name : AccountName) (amount : Int)
  | move (order : Order) (time : Instant)
  | arm (message : Value)

namespace AccountName

/-- The account with the name. -/
def account (name : AccountName) : Account := ⟨.text name.holder, .text name.asset⟩

@[simp]
theorem canonical_account (name : AccountName) : name.account.canonical = name.account := by
  simp [account, Account.canonical]

@[simp]
theorem isKey_account (name : AccountName) : name.account.isKey = true := by
  simp [account, Account.isKey]

@[simp]
theorem account_inj {name other : AccountName} : name.account = other.account ↔ name = other := by
  cases name
  cases other
  simp [account]

end AccountName

namespace Order

/-- The move that is ordered. -/
def move (order : Order) : Move :=
  ⟨.text order.source, .text order.target, .int order.amount, .text order.asset⟩

/-- The account that the order takes from. -/
def giver (order : Order) : AccountName := ⟨order.source, order.asset⟩

/-- The account that the order gives to. -/
def taker (order : Order) : AccountName := ⟨order.target, order.asset⟩

@[simp]
theorem sourceAccount_move (order : Order) : order.move.sourceAccount = order.giver.account := rfl

@[simp]
theorem targetAccount_move (order : Order) : order.move.targetAccount = order.taker.account := rfl

@[simp]
theorem amount_move (order : Order) : order.move.amount = .int order.amount := rfl

end Order

/-- What an instruction credits to the accounts that pass a test. -/
def Instruction.creditAmong (among : AccountName → Bool) : Instruction → Int
  | .credit name amount => if among name then amount else 0
  | .move _ _ => 0
  | .arm _ => 0

/-- What instructions credit to the accounts that pass a test. -/
def credited (instructions : List Instruction) (among : AccountName → Bool) : Int :=
  (instructions.map (Instruction.creditAmong among)).sum

/-- The whole amount of a journal entry. -/
def JournalEntry.amount (entry : JournalEntry) : Int := entry.move.amount.toInt?.getD 0

/-- What the journal moves to an account. -/
def movedTo (journal : List JournalEntry) (name : AccountName) : Int :=
  (journal.map fun entry =>
    if entry.move.targetAccount = name.account then entry.amount else 0).sum

/-- What the journal moves from an account. -/
def movedFrom (journal : List JournalEntry) (name : AccountName) : Int :=
  (journal.map fun entry =>
    if entry.move.sourceAccount = name.account then entry.amount else 0).sum

@[simp]
theorem credited_append (instructions more : List Instruction) (among : AccountName → Bool) :
    credited (instructions ++ more) among = credited instructions among + credited more among := by
  simp [credited]

@[simp]
theorem credited_single (instruction : Instruction) (among : AccountName → Bool) :
    credited [instruction] among = instruction.creditAmong among := by
  simp [credited]

private theorem movedTo_order (journal : List JournalEntry) (order : Order) (reference : String)
    (time : Instant) (name : AccountName) :
    movedTo (journal ++ [⟨order.move, reference, time⟩]) name =
      movedTo journal name + if name = order.taker then order.amount else 0 := by
  simp [movedTo, JournalEntry.amount, Value.toInt?, eq_comm]

private theorem movedFrom_order (journal : List JournalEntry) (order : Order) (reference : String)
    (time : Instant) (name : AccountName) :
    movedFrom (journal ++ [⟨order.move, reference, time⟩]) name =
      movedFrom journal name + if name = order.giver then order.amount else 0 := by
  simp [movedFrom, JournalEntry.amount, Value.toInt?, eq_comm]

namespace Books

variable {books after : Books} {order : Order} {time : Instant} {instruction : Instruction}
  {opening : Table AccountName Int} {instructions : List Instruction}

/-- Books with whole starting balances. -/
def opened (opening : Table AccountName Int) : Books :=
  ofBalances (opening.entries.map fun entry => (entry.1.account, .int entry.2))

/-- The books after an instruction. -/
def follow (books : Books) : Instruction → Books
  | .credit name amount => (books.credit name.account (.int amount)).1
  | .move order time => (books.move order.move (.ok time)).1
  | .arm message => books.arm message

/-- The books that started at whole balances, after one instruction after another. -/
def keptBy (opening : Table AccountName Int) (instructions : List Instruction) : Books :=
  instructions.foldl follow (opened opening)

/-- The whole balance of an account. -/
def held (books : Books) (name : AccountName) : Int :=
  (books.balance name.account).toInt?.getD 0

/-- What all holders together have of an asset. -/
def heldOf (books : Books) (asset : String) : Int :=
  books.balances.total fun account holding =>
    if account.asset = .text asset then holding.amount.toInt?.getD 0 else 0

/-- Every account that texts name has a whole balance. -/
def IsWhole (books : Books) : Prop := ∀ name, books.balance name.account = .int (books.held name)

/-! ## One write -/

private theorem isWhole_put (whole : books.IsWhole) (name : AccountName) (amount : Int) :
    (books.put name.account (.int amount)).IsWhole := by
  intro other
  unfold held
  rw [balance_put]
  split
  · rfl
  · exact whole other

private theorem held_put (books : Books) (name other : AccountName) (amount : Int) :
    (books.put name.account (.int amount)).held other =
      if other = name then amount else books.held other := by
  unfold held
  rw [balance_put]
  by_cases same : other = name <;> simp [same, Value.toInt?]

/-- A write changes what there is of its asset by what it changes the balance. -/
theorem heldOf_put (books : Books) (name : AccountName) (amount : Int) (asset : String) :
    (books.put name.account (.int amount)).heldOf asset =
      books.heldOf asset + if name.asset = asset then amount - books.held name else 0 := by
  have replaced : books.held name =
      (books.balances.get? name.account).elim 0 fun holding => holding.amount.toInt?.getD 0 := by
    unfold held balance written?
    rw [name.canonical_account]
    cases books.balances.get? name.account <;> rfl
  have weighed (other : Option Holding) :
      (other.elim 0 fun holding => if name.account.asset = .text asset then
          holding.amount.toInt?.getD 0 else 0) =
        if name.asset = asset then other.elim 0 fun holding => holding.amount.toInt?.getD 0
        else 0 := by
    cases other <;> simp [AccountName.account]
  change ((books.balances.set name.account.canonical _).total _) = _
  rw [Table.total_set, name.canonical_account, weighed, ← replaced]
  unfold heldOf AccountName.account
  simp only [Value.text.injEq]
  change _ + (if name.asset = asset then amount else 0) - _ = _
  split <;> omega

/-! ## The start -/

/-- Books that are written from whole amounts have whole balances; a name that occurs once holds
what is written for it. -/
theorem held_written (pairs : List (AccountName × Int)) (distinct : (pairs.map Prod.fst).Nodup)
    (whole : books.IsWhole) :
    let written := pairs.foldl (fun books entry => books.put entry.1.account (.int entry.2)) books
    written.IsWhole ∧
      ∀ name, written.held name = (Table.lookup name pairs).getD (books.held name) := by
  induction pairs generalizing books with
  | nil => exact ⟨whole, fun _ => rfl⟩
  | cons entry rest ih =>
      rw [List.map_cons, List.nodup_cons] at distinct
      obtain ⟨wholly, rest_held⟩ := ih distinct.2 (isWhole_put whole entry.1 entry.2)
      refine ⟨wholly, fun name => ?_⟩
      refine (rest_held name).trans ?_
      rw [held_put]
      by_cases same : name = entry.1
      · subst same
        simp [Table.lookup, Table.lookup_eq_none_of_not_mem distinct.1]
      · simp [Table.lookup, same, Ne.symm same]

private theorem held_opened (opening : Table AccountName Int) :
    (opened opening).IsWhole ∧ ∀ name, (opened opening).held name = (opening.get? name).getD 0 := by
  have start : ({} : Books).IsWhole := fun _ => rfl
  have written := held_written opening.entries opening.nodup start
  unfold opened ofBalances
  rw [List.foldl_map]
  exact written

/-! ## One instruction -/

private theorem credit_eq (whole : books.IsWhole) (name : AccountName) (amount : Int) :
    (books.credit name.account (.int amount)).1 =
      books.put name.account (.int (books.held name + amount)) := by
  change (books.add name.account (.int amount)).1 = _
  unfold add
  rw [whole name, raised_int]
  simp

/-- The books after an order that is carried out. -/
def ordered (books : Books) (order : Order) (time : Instant) : Books :=
  let taken := books.put order.giver.account (.int (books.held order.giver - order.amount))
  { taken.put order.taker.account (.int (taken.held order.taker + order.amount)) with
    journal := books.journal ++ [⟨order.move, books.nextReference, time⟩] }

/-- Among whole balances an order is either carried out, which needs an amount that is not negative
and that the giver covers, or it changes nothing but the failure that it uses up. -/
theorem move_order (whole : books.IsWhole) (order : Order) (time : Instant) :
    (0 ≤ order.amount ∧ order.amount ≤ books.held order.giver ∧
        books.move order.move (.ok time) =
          (books.ordered order time, .ok books.nextReference)) ∨
      ∃ problem, books.move order.move (.ok time) =
        ({ books with armed := none }, .error problem) := by
  have held_eq : books.balance order.move.sourceAccount = .int (books.held order.giver) :=
    whole order.giver
  cases armed : books.armed with
  | some message =>
      refine .inr ⟨.ofCause (.ledger (.refused message)), ?_⟩
      simp only [move, armed]
  | none =>
      have unchanged : books = { books with armed := none } := by rw [← armed]
      cases remains : books.remainder order.move with
      | error problem =>
          refine .inr ⟨problem, ?_⟩
          rw [← unchanged]
          simp only [move, armed, remains]
      | ok rest =>
          have rest_eq := remainder_eq_ok remains
          rw [held_eq, order.amount_move, Value.sub_int] at rest_eq
          obtain rfl := Except.ok.inj rest_eq
          refine .inl ⟨nonneg_of_remainder remains order.amount_move,
            covered_of_remainder remains order.amount_move held_eq, ?_⟩
          have taken := isWhole_put whole order.giver (books.held order.giver - order.amount)
          simp only [move, armed, remains, order.sourceAccount_move, order.targetAccount_move,
            order.amount_move, add, taken order.taker, raised_int, order.taker.isKey_account]
          rfl

private theorem isWhole_ordered (whole : books.IsWhole) (order : Order) (time : Instant) :
    (books.ordered order time).IsWhole :=
  isWhole_put (isWhole_put whole order.giver _) order.taker _

/-- An order that is carried out changes a balance by what it takes from the account and by what it
gives to it; of an account that it takes from and gives to, both. -/
theorem held_ordered (books : Books) (order : Order) (time : Instant) (name : AccountName) :
    (books.ordered order time).held name =
      books.held name - (if name = order.giver then order.amount else 0) +
        if name = order.taker then order.amount else 0 := by
  change ((books.put order.giver.account _).put order.taker.account _).held name = _
  rw [held_put, held_put, held_put]
  by_cases taker : name = order.taker
  · subst taker
    by_cases giver : order.taker = order.giver <;> simp [giver]
  · by_cases giver : name = order.giver
    · subst giver
      simp [taker]
    · simp [taker, giver]

/-- What the first write takes out of an asset the second one puts back. -/
theorem heldOf_ordered (books : Books) (order : Order) (time : Instant) (asset : String) :
    (books.ordered order time).heldOf asset = books.heldOf asset := by
  change ((books.put order.giver.account _).put order.taker.account _).heldOf asset = _
  have same : order.giver.asset = order.taker.asset := rfl
  rw [heldOf_put, heldOf_put, same]
  by_cases asked : order.taker.asset = asset
  · rw [if_pos asked, if_pos asked]
    omega
  · rw [if_neg asked, if_neg asked]
    omega

/-- What is true of the books after instructions that started at some balances. -/
structure AddsUp (opening : Table AccountName Int) (instructions : List Instruction)
    (books : Books) : Prop where
  /-- The start, the credits and the journal give every balance back. -/
  replayed : ∀ name, books.balance name.account =
    .int ((opening.get? name).getD 0 + credited instructions (fun other => other = name) +
      movedTo books.journal name - movedFrom books.journal name)
  /-- Only credits change what there is of an asset. -/
  conserved : ∀ asset, books.heldOf asset =
    (opened opening).heldOf asset + credited instructions fun other => other.asset = asset
  /-- The journal holds moves that were ordered. -/
  instructed : ∀ entry ∈ books.journal, ∃ order, .move order entry.movedAt ∈ instructions ∧
    entry.move = order.move
  /-- Every reference tells the position of its entry. -/
  numbered : books.journal.map JournalEntry.reference =
    (List.range' 1 books.journal.length).map referenceAt

namespace AddsUp

private theorem held (adds : AddsUp opening instructions books) (name : AccountName) :
    books.held name = (opening.get? name).getD 0 +
      credited instructions (fun other => other = name) +
        movedTo books.journal name - movedFrom books.journal name := by
  rw [Books.held, adds.replayed name]
  rfl

private theorem isWhole (adds : AddsUp opening instructions books) : books.IsWhole := by
  intro name
  rw [adds.held name]
  exact adds.replayed name

theorem start (opening : Table AccountName Int) : AddsUp opening [] (opened opening) := by
  obtain ⟨whole, held_eq⟩ := held_opened opening
  have unwritten : (opened opening).journal = [] :=
    List.foldlRecOn (motive := fun books : Books => books.journal = []) _ _ rfl
      fun _ empty _ _ => empty
  constructor
  · intro name
    rw [whole name, held_eq name, unwritten]
    simp [credited, movedTo, movedFrom]
  · simp [credited]
  · simp [unwritten]
  · simp [unwritten]

/-- An order that is carried out is one more entry. -/
theorem ordered (adds : AddsUp opening instructions books) (order : Order) (time : Instant) :
    AddsUp opening (instructions ++ [.move order time]) (books.ordered order time) := by
  have journal_eq : (books.ordered order time).journal =
      books.journal ++ [⟨order.move, books.nextReference, time⟩] := rfl
  constructor
  · intro name
    rw [isWhole_ordered adds.isWhole order time name, held_ordered, adds.held name, journal_eq,
      movedTo_order, movedFrom_order]
    simp only [credited_append, credited_single, Instruction.creditAmong]
    congr 1
    omega
  · intro asset
    rw [heldOf_ordered, adds.conserved asset]
    simp [Instruction.creditAmong]
  · intro entry member
    rw [journal_eq, List.mem_append, List.mem_singleton] at member
    rcases member with old | rfl
    · obtain ⟨earlier, asked, made⟩ := adds.instructed entry old
      exact ⟨earlier, List.mem_append_left _ asked, made⟩
    · exact ⟨order, List.mem_append_right _ List.mem_cons_self, rfl⟩
  · rw [journal_eq, List.map_append, adds.numbered, List.length_append, List.length_singleton,
      List.range'_concat, List.map_append, Nat.one_mul, Nat.add_comm 1]
    rfl

/-- An instruction that writes nothing and credits nothing. -/
theorem of_same (adds : AddsUp opening instructions books) {instruction : Instruction}
    (creditless : ∀ among, instruction.creditAmong among = 0)
    (balances : after.balances = books.balances) (journal : after.journal = books.journal) :
    AddsUp opening (instructions ++ [instruction]) after := by
  have balance_eq (account : Account) : after.balance account = books.balance account := by
    simp [balance, written?, balances]
  constructor
  · intro name
    rw [balance_eq, journal, adds.replayed name]
    simp [creditless]
  · intro asset
    have same : after.heldOf asset = books.heldOf asset := by simp [heldOf, balances]
    rw [same, adds.conserved asset]
    simp [creditless]
  · intro entry member
    rw [journal] at member
    obtain ⟨order, asked, made⟩ := adds.instructed entry member
    exact ⟨order, List.mem_append_left _ asked, made⟩
  · rw [journal]
    exact adds.numbered

private theorem credit (adds : AddsUp opening instructions books) (name : AccountName)
    (amount : Int) :
    AddsUp opening (instructions ++ [.credit name amount])
      (books.credit name.account (.int amount)).1 := by
  rw [credit_eq adds.isWhole]
  have journal_eq (total : Int) :
      (books.put name.account (.int total)).journal = books.journal := rfl
  constructor
  · intro other
    rw [isWhole_put adds.isWhole name _ other, held_put, journal_eq, adds.held, adds.held]
    simp only [credited_append, credited_single, Instruction.creditAmong]
    by_cases same : other = name
    · subst same
      simp only [if_true, decide_true]
      congr 1
      omega
    · simp [same, Ne.symm same]
  · intro asset
    rw [heldOf_put, adds.conserved asset, credited_append, credited_single]
    by_cases same : name.asset = asset
    · simp [Instruction.creditAmong, same]
      omega
    · simp [Instruction.creditAmong, same]
  · intro entry member
    obtain ⟨order, asked, made⟩ := adds.instructed entry member
    exact ⟨order, List.mem_append_left _ asked, made⟩
  · exact adds.numbered

private theorem follow (adds : AddsUp opening instructions books) (instruction : Instruction) :
    AddsUp opening (instructions ++ [instruction]) (books.follow instruction) := by
  cases instruction with
  | credit name amount => exact adds.credit name amount
  | move order time =>
      rcases move_order adds.isWhole order time with ⟨-, -, done⟩ | ⟨problem, failed⟩
      · rw [Books.follow, done]
        exact adds.ordered order time
      · rw [Books.follow, failed]
        exact adds.of_same (fun _ => rfl) rfl rfl
  | arm message => exact adds.of_same (fun _ => rfl) rfl rfl

private theorem keptBy (opening : Table AccountName Int) (instructions : List Instruction) :
    AddsUp opening instructions (Books.keptBy opening instructions) := by
  induction instructions using List.reverseRecOn with
  | nil => exact start opening
  | append_singleton earlier last ih =>
      rw [Books.keptBy, List.foldl_concat]
      exact ih.follow last

end AddsUp

/-! ## What the instructions leave behind -/

private theorem referenceAt_injective : Function.Injective referenceAt := by
  intro position other same
  simpa [referenceAt] using same

private theorem nonneg_follow (whole : books.IsWhole) (nonneg : ∀ name, 0 ≤ books.held name)
    (gains : ∀ name amount, instruction = .credit name amount → 0 ≤ amount) (name : AccountName) :
    0 ≤ (books.follow instruction).held name := by
  cases instruction with
  | credit other amount =>
      have gain := gains other amount rfl
      have before := nonneg other
      rw [follow, credit_eq whole, held_put]
      split
      · omega
      · exact nonneg name
  | move order time =>
      rcases move_order whole order time with ⟨positive, covered, done⟩ | ⟨problem, failed⟩
      · have before := nonneg name
        rw [follow, done, held_ordered]
        by_cases giver : name = order.giver
        · subst giver
          rw [if_pos rfl]
          split <;> omega
        · rw [if_neg giver]
          split <;> omega
      · rw [follow, failed]
        exact nonneg name
  | arm message => exact nonneg name

/-- Whole funds that start at or above zero and are never credited below it stay there. -/
theorem nonneg_keptBy (start : ∀ name held, opening.get? name = some held → 0 ≤ held)
    (gains : ∀ name amount, .credit name amount ∈ instructions → 0 ≤ amount) (name : AccountName) :
    0 ≤ (keptBy opening instructions).held name := by
  induction instructions using List.reverseRecOn generalizing name with
  | nil =>
      change 0 ≤ (opened opening).held name
      rw [(held_opened opening).2 name]
      cases found : opening.get? name with
      | none => exact le_rfl
      | some held => exact start name held found
  | append_singleton earlier last ih =>
      rw [keptBy, List.foldl_concat]
      refine nonneg_follow (AddsUp.keptBy opening earlier).isWhole (ih ?_) ?_ name
      · exact fun other amount asked => gains other amount (List.mem_append_left _ asked)
      · rintro other amount rfl
        exact gains other amount (by simp)

/-- After any instructions, whatever of them failed, the start, the credits and the journal give
every balance back; there is as much more of an asset as was credited; the references count the
entries of the journal, so none occurs twice; a move that fails writes nothing; a move of a holder
to itself needs its amount there and leaves it there; and a balance is below zero only if the start
or a credit was. -/
theorem adds_up_of_instructions (opening : Table AccountName Int)
    (instructions : List Instruction) :
    AddsUp opening instructions (keptBy opening instructions) ∧
      ((keptBy opening instructions).journal.map JournalEntry.reference).Nodup ∧
      (∀ (order : Order) time after problem,
        (keptBy opening instructions).move order.move (.ok time) = (after, .error problem) →
          after.balances = (keptBy opening instructions).balances ∧
            after.journal = (keptBy opening instructions).journal) ∧
      (∀ (order : Order) time after reference, order.source = order.target →
        (keptBy opening instructions).move order.move (.ok time) = (after, .ok reference) →
          order.amount ≤ (keptBy opening instructions).held order.giver ∧
            ∀ name : AccountName, after.balance name.account =
              (keptBy opening instructions).balance name.account) ∧
      ((∀ name held, opening.get? name = some held → 0 ≤ held) →
        (∀ name amount, .credit name amount ∈ instructions → 0 ≤ amount) →
          ∀ name, 0 ≤ (keptBy opening instructions).held name) := by
  have adds := AddsUp.keptBy opening instructions
  refine ⟨adds, ?_, ?_, ?_, nonneg_keptBy⟩
  · rw [adds.numbered]
    exact List.Nodup.map referenceAt_injective (List.nodup_range' 1)
  · intro order time after problem failed
    rcases move_order adds.isWhole order time with ⟨-, -, done⟩ | ⟨other, failed_eq⟩
    · rw [done] at failed
      cases failed
    · rw [failed_eq] at failed
      cases failed
      exact ⟨rfl, rfl⟩
  · intro order time after reference itself done
    rcases move_order adds.isWhole order time with ⟨-, covered, done_eq⟩ | ⟨problem, failed⟩
    · rw [done_eq] at done
      cases done
      have same : order.giver = order.taker := by rw [Order.giver, itself, Order.taker]
      refine ⟨covered, fun name => ?_⟩
      rw [isWhole_ordered adds.isWhole order time name, held_ordered, adds.isWhole name, same]
      congr 1
      split <;> omega
    · rw [failed] at done
      cases done

/-- Alice starts with a hundred dollars. -/
def sampleOpening : Table AccountName Int := .ofList [(⟨"alice", "USD"⟩, 100)]

/-- Five dollars are credited to Bob, Alice pays him, and twice she fails to pay Carol. -/
def sampleInstructions : List Instruction :=
  [.credit ⟨"bob", "USD"⟩ 5,
    .move ⟨"alice", "bob", 30, "USD"⟩ default,
    .arm (.text "down"),
    .move ⟨"alice", "carol", 30, "USD"⟩ default,
    .move ⟨"alice", "carol", 1000, "USD"⟩ default]

/-- Alice can pay herself what she has left, which changes nothing but the journal, and no more. -/
theorem adds_up_sample :
    (keptBy sampleOpening sampleInstructions).journal.map JournalEntry.reference = ["mem-1"] ∧
      (keptBy sampleOpening sampleInstructions).heldOf "USD" = 105 ∧
      (∃ after, (keptBy sampleOpening sampleInstructions).move
          (Order.move ⟨"alice", "alice", 70, "USD"⟩) (.ok default) = (after, .ok "mem-2") ∧
        ∀ name : AccountName, after.balance name.account =
          (keptBy sampleOpening sampleInstructions).balance name.account) ∧
      (∃ after problem, (keptBy sampleOpening sampleInstructions).move
          (Order.move ⟨"alice", "alice", 71, "USD"⟩) (.ok default) = (after, .error problem) ∧
        after.balances = (keptBy sampleOpening sampleInstructions).balances) ∧
      ∀ name, 0 ≤ (keptBy sampleOpening sampleInstructions).held name := by
  obtain ⟨adds, -, failing, itself, nonneg⟩ :=
    adds_up_of_instructions sampleOpening sampleInstructions
  refine ⟨?_, ?_, ?_, ?_, nonneg ?_ ?_⟩
  · decide +kernel
  · rw [adds.conserved "USD"]
    decide +kernel
  · have done : ((keptBy sampleOpening sampleInstructions).move
        (Order.move ⟨"alice", "alice", 70, "USD"⟩) (.ok default)).2 = .ok "mem-2" := by
      decide +kernel
    exact ⟨_, Prod.ext rfl done, (itself _ _ _ _ rfl (Prod.ext rfl done)).2⟩
  · have failed : ((keptBy sampleOpening sampleInstructions).move
        (Order.move ⟨"alice", "alice", 71, "USD"⟩) (.ok default)).2 = .error (.ofCause (.ledger
          (.insufficientBalance (.text "USD") (.text "alice") (.int 70) (.int 71)))) := by
      decide +kernel
    exact ⟨_, _, Prod.ext rfl failed, (failing _ _ _ _ (Prod.ext rfl failed)).1⟩
  · intro name held found
    obtain ⟨rfl, rfl⟩ : name = ⟨"alice", "USD"⟩ ∧ 100 = held := by
      simpa [sampleOpening, Table.ofList, Table.get?_set] using found
    decide
  · rintro name amount asked
    obtain ⟨rfl, rfl⟩ : name = ⟨"bob", "USD"⟩ ∧ amount = 5 := by
      simpa [sampleInstructions] using asked
    decide

end Books
end Escrow
