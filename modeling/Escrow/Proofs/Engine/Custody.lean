import Escrow.Proofs.Engine.Accounts
import Escrow.Proofs.Engine.Failure

/-!
# Custody and the ledger

The ledger moves what is left of an amount after the fee, while a pool books the whole amount as
withdrawn and the fee as collected.  The two sides agree all the same: an account that serves as
custody, and that nobody uses otherwise, holds what all the pools that keep their asset there say
that they have in custody.
-/

namespace Escrow

/-- The account in which a pool keeps its asset. -/
def Pool.account (pool : Pool) : Account := ⟨pool.custody, pool.asset⟩

theorem Pool.Continues.account_eq {pool old : Pool} (continues : pool.Continues old) :
    pool.account = old.account := by
  rw [Pool.account, continues.custody_eq, continues.asset_eq, Pool.account]

/-- The account is neither of the accounts from which and to which the parties trade the asset. -/
structure Account.Apart (account : Account) (sender recipient asset : Value) : Prop where
  sender : account.canonical ≠ (⟨sender, asset⟩ : Account).canonical
  recipient : account.canonical ≠ (⟨recipient, asset⟩ : Account).canonical

/-- Whoever a settlement pays, it does not pay into an account apart from the parties. -/
theorem Account.Apart.payee {account : Account} {transfer : Transfer} {asset : Value}
    (apart : account.Apart transfer.sender transfer.recipient asset) (settlement : Settlement) :
    account.canonical ≠ (⟨Engine.payee transfer settlement, asset⟩ : Account).canonical := by
  cases settlement with
  | accept => exact apart.recipient
  | _ => exact apart.sender

namespace Engine

/-- The registered pools that keep their asset in the account. -/
def poolsAt (engine : Engine) (account : Account) : List Pool :=
  engine.pools.values.filter fun pool => decide (pool.account.canonical = account.canonical)

/-- The call leaves the account to the pools: it neither credits it nor names its holder as a party
in a pool of its asset.  Pools come unused, names can be keys, and the clock can be read. -/
structure Spares (account : Account) (engine : Engine) (call : Call) : Prop where
  names : call.NamesKeys
  unused : ∀ pool, call = .register pool → pool.IsUnused
  timely : (engine.perform call).1.TellsTime
  uncredited : ∀ other amount, call = .credit other amount → account.canonical ≠ other.canonical
  unnamed : ∀ request pool, call = .create request →
    engine.pools.get? request.pool.canonical = some pool →
      account.Apart request.sender request.recipient pool.asset

/-! ## What chosen pools hold -/

variable {origin before after engine : Engine} {call : Call} {news later : List News}
  {account : Account} {chosen : Pool → Bool}

/-- What a pool adds to the holdings of the chosen ones. -/
def holdingIf (chosen : Pool → Bool) (pool : Pool) : Int :=
  if chosen pool then pool.tally.inCustody else 0

/-- What all chosen pools hold. -/
def heldIf (engine : Engine) (chosen : Pool → Bool) : Int :=
  engine.pools.total fun _ => holdingIf chosen

theorem heldIf_of_written {place : Value} {old written : Pool}
    (found : before.pools.get? place = some old)
    (pools : after.pools = before.pools.set place written) (chosen : Pool → Bool) :
    after.heldIf chosen =
      before.heldIf chosen + holdingIf chosen written - holdingIf chosen old := by
  unfold heldIf
  rw [pools, Table.total_set_of_get? found]

theorem heldIf_of_registered {place : Value} {pool : Pool}
    (free : before.pools.get? place = none) (unused : pool.IsUnused)
    (pools : after.pools = before.pools.set place pool) (chosen : Pool → Bool) :
    after.heldIf chosen = before.heldIf chosen := by
  have nothing : holdingIf chosen pool = 0 := by
    unfold holdingIf
    rw [unused.tally_eq]
    split <;> rfl
  unfold heldIf
  rw [pools, Table.total_set_of_absent free, nothing, Int.add_zero]

theorem heldIf_of_schedule {place : Value} {pool : Pool}
    (found : before.pools.get? place = some pool) (schedule : Schedule)
    (same : chosen { pool with schedule := schedule } = chosen pool) :
    ({ before with
      pools := before.pools.set place { pool with schedule := schedule } } : Engine).heldIf chosen =
        before.heldIf chosen := by
  have kept : holdingIf chosen { pool with schedule := schedule } = holdingIf chosen pool := by
    unfold holdingIf
    rw [same]
    rfl
  rw [heldIf_of_written found rfl chosen, kept, Int.add_sub_cancel]

theorem sum_heldIf (engine : Engine) (chosen : Pool → Bool) :
    ((engine.pools.values.filter chosen).map (·.tally.inCustody)).sum = engine.heldIf chosen := by
  unfold heldIf holdingIf
  rw [Table.sum_values_filter]

/-- When a booking changes what a pool has in custody, it changes the holdings of the chosen ones. -/
theorem holdingIf_of_booked {pool booked : Pool} {tally counted : Tally} {n : Int}
    (counts : pool.Counts tally) (booked_counts : booked.Counts counted)
    (same : chosen booked = chosen pool) (shift : counted.inCustody = tally.inCustody + n) :
    holdingIf chosen booked = holdingIf chosen pool + if chosen pool then n else 0 := by
  unfold holdingIf
  rw [same, booked_counts.tally_eq, counts.tally_eq, shift]
  split <;> omega

/-- A deposit raises what a chosen pool holds by the amount. -/
theorem holdingIf_of_deposit {request : CreateRequest} {transfer : Transfer} {pool booked : Pool}
    {tally : Tally} (counts : pool.Counts tally) (admits : before.Admits request transfer pool)
    (booking : pool.bookDeposit transfer.amount = .ok booked)
    (same : chosen booked = chosen pool) :
    holdingIf chosen booked =
      holdingIf chosen pool + if chosen pool then transfer.amount else 0 := by
  have shift : (tally.deposit transfer.amount).inCustody = tally.inCustody + transfer.amount := by
    simp only [Tally.inCustody, Tally.escrowed, Tally.deposit]
    omega
  exact holdingIf_of_booked counts (counts.deposit admits.checked booking) same shift

/-- A settlement lowers what a chosen pool holds by the amount less the fee, which stays in custody. -/
theorem holdingIf_of_settlement {id : Value} {settling : SettlementCall} {transfer : Transfer}
    {pool booked : Pool} {settlement : Settlement} {tally : Tally} (counts : pool.Counts tally)
    (allows : before.Allows id settling transfer pool settlement)
    (booking : pool.bookSettlement transfer.amount (feeOf transfer pool settlement) = .ok booked)
    (same : chosen booked = chosen pool) :
    holdingIf chosen booked =
      holdingIf chosen pool -
        if chosen pool then transfer.amount - (feeOf transfer pool settlement).toInt else 0 := by
  have shift : (tally.settle transfer.amount (feeOf transfer pool settlement).toInt).inCustody =
      tally.inCustody + -(transfer.amount - (feeOf transfer pool settlement).toInt) := by
    simp only [Tally.inCustody, Tally.escrowed, Tally.settle]
    omega
  rw [holdingIf_of_booked counts (counts.settle allows.checked booking) same shift]
  split <;> omega

/-! ## What the pools hold in an account -/

/-- What a pool adds to the holdings of an account. -/
def holding (account : Account) (pool : Pool) : Int :=
  if pool.account.canonical = account.canonical then pool.tally.inCustody else 0

/-- What all pools hold in an account. -/
def heldAt (engine : Engine) (account : Account) : Int :=
  engine.pools.total fun _ => holding account

/-- Does the pool keep its asset in the account? -/
def keepsAt (account : Account) (pool : Pool) : Bool :=
  decide (pool.account.canonical = account.canonical)

private theorem keepsAt_of_continues {pool old : Pool} (continues : pool.Continues old)
    (account : Account) : keepsAt account pool = keepsAt account old := by
  rw [keepsAt, continues.account_eq, keepsAt]

private theorem holdingIf_keepsAt (account : Account) : holdingIf
    (keepsAt account) = holding account := by
  funext pool
  simp [holdingIf, holding, keepsAt]

private theorem heldIf_keepsAt (engine : Engine) (account : Account) :
    engine.heldIf (keepsAt account) = engine.heldAt account := by
  rw [heldIf, heldAt, holdingIf_keepsAt]

theorem heldAt_of_written {place : Value} {old written : Pool}
    (found : before.pools.get? place = some old)
    (pools : after.pools = before.pools.set place written) (account : Account) :
    after.heldAt account =
      before.heldAt account + holding account written - holding account old := by
  rw [← heldIf_keepsAt, ← heldIf_keepsAt, ← holdingIf_keepsAt]
  exact heldIf_of_written found pools _

theorem heldAt_of_registered {place : Value} {pool : Pool}
    (free : before.pools.get? place = none) (unused : pool.IsUnused)
    (pools : after.pools = before.pools.set place pool) (account : Account) :
    after.heldAt account = before.heldAt account := by
  rw [← heldIf_keepsAt, ← heldIf_keepsAt]
  exact heldIf_of_registered free unused pools _

theorem heldAt_of_schedule {place : Value} {pool : Pool}
    (found : before.pools.get? place = some pool) (schedule : Schedule) (account : Account) :
    ({ before with
      pools := before.pools.set place { pool with schedule := schedule } } : Engine).heldAt account =
        before.heldAt account := by
  rw [← heldIf_keepsAt, ← heldIf_keepsAt]
  exact heldIf_of_schedule found schedule rfl

/-- Pools with counted custody give their holdings as numbers. -/
theorem holdings_eq (pools : List Pool) (counted : ∀ pool ∈ pools, ∃ tally, pool.Counts tally) :
    pools.mapM Pool.inCustody = .ok ((pools.map (·.tally.inCustody)).map Value.int) := by
  induction pools with
  | nil => rfl
  | cons pool rest ih =>
      rw [List.forall_mem_cons] at counted
      obtain ⟨⟨tally, counts⟩, counted⟩ := counted
      rw [List.mapM_cons, counts.inCustody_eq, ih counted, List.map_cons, counts.tally_eq]
      rfl

theorem Accounts.holdings_eq (accounts : Accounts news engine) (account : Account) :
    (engine.poolsAt account).mapM Pool.inCustody =
      .ok (((engine.poolsAt account).map (·.tally.inCustody)).map Value.int) := by
  apply Engine.holdings_eq
  intro pool member
  obtain ⟨key, found⟩ := Table.mem_values_iff.mp (List.mem_filter.mp member).1
  obtain ⟨tally, counts, -⟩ := accounts.pools key pool found
  exact ⟨tally, counts⟩

theorem sum_poolsAt (engine : Engine) (account : Account) :
    ((engine.poolsAt account).map (·.tally.inCustody)).sum = engine.heldAt account :=
  (engine.sum_heldIf (keepsAt account)).trans (engine.heldIf_keepsAt account)

/-! ## What a step does to an account -/

/-- The account holds what it held at the opening and what the pools hold there, and no pending
transfer of its asset names its holder. -/
structure Reconciled (account : Account) (opening : Int) (engine : Engine) : Prop where
  timely : engine.TellsTime
  apart : ∀ key transfer pool, engine.transfers.get? key = some transfer →
    engine.pools.get? transfer.pool.canonical = some pool →
      account.Apart transfer.sender transfer.recipient pool.asset
  balance : engine.ledger.books.balance account = .int (opening + engine.heldAt account)

variable {opening : Int}

theorem Step.tellsTime (step : Step origin call before news after)
    (served : (origin.perform call).1.TellsTime) (timely : before.TellsTime) :
    after.TellsTime := by
  cases step with
  | clock quiet eq =>
      rwa [eq] at served
  | _ => exact timely

private theorem Step.apart (step : Step origin call before news after) (orderly : before.Orderly)
    (spares : Spares account origin call)
    (apart : ∀ key transfer pool, before.transfers.get? key = some transfer →
      before.pools.get? transfer.pool.canonical = some pool →
        account.Apart transfer.sender transfer.recipient pool.asset)
    {key : Value} {transfer : Transfer} {pool : Pool}
    (found : after.transfers.get? key = some transfer)
    (pooled : after.pools.get? transfer.pool.canonical = some pool) :
    account.Apart transfer.sender transfer.recipient pool.asset := by
  rcases step.transfer_cases found with
    ⟨old, registered, continues⟩ | ⟨rfl, -, request, held, asked, admits⟩
  · rw [continues.sender_eq, continues.recipient_eq]
    rw [continues.pool_eq] at pooled
    rcases step.pool_cases pooled with ⟨older, known, terms⟩ | ⟨-, -, free⟩
    · rw [terms.asset_eq]
      exact apart key old older registered known
    · -- A pool that comes in has no transfers yet.
      obtain ⟨there, known⟩ := (orderly.transfers key old registered).pooled
      rw [free] at known
      cases known
  · have known := admits.pool_found
    rcases step.pool_cases pooled with ⟨older, again, terms⟩ | ⟨-, -, free⟩
    · rw [terms.asset_eq, admits.asked.sender_eq, admits.asked.recipient_eq]
      rw [admits.asked.pool_eq] at again
      exact spares.unnamed request older asked again
    · rw [free] at known
      cases known

theorem balance_of_same {ledger : Ledger}
    (balances : ledger.books.balances = before.ledger.books.balances) (account : Account) :
    ledger.books.balance account = before.ledger.books.balance account := by
  simp [Books.balance, Books.written?, balances]

/-- A deposit goes from the sender into the account of the pool. -/
theorem balance_of_deposit {transfer : Transfer} {pool : Pool} {ledger : Ledger}
    {reference : Value} {held : Int} (orderly : before.Orderly)
    (moved : before.ledger.move (depositMove transfer pool) before.now = (ledger, .ok reference))
    (whole : before.ledger.books.balance account = .int held) :
    ledger.books.balance account =
      .int (held -
        (if account.canonical = (⟨transfer.sender, pool.asset⟩ : Account).canonical then
          transfer.amount else 0) +
        (if account.canonical = pool.account.canonical then transfer.amount else 0)) :=
  Ledger.balance_of_move_eq_ok orderly.onBooks moved rfl whole

/-- A settlement pays what is left after the fee out of the account of the pool. -/
theorem balance_of_settlement {transfer : Transfer} {pool : Pool} {settlement : Settlement}
    {ledger : Ledger} {reference : Value} {held : Int} (orderly : before.Orderly)
    (moved : before.ledger.move (payoutMove transfer pool settlement) before.now =
      (ledger, .ok reference))
    (whole : before.ledger.books.balance account = .int held) :
    ledger.books.balance account =
      .int (held -
        (if account.canonical = pool.account.canonical then
          transfer.amount - (feeOf transfer pool settlement).toInt else 0) +
        (if account.canonical = (⟨payee transfer settlement, pool.asset⟩ : Account).canonical then
          transfer.amount - (feeOf transfer pool settlement).toInt else 0)) :=
  Ledger.balance_of_move_eq_ok orderly.onBooks moved rfl whole

/-- A deposit raises what the pool adds to the holdings of its account by the amount. -/
theorem holding_of_deposit {request : CreateRequest} {transfer : Transfer} {pool booked : Pool}
    {tally : Tally} (counts : pool.Counts tally) (admits : before.Admits request transfer pool)
    (booking : pool.bookDeposit transfer.amount = .ok booked) (account : Account) :
    holding account booked =
      holding account pool +
        if account.canonical = pool.account.canonical then transfer.amount else 0 := by
  have same := keepsAt_of_continues (Pool.continues_of_deposit booking) account
  have raised := holdingIf_of_deposit counts admits booking same
  simp only [holdingIf_keepsAt, keepsAt, decide_eq_true_eq] at raised
  simp only [raised, @eq_comm _ account.canonical]

/-- A settlement lowers what the pool adds to the holdings of its account by the amount less the fee,
which stays in custody. -/
theorem holding_of_settlement {id : Value} {settling : SettlementCall} {transfer : Transfer}
    {pool booked : Pool} {settlement : Settlement} {tally : Tally} (counts : pool.Counts tally)
    (allows : before.Allows id settling transfer pool settlement)
    (booking : pool.bookSettlement transfer.amount (feeOf transfer pool settlement) = .ok booked)
    (account : Account) :
    holding account booked =
      holding account pool -
        if account.canonical = pool.account.canonical then
          transfer.amount - (feeOf transfer pool settlement).toInt
        else 0 := by
  have same := keepsAt_of_continues (Pool.continues_of_settlement booking) account
  have lowered := holdingIf_of_settlement counts allows booking same
  simp only [holdingIf_keepsAt, keepsAt, decide_eq_true_eq] at lowered
  simp only [lowered, @eq_comm _ account.canonical]

/-- What the ledger is told does not touch the account, as long as it is not credited. -/
theorem balance_of_told {ledger : Ledger} (told : before.ledger.Told call ledger)
    (uncredited : ∀ other amount, call = .credit other amount →
      account.canonical ≠ other.canonical) :
    ledger.books.balance account = before.ledger.books.balance account := by
  cases told with
  | arm held message =>
      simp only [Ledger.books, held]
      rfl
  | credit held other amount =>
      simp only [Ledger.books, held]
      exact Books.balance_credit_of_ne (uncredited other amount rfl)
  | refuseNext =>
      unfold Ledger.refuseNext
      split <;> rfl
  | script held changes => simp only [Ledger.books, held]

/-- Every step of a call that spares the account keeps it reconciled. -/
theorem Step.reconciled (step : Step origin call before later after) (solid : before.Solid)
    (accounts : Accounts news before) (spares : Spares account origin call)
    (reconciled : before.Reconciled account opening) : after.Reconciled account opening := by
  obtain ⟨timely, apart, balance⟩ := reconciled
  have orderly := solid.orderly
  refine ⟨step.tellsTime spares.timely timely,
    fun key transfer pool => step.apart orderly spares apart, ?_⟩
  cases step with
  | aside => exact balance
  | unpaidDeposit asked drawn admits failed =>
      rw [solid.unpaidDeposit timely admits failed]
      rw [← balance_of_same (Ledger.books_disarmed orderly.onBooks).1 account] at balance
      exact balance
  | deposit asked drawn admits moved booking =>
      obtain ⟨tally, counts, -⟩ := accounts.pools _ _ admits.pool_found
      have known := admits.pool_found
      rw [admits.asked.pool_eq] at known
      have parties := spares.unnamed _ _ asked known
      rw [← admits.asked.sender_eq, ← admits.asked.recipient_eq] at parties
      rw [heldAt_of_written admits.pool_found rfl account, holding_of_deposit counts admits booking]
      refine (balance_of_deposit orderly moved balance).trans ?_
      rw [if_neg parties.sender, Value.int.injEq]
      omega
  | unpaidSettlement allows failed =>
      rw [solid.unpaidSettlement timely allows failed]
      rw [← balance_of_same (Ledger.books_disarmed orderly.onBooks).1 account] at balance
      exact balance
  | settlement allows moved booking settling =>
      obtain ⟨tally, counts, -⟩ := accounts.pools _ _ allows.pool_found
      have parties := apart _ _ _ allows.transfer_found allows.pool_found
      rw [heldAt_of_written allows.pool_found rfl account,
        holding_of_settlement counts allows booking]
      refine (balance_of_settlement orderly moved balance).trans ?_
      rw [if_neg (parties.payee _), Value.int.injEq]
      omega
  | fees asked found authorized =>
      rw [heldAt_of_schedule found]
      exact balance
  | register asked key free =>
      rw [heldAt_of_registered free (spares.unused _ asked) rfl account]
      exact balance
  | archive => exact balance
  | prune => exact balance
  | told told =>
      exact (balance_of_told told spares.uncredited).trans balance
  | clock => exact balance

theorem IsFresh.heldAt_eq (fresh : engine.IsFresh) (account : Account) :
    engine.heldAt account = 0 := by
  unfold heldAt
  rw [fresh.pools]
  rfl

/-- Calls that spare an account keep it reconciled, together with the accounts of all pools. -/
theorem Reconciled.run (reconciled : engine.Reconciled account opening) (solid : engine.Solid)
    (accounts : Accounts news engine) {calls : List Call}
    (spares : Along (Spares account) engine calls) :
    (engine.run calls).Solid ∧ Accounts (news ++ engine.newsOf calls) (engine.run calls) ∧
      (engine.run calls).Reconciled account opening :=
  @run_preserves (Spares account)
    (fun news engine => engine.Solid ∧ Accounts news engine ∧ engine.Reconciled account opening)
    (fun _ _ spares _ _ _ _ step orderly ⟨solid, accounts, reconciled⟩ =>
      ⟨step.solid spares.names solid, step.accounts spares.unused orderly accounts,
        step.reconciled solid accounts spares reconciled⟩)
    engine solid.orderly calls spares news ⟨solid, accounts, reconciled⟩

theorem IsFresh.reconciled_run (fresh : engine.IsFresh) (numbers : engine.ledger.books.HasNumbers)
    (timely : engine.TellsTime) (opens : engine.ledger.books.balance account = .int opening)
    {calls : List Call} (spares : Along (Spares account) engine calls) :
    (engine.run calls).Solid ∧ Accounts (engine.newsOf calls) (engine.run calls) ∧
      (engine.run calls).Reconciled account opening := by
  have start : engine.Reconciled account opening := by
    refine ⟨timely, ?_, ?_⟩
    · intro key transfer pool found
      rw [fresh.transfers, Table.get?_empty] at found
      cases found
    · rw [fresh.heldAt_eq, Int.add_zero]
      exact opens
  exact start.run (fresh.solid numbers) fresh.isBlank.accounts spares

/-- At every point of a run that spares an account, the account holds what it held at first and what
its pools have in custody, however many pools share it and whatever has failed. -/
theorem balance_of_run {engine : Engine} (fresh : engine.IsFresh)
    (numbers : engine.ledger.books.HasNumbers) (timely : engine.TellsTime) {account : Account}
    {opening : Int} (opens : engine.ledger.books.balance account = .int opening)
    {calls : List Call} (spares : Along (Spares account) engine calls) :
    ∃ holdings : List Int,
      ((engine.run calls).poolsAt account).mapM Pool.inCustody = .ok (holdings.map .int) ∧
        (engine.run calls).ledger.books.balance account = .int (opening + holdings.sum) := by
  obtain ⟨-, accounts, reconciled⟩ := fresh.reconciled_run numbers timely opens spares
  refine ⟨((engine.run calls).poolsAt account).map (·.tally.inCustody),
    accounts.holdings_eq account, ?_⟩
  rw [sum_poolsAt]
  exact reconciled.balance

/-- The account in which the pool of the small market keeps its dollars. -/
def sampleAccount : Account := ⟨.text "pool:p", .text "USD"⟩

/-- The first transfer of the small market, accepted at once. -/
def sampleTrade : List Call :=
  [.register samplePool, .create (sampleRequest "t1" 300),
    .settle (.text "t1") (.accept (.text "olga"))]

theorem spares_sample : Along (Spares sampleAccount) sampleEngine sampleTrade := by
  refine ⟨⟨namesKeys_register_sample, ?_, ?_, by simp, by simp⟩,
    ⟨namesKeys_create_sample _ _, by simp, ?_, by simp, ?_⟩,
    ⟨⟨by simp, by simp⟩, by simp, ?_, by simp, by simp⟩, trivial⟩
  · rintro pool ⟨⟩
    exact isUnused_sample
  · exact tellsTime_sample.of_clock (by decide +kernel)
  · exact tellsTime_sample.of_clock (by decide +kernel)
  · rintro request pool ⟨⟩ -
    constructor <;> simp [sampleAccount, sampleRequest, Account.canonical]
  · exact tellsTime_sample.of_clock (by decide +kernel)

/-- What the pool of the small market keeps is the fee of one percent. -/
theorem balance_sample :
    ∃ holdings : List Int,
      ((sampleEngine.run sampleTrade).poolsAt sampleAccount).mapM Pool.inCustody =
          .ok (holdings.map .int) ∧
        (sampleEngine.run sampleTrade).ledger.books.balance sampleAccount =
          .int (0 + holdings.sum) ∧
        (sampleEngine.run sampleTrade).ledger.books.balance sampleAccount = .int 3 := by
  have opens : sampleEngine.ledger.books.balance sampleAccount = .int 0 := by decide +kernel
  obtain ⟨holdings, held, balance⟩ :=
    balance_of_run isFresh_sample hasNumbers_sample tellsTime_sample opens spares_sample
  exact ⟨holdings, held, balance, by decide +kernel⟩

end Engine
end Escrow
