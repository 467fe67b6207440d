import Escrow.Proofs.Engine.Custody

/-!
# What accounts owe to their pools

Parties are named freely, so a transfer may be paid for out of an account in which pools keep their
assets, even out of the account of its own pool.  The engine books such a deposit like any other, and
the account then holds less than its pools have in custody.  Nothing else opens a gap: at every point
of a run the gap is covered by what was paid for out of the account, and an account that no transfer
was paid for out of holds all that its pools have in custody.
-/

namespace Escrow

/-- Is the news that a transfer was created and paid for out of the account, while pools kept their
assets there? -/
def News.drawsOn (item : News) (account : Account) : Bool :=
  match item.before.pools.get? item.event.pool.canonical with
  | some pool =>
    !item.event.status.isTerminal &&
      decide (account.canonical = (⟨item.event.sender, pool.asset⟩ : Account).canonical) &&
      !(item.before.poolsAt account).isEmpty
  | none => false

namespace Engine

/-- What was paid for transfers out of the account while pools kept their assets there. -/
def drawnFrom (news : List News) (account : Account) : Int :=
  (news.map fun item => if item.drawsOn account then item.event.amount else 0).sum

/-- The call credits the account with whole amounts only, and with none below zero.  Pools come
unused, names can be keys, and the clock can be read. -/
structure Funds (account : Account) (engine : Engine) (call : Call) : Prop where
  names : call.NamesKeys
  unused : ∀ pool, call = .register pool → pool.IsUnused
  timely : (engine.perform call).1.TellsTime
  credited : ∀ other amount, call = .credit other amount → account.canonical = other.canonical →
    ∃ n : Int, amount = .int n ∧ 0 ≤ n

/-- The account is not overdrawn, and what its pools hold beyond its balance was paid for out of
it. -/
structure Owes (account : Account) (news : List News) (engine : Engine) : Prop where
  timely : engine.TellsTime
  drawn_nonneg : 0 ≤ drawnFrom news account
  balance : ∃ held : Int, engine.ledger.books.balance account = .int held ∧ 0 ≤ held ∧
    engine.heldAt account ≤ held + drawnFrom news account

variable {origin before after engine : Engine} {call : Call} {news later : List News}
  {account : Account}

private theorem drawnFrom_append (news later : List News) (account : Account) :
    drawnFrom (news ++ later) account = drawnFrom news account + drawnFrom later account := by
  simp [drawnFrom]

private theorem drawnFrom_nil (account : Account) : drawnFrom [] account = 0 := rfl

private theorem drawnFrom_eq_zero (undrawn : ∀ item ∈ news, item.drawsOn account = false) :
    drawnFrom news account = 0 := by
  induction news with
  | nil => rfl
  | cons item rest ih =>
      rw [List.forall_mem_cons] at undrawn
      have others := ih undrawn.2
      unfold drawnFrom at others ⊢
      rw [List.map_cons, List.sum_cons, others, undrawn.1]
      rfl

/-- Nothing is held in an account that no pool keeps its asset in. -/
theorem heldAt_of_poolsAt (nobody : engine.poolsAt account = []) : engine.heldAt account = 0 := by
  rw [← sum_poolsAt, nobody]
  rfl

/-- The news of a deposit counts as drawn if it is paid for out of an account that holds something. -/
theorem drawnFrom_created {request : CreateRequest} {transfer : Transfer} {pool : Pool}
    (admits : before.Admits request transfer pool) (reference : Value) (account : Account) :
    drawnFrom [⟨before, .created transfer reference⟩] account =
      if account.canonical = (⟨transfer.sender, pool.asset⟩ : Account).canonical ∧
          before.poolsAt account ≠ [] then transfer.amount
      else 0 := by
  simp [drawnFrom, News.drawsOn, Event.created, admits.pool_found, Status.isTerminal]

private theorem drawnFrom_settled (transfer : Transfer) (settlement : Settlement) (time : Instant)
    (pool : Value) (fee : Whole) (reference : Value) :
    drawnFrom [⟨before, .settled (transfer.settledBy settlement time) pool fee time reference⟩]
      account = 0 := by
  apply drawnFrom_eq_zero
  rw [List.forall_mem_singleton]
  unfold News.drawsOn
  split
  · simp [Event.settled, Status.isTerminal]
  · rfl

/-! ## What a step does to the gap -/

theorem Owes.of_same (owes : before.Owes account news) (timely : after.TellsTime)
    (balance : after.ledger.books.balance account = before.ledger.books.balance account)
    (held : after.heldAt account = before.heldAt account) :
    after.Owes account (news ++ []) := by
  rw [List.append_nil]
  refine ⟨timely, owes.drawn_nonneg, ?_⟩
  rw [balance, held]
  exact owes.balance

/-- A deposit opens a gap only in the account that it is paid for out of, and no greater one than its
amount. -/
theorem Owes.deposit {request : CreateRequest} {transfer : Transfer} {pool booked : Pool}
    {ledger : Ledger} {reference : Value} {tally : Tally} (owes : before.Owes account news)
    (orderly : before.Orderly) (counts : pool.Counts tally)
    (admits : before.Admits request transfer pool)
    (moved : before.ledger.move (depositMove transfer pool) before.now = (ledger, .ok reference))
    (booking : pool.bookDeposit transfer.amount = .ok booked) (timely : after.TellsTime)
    (ledger_eq : after.ledger = ledger)
    (pools : after.pools = before.pools.set transfer.pool.canonical booked) :
    after.Owes account (news ++ [⟨before, .created transfer reference⟩]) := by
  obtain ⟨-, drawn_nonneg, held, balance, nonneg, covered⟩ := owes
  have amount := admits.asked.amount.1
  have shift := heldAt_of_written admits.pool_found pools account
  rw [holding_of_deposit counts admits booking] at shift
  have available : account.canonical = (⟨transfer.sender, pool.asset⟩ : Account).canonical →
      transfer.amount ≤ held :=
    Ledger.covered_of_move_eq_ok orderly.onBooks moved rfl balance
  have empty : before.poolsAt account = [] → before.heldAt account = 0 := heldAt_of_poolsAt
  have drawn := drawnFrom_created admits reference account
  refine ⟨timely, ?_, _, (ledger_eq ▸ balance_of_deposit orderly moved balance), ?_, ?_⟩
  · rw [drawnFrom_append, drawn]
    split <;> omega
  · by_cases own : account.canonical = (⟨transfer.sender, pool.asset⟩ : Account).canonical
    · have enough := available own
      rw [if_pos own]
      split <;> omega
    · rw [if_neg own]
      split <;> omega
  · rw [drawnFrom_append, drawn, shift]
    by_cases own : account.canonical = (⟨transfer.sender, pool.asset⟩ : Account).canonical
    · have enough := available own
      by_cases nobody : before.poolsAt account = []
      · have nothing := empty nobody
        simp only [own, nobody, ne_eq, not_true_eq_false, and_false, if_false]
        split <;> omega
      · simp only [own, nobody, ne_eq, not_false_eq_true, and_true, if_true]
        split <;> omega
    · simp only [own, false_and, if_false]
      split <;> omega

/-- A settlement takes from the account of its pool what the pool no longer holds there. -/
theorem Owes.settle {id : Value} {settling : SettlementCall} {transfer : Transfer}
    {pool booked : Pool} {settlement : Settlement} {ledger : Ledger} {reference : Value}
    {tally : Tally} (owes : before.Owes account news) (orderly : before.Orderly)
    (counts : pool.Counts tally) (allows : before.Allows id settling transfer pool settlement)
    (moved : before.ledger.move (payoutMove transfer pool settlement) before.now =
      (ledger, .ok reference))
    (booking : pool.bookSettlement transfer.amount (feeOf transfer pool settlement) = .ok booked)
    (timely : after.TellsTime) (ledger_eq : after.ledger = ledger)
    (pools : after.pools = before.pools.set transfer.pool.canonical booked) (time : Instant) :
    after.Owes account (news ++ [⟨before, .settled (transfer.settledBy settlement time) pool.id
      (feeOf transfer pool settlement) time reference⟩]) := by
  obtain ⟨-, drawn_nonneg, held, balance, nonneg, covered⟩ := owes
  have registers := orderly.transfers _ _ allows.transfer_found
  have net : 0 ≤ transfer.amount - (feeOf transfer pool settlement).toInt :=
    (pool.schedule.isAmount_sub_fee settlement.outcome registers.amount).1
  have shift := heldAt_of_written allows.pool_found pools account
  rw [holding_of_settlement counts allows booking] at shift
  have available : account.canonical = pool.account.canonical →
      transfer.amount - (feeOf transfer pool settlement).toInt ≤ held :=
    Ledger.covered_of_move_eq_ok orderly.onBooks moved rfl balance
  refine ⟨timely, ?_, _, (ledger_eq ▸ balance_of_settlement orderly moved balance), ?_, ?_⟩
  · rw [drawnFrom_append, drawnFrom_settled]
    omega
  · by_cases own : account.canonical = pool.account.canonical
    · have enough := available own
      rw [if_pos own]
      split <;> omega
    · rw [if_neg own]
      split <;> omega
  · rw [drawnFrom_append, drawnFrom_settled, shift]
    split <;> split <;> omega

/-- What the ledger is told leaves the account alone or adds to it. -/
theorem Owes.told {ledger : Ledger} (owes : before.Owes account news)
    (told : before.ledger.Told call ledger)
    (credited : ∀ other amount, call = .credit other amount →
      account.canonical = other.canonical → ∃ n : Int, amount = .int n ∧ 0 ≤ n)
    (timely : after.TellsTime) (ledger_eq : after.ledger = ledger)
    (pools : after.pools = before.pools) : after.Owes account (news ++ []) := by
  have held : after.heldAt account = before.heldAt account := by
    rw [heldAt, pools, ← heldAt]
  by_cases other : ∀ other amount, call = .credit other amount →
      account.canonical ≠ other.canonical
  · exact owes.of_same timely (ledger_eq ▸ balance_of_told told other) held
  · push Not at other
    obtain ⟨credit, amount, rfl, same⟩ := other
    obtain ⟨n, rfl, positive⟩ := credited credit amount rfl same
    cases told with
    | @credit books backing =>
        obtain ⟨-, drawn_nonneg, balance, whole, nonneg, covered⟩ := owes
        have whole : books.balance account = .int balance := by
          simpa [Ledger.books, backing] using whole
        have raised : after.ledger.books.balance account =
            .int (balance + if credit.isKey then n else 0) := by
          rw [ledger_eq]
          exact Books.balance_credit_of_eq same whole
        rw [List.append_nil]
        refine ⟨timely, drawn_nonneg, _, raised, ?_, ?_⟩
        · split <;> omega
        · rw [held]
          split <;> omega

/-- Every step of a call that funds the account with amounts keeps the gap covered by what was paid
for out of it. -/
theorem Step.owes (step : Step origin call before later after) (solid : before.Solid)
    (accounts : Accounts news before) (funds : Funds account origin call)
    (owes : before.Owes account news) : after.Owes account (news ++ later) := by
  have timely := step.tellsTime funds.timely owes.timely
  have orderly := solid.orderly
  cases step with
  | aside => exact owes.of_same timely rfl rfl
  | unpaidDeposit asked drawn admits failed =>
      have disarmed := solid.unpaidDeposit owes.timely admits failed
      exact owes.of_same timely (disarmed ▸
        balance_of_same (Ledger.books_disarmed orderly.onBooks).1 account) rfl
  | deposit asked drawn admits moved booking =>
      obtain ⟨tally, counts, -⟩ := accounts.pools _ _ admits.pool_found
      exact owes.deposit orderly counts admits moved booking timely rfl rfl
  | unpaidSettlement allows failed =>
      have disarmed := solid.unpaidSettlement owes.timely allows failed
      exact owes.of_same timely (disarmed ▸
        balance_of_same (Ledger.books_disarmed orderly.onBooks).1 account) rfl
  | settlement allows moved booking settling =>
      obtain ⟨tally, counts, -⟩ := accounts.pools _ _ allows.pool_found
      exact owes.settle orderly counts allows moved booking timely rfl rfl _
  | fees asked found authorized =>
      exact owes.of_same timely rfl (heldAt_of_schedule found _ account)
  | register asked key free =>
      exact owes.of_same timely rfl
        (heldAt_of_registered free (funds.unused _ asked) rfl account)
  | archive => exact owes.of_same timely rfl rfl
  | prune => exact owes.of_same timely rfl rfl
  | told told => exact owes.told told funds.credited timely rfl rfl
  | clock => exact owes.of_same timely rfl rfl

/-- At every point of a run an account holds what its pools have in custody, but for what was paid
for out of it: pools that share an account do not take from each other, whoever trades and however
often anything fails. -/
theorem solvent_of_run {engine : Engine} (fresh : engine.IsFresh)
    (numbers : engine.ledger.books.HasNumbers) (timely : engine.TellsTime) {account : Account}
    {opening : Int} (opens : engine.ledger.books.balance account = .int opening)
    (positive : 0 ≤ opening) {calls : List Call} (funds : Along (Funds account) engine calls) :
    ∃ (holdings : List Int) (held : Int),
      ((engine.run calls).poolsAt account).mapM Pool.inCustody = .ok (holdings.map .int) ∧
        (engine.run calls).ledger.books.balance account = .int held ∧ 0 ≤ held ∧
        holdings.sum ≤ held + drawnFrom (engine.newsOf calls) account ∧
        ((∀ item ∈ engine.newsOf calls, item.drawsOn account = false) → holdings.sum ≤ held) := by
  have start : engine.Owes account [] := by
    refine ⟨timely, le_rfl, opening, opens, positive, ?_⟩
    rw [fresh.heldAt_eq, drawnFrom_nil]
    omega
  obtain ⟨-, accounts, -, -, held, balance, nonneg, covered⟩ := @run_preserves (Funds account)
    (fun news engine => engine.Solid ∧ Accounts news engine ∧ engine.Owes account news)
    (fun origin call funds before later after news step orderly ⟨solid, accounts, owes⟩ =>
      ⟨step.solid funds.names solid, step.accounts funds.unused orderly accounts,
        step.owes solid accounts funds owes⟩)
    engine fresh.orderly calls funds [] ⟨fresh.solid numbers, fresh.isBlank.accounts, start⟩
  rw [List.nil_append, ← sum_poolsAt] at covered
  refine ⟨((engine.run calls).poolsAt account).map (·.tally.inCustody), held,
    accounts.holdings_eq account, balance, nonneg, covered, ?_⟩
  intro undrawn
  rw [drawnFrom_eq_zero undrawn] at covered
  omega

/-- A second transfer of the small market is paid for out of the account of its own pool. -/
def sampleLoop : List Call :=
  [.register samplePool, .create (sampleRequest "t1" 300),
    .create { sampleRequest "t2" 300 with sender := .text "pool:p" }]

/-- A deposit that an account pays to itself is booked although nothing comes in: the pool then has
twice as much in custody as its account holds. -/
theorem insolvent_sample :
    ∃ pool ∈ (sampleEngine.run sampleLoop).poolsAt sampleAccount,
      pool.inCustody = .ok (.int 600) ∧
        (sampleEngine.run sampleLoop).ledger.books.balance sampleAccount = .int 300 := by
  decide +kernel

private theorem funds_sample : Along (Funds sampleAccount) sampleEngine sampleLoop := by
  obtain ⟨register, create, -⟩ := spares_sample
  refine ⟨⟨register.names, register.unused, register.timely, by simp⟩,
    ⟨create.names, create.unused, create.timely, by simp⟩,
    ⟨⟨?_, by simp⟩, by simp, ?_, by simp⟩, trivial⟩
  · rintro request ⟨⟩
    exact ⟨rfl, rfl⟩
  · exact tellsTime_sample.of_clock (by decide +kernel)

/-- The gap of the small market is what the second transfer was paid for with. -/
theorem solvent_sample :
    ∃ (holdings : List Int) (held : Int),
      ((sampleEngine.run sampleLoop).poolsAt sampleAccount).mapM Pool.inCustody =
          .ok (holdings.map .int) ∧
        (sampleEngine.run sampleLoop).ledger.books.balance sampleAccount = .int held ∧
        holdings.sum ≤ held + 300 := by
  have opens : sampleEngine.ledger.books.balance sampleAccount = .int 0 := by decide +kernel
  obtain ⟨holdings, held, holds, balance, -, covered, -⟩ :=
    solvent_of_run isFresh_sample hasNumbers_sample tellsTime_sample opens le_rfl funds_sample
  have drawn : drawnFrom (sampleEngine.newsOf sampleLoop) sampleAccount = 300 := by
    decide +kernel
  rw [drawn] at covered
  exact ⟨holdings, held, holds, balance, covered⟩

end Engine
end Escrow
