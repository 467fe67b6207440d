import Escrow.Proofs.Engine.Custody

/-!
# Releasing what is held

Funds do not get stuck.  As long as the accounts of the pools are left to them, what a pool still
holds for its pending transfers is at least the amount of each of them, and the ledger has it: no
check of a settlement fails and no balance falls short, whatever the fees, so every pending transfer
is settled by whoever may settle it.
-/

namespace Escrow
namespace Engine

/-- The call settles the transfer with the outcome. -/
def Settles (engine : Engine) (id : Value) (call : SettlementCall) (outcome : Outcome) : Prop :=
  ∃ event, (engine.perform (.settle id call)).2 = .ok (.event event) ∧
    event.transfer.canonical = id.canonical ∧ event.status = .settled outcome

/-- The message may go with a rejection: it is none, or a text that can be encoded and is not longer
than the limit. -/
inductive TakesMessage (engine : Engine) : Value → Prop where
  | none : TakesMessage engine .null
  | text {message : String} {limit : Int} (encodable : Text.hasHalf message = false)
      (limit_eq : engine.memoLimit = .int limit) (short : message.utf8ByteSize ≤ limit) :
      TakesMessage engine (.text message)

/-- Whatever fees the pool took, its counters and the balance of its account would cover a settlement
of the transfer. -/
structure Covers (engine : Engine) (transfer : Transfer) (pool : Pool) : Prop where
  checked : ∀ (schedule : Schedule) (outcome : Outcome),
    pool.checkSettlement (.int transfer.amount)
      (schedule.fee outcome (.number transfer.amount)).toValue = .ok ()
  balance : ∃ held : Int, engine.ledger.books.balance pool.account = .int held ∧
    ∀ (schedule : Schedule) (outcome : Outcome),
      transfer.amount - (schedule.fee outcome (.number transfer.amount)).toInt ≤ held

/-- Everyone who may settle the transfer of the pool can do so: the operator accepts it and rejects it
with any reason, the sender cancels it, and anyone expires it once its deadline has passed. -/
structure Releases (engine : Engine) (id : Value) (transfer : Transfer) (pool : Pool) : Prop where
  accept : ∀ caller, caller.same pool.operator → engine.Settles id (.accept caller) .accepted
  reject : ∀ caller code message, caller.same pool.operator → 0 ≤ code → code ≤ 255 →
    engine.TakesMessage message → engine.Settles id (.reject caller (.int code) message) .rejected
  cancel : ∀ caller, caller.same transfer.sender → engine.Settles id (.cancel caller) .cancelled
  expire : ∀ caller deadline time, transfer.expiresAt = some deadline →
    engine.reading = .ok (some time) → time.offset.isSome → deadline.ticks ≤ time.ticks →
      engine.Settles id (.expire caller) .expired

variable {engine : Engine} {id key : Value} {transfer : Transfer} {pool : Pool}
  {news : List News} {tally : Tally}

/-! ## What a pool holds for one transfer -/

/-- A pool in balance has not released any of its pending transfers yet. -/
theorem Balanced.covers_pending (balanced : engine.Balanced news transfer.pool.canonical tally)
    (orderly : engine.Orderly) (found : engine.transfers.get? key = some transfer)
    (pending : transfer.isActive) :
    tally.withdrawn + transfer.amount ≤ tally.deposited ∧ tally.resolved + 1 ≤ tally.created := by
  have amounts := balanced.escrowed
  have number := balanced.pending
  rw [sum_pendingIn] at amounts
  rw [length_pendingIn] at number
  have amount : transfer.amount ≤ engine.pendingSum (·.amount) transfer.pool.canonical :=
    le_pendingSum found pending rfl fun place other there =>
      (orderly.transfers place other there).amount.1
  have one : 1 ≤ engine.pendingSum (fun _ => 1) transfer.pool.canonical :=
    le_pendingSum found pending rfl (by simp)
  constructor <;> omega

private theorem Balanced.inCustody_nonneg (balanced : engine.Balanced news key tally) :
    0 ≤ tally.inCustody := by
  have covered := balanced.withdrawn_le
  have positive := balanced.fees_nonneg
  simp only [Tally.inCustody, Tally.escrowed]
  omega

/-- An account holds for each of its pools what this pool has in custody. -/
theorem Accounts.inCustody_le_heldAt (accounts : Accounts news engine)
    (found : engine.pools.get? key = some pool) :
    pool.tally.inCustody ≤ engine.heldAt pool.account := by
  have nonneg : ∀ place other, engine.pools.get? place = some other →
      0 ≤ holding pool.account other := by
    intro place other there
    obtain ⟨tally, counts, balanced⟩ := accounts.pools place other there
    have positive := balanced.inCustody_nonneg
    unfold holding
    rw [counts.tally_eq]
    split <;> omega
  have own : holding pool.account pool = pool.tally.inCustody := if_pos rfl
  have bound := Table.le_total nonneg found
  rwa [own] at bound

/-- The counters of a pool let each of its pending transfers be settled, whatever the fees. -/
theorem Accounts.checked (accounts : Accounts news engine) (orderly : engine.Orderly)
    (pool_found : engine.pools.get? transfer.pool.canonical = some pool)
    (found : engine.transfers.get? key = some transfer) (pending : transfer.isActive)
    (schedule : Schedule) (outcome : Outcome) :
    pool.checkSettlement (.int transfer.amount)
      (schedule.fee outcome (.number transfer.amount)).toValue = .ok () := by
  obtain ⟨tally, counts, balanced⟩ := accounts.pools _ _ pool_found
  have amount := (orderly.transfers key transfer found).amount
  have nonneg : 0 ≤ (Whole.number transfer.amount).toInt := amount.1
  obtain ⟨released, resolved⟩ := balanced.covers_pending orderly found pending
  have least := schedule.fee_nonneg outcome nonneg
  have most := schedule.fee_le outcome (.number transfer.amount)
  rw [Whole.toInt_number] at most
  have fees_nonneg := balanced.fees_nonneg
  have fees_le := balanced.fees_le
  have deposited_le := balanced.deposited_le
  have created_le := balanced.created_le
  apply counts.checkSettlement_iff.mpr
  refine ⟨amount.1, least, released, ?_, ?_, ?_, ?_⟩ <;> omega

theorem Accounts.covers (accounts : Accounts news engine) (orderly : engine.Orderly)
    {opening : Int} (opens : 0 ≤ opening)
    (balance : engine.ledger.books.balance pool.account =
      .int (opening + engine.heldAt pool.account))
    (pool_found : engine.pools.get? transfer.pool.canonical = some pool)
    (found : engine.transfers.get? key = some transfer) (pending : transfer.isActive) :
    engine.Covers transfer pool := by
  refine ⟨accounts.checked orderly pool_found found pending, _, balance, ?_⟩
  intro schedule outcome
  obtain ⟨tally, counts, balanced⟩ := accounts.pools _ _ pool_found
  have nonneg : 0 ≤ (Whole.number transfer.amount).toInt :=
    (orderly.transfers key transfer found).amount.1
  obtain ⟨released, -⟩ := balanced.covers_pending orderly found pending
  have fees_nonneg := balanced.fees_nonneg
  have least := schedule.fee_nonneg outcome nonneg
  have held := accounts.inCustody_le_heldAt pool_found
  rw [counts.tally_eq] at held
  simp only [Tally.inCustody, Tally.escrowed] at held
  omega

/-! ## Whatever is allowed is settled -/

variable {call : SettlementCall} {settlement : Settlement}

/-- The ledger pays out what the engine allows. -/
theorem Solid.pays (solid : engine.Solid) (timely : engine.TellsTime)
    (unarmed : engine.ledger.isArmed = false) (covers : engine.Covers transfer pool)
    (allows : engine.Allows id call transfer pool settlement) :
    ∃ ledger reference, engine.ledger.move (payoutMove transfer pool settlement) engine.now =
      (ledger, .ok reference) := by
  obtain ⟨time, timely⟩ := timely
  obtain ⟨held, balance, covered⟩ := covers.balance
  have registers := solid.orderly.transfers _ _ allows.transfer_found
  have net := pool.schedule.isAmount_sub_fee settlement.outcome registers.amount
  obtain ⟨sourceKey, targetKey⟩ := solid.keys_payout allows
  exact Ledger.move_of_covered solid.orderly.onBooks unarmed rfl net balance
    (covered pool.schedule settlement.outcome) solid.numbers sourceKey targetKey timely

private theorem perform_settle_of_ok {event : Event}
    (settled : (engine.settle id call).2 = .ok event) :
    (engine.perform (.settle id call)).2 = .ok (.event event) := by
  unfold perform serve
  dsimp only
  split
  · rename_i next other done
    rw [done] at settled
    cases settled
    rfl
  · rw [settled]
    rfl

/-- What the engine allows, and its pool and account cover, is settled. -/
theorem Solid.settle_eq (solid : engine.Solid) (timely : engine.TellsTime)
    (unarmed : engine.ledger.isArmed = false) (covers : engine.Covers transfer pool)
    (key : id.isKey) (allows : engine.Allows id call transfer pool settlement) :
    ∃ ledger reference booked time,
      engine.ledger.move (payoutMove transfer pool settlement) engine.now =
          (ledger, .ok reference) ∧
        pool.bookSettlement transfer.amount (feeOf transfer pool settlement) = .ok booked ∧
        engine.settlingTime = .ok time ∧
        engine.settle id call =
          ({ engine with
              ledger := ledger
              pools := engine.pools.set transfer.pool.canonical booked
              transfers := engine.transfers.set id.canonical
                (transfer.settledBy settlement time) },
            .ok (.settled (transfer.settledBy settlement time) pool.id
              (feeOf transfer pool settlement) time reference)) := by
  obtain ⟨ledger, reference, paid⟩ := solid.pays timely unarmed covers allows
  obtain ⟨now, now_eq⟩ := timely
  obtain ⟨_, time, -, -, settling⟩ := settlingTime_of_now now_eq
  obtain ⟨booked, booking, settled⟩ :=
    settle_of_paid solid.orderly.tidy key allows paid settling
  exact ⟨ledger, reference, booked, time, paid, booking, settling, settled⟩

private theorem Solid.settles (solid : engine.Solid) (timely : engine.TellsTime)
    (unarmed : engine.ledger.isArmed = false) (covers : engine.Covers transfer pool)
    (key : id.isKey) (allows : engine.Allows id call transfer pool settlement) :
    engine.Settles id call settlement.outcome := by
  obtain ⟨ledger, reference, booked, time, -, -, -, settled⟩ :=
    solid.settle_eq timely unarmed covers key allows
  refine ⟨_, perform_settle_of_ok (congrArg Prod.snd settled), ?_, ?_⟩
  · exact (solid.orderly.transfers _ _ allows.transfer_found).id_eq
  · exact transfer.status_settledBy settlement time

theorem checkMessage_of_takesMessage {message : Value} (takes : engine.TakesMessage message)
    (id : Value) : ∃ kept, engine.checkMessage message id = .ok kept := by
  cases takes with
  | none => exact ⟨none, rfl⟩
  | @text message limit encodable limit_eq short =>
      have within : ¬limit < message.utf8ByteSize := by omega
      exact ⟨some message, by simp [checkMessage, encodable, limit_eq, within]⟩

/-- A deadline with a zone is due once the clock, which has one as well, shows that instant. -/
theorem checkDue_of_reached {deadline time : Instant}
    (expires : transfer.expiresAt = some deadline) (zoned : deadline.offset.isSome)
    (shows_zone : time.offset.isSome) (reached : deadline.ticks ≤ time.ticks) :
    checkDue transfer id (some time) = .ok () := by
  have passed : deadline.atOrBefore? time = some true := by
    simp [Instant.atOrBefore?, zoned, shows_zone, reached]
  simp [checkDue, Transfer.isExpired, deadlinePassed, expires, passed]

private theorem Solid.releases (solid : engine.Solid) (timely : engine.TellsTime)
    (unarmed : engine.ledger.isArmed = false) (zones : engine.HasZones) (key : id.isKey)
    (found : engine.transfers.get? id.canonical = some transfer) (pending : transfer.isActive)
    (pool_found : engine.pools.get? transfer.pool.canonical = some pool)
    (covers : engine.Covers transfer pool) : engine.Releases id transfer pool := by
  have pool_key := solid.orderly.tidy.isKey_pool pool_found
  have settles {call : SettlementCall} {settlement : Settlement}
      (authorized : authorize pool transfer id call = .ok ())
      (settlement_eq : engine.settlementOf transfer id call = .ok settlement) :
      engine.Settles id call settlement.outcome :=
    solid.settles timely unarmed covers key
      ⟨found, pool_key, pool_found, authorized, pending, settlement_eq,
        covers.checked pool.schedule settlement.outcome⟩
  constructor
  · intro caller operates
    have authorized : authorize pool transfer id (.accept caller) = .ok () := if_pos operates
    have asked : engine.settlementOf transfer id (.accept caller) = .ok .accept := rfl
    exact settles authorized asked
  · intro caller code message operates least most takes
    obtain ⟨kept, taken⟩ := checkMessage_of_takesMessage takes id
    have authorized : authorize pool transfer id (.reject caller (.int code) message) = .ok () :=
      if_pos operates
    have coded : checkReasonCode id (.int code) = .ok code := if_pos ⟨least, most⟩
    have asked : engine.settlementOf transfer id (.reject caller (.int code) message) =
        .ok (.reject (.int code) ((kept.map Value.text).getD .null)) := by
      simp [settlementOf, taken, coded, bind, Except.bind, pure, Except.pure]
    exact settles authorized asked
  · intro caller sends
    have authorized : authorize pool transfer id (.cancel caller) = .ok () := if_pos sends
    have asked : engine.settlementOf transfer id (.cancel caller) = .ok .cancel := rfl
    exact settles authorized asked
  · intro caller deadline time expires read shows_zone reached
    have zoned := zones _ transfer deadline found expires
    have due : checkDue transfer id (some time) = .ok () :=
      checkDue_of_reached expires zoned shows_zone reached
    have asked : engine.settlementOf transfer id (.expire caller) =
        .ok (.expire (.int expiredCode)) := by
      simp [settlementOf, read, due, Except.mapError, bind, Except.bind, pure, Except.pure]
    exact settles rfl asked

/-- From a fresh engine on, as long as nobody credits the account of a pool or trades in its name,
every pending transfer is covered by its pool and by the account of the pool, whatever the fees; and
unless a failure of the ledger is armed, everyone who may settle it can do so. -/
theorem released_of_run {engine : Engine} (fresh : engine.IsFresh)
    (numbers : engine.ledger.books.HasNumbers) (timely : engine.TellsTime) {calls : List Call}
    (spared : ∀ key pool, (engine.run calls).pools.get? key = some pool →
      Along (Spares pool.account) engine calls ∧
        ∃ opening : Int, engine.ledger.books.balance pool.account = .int opening ∧ 0 ≤ opening)
    {id : Value} {transfer : Transfer} (key : id.isKey)
    (found : (engine.run calls).transfers.get? id.canonical = some transfer)
    (pending : transfer.isActive) :
    ∃ pool, (engine.run calls).pools.get? transfer.pool.canonical = some pool ∧
      (engine.run calls).Covers transfer pool ∧
      ((engine.run calls).ledger.isArmed = false →
        (engine.run calls).Releases id transfer pool) := by
  obtain ⟨pool, pool_found⟩ := ((fresh.orderly.run calls).transfers _ _ found).pooled
  obtain ⟨spares, opening, opens, positive⟩ := spared _ _ pool_found
  obtain ⟨solid, accounts, reconciled⟩ := fresh.reconciled_run numbers timely opens spares
  have covers := accounts.covers solid.orderly positive reconciled.balance pool_found found pending
  refine ⟨pool, pool_found, covers, ?_⟩
  intro unarmed
  exact solid.releases reconciled.timely unarmed (fresh.hasZones_run calls) key found pending
    pool_found covers

/-- One hour after the opening of the small market. -/
def sampleDeadline : Instant := ⟨⟨2026, 1, 1⟩, 13, 0, 0, 0, some 0⟩

/-- Alice offers a transfer that can be expired from one o'clock on, and it is one o'clock. -/
def sampleOffer : List Call :=
  [.register samplePool,
    .create { sampleRequest "t1" 300 with expiresAt := .moment sampleDeadline },
    .setClock (some sampleDeadline)]

private theorem spares_offer : Along (Spares sampleAccount) sampleEngine sampleOffer := by
  obtain ⟨register, -⟩ := spares_sample
  refine ⟨register, ⟨⟨?_, by simp⟩, by simp, ?_, by simp, ?_⟩,
    ⟨⟨by simp, by simp⟩, by simp, ?_, by simp, by simp⟩, trivial⟩
  · rintro request ⟨⟩
    exact ⟨rfl, rfl⟩
  · exact tellsTime_sample.of_clock (by decide +kernel)
  · rintro request pool ⟨⟩ -
    constructor <;> simp [sampleAccount, sampleRequest, Account.canonical]
  · exact ⟨sampleDeadline, by decide +kernel⟩

/-- The transfer on offer can be accepted, rejected, cancelled and, at one o'clock, expired. -/
theorem released_sample :
    (sampleEngine.run sampleOffer).Settles (.text "t1") (.accept (.text "olga")) .accepted ∧
      (sampleEngine.run sampleOffer).Settles (.text "t1")
        (.reject (.text "olga") (.int 255) .null) .rejected ∧
      (sampleEngine.run sampleOffer).Settles (.text "t1") (.cancel (.text "alice")) .cancelled ∧
      (sampleEngine.run sampleOffer).Settles (.text "t1") (.expire (.text "zoe")) .expired := by
  have accounts : ∀ pool ∈ (sampleEngine.run sampleOffer).pools.values,
      pool.account = sampleAccount ∧ pool.operator = .text "olga" := by
    decide +kernel
  have opens : sampleEngine.ledger.books.balance sampleAccount = .int 0 := by decide +kernel
  have registered : ((sampleEngine.run sampleOffer).transfers.get?
      (Value.text "t1").canonical).any (fun transfer =>
        transfer.isActive && decide (transfer.sender = .text "alice") &&
          decide (transfer.expiresAt = some sampleDeadline)) = true := by
    decide +kernel
  obtain ⟨transfer, found, shape⟩ := (Option.any_eq_true _ _).mp registered
  simp only [Bool.and_eq_true, decide_eq_true_eq] at shape
  obtain ⟨⟨pending, sender⟩, expires⟩ := shape
  have unarmed : (sampleEngine.run sampleOffer).ledger.isArmed = false := by decide +kernel
  have read : (sampleEngine.run sampleOffer).reading = .ok (some sampleDeadline) := by
    decide +kernel
  have spared : ∀ key pool, (sampleEngine.run sampleOffer).pools.get? key = some pool →
      Along (Spares pool.account) sampleEngine sampleOffer ∧
        ∃ opening : Int,
          sampleEngine.ledger.books.balance pool.account = .int opening ∧ 0 ≤ opening := by
    intro key pool known
    rw [(accounts pool (Table.mem_values_iff.mpr ⟨key, known⟩)).1]
    exact ⟨spares_offer, 0, opens, le_rfl⟩
  obtain ⟨pool, pool_found, -, releases⟩ :=
    released_of_run isFresh_sample hasNumbers_sample tellsTime_sample spared
      (Value.isKey_text "t1") found pending
  have operator := (accounts pool (Table.mem_values_iff.mpr ⟨_, pool_found⟩)).2
  obtain ⟨accept, reject, cancel, expire⟩ := releases unarmed
  refine ⟨accept _ ?_, reject _ 255 _ ?_ (by decide) (by decide) .none, cancel _ ?_,
    expire _ sampleDeadline sampleDeadline expires read rfl le_rfl⟩
  · simp [operator]
  · simp [operator]
  · simp [sender]

end Engine
end Escrow
