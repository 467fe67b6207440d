import Escrow.Proofs.Engine.Authority
import Escrow.Proofs.Engine.Release

/-!
# Settlements in any order

Settlements of different transfers do not get in each other's way.  Whatever the order in which they
are asked for, each of them finds its transfer pending and its amount covered, and returns the same
event but for the name that the ledger gives to the move.  What it writes into the counters of a pool,
the records and the balances commutes with what the others write, so that all orders end alike.
-/

namespace Escrow

/-- A call that is made to settle a transfer. -/
structure Ruling where
  id : Value
  call : SettlementCall

/-- The ruling as a call to an engine. -/
def Ruling.toCall (ruling : Ruling) : Call := .settle ruling.id ruling.call

/-- What a ruling comes to: which transfer of which pool is settled, how and when. -/
structure Verdict where
  transfer : Transfer
  pool : Pool
  settlement : Settlement
  time : Instant

namespace Verdict

variable (verdict : Verdict)

def key : Value := verdict.transfer.id.canonical

def fee : Whole := Engine.feeOf verdict.transfer verdict.pool verdict.settlement

/-- The transfer as it is settled. -/
def record : Transfer := verdict.transfer.settledBy verdict.settlement verdict.time

/-- The event of the settlement, with what the ledger calls the move. -/
def event (reference : Value) : Event :=
  .settled verdict.record verdict.pool.id verdict.fee verdict.time reference

/-- What the settlement adds to the balance of an account. -/
def gain (account : Account) : Int :=
  (if account.canonical =
      (⟨Engine.payee verdict.transfer verdict.settlement, verdict.pool.asset⟩ :
        Account).canonical then
    verdict.transfer.amount - verdict.fee.toInt else 0) -
  (if account.canonical = verdict.pool.account.canonical then
    verdict.transfer.amount - verdict.fee.toInt else 0)

end Verdict

/-! ## What settlements write -/

/-- What settlements write to: the tallies of the pools, the records of the transfers and the balances
of the accounts. -/
@[ext]
structure Position where
  tally : Value → Tally
  record : Value → Option Transfer
  balance : Account → Int

/-- The position once a verdict is written into it. -/
def Position.enter (position : Position) (verdict : Verdict) : Position where
  tally key :=
    if key = verdict.transfer.pool.canonical then
      (position.tally key).settle verdict.transfer.amount verdict.fee.toInt
    else position.tally key
  record key := if key = verdict.key then some verdict.record else position.record key
  balance account := position.balance account + verdict.gain account

private theorem Tally.settle_comm (tally : Tally) (amount fee other kept : Int) :
    (tally.settle amount fee).settle other kept = (tally.settle other kept).settle amount fee := by
  simp only [Tally.settle, Int.add_right_comm]

/-- Verdicts on different transfers may be written in either order, also if they share a pool or a
party. -/
theorem Position.enter_comm (position : Position) {verdict other : Verdict}
    (apart : verdict.key ≠ other.key) :
    (position.enter verdict).enter other = (position.enter other).enter verdict := by
  ext1
  · funext place
    simp only [enter]
    split_ifs
    · exact Tally.settle_comm _ _ _ _ _
    all_goals rfl
  · funext place
    by_cases here : place = verdict.key
    · simp [enter, here, apart]
    · simp [enter, here]
  · funext account
    exact Int.add_right_comm _ _ _

/-- Verdicts on different transfers may be written in any order. -/
theorem Position.foldl_enter_of_perm {rulings others : List Ruling} {verdict : Ruling → Verdict}
    (order : others.Perm rulings) (distinct : (others.map fun ruling => (verdict ruling).key).Nodup)
    (position : Position) :
    others.foldl (fun position ruling => position.enter (verdict ruling)) position =
      rulings.foldl (fun position ruling => position.enter (verdict ruling)) position := by
  apply order.foldl_eq'
  intro left leftMember right rightMember position
  by_cases same : (verdict left).key = (verdict right).key
  · rw [List.inj_on_of_nodup_map distinct leftMember rightMember same]
  · exact position.enter_comm same

namespace Engine

variable {origin before after engine : Engine} {call : Call} {news : List News}
  {id : Value} {settling : SettlementCall} {transfer : Transfer} {pool : Pool}
  {settlement : Settlement} {position : Position}

/-! ## Whole balances -/

/-- The call credits whole amounts only. -/
def CreditsWhole (call : Call) : Prop :=
  ∀ account amount, call = .credit account amount → ∃ n : Int, amount = .int n

private theorem hasIntegers_of_told {ledger : Ledger} (told : before.ledger.Told call ledger)
    (whole : CreditsWhole call) (integers : before.ledger.books.HasIntegers) :
    ledger.books.HasIntegers := by
  cases told with
  | arm held message =>
      rw [Ledger.books, held] at integers
      exact integers
  | credit held account amount =>
      obtain ⟨n, rfl⟩ := whole account amount rfl
      rw [Ledger.books, held] at integers
      exact integers.add account n
  | refuseNext =>
      unfold Ledger.refuseNext
      split <;> exact integers
  | script held changes =>
      rw [Ledger.books, held] at integers
      exact integers

/-- Balances stay whole as long as what is credited is whole. -/
theorem Step.hasIntegers (step : Step origin call before news after) (orderly : before.Orderly)
    (whole : CreditsWhole call) (integers : before.ledger.books.HasIntegers) :
    after.ledger.books.HasIntegers := by
  have moved {move : Move} {n : Int} {ledger : Ledger} {answer : Answer Value}
      (amount_eq : move.amount = .int n)
      (move_eq : before.ledger.move move before.now = (ledger, answer)) :
      ledger.books.HasIntegers := by
    have kept := Ledger.hasIntegers_moved orderly.onBooks integers amount_eq before.now
    rwa [move_eq] at kept
  cases step with
  | unpaidDeposit asked drawn admits failed => exact moved rfl failed
  | deposit asked drawn admits paid booking => exact moved rfl paid
  | unpaidSettlement allows failed => exact moved rfl failed
  | settlement allows paid booking timely => exact moved rfl paid
  | told told => exact hasIntegers_of_told told whole integers
  | _ => exact integers

/-! ## Engines that can settle -/

/-- The engine can settle whatever is pending: what its pools hold is in their accounts, no failure is
armed in its ledger, and no listener keeps an archive. -/
structure Ready (engine : Engine) : Prop where
  solid : engine.Solid
  accounts : ∃ news, Accounts news engine
  reconciled : ∀ key pool, engine.pools.get? key = some pool →
    ∃ opening : Int, 0 ≤ opening ∧ engine.Reconciled pool.account opening
  unarmed : engine.ledger.isArmed = false
  unfiled : .archivist ∉ engine.listeners

private theorem Ready.covers (ready : engine.Ready)
    (found : engine.transfers.get? id.canonical = some transfer) (pending : transfer.isActive)
    (pool_found : engine.pools.get? transfer.pool.canonical = some pool) :
    engine.Covers transfer pool := by
  obtain ⟨news, accounts⟩ := ready.accounts
  obtain ⟨opening, positive, reconciled⟩ := ready.reconciled _ _ pool_found
  exact accounts.covers ready.solid.orderly positive reconciled.balance pool_found found pending

/-- Listeners that keep no archive only write down what is settled. -/
theorem foldl_tellSettled_of_unfiled (event : Event) {listeners : List Listener}
    (unfiled : .archivist ∉ listeners) (engine : Engine) :
    ∃ heard, listeners.foldl (tellSettled event) engine = { engine with heard := heard } := by
  induction listeners generalizing engine with
  | nil => exact ⟨engine.heard, rfl⟩
  | cons listener rest ih =>
      rw [List.mem_cons, not_or] at unfiled
      obtain ⟨heard, told⟩ : ∃ heard, tellSettled event engine listener =
          { engine with heard := heard } := by
        cases listener with
        | archivist => exact absurd rfl unfiled.1
        | _ => exact ⟨_, rfl⟩
      rw [List.foldl_cons, told]
      exact ih unfiled.2 _

private theorem perform_settle_of_unfiled {event : Event}
    (settled : engine.settle id settling = (after, .ok event))
    (unfiled : .archivist ∉ after.listeners) :
    ∃ heard, engine.perform (.settle id settling) =
      ({ after with heard := heard }, .ok (.event event)) := by
  obtain ⟨heard, told⟩ := foldl_tellSettled_of_unfiled event unfiled after
  have served : engine.serve id settling = ({ after with heard := heard }, .ok event) := by
    unfold serve
    rw [settled, ← told]
    rfl
  refine ⟨heard, ?_⟩
  unfold perform
  dsimp only
  rw [served]
  rfl

/-- What the engine is ready to settle and is allowed to, it settles. -/
theorem Ready.perform_settle (ready : engine.Ready) (key : id.isKey)
    (allows : engine.Allows id settling transfer pool settlement) :
    ∃ ledger reference booked time heard,
      engine.ledger.move (payoutMove transfer pool settlement) engine.now =
          (ledger, .ok reference) ∧
        pool.bookSettlement transfer.amount (feeOf transfer pool settlement) = .ok booked ∧
        engine.settlingTime = .ok time ∧
        engine.perform (.settle id settling) =
          ({ engine with
              ledger := ledger
              pools := engine.pools.set transfer.pool.canonical booked
              transfers := engine.transfers.set id.canonical
                (transfer.settledBy settlement time)
              heard := heard },
            .ok (.event (.settled (transfer.settledBy settlement time) pool.id
              (feeOf transfer pool settlement) time reference))) := by
  obtain ⟨opening, positive, reconciled⟩ := ready.reconciled _ _ allows.pool_found
  have covers := ready.covers allows.transfer_found allows.pending allows.pool_found
  obtain ⟨ledger, reference, booked, time, paid, booking, timely, settled⟩ :=
    ready.solid.settle_eq reconciled.timely ready.unarmed covers key allows
  obtain ⟨heard, performed⟩ := perform_settle_of_unfiled settled ready.unfiled
  exact ⟨ledger, reference, booked, time, heard, paid, booking, timely, performed⟩

/-- A settlement leaves the account of every pool to the pools. -/
theorem Reconciled.settled {account : Account} {opening : Int}
    (reconciled : engine.Reconciled account opening) (solid : engine.Solid)
    (accounts : Accounts news engine)
    (timely : (engine.perform (.settle id settling)).1.TellsTime) :
    (engine.perform (.settle id settling)).1.Solid ∧
      (∃ news, Accounts news (engine.perform (.settle id settling)).1) ∧
      (engine.perform (.settle id settling)).1.Reconciled account opening := by
  have spares : Along (Spares account) engine [.settle id settling] :=
    ⟨⟨⟨by simp, by simp⟩, by simp, timely, by simp, by simp⟩, trivial⟩
  obtain ⟨solid, accounts, reconciled⟩ := reconciled.run solid accounts spares
  exact ⟨solid, ⟨_, accounts⟩, reconciled⟩

/-- An engine that has settled what it was allowed to can go on settling. -/
theorem Ready.settled (ready : engine.Ready) (key : id.isKey)
    (allows : engine.Allows id settling transfer pool settlement) :
    (engine.perform (.settle id settling)).1.Ready := by
  obtain ⟨ledger, reference, booked, time, heard, paid, booking, -, performed⟩ :=
    ready.perform_settle key allows
  obtain ⟨news, accounts⟩ := ready.accounts
  obtain ⟨opening, -, reconciled⟩ := ready.reconciled _ _ allows.pool_found
  have timely : (engine.perform (.settle id settling)).1.TellsTime := by
    rw [performed]
    exact reconciled.timely
  obtain ⟨solid, laterAccounts, -⟩ := reconciled.settled ready.solid accounts timely
  refine ⟨solid, laterAccounts, ?_, ?_, ?_⟩
  · intro place held found
    have older : ∃ old, engine.pools.get? place = some old ∧ held.account = old.account := by
      rw [performed, Table.get?_set] at found
      split at found
      · rename_i here
        cases found
        exact ⟨pool, here ▸ allows.pool_found, (Pool.continues_of_settlement booking).account_eq⟩
      · exact ⟨held, found, rfl⟩
    obtain ⟨old, known, same⟩ := older
    obtain ⟨opening, positive, reconciled⟩ := ready.reconciled _ _ known
    rw [same]
    exact ⟨opening, positive, (reconciled.settled ready.solid accounts timely).2.2⟩
  · rw [performed]
    exact Ledger.isArmed_of_move_eq_ok ready.solid.orderly.onBooks ready.unarmed paid
  · rw [performed]
    exact ready.unfiled

/-! ## Verdicts of an engine -/

/-- The ruling comes to the verdict, by what the engine has on the transfer and on its pool. -/
structure Decides (engine : Engine) (ruling : Ruling) (verdict : Verdict) : Prop where
  id_key : ruling.id.isKey
  id_eq : ruling.id.canonical = verdict.key
  transfer_found : engine.transfers.get? verdict.key = some verdict.transfer
  pending : verdict.transfer.isActive
  pool_key : verdict.transfer.pool.isKey
  pool_found : engine.pools.get? verdict.transfer.pool.canonical = some verdict.pool
  authorized : authorize verdict.pool verdict.transfer ruling.id ruling.call = .ok ()
  settlement_eq : engine.settlementOf verdict.transfer ruling.id ruling.call =
    .ok verdict.settlement
  timely : engine.settlingTime = .ok verdict.time

/-- From an engine on, settlements have led to another one, which is at the position: it has the pools
and transfers of the first one, with these tallies, records and balances. -/
structure Reaches (origin engine : Engine) (position : Position) : Prop where
  same : engine =
    { origin with
      ledger := engine.ledger
      pools := engine.pools
      transfers := engine.transfers
      heard := engine.heard }
  pool_keys : engine.pools.keys = origin.pools.keys
  transfer_keys : engine.transfers.keys = origin.transfers.keys
  pools : ∀ key, engine.pools.get? key =
    (origin.pools.get? key).map fun pool => pool.withTally (position.tally key)
  transfers : ∀ key, engine.transfers.get? key = position.record key
  balances : ∀ account, engine.ledger.books.balance account = .int (position.balance account)

/-- Engines at the same position have the same pools, transfers and balances. -/
theorem Reaches.unique {left right : Engine} (reaches : origin.Reaches left position)
    (again : origin.Reaches right position) :
    left.pools = right.pools ∧ left.transfers = right.transfers ∧
      ∀ account, left.ledger.books.balance account = right.ledger.books.balance account := by
  refine ⟨Table.eq_of_get? ?_ ?_, Table.eq_of_get? ?_ ?_, ?_⟩
  · rw [reaches.pool_keys, again.pool_keys]
  · intro key
    rw [reaches.pools, again.pools]
  · rw [reaches.transfer_keys, again.transfer_keys]
  · intro key
    rw [reaches.transfers, again.transfers]
  · intro account
    rw [reaches.balances, again.balances]

variable {ruling : Ruling} {verdict : Verdict}

/-- A verdict stands as long as its transfer is not settled, whatever is written for others. -/
theorem Decides.allows (decides : origin.Decides ruling verdict)
    (reaches : origin.Reaches engine position) (ready : engine.Ready)
    (unsettled : position.record verdict.key = some verdict.transfer) :
    engine.Allows ruling.id ruling.call verdict.transfer
      (verdict.pool.withTally (position.tally verdict.transfer.pool.canonical))
      verdict.settlement := by
  have found : engine.transfers.get? ruling.id.canonical = some verdict.transfer := by
    rw [decides.id_eq, reaches.transfers, unsettled]
  have pool_found : engine.pools.get? verdict.transfer.pool.canonical =
      some (verdict.pool.withTally (position.tally verdict.transfer.pool.canonical)) := by
    rw [reaches.pools, decides.pool_found, Option.map_some]
  have covers := ready.covers found decides.pending pool_found
  refine ⟨found, decides.pool_key, pool_found, ?_, decides.pending, ?_, covers.checked _ _⟩
  · have authorized := decides.authorized
    cases asked : ruling.call <;> rw [asked] at authorized <;> exact authorized
  · have settlement_eq := decides.settlement_eq
    rw [reaches.same]
    cases asked : ruling.call <;> rw [asked] at settlement_eq <;> exact settlement_eq

/-- A verdict that is carried out is written into the position, and nothing else is. -/
theorem Reaches.perform (reaches : origin.Reaches engine position) (ready : engine.Ready)
    (decides : origin.Decides ruling verdict)
    (unsettled : position.record verdict.key = some verdict.transfer) :
    (∃ reference, (engine.perform ruling.toCall).2 = .ok (.event (verdict.event reference))) ∧
      origin.Reaches (engine.perform ruling.toCall).1 (position.enter verdict) ∧
      (engine.perform ruling.toCall).1.Ready := by
  have allows := decides.allows reaches ready unsettled
  have ready_next := ready.settled decides.id_key allows
  obtain ⟨ledger, reference, booked, time, heard, paid, booking, timely, performed⟩ :=
    ready.perform_settle decides.id_key allows
  obtain rfl := Pool.eq_withTally_of_settlement allows.checked booking
  obtain rfl : time = verdict.time := by
    rw [reaches.same] at timely
    exact Except.ok.inj (timely.symm.trans decides.timely)
  refine ⟨⟨reference, congrArg Prod.snd performed⟩, ?_, ready_next⟩
  unfold Ruling.toCall
  rw [performed]
  refine ⟨?_, ?_, ?_, ?_, ?_, ?_⟩
  · rw [reaches.same]
  · exact (Table.keys_set_of_get? allows.pool_found _).trans reaches.pool_keys
  · exact (Table.keys_set_of_get? allows.transfer_found _).trans reaches.transfer_keys
  · intro key
    rw [Table.get?_set]
    unfold Position.enter
    dsimp only
    split
    · rename_i here
      rw [here, decides.pool_found]
      rfl
    · exact reaches.pools key
  · intro key
    rw [Table.get?_set, decides.id_eq]
    unfold Position.enter
    dsimp only
    split
    · rfl
    · exact reaches.transfers key
  · intro account
    refine (balance_of_settlement ready.solid.orderly paid (reaches.balances account)).trans ?_
    rw [Value.int.injEq]
    change _ = position.balance account + verdict.gain account
    have raised (held left gained : Int) : held - left + gained = held + (gained - left) := by omega
    exact raised _ _ _

/-- Verdicts that are carried out one after another are written into the position, and nothing else
is. -/
theorem Reaches.run {verdict : Ruling → Verdict} {rulings : List Ruling}
    (reaches : origin.Reaches engine position) (ready : engine.Ready)
    (decides : ∀ ruling ∈ rulings, origin.Decides ruling (verdict ruling))
    (distinct : (rulings.map fun ruling => (verdict ruling).key).Nodup)
    (unsettled : ∀ ruling ∈ rulings,
      position.record (verdict ruling).key = some (verdict ruling).transfer) :
    (∀ before ruling after, rulings = before ++ ruling :: after →
      ∃ reference, ((engine.run (before.map Ruling.toCall)).perform ruling.toCall).2 =
        .ok (.event ((verdict ruling).event reference))) ∧
      origin.Reaches (engine.run (rulings.map Ruling.toCall))
        (rulings.foldl (fun position ruling => position.enter (verdict ruling)) position) := by
  induction rulings generalizing engine position with
  | nil =>
      refine ⟨?_, reaches⟩
      intro before ruling after parts
      simp at parts
  | cons first rest ih =>
      rw [List.forall_mem_cons] at decides unsettled
      rw [List.map_cons, List.nodup_cons] at distinct
      obtain ⟨answer, reaches_next, ready_next⟩ :=
        reaches.perform ready decides.1 unsettled.1
      have unsettled_next : ∀ ruling ∈ rest,
          (position.enter (verdict first)).record (verdict ruling).key =
            some (verdict ruling).transfer := by
        intro ruling member
        have other : (verdict ruling).key ≠ (verdict first).key := by
          intro same
          exact distinct.1 (List.mem_map.mpr ⟨ruling, member, same⟩)
        rw [Position.enter]
        exact (if_neg other).trans (unsettled.2 ruling member)
      obtain ⟨answers, reached⟩ :=
        ih reaches_next ready_next decides.2 distinct.2 unsettled_next
      refine ⟨?_, reached⟩
      intro before ruling after parts
      cases before with
      | nil =>
          obtain ⟨rfl, -⟩ := List.cons.inj parts
          exact answer
      | cons other before =>
          obtain ⟨same, tail⟩ := List.cons.inj parts
          subst same
          exact answers before ruling after tail

/-! ## Any order -/

/-- The call may settle its transfer: it is made for a pending one by someone who may make it, and a
rejection gives a reason code of one byte and a message that is not too long. -/
structure MaySettle (engine : Engine) (ruling : Ruling) : Prop where
  id_key : ruling.id.isKey
  rightful : (⟨engine, ruling.id, ruling.call⟩ : Attempt).IsRightful
  reason : ∀ caller code message, ruling.call = .reject caller code message →
    (∃ n : Int, code = .int n ∧ 0 ≤ n ∧ n ≤ 255) ∧ engine.TakesMessage message

theorem checkDue_of_isDue {shown : Option Instant} (read : engine.reading = .ok shown)
    (due : engine.isDue transfer) (id : Value) : checkDue transfer id shown = .ok () := by
  unfold isDue at due
  rw [read] at due
  cases shown with
  | none => simp at due
  | some time =>
      cases expires : transfer.expiresAt with
      | none => simp [expires] at due
      | some deadline =>
          have passed : deadline.atOrBefore? time = some true := by simpa [expires] using due
          simp [checkDue, Transfer.isExpired, deadlinePassed, expires, passed]

/-- Who may make a call, with a reason that fits, is authorized, and the call asks for a settlement. -/
theorem MaySettle.settlementOf (may : engine.MaySettle ruling)
    (permitted : engine.permits transfer pool ruling.call) {shown : Option Instant}
    (read : engine.reading = .ok shown) :
    authorize pool transfer ruling.id ruling.call = .ok () ∧
      ∃ settlement, engine.settlementOf transfer ruling.id ruling.call = .ok settlement := by
  cases asked : ruling.call with
  | accept caller =>
      rw [asked] at permitted
      exact ⟨if_pos permitted, .accept, rfl⟩
  | reject caller code message =>
      rw [asked] at permitted
      obtain ⟨⟨n, rfl, least, most⟩, takes⟩ := may.reason caller code message asked
      obtain ⟨kept, taken⟩ := checkMessage_of_takesMessage takes ruling.id
      have coded : checkReasonCode ruling.id (.int n) = .ok n := if_pos ⟨least, most⟩
      refine ⟨if_pos permitted, .reject (.int n) ((kept.map Value.text).getD .null), ?_⟩
      simp [Engine.settlementOf, taken, coded, bind, Except.bind, pure, Except.pure]
  | expire caller =>
      rw [asked] at permitted
      have due := checkDue_of_isDue read permitted ruling.id
      refine ⟨rfl, .expire (.int expiredCode), ?_⟩
      simp [Engine.settlementOf, read, due, Except.mapError, bind, Except.bind, pure, Except.pure]
  | cancel caller =>
      rw [asked] at permitted
      exact ⟨if_pos permitted, .cancel, rfl⟩

/-- A call that may settle its transfer comes to a verdict. -/
theorem MaySettle.decides (may : engine.MaySettle ruling) (orderly : engine.Orderly)
    (timely : engine.TellsTime) : ∃ verdict, engine.Decides ruling verdict := by
  obtain ⟨transfer, pool, found, pool_found, pending, permitted⟩ := may.rightful
  obtain ⟨now, timely⟩ := timely
  obtain ⟨shown, time, read, -, settling⟩ := settlingTime_of_now timely
  obtain ⟨authorized, settlement, settlement_eq⟩ := may.settlementOf permitted read
  have id_eq := (orderly.transfers _ _ found).id_eq
  have pool_key := orderly.tidy.isKey_pool pool_found
  have keyed : engine.transfers.get? transfer.id.canonical = some transfer := by
    rw [id_eq]
    exact found
  exact ⟨⟨transfer, pool, settlement, time⟩, may.id_key, id_eq.symm, keyed, pending, pool_key,
    pool_found, authorized, settlement_eq, settling⟩

/-- The position of an engine on whole balances. -/
def ownPosition (engine : Engine) : Position where
  tally key := (engine.pools.get? key).elim {} Pool.tally
  record := engine.transfers.get?
  balance account := (engine.ledger.books.balance account).toInt?.getD 0

/-- An engine with counted pools and whole balances is at its own position. -/
theorem Accounts.reaches (accounts : Accounts news engine)
    (integers : engine.ledger.books.HasIntegers) : engine.Reaches engine engine.ownPosition := by
  refine ⟨rfl, rfl, rfl, ?_, fun _ => rfl, ?_⟩
  · intro key
    simp only [ownPosition]
    cases found : engine.pools.get? key with
    | none => rfl
    | some pool =>
        obtain ⟨tally, counts, -⟩ := accounts.pools key pool found
        rw [Option.map_some, Option.elim_some, counts.tally_eq, counts.withTally_eq]
  · intro account
    obtain ⟨held, whole⟩ := integers account
    simp only [ownPosition, whole]
    rfl

/-- Calls that may settle different transfers do so in any order, and all orders end alike. -/
theorem Ready.any_order (ready : engine.Ready) (integers : engine.ledger.books.HasIntegers)
    {verdict : Ruling → Verdict} {rulings others : List Ruling}
    (decides : ∀ ruling ∈ rulings, engine.Decides ruling (verdict ruling))
    (distinct : (rulings.map (·.id.canonical)).Nodup) (order : others.Perm rulings) :
    (∀ before ruling after, others = before ++ ruling :: after →
      ∃ event reference,
        (engine.perform ruling.toCall).2 = .ok (.event event) ∧
        ((engine.run (before.map Ruling.toCall)).perform ruling.toCall).2 =
          .ok (.event { event with reference := reference })) ∧
      (engine.run (others.map Ruling.toCall)).pools =
        (engine.run (rulings.map Ruling.toCall)).pools ∧
      (engine.run (others.map Ruling.toCall)).transfers =
        (engine.run (rulings.map Ruling.toCall)).transfers ∧
      ∀ account,
        (engine.run (others.map Ruling.toCall)).ledger.books.balance account =
          (engine.run (rulings.map Ruling.toCall)).ledger.books.balance account := by
  obtain ⟨news, accounts⟩ := ready.accounts
  have start := accounts.reaches integers
  have others_decide : ∀ ruling ∈ others, engine.Decides ruling (verdict ruling) :=
    fun ruling member => decides ruling (order.mem_iff.mp member)
  have unsettled : ∀ ruling ∈ rulings, engine.ownPosition.record (verdict ruling).key =
      some (verdict ruling).transfer :=
    fun ruling member => (decides ruling member).transfer_found
  have others_unsettled : ∀ ruling ∈ others, engine.ownPosition.record (verdict ruling).key =
      some (verdict ruling).transfer :=
    fun ruling member => (others_decide ruling member).transfer_found
  have keyed : (rulings.map fun ruling => (verdict ruling).key).Nodup := by
    have keys : (rulings.map fun ruling => (verdict ruling).key) =
        rulings.map (·.id.canonical) :=
      List.map_congr_left fun ruling member => (decides ruling member).id_eq.symm
    rwa [keys]
  have others_keyed : (others.map fun ruling => (verdict ruling).key).Nodup :=
    (order.map _).nodup_iff.mpr keyed
  obtain ⟨-, reached⟩ := start.run ready decides keyed unsettled
  obtain ⟨answers, others_reached⟩ :=
    start.run ready others_decide others_keyed others_unsettled
  rw [Position.foldl_enter_of_perm order others_keyed] at others_reached
  refine ⟨?_, others_reached.unique reached⟩
  intro before ruling after parts
  have member : ruling ∈ others := by simp [parts]
  obtain ⟨reference, answer⟩ := answers before ruling after parts
  obtain ⟨⟨first, alone⟩, -⟩ :=
    start.perform ready (others_decide ruling member) (others_unsettled ruling member)
  exact ⟨(verdict ruling).event first, reference, alone, answer⟩

/-- As long as the accounts of the pools are left to them, an engine with a pool stays ready to settle,
unless a failure is armed or a listener keeps an archive. -/
theorem IsFresh.ready_run {engine : Engine} (fresh : engine.IsFresh)
    (numbers : engine.ledger.books.HasNumbers) (timely : engine.TellsTime) {calls : List Call}
    (spared : ∀ key pool, (engine.run calls).pools.get? key = some pool →
      Along (Spares pool.account) engine calls ∧
        ∃ opening : Int, engine.ledger.books.balance pool.account = .int opening ∧ 0 ≤ opening)
    (unarmed : (engine.run calls).ledger.isArmed = false)
    (unfiled : .archivist ∉ (engine.run calls).listeners) {key : Value}
    (registered : (engine.run calls).pools.get? key = some pool) :
    (engine.run calls).Ready ∧ (engine.run calls).TellsTime := by
  have reconciled {key : Value} {pool : Pool}
      (registered : (engine.run calls).pools.get? key = some pool) :
      ∃ opening : Int, 0 ≤ opening ∧ (engine.run calls).Solid ∧
        Accounts (engine.newsOf calls) (engine.run calls) ∧
        (engine.run calls).Reconciled pool.account opening := by
    obtain ⟨spares, opening, opens, positive⟩ := spared key pool registered
    exact ⟨opening, positive, fresh.reconciled_run numbers timely opens spares⟩
  obtain ⟨opening, -, solid, accounts, own⟩ := reconciled registered
  refine ⟨⟨solid, ⟨_, accounts⟩, ?_, unarmed, unfiled⟩, own.timely⟩
  intro key pool found
  obtain ⟨opening, positive, -, -, held⟩ := reconciled found
  exact ⟨opening, positive, held⟩

theorem Orderly.hasIntegers_run {engine : Engine} (orderly : engine.Orderly) {calls : List Call}
    (whole : ∀ call ∈ calls, CreditsWhole call) (integers : engine.ledger.books.HasIntegers) :
    (engine.run calls).ledger.books.HasIntegers := by
  have along : Along (fun _ => CreditsWhole) engine calls := along_of_forall whole engine
  exact @run_keeps (fun _ => CreditsWhole) (fun engine => engine.ledger.books.HasIntegers)
    (fun origin call whole before news after step orderly integers =>
      step.hasIntegers orderly whole integers)
    engine orderly calls along integers

/-- From a fresh engine on, as long as the accounts of the pools are left to them, what is credited is
whole, and nothing is armed or archived, transfers are settled in any order.  In every order each call
returns the event that it would return if it came first, but for the reference of the move, and all
orders leave the same pools, transfers and balances. -/
theorem settled_in_any_order_of_run {engine : Engine} (fresh : engine.IsFresh)
    (integers : engine.ledger.books.HasIntegers) (timely : engine.TellsTime) {calls : List Call}
    (whole : ∀ call ∈ calls, CreditsWhole call)
    (spared : ∀ key pool, (engine.run calls).pools.get? key = some pool →
      Along (Spares pool.account) engine calls ∧
        ∃ opening : Int, engine.ledger.books.balance pool.account = .int opening ∧ 0 ≤ opening)
    (unarmed : (engine.run calls).ledger.isArmed = false)
    (unfiled : .archivist ∉ (engine.run calls).listeners) {rulings others : List Ruling}
    (may : ∀ ruling ∈ rulings, (engine.run calls).MaySettle ruling)
    (distinct : (rulings.map (·.id.canonical)).Nodup) (order : others.Perm rulings) :
    (∀ before ruling after, others = before ++ ruling :: after →
      ∃ event reference,
        ((engine.run calls).perform ruling.toCall).2 = .ok (.event event) ∧
        (((engine.run calls).run (before.map Ruling.toCall)).perform ruling.toCall).2 =
          .ok (.event { event with reference := reference })) ∧
      ((engine.run calls).run (others.map Ruling.toCall)).pools =
        ((engine.run calls).run (rulings.map Ruling.toCall)).pools ∧
      ((engine.run calls).run (others.map Ruling.toCall)).transfers =
        ((engine.run calls).run (rulings.map Ruling.toCall)).transfers ∧
      ∀ account,
        ((engine.run calls).run (others.map Ruling.toCall)).ledger.books.balance account =
          ((engine.run calls).run (rulings.map Ruling.toCall)).ledger.books.balance account := by
  rcases rulings with _ | ⟨first, rest⟩
  · simp [order.eq_nil]
  · have member : first ∈ first :: rest := List.mem_cons_self
    obtain ⟨transfer, pool, -, registered, -⟩ := (may first member).rightful
    obtain ⟨ready, shows⟩ :=
      fresh.ready_run integers.hasNumbers timely spared unarmed unfiled registered
    have orderly := ready.solid.orderly
    have verdicts : ∀ ruling : Ruling, ∃ verdict, ruling ∈ first :: rest →
        (engine.run calls).Decides ruling verdict := by
      intro ruling
      by_cases asked : ruling ∈ first :: rest
      · obtain ⟨verdict, decides⟩ := (may ruling asked).decides orderly shows
        exact ⟨verdict, fun _ => decides⟩
      · obtain ⟨verdict, -⟩ := (may first member).decides orderly shows
        exact ⟨verdict, fun member => absurd member asked⟩
    choose verdict decides using verdicts
    exact ready.any_order (fresh.orderly.hasIntegers_run whole integers) decides distinct order

/-- Alice offers two transfers in the small market. -/
def sampleOffers : List Call :=
  [.register samplePool, .create (sampleRequest "t1" 300), .create (sampleRequest "t2" 200)]

/-- Olga accepts the first offer, and Alice cancels the second one. -/
def sampleRulings : List Ruling :=
  [⟨.text "t1", .accept (.text "olga")⟩, ⟨.text "t2", .cancel (.text "alice")⟩]

private theorem spares_offers : Along (Spares sampleAccount) sampleEngine sampleOffers := by
  obtain ⟨register, create, -⟩ := spares_sample
  refine ⟨register, create, ⟨namesKeys_create_sample _ _, by simp, ?_, by simp, ?_⟩, trivial⟩
  · exact tellsTime_sample.of_clock (by decide +kernel)
  · rintro request pool ⟨⟩ -
    constructor <;> simp [sampleAccount, sampleRequest, Account.canonical]

private theorem maySettle_sample :
    ∀ ruling ∈ sampleRulings, (sampleEngine.run sampleOffers).MaySettle ruling := by
  have rightful : ∀ ruling ∈ sampleRulings,
      (((sampleEngine.run sampleOffers).transfers.get? ruling.id.canonical).any fun transfer =>
        transfer.isActive &&
          ((sampleEngine.run sampleOffers).pools.get? transfer.pool.canonical).any fun pool =>
            (sampleEngine.run sampleOffers).permits transfer pool ruling.call) = true := by
    decide +kernel
  intro ruling member
  obtain ⟨transfer, found, rest⟩ := (Option.any_eq_true _ _).mp (rightful ruling member)
  rw [Bool.and_eq_true] at rest
  obtain ⟨pool, pool_found, permitted⟩ := (Option.any_eq_true _ _).mp rest.2
  simp only [sampleRulings, List.mem_cons, List.not_mem_nil, or_false] at member
  refine ⟨?_, ⟨transfer, pool, found, pool_found, rest.1, permitted⟩, ?_⟩
  · rcases member with rfl | rfl <;> exact Value.isKey_text _
  · intro caller code message asked
    rcases member with rfl | rfl <;> cases asked

theorem hasIntegers_sample : sampleEngine.ledger.books.HasIntegers :=
  Books.hasIntegers_ofBalances (by simp)

/-- Whether Olga accepts or Alice cancels first, the pool, the records and Bob's 297 dollars are the
same. -/
theorem settled_in_any_order_sample :
    ((sampleEngine.run sampleOffers).run (sampleRulings.reverse.map Ruling.toCall)).pools =
        ((sampleEngine.run sampleOffers).run (sampleRulings.map Ruling.toCall)).pools ∧
      ((sampleEngine.run sampleOffers).run (sampleRulings.reverse.map Ruling.toCall)).transfers =
        ((sampleEngine.run sampleOffers).run (sampleRulings.map Ruling.toCall)).transfers ∧
      ((sampleEngine.run sampleOffers).run
          (sampleRulings.reverse.map Ruling.toCall)).ledger.books.balance
        ⟨.text "bob", .text "USD"⟩ = .int 297 := by
  have whole : ∀ call ∈ sampleOffers, CreditsWhole call := by
    simp [sampleOffers, CreditsWhole]
  have accounts : ∀ pool ∈ (sampleEngine.run sampleOffers).pools.values,
      pool.account = sampleAccount := by
    decide +kernel
  have opens : sampleEngine.ledger.books.balance sampleAccount = .int 0 := by decide +kernel
  have spared : ∀ key pool, (sampleEngine.run sampleOffers).pools.get? key = some pool →
      Along (Spares pool.account) sampleEngine sampleOffers ∧
        ∃ opening : Int,
          sampleEngine.ledger.books.balance pool.account = .int opening ∧ 0 ≤ opening := by
    intro key pool known
    rw [accounts pool (Table.mem_values_iff.mpr ⟨key, known⟩)]
    exact ⟨spares_offers, 0, opens, le_rfl⟩
  obtain ⟨-, pools, transfers, balances⟩ :=
    settled_in_any_order_of_run isFresh_sample hasIntegers_sample tellsTime_sample whole spared
      (by decide +kernel) (by decide +kernel) maySettle_sample (by decide) sampleRulings.reverse_perm
  refine ⟨pools, transfers, ?_⟩
  rw [balances]
  decide +kernel

end Engine
end Escrow
