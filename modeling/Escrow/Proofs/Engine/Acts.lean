import Escrow.Engine.Create
import Escrow.Engine.Settle
import Escrow.Proofs.Ledger
import Escrow.Proofs.Pool

/-!
# Deposits and settlements, taken apart

A creation and a settlement each end in one of three ways: the request is refused before any funds
move, the ledger does not pay, or everything is booked.  Nothing after the move can fail, because the
checks before it are those of the booking, and books read the time before they pay; over any other
ledger the engine has to know it.
-/

namespace Escrow

theorem Progress.isActive_of_isTerminal {progress : Progress}
    (terminal : progress.status.isTerminal) : progress.isActive = false := by
  unfold isActive
  cases status : progress.status with
  | pending =>
      rw [status] at terminal
      cases terminal
  | settled outcome => rfl

/-- The transfer marked as archived. -/
def Transfer.asArchived (transfer : Transfer) : Transfer :=
  { transfer with archived := .bool true }

/-- The transfer with a settlement and its time written into it. -/
def Transfer.settledBy (transfer : Transfer) (settlement : Settlement) (time : Instant) :
    Transfer :=
  { transfer with toProgress := (transfer.toProgress.withSettlement settlement (.ok time)).1 }

namespace Transfer

variable (transfer : Transfer) (settlement : Settlement) (time : Instant)

@[simp]
theorem status_settledBy :
    (transfer.settledBy settlement time).status = .settled settlement.outcome := by
  cases settlement <;> rfl

theorem isTerminal_settledBy : (transfer.settledBy settlement time).status.isTerminal = true := by
  rw [status_settledBy]
  rfl

@[simp]
theorem isActive_settledBy : (transfer.settledBy settlement time).isActive = false := by
  simp [Progress.isActive]

end Transfer

/-- The transfer is what the request asks for. -/
structure CreateRequest.AsksFor (request : CreateRequest) (transfer : Transfer) : Prop where
  id_eq : request.id.isTruthy → transfer.id = request.id
  pool_eq : transfer.pool = request.pool
  sender_eq : transfer.sender = request.sender
  recipient_eq : transfer.recipient = request.recipient
  amount_eq : request.amount = .int transfer.amount
  amount : IsAmount transfer.amount
  untouched : transfer.toProgress = {}

theorem CreateRequest.AsksFor.isActive {request : CreateRequest} {transfer : Transfer}
    (asks : request.AsksFor transfer) : transfer.isActive := by
  rw [asks.untouched]
  rfl

namespace Engine

variable {engine : Engine} {id : Value} {request : CreateRequest}

/-! ## Lookups -/

theorem pool_eq_ok_iff {pool : Pool} :
    engine.pool id = .ok pool ↔ id.isKey ∧ engine.pools.get? id.canonical = some pool := by
  unfold Engine.pool find?
  by_cases key : id.isKey
  · cases engine.pools.get? id.canonical <;>
      simp [key, Except.mapError, bind, Except.bind, pure, Except.pure, throw, throwThe,
        MonadExceptOf.throw]
  · simp [key, Except.mapError, bind, Except.bind]

theorem transfer_eq_ok_iff {transfer : Transfer} :
    engine.transfer id = .ok transfer ↔
      id.isKey ∧ engine.transfers.get? id.canonical = some transfer := by
  unfold Engine.transfer find?
  by_cases key : id.isKey
  · cases engine.transfers.get? id.canonical with
    | none =>
        cases engine.pruned.contains id.canonical <;>
          simp [key, Except.mapError, bind, Except.bind, throw, throwThe, MonadExceptOf.throw]
    | some held =>
        simp [key, Except.mapError, bind, Except.bind, pure, Except.pure]
  · simp [key, Except.mapError, bind, Except.bind]

theorem isTaken_eq_false_iff :
    engine.isTaken id = false ↔
      engine.transfers.get? id.canonical = none ∧ engine.pruned.get? id.canonical = none := by
  simp [isTaken, Table.contains]

/-- A transfer that is properly registered under a key: the key is that of its id, it holds an amount
in a registered pool, it is not pruned, and it is archived only after it is settled. -/
structure Registers (engine : Engine) (key : Value) (transfer : Transfer) : Prop where
  id_key : transfer.id.isKey
  id_eq : transfer.id.canonical = key
  amount : IsAmount transfer.amount
  pooled : ∃ pool, engine.pools.get? transfer.pool.canonical = some pool
  unpruned : engine.pruned.get? key = none
  archived : transfer.isArchived → transfer.status.isTerminal

/-- An engine with every pool and every transfer in its place. -/
structure Tidy (engine : Engine) : Prop where
  pools : ∀ key pool, engine.pools.get? key = some pool →
    pool.id.isKey ∧ pool.id.canonical = key
  transfers : ∀ key transfer, engine.transfers.get? key = some transfer →
    engine.Registers key transfer

/-- The id of a registered pool can be a key in the form in which a transfer names it, too. -/
theorem Tidy.isKey_pool {named : Value} {pool : Pool} (tidy : engine.Tidy)
    (found : engine.pools.get? named.canonical = some pool) : named.isKey := by
  obtain ⟨usable, same⟩ := tidy.pools _ _ found
  rw [← Value.isKey_canonical, ← same, Value.isKey_canonical]
  exact usable

/-- An engine on books, with every pool and every transfer in its place. -/
structure Orderly (engine : Engine) : Prop where
  onBooks : engine.ledger.OnBooks
  pools : ∀ key pool, engine.pools.get? key = some pool →
    pool.id.isKey ∧ pool.id.canonical = key
  transfers : ∀ key transfer, engine.transfers.get? key = some transfer →
    engine.Registers key transfer

theorem Orderly.tidy (orderly : engine.Orderly) : engine.Tidy :=
  ⟨orderly.pools, orderly.transfers⟩

/-! ## What the checks let pass -/

private theorem checkAmount_eq_ok {amount : Value} {n : Int}
    (checked : checkAmount amount = .ok n) :
    amount = .int n ∧ IsAmount n := by
  unfold checkAmount at checked
  split at checked
  · split at checked
    · cases checked
      exact ⟨rfl, by assumption⟩
    · cases checked
  · cases checked

/-- A memo or a message that is kept can be encoded, and is not longer than the limit. -/
theorem checkMessage_eq_ok {message id : Value} {text : String}
    (checked : engine.checkMessage message id = .ok (some text)) :
    Text.hasHalf text = false ∧
      engine.memoLimit.less? (.int text.utf8ByteSize) = some false := by
  unfold checkMessage at checked
  split at checked
  · cases checked
  · split at checked
    · cases checked
    · rename_i clear
      split at checked <;> cases checked
      rename_i short
      exact ⟨eq_false_of_ne_true clear, short⟩
  · cases checked

theorem bounds_of_checkReasonCode {code id : Value} {n : Int}
    (checked : checkReasonCode id code = .ok n) : 0 ≤ n ∧ n ≤ 255 := by
  unfold checkReasonCode at checked
  split at checked
  · split at checked
    · rename_i bounds
      obtain rfl := Except.ok.inj checked
      exact bounds
    · cases checked
  · cases checked

/-! ## Deposits -/

private theorem draft_eq_ok {transfer : Transfer}
    (drafted : engine.draft request id = .ok transfer) :
    transfer.id = id ∧ transfer.pool = request.pool ∧ transfer.sender = request.sender ∧
      transfer.recipient = request.recipient ∧ request.amount = .int transfer.amount ∧
      IsAmount transfer.amount ∧ transfer.toProgress = {} := by
  simp only [draft, bind_eq_ok_iff, pure_eq_ok_iff] at drafted
  obtain ⟨pool, -, amount, checked, memo, -, now, -, deadline, -, rfl⟩ := drafted
  obtain ⟨amount_eq, bounded⟩ := checkAmount_eq_ok checked
  exact ⟨rfl, rfl, rfl, rfl, amount_eq, bounded, rfl⟩

/-- Drafting draws an id at most, and drafts what the request asks for under an id that is asked for
or drawn. -/
theorem drafted_eq (engine : Engine) (request : CreateRequest) :
    ∃ drawn, (engine.drafted request).1 = { engine with drawn := drawn } ∧
      ∀ transfer, (engine.drafted request).2 = .ok transfer →
        request.AsksFor transfer ∧ engine.draft request transfer.id = .ok transfer ∧
          (request.id.isTruthy ∨ ∃ n, transfer.id = .text (drawnId n)) := by
  unfold drafted
  split
  · rename_i chosen
    refine ⟨engine.drawn, rfl, ?_⟩
    intro transfer drafted
    obtain ⟨id_eq, pool_eq, sender_eq, recipient_eq, amount_eq, amount, untouched⟩ :=
      draft_eq_ok drafted
    refine ⟨⟨fun _ => id_eq, pool_eq, sender_eq, recipient_eq, amount_eq, amount, untouched⟩, ?_,
      .inl chosen⟩
    rwa [id_eq]
  · rename_i unchosen
    split
    · rename_i drafted
      refine ⟨engine.drawn + 1, rfl, ?_⟩
      rintro transfer ⟨⟩
      obtain ⟨id_eq, pool_eq, sender_eq, recipient_eq, amount_eq, amount, untouched⟩ :=
        draft_eq_ok drafted
      refine ⟨⟨fun chosen => absurd chosen unchosen, pool_eq, sender_eq, recipient_eq, amount_eq,
        amount, untouched⟩, ?_, .inr ⟨_, id_eq⟩⟩
      rwa [id_eq]
    · refine ⟨engine.drawn, rfl, ?_⟩
      rintro transfer ⟨⟩

/-- The move of a deposit. -/
def depositMove (transfer : Transfer) (pool : Pool) : Move :=
  ⟨transfer.sender, pool.custody, .int transfer.amount, pool.asset⟩

/-- The engine takes the transfer for the request into the pool. -/
structure Admits (engine : Engine) (request : CreateRequest) (transfer : Transfer) (pool : Pool) :
    Prop where
  asked : request.AsksFor transfer
  drafted : engine.draft request transfer.id = .ok transfer
  named : request.id.isTruthy ∨ ∃ n, transfer.id = .text (drawnId n)
  pool_found : engine.pools.get? transfer.pool.canonical = some pool
  id_key : transfer.id.isKey
  unused : engine.transfers.get? transfer.id.canonical = none
  unpruned : engine.pruned.get? transfer.id.canonical = none
  checked : pool.checkDeposit (.int transfer.amount) = .ok ()

/-- A deposit that is prepared is one of a new transfer into a pool that takes it. -/
theorem prepareDeposit_eq_ok {transfer : Transfer} {move : Move}
    (prepared : engine.prepareDeposit transfer = .ok move) :
    transfer.pool.isKey ∧ transfer.id.isKey ∧
      engine.transfers.get? transfer.id.canonical = none ∧
      engine.pruned.get? transfer.id.canonical = none ∧
      ∃ pool, engine.pools.get? transfer.pool.canonical = some pool ∧
        pool.checkDeposit (.int transfer.amount) = .ok () ∧ move = depositMove transfer pool := by
  unfold prepareDeposit at prepared
  obtain ⟨pool, pool_found, prepared⟩ := bind_eq_ok_iff.mp prepared
  obtain ⟨pool_key, pool_found⟩ := pool_eq_ok_iff.mp pool_found
  dsimp only at prepared
  split at prepared
  · exact absurd prepared (throw_bind_ne_ok _ _ _)
  · rename_i id_key
    split at prepared
    · exact absurd prepared (throw_bind_ne_ok _ _ _)
    · rename_i untaken
      obtain ⟨unused, unpruned⟩ := isTaken_eq_false_iff.mp (by simpa using untaken)
      obtain ⟨_, checked, move_eq⟩ := bind_eq_ok_iff.mp prepared
      exact ⟨pool_key, by simpa using id_key, unused, unpruned, pool, pool_found, checked,
        (pure_eq_ok_iff.mp move_eq).symm⟩

private theorem admits_of_prepared {transfer : Transfer} {move : Move} {drawn : Nat}
    (asked : request.AsksFor transfer) (drafted : engine.draft request transfer.id = .ok transfer)
    (named : request.id.isTruthy ∨ ∃ n, transfer.id = .text (drawnId n))
    (prepared : ({ engine with drawn := drawn } : Engine).prepareDeposit transfer = .ok move) :
    transfer.pool.isKey ∧ ∃ pool, engine.Admits request transfer pool ∧
      move = depositMove transfer pool := by
  obtain ⟨pool_key, id_key, unused, unpruned, pool, pool_found, checked, move_eq⟩ :=
    prepareDeposit_eq_ok prepared
  exact ⟨pool_key, pool,
    ⟨asked, drafted, named, pool_found, id_key, unused, unpruned, checked⟩, move_eq⟩

/-- How a creation may end. -/
inductive Deposited (engine : Engine) (request : CreateRequest) :
    Engine × Answer (Transfer × Event) → Prop where
  /-- The request is refused; an id may have been drawn for it. -/
  | refused (drawn : Nat) (problem : Problem) :
      Deposited engine request ({ engine with drawn := drawn }, .error problem)
  /-- The ledger does not move the deposit. -/
  | unpaid {transfer : Transfer} {pool : Pool} {ledger : Ledger} (drawn : Nat) (problem : Problem)
      (admits : engine.Admits request transfer pool)
      (failed : engine.ledger.move (depositMove transfer pool) engine.now =
        (ledger, .error problem)) :
      Deposited engine request
        ({ engine with
            drawn := drawn
            ledger := ledger }, .error problem)
  /-- The deposit is moved and booked. -/
  | done {transfer : Transfer} {pool booked : Pool} {ledger : Ledger} {reference : Value}
      (drawn : Nat) (admits : engine.Admits request transfer pool)
      (moved : engine.ledger.move (depositMove transfer pool) engine.now =
        (ledger, .ok reference))
      (booking : pool.bookDeposit transfer.amount = .ok booked) :
      Deposited engine request
        ({ engine with
            drawn := drawn
            ledger := ledger
            pools := engine.pools.set transfer.pool.canonical booked
            transfers := engine.transfers.set transfer.id.canonical transfer },
          .ok (transfer, .created transfer reference))

theorem bookDeposit_eq {transfer : Transfer} {pool booked : Pool} (drawn : Nat) (ledger : Ledger)
    (key : transfer.pool.isKey) (found : engine.pools.get? transfer.pool.canonical = some pool)
    (booking : pool.bookDeposit transfer.amount = .ok booked) :
    ({ engine with drawn := drawn, ledger := ledger } : Engine).bookDeposit transfer =
      .ok { engine with
        drawn := drawn
        ledger := ledger
        pools := engine.pools.set transfer.pool.canonical booked
        transfers := engine.transfers.set transfer.id.canonical transfer } := by
  have poolOf : ({ engine with drawn := drawn, ledger := ledger } : Engine).pool transfer.pool =
      .ok pool := pool_eq_ok_iff.mpr ⟨key, found⟩
  unfold bookDeposit
  rw [poolOf]
  simp [booking, bind, Except.bind, pure, Except.pure]

theorem deposited (engine : Engine) (request : CreateRequest) :
    Deposited engine request (engine.deposit request) := by
  obtain ⟨drawn, drawn_eq, asks⟩ := drafted_eq engine request
  unfold deposit
  split
  · rename_i drafted
    rw [drafted] at drawn_eq
    subst drawn_eq
    exact .refused drawn _
  · rename_i transfer drafted
    rw [drafted] at drawn_eq asks
    subst drawn_eq
    split
    · exact .refused drawn _
    · rename_i move prepared
      obtain ⟨asked, drafted, named⟩ := asks transfer rfl
      obtain ⟨key, pool, admits, rfl⟩ := admits_of_prepared asked drafted named prepared
      obtain ⟨deposits, created, -, -, booking⟩ := Pool.bookDeposit_of_check admits.checked
      have same_now : ({ engine with drawn := drawn } : Engine).now = engine.now := rfl
      dsimp only
      rw [same_now]
      rcases moved : engine.ledger.move (depositMove transfer pool) engine.now with
        ⟨ledger, problem | reference⟩
      · exact .unpaid drawn problem admits moved
      · dsimp only
        rw [bookDeposit_eq drawn ledger key admits.pool_found booking]
        exact .done drawn admits moved booking

/-! ## Settlements -/

/-- The fee that the pool takes from the transfer for a settlement. -/
def feeOf (transfer : Transfer) (pool : Pool) (settlement : Settlement) : Whole :=
  pool.schedule.fee settlement.outcome (.number transfer.amount)

/-- The move of a settlement. -/
def payoutMove (transfer : Transfer) (pool : Pool) (settlement : Settlement) : Move :=
  ⟨pool.custody, payee transfer settlement,
    .int (transfer.amount - (feeOf transfer pool settlement).toInt), pool.asset⟩

/-- The engine allows the call to settle the transfer of the pool this way. -/
structure Allows (engine : Engine) (id : Value) (call : SettlementCall) (transfer : Transfer)
    (pool : Pool) (settlement : Settlement) : Prop where
  transfer_found : engine.transfers.get? id.canonical = some transfer
  pool_key : transfer.pool.isKey
  pool_found : engine.pools.get? transfer.pool.canonical = some pool
  authorized : authorize pool transfer id call = .ok ()
  pending : transfer.isActive
  settlement_eq : engine.settlementOf transfer id call = .ok settlement
  checked : pool.checkSettlement (.int transfer.amount)
    (feeOf transfer pool settlement).toValue = .ok ()

variable {call : SettlementCall}

private theorem validateActive_eq_ok_iff {progress : Progress} {transfer : Value} :
    progress.validateActive transfer = .ok () ↔ progress.isActive := by
  unfold Progress.validateActive
  split <;> simp_all

/-- A settlement that is prepared is one of a pending transfer from a pool that takes it. -/
theorem prepare_eq_ok {payout : Payout} (prepared : engine.prepare id call = .ok payout) :
    ∃ transfer pool settlement, engine.transfer id = .ok transfer ∧
      engine.pool transfer.pool = .ok pool ∧ transfer.isActive ∧
      engine.settlementOf transfer id call = .ok settlement ∧
      pool.checkSettlement (.int transfer.amount) (feeOf transfer pool settlement).toValue =
        .ok () ∧
      payout =
        { transfer := transfer.id
          pool := pool.id
          settlement := settlement
          fee := feeOf transfer pool settlement
          move := payoutMove transfer pool settlement } := by
  simp only [prepare, bind_eq_ok_iff] at prepared
  obtain ⟨transfer, found, pool, pool_found, _, active, settlement, settlement_eq, _, checked,
    payout_eq⟩ := prepared
  exact ⟨transfer, pool, settlement, found, pool_found, validateActive_eq_ok_iff.mp active,
    settlement_eq, checked, (pure_eq_ok_iff.mp payout_eq).symm⟩

theorem prepared_eq_ok {payout : Payout}
    (prepared : (do engine.checkCaller id call; engine.prepare id call) = .ok payout) :
    ∃ transfer pool settlement, engine.Allows id call transfer pool settlement ∧
      payout =
        { transfer := transfer.id
          pool := pool.id
          settlement := settlement
          fee := feeOf transfer pool settlement
          move := payoutMove transfer pool settlement } := by
  simp only [checkCaller, bind_eq_ok_iff] at prepared
  obtain ⟨_, ⟨transfer, found, pool, pool_found, authorized⟩, prepared⟩ := prepared
  obtain ⟨other, pool', settlement, again, pool_again, pending, settlement_eq, checked, payout_eq⟩ :=
    prepare_eq_ok prepared
  obtain rfl := Except.ok.inj (found.symm.trans again)
  obtain rfl := Except.ok.inj (pool_found.symm.trans pool_again)
  obtain ⟨-, transfer_found⟩ := transfer_eq_ok_iff.mp found
  obtain ⟨pool_key, pool_found⟩ := pool_eq_ok_iff.mp pool_found
  exact ⟨transfer, pool, settlement,
    ⟨transfer_found, pool_key, pool_found, authorized, pending, settlement_eq, checked⟩, payout_eq⟩

/-- A call that the engine allows is prepared. -/
theorem prepared_of_allows {transfer : Transfer} {pool : Pool} {settlement : Settlement}
    (key : id.isKey) (allows : engine.Allows id call transfer pool settlement) :
    (do engine.checkCaller id call; engine.prepare id call) =
      .ok
        { transfer := transfer.id
          pool := pool.id
          settlement := settlement
          fee := feeOf transfer pool settlement
          move := payoutMove transfer pool settlement } := by
  have found : engine.transfer id = .ok transfer :=
    transfer_eq_ok_iff.mpr ⟨key, allows.transfer_found⟩
  have pooled : engine.pool transfer.pool = .ok pool :=
    pool_eq_ok_iff.mpr ⟨allows.pool_key, allows.pool_found⟩
  have active : transfer.validateActive transfer.id = .ok () :=
    validateActive_eq_ok_iff.mpr allows.pending
  have checked := allows.checked
  unfold feeOf at checked
  simp [checkCaller, prepare, found, pooled, allows.authorized, active, allows.settlement_eq,
    checked, feeOf, payoutMove, bind, Except.bind, pure, Except.pure]

/-- The time that the engine gives to a settlement. -/
def settlingTime (engine : Engine) : Except Fault Instant := do
  (← engine.reading).elim engine.now .ok

/-- If the system clock can be read, the engine knows the time of a settlement. -/
theorem settlingTime_of_now {now : Instant} (timely : engine.now = .ok now) :
    ∃ shown time, engine.reading = .ok shown ∧ shown.elim engine.now .ok = .ok time ∧
      engine.settlingTime = .ok time := by
  unfold settlingTime reading
  split
  · refine ⟨some now, now, ?_, rfl, ?_⟩ <;> rw [timely] <;> rfl
  · refine ⟨engine.clock, ?_⟩
    cases engine.clock with
    | none => exact ⟨now, rfl, timely, timely⟩
    | some time => exact ⟨time, rfl, rfl, rfl⟩

/-- A settlement that is paid learns its time: books read the system clock as they move funds, and
over any other ledger the engine knows the time itself. -/
def LearnsTime (engine : Engine) : Prop :=
  engine.ledger.OnBooks ∨ ∃ time, engine.settlingTime = .ok time

/-- An engine with everything in its place, of which every settlement that is paid learns its
time. -/
structure Steady (engine : Engine) : Prop extends engine.Tidy where
  learns : engine.LearnsTime

theorem Orderly.steady (orderly : engine.Orderly) : engine.Steady :=
  ⟨orderly.tidy, .inl orderly.onBooks⟩

/-- An engine that reads its clock as it is learns the time of a settlement from whatever it shows. -/
theorem learnsTime_of_clock {time : Instant} (shows : engine.clock = some time)
    (plain : engine.isUniversal = false) : engine.LearnsTime := by
  refine .inr ⟨time, ?_⟩
  simp [settlingTime, reading, shows, plain, bind, Except.bind]

private theorem LearnsTime.settlingTime {move : Move} {ledger : Ledger} {reference : Value}
    (learns : engine.LearnsTime)
    (moved : engine.ledger.move move engine.now = (ledger, .ok reference)) :
    ∃ time, engine.settlingTime = .ok time := by
  rcases learns with onBooks | known
  · obtain ⟨_, text, booked_move, -, -⟩ := Ledger.move_eq_ok onBooks moved
    obtain ⟨-, -, -, _, _, now, -, -, timely, -⟩ := Books.move_eq_ok booked_move
    obtain ⟨_, time, -, -, settling⟩ := settlingTime_of_now timely
    exact ⟨time, settling⟩
  · exact known

/-- How a settlement may end. -/
inductive Settled (engine : Engine) (id : Value) (call : SettlementCall) :
    Engine × Answer Event → Prop where
  /-- The call is refused. -/
  | refused (problem : Problem) : Settled engine id call (engine, .error problem)
  /-- The ledger does not pay. -/
  | unpaid {transfer : Transfer} {pool : Pool} {settlement : Settlement} {ledger : Ledger}
      {problem : Problem} (allows : engine.Allows id call transfer pool settlement)
      (failed : engine.ledger.move (payoutMove transfer pool settlement) engine.now =
        (ledger, .error problem)) :
      Settled engine id call
        ({ engine with ledger := ledger }, .error (problem.attributedTo transfer.id))
  /-- The funds are moved and the settlement is booked. -/
  | done {transfer : Transfer} {pool booked : Pool} {settlement : Settlement} {ledger : Ledger}
      {reference : Value} {time : Instant}
      (allows : engine.Allows id call transfer pool settlement)
      (moved : engine.ledger.move (payoutMove transfer pool settlement) engine.now =
        (ledger, .ok reference))
      (booking : pool.bookSettlement transfer.amount (feeOf transfer pool settlement) =
        .ok booked)
      (timely : engine.settlingTime = .ok time) :
      Settled engine id call
        ({ engine with
            ledger := ledger
            pools := engine.pools.set transfer.pool.canonical booked
            transfers := engine.transfers.set id.canonical
              (transfer.settledBy settlement time) },
          .ok (.settled (transfer.settledBy settlement time) pool.id
            (feeOf transfer pool settlement) time reference))

/-- A transfer that is registered is found by its id, whatever the ledger. -/
theorem Tidy.transfer_eq {place : Value} {transfer : Transfer} (tidy : engine.Tidy)
    (found : engine.transfers.get? place = some transfer) (ledger : Ledger) :
    ({ engine with ledger := ledger } : Engine).transfer transfer.id = .ok transfer := by
  have registered := tidy.transfers _ _ found
  exact transfer_eq_ok_iff.mpr ⟨registered.id_key, by rw [registered.id_eq]; exact found⟩

/-- A pool that is registered is found by its id, whatever the ledger. -/
theorem Tidy.pool_eq {place : Value} {pool : Pool} (tidy : engine.Tidy)
    (found : engine.pools.get? place = some pool) (ledger : Ledger) :
    ({ engine with ledger := ledger } : Engine).pool pool.id = .ok pool := by
  obtain ⟨key, pool_id⟩ := tidy.pools _ _ found
  exact pool_eq_ok_iff.mpr ⟨key, by rw [pool_id]; exact found⟩

/-- A booking whose time is known does not fail. -/
theorem book_eq {place : Value} {transfer : Transfer} {pool booked : Pool} {fee : Whole}
    {settlement : Settlement} {time : Instant} (tidy : engine.Tidy)
    (found : engine.transfers.get? place = some transfer)
    (pool_found : engine.pools.get? transfer.pool.canonical = some pool)
    (pending : transfer.isActive) (booking : pool.bookSettlement transfer.amount fee = .ok booked)
    (timely : engine.settlingTime = .ok time) (ledger : Ledger) (move : Move)
    (reference : Value) :
    ({ engine with ledger := ledger } : Engine).book
        ⟨transfer.id, pool.id, settlement, fee, move⟩ reference =
      ({ engine with
          ledger := ledger
          pools := engine.pools.set transfer.pool.canonical booked
          transfers := engine.transfers.set place (transfer.settledBy settlement time) },
        .ok (.settled (transfer.settledBy settlement time) pool.id fee time reference)) := by
  obtain ⟨shown, read, time_eq⟩ := bind_eq_ok_iff.mp timely
  have transfer_id := (tidy.transfers _ _ found).id_eq
  have pool_id := (tidy.pools _ _ pool_found).2
  have active : transfer.validateActive transfer.id = .ok () :=
    validateActive_eq_ok_iff.mpr pending
  have settled : transfer.settle transfer.id settlement (.ok time) =
      ((transfer.settledBy settlement time).toProgress, .ok ()) := by
    rw [Progress.settle, active]
    rfl
  have sameRead : ({ engine with ledger := ledger } : Engine).reading = .ok shown := read
  have sameTime : shown.elim ({ engine with ledger := ledger } : Engine).now .ok = .ok time :=
    time_eq
  unfold book
  simp only [tidy.transfer_eq found, tidy.pool_eq pool_found, booking, bind, Except.bind, pure,
    Except.pure]
  rw [sameRead]
  dsimp only
  rw [sameTime, settled, transfer_id, pool_id]
  obtain ⟨withdrawn, fees, resolved, rfl⟩ := Pool.bookSettlement_eq_ok booking
  rfl

/-- A booking over a clock that cannot be read is counted by the pool, and fails. -/
theorem book_of_unread {place : Value} {transfer : Transfer} {pool booked : Pool} {fee : Whole}
    {settlement : Settlement} {fault : Fault} (tidy : engine.Tidy)
    (found : engine.transfers.get? place = some transfer)
    (pool_found : engine.pools.get? transfer.pool.canonical = some pool)
    (booking : pool.bookSettlement transfer.amount fee = .ok booked)
    (unread : engine.reading = .error fault) (ledger : Ledger) (move : Move) (reference : Value) :
    ({ engine with ledger := ledger } : Engine).book
        ⟨transfer.id, pool.id, settlement, fee, move⟩ reference =
      ({ engine with
          ledger := ledger
          pools := engine.pools.set transfer.pool.canonical booked },
        .error (.fault fault)) := by
  have sameRead : ({ engine with ledger := ledger } : Engine).reading = .error fault := unread
  unfold book
  simp only [tidy.transfer_eq found, tidy.pool_eq pool_found, booking, bind, Except.bind, pure,
    Except.pure]
  rw [sameRead]
  dsimp only
  rw [(tidy.pools _ _ pool_found).2]

/-- A settlement is refused, left unpaid, or booked as a whole. -/
theorem settled (steady : engine.Steady) (id : Value) (call : SettlementCall) :
    Settled engine id call (engine.settle id call) := by
  unfold settle
  split
  · exact .refused _
  · rename_i payout prepared
    obtain ⟨transfer, pool, settlement, allows, rfl⟩ := prepared_eq_ok prepared
    dsimp only
    split
    · rename_i problem failed
      exact .unpaid allows (Prod.ext rfl failed)
    · rename_i reference moved
      have moved : engine.ledger.move (payoutMove transfer pool settlement) engine.now =
          (_, .ok reference) := Prod.ext rfl moved
      obtain ⟨time, settling⟩ := steady.learns.settlingTime moved
      obtain ⟨_, _, _, -, -, -, booking⟩ := Pool.bookSettlement_of_check allows.checked
      rw [book_eq steady.toTidy allows.transfer_found allows.pool_found allows.pending booking
        settling]
      exact .done allows moved booking settling

/-- What the engine allows is booked when it is paid. -/
theorem settle_of_paid {transfer : Transfer} {pool : Pool} {settlement : Settlement}
    {ledger : Ledger} {reference : Value} {time : Instant} (tidy : engine.Tidy) (key : id.isKey)
    (allows : engine.Allows id call transfer pool settlement)
    (moved : engine.ledger.move (payoutMove transfer pool settlement) engine.now =
      (ledger, .ok reference))
    (timely : engine.settlingTime = .ok time) :
    ∃ booked,
      pool.bookSettlement transfer.amount (feeOf transfer pool settlement) = .ok booked ∧
        engine.settle id call =
          ({ engine with
              ledger := ledger
              pools := engine.pools.set transfer.pool.canonical booked
              transfers := engine.transfers.set id.canonical
                (transfer.settledBy settlement time) },
            .ok (.settled (transfer.settledBy settlement time) pool.id
              (feeOf transfer pool settlement) time reference)) := by
  obtain ⟨_, _, _, -, -, -, booking⟩ := Pool.bookSettlement_of_check allows.checked
  refine ⟨_, booking, ?_⟩
  unfold settle
  rw [prepared_of_allows key allows]
  dsimp only
  rw [moved]
  dsimp only
  rw [book_eq tidy allows.transfer_found allows.pool_found allows.pending booking timely]

/-- What the engine allows fails as the ledger fails. -/
theorem settle_of_unpaid {transfer : Transfer} {pool : Pool} {settlement : Settlement}
    {ledger : Ledger} {problem : Problem} (key : id.isKey)
    (allows : engine.Allows id call transfer pool settlement)
    (failed : engine.ledger.move (payoutMove transfer pool settlement) engine.now =
      (ledger, .error problem)) :
    engine.settle id call =
      ({ engine with ledger := ledger }, .error (problem.attributedTo transfer.id)) := by
  unfold settle
  rw [prepared_of_allows key allows]
  dsimp only
  rw [failed]

/-- A settlement that the engine does not allow is refused before anything happens. -/
theorem settle_of_not_allows
    (denied : ∀ transfer pool settlement, ¬engine.Allows id call transfer pool settlement) :
    ∃ problem, engine.settle id call = (engine, .error problem) := by
  unfold settle
  split
  · rename_i problem refused
    exact ⟨problem, rfl⟩
  · rename_i payout prepared
    obtain ⟨transfer, pool, settlement, allows, -⟩ := prepared_eq_ok prepared
    exact absurd allows (denied transfer pool settlement)

/-! ## The other operations -/

theorem updateFees_eq_ok {caller : Value} {schedule : Schedule} {after : Engine}
    (updated : engine.updateFees id caller schedule = .ok after) :
    ∃ pool, engine.pools.get? id.canonical = some pool ∧ caller.same pool.authority ∧
      after =
        { engine with
          pools := engine.pools.set id.canonical { pool with schedule := schedule } } := by
  unfold updateFees at updated
  obtain ⟨pool, found, updated⟩ := bind_eq_ok_iff.mp updated
  obtain ⟨-, found⟩ := pool_eq_ok_iff.mp found
  dsimp only at updated
  split at updated
  · exact absurd updated (throw_bind_ne_ok _ _ _)
  · rename_i authorized
    exact ⟨pool, found, by simpa using authorized, (pure_eq_ok_iff.mp updated).symm⟩

theorem register_eq_ok {pool : Pool} {after : Engine}
    (registered : engine.register pool = .ok after) :
    pool.id.isKey ∧ engine.pools.get? pool.id.canonical = none ∧
      after = { engine with pools := engine.pools.set pool.id.canonical pool } := by
  unfold register find? at registered
  obtain ⟨found, search, registered⟩ := bind_eq_ok_iff.mp registered
  rw [mapError_eq_ok_iff] at search
  split at search
  · rename_i key
    obtain rfl := Except.ok.inj search
    split at registered
    · cases registered
    · rename_i free
      exact ⟨key, free, (pure_eq_ok_iff.mp registered).symm⟩
  · cases search

theorem archiveTransfer_eq_ok {after : Engine} {archived : Transfer}
    (done : engine.archiveTransfer id = .ok (after, archived)) :
    ∃ transfer, engine.transfers.get? id.canonical = some transfer ∧
      transfer.status.isTerminal ∧
      archived = transfer.asArchived ∧
      after = { engine with transfers := engine.transfers.set id.canonical archived } := by
  unfold archiveTransfer at done
  obtain ⟨transfer, found, done⟩ := bind_eq_ok_iff.mp done
  obtain ⟨-, found⟩ := transfer_eq_ok_iff.mp found
  obtain ⟨progress, archiving, done⟩ := bind_eq_ok_iff.mp done
  obtain ⟨rfl, rfl⟩ := Prod.mk.inj (pure_eq_ok_iff.mp done)
  unfold Progress.archive at archiving
  split at archiving
  · rename_i terminal
    cases archiving
    exact ⟨transfer, found, terminal, rfl, rfl⟩
  · cases archiving

/-- A settled transfer is archived. -/
theorem archiveTransfer_of_settled {transfer : Transfer} (key : id.isKey)
    (found : engine.transfers.get? id.canonical = some transfer)
    (terminal : transfer.status.isTerminal) :
    engine.archiveTransfer id =
      .ok ({ engine with
        transfers := engine.transfers.set id.canonical transfer.asArchived },
        transfer.asArchived) := by
  have found : engine.transfer id = .ok transfer := transfer_eq_ok_iff.mpr ⟨key, found⟩
  simp [archiveTransfer, found, Progress.archive, terminal, Transfer.asArchived, bind, Except.bind,
    pure, Except.pure]

theorem get?_transfers_prune (engine : Engine) (key : Value) :
    engine.prune.transfers.get? key =
      (engine.transfers.get? key).filter fun transfer => !transfer.isArchived :=
  Table.get?_filter _ _ _

/-- A pruned engine has the records that were archived among the pruned ones. -/
theorem get?_pruned_prune (engine : Engine) (key : Value) :
    engine.prune.pruned.get? key =
      ((engine.transfers.get? key).filter fun transfer => transfer.isArchived).or
        (engine.pruned.get? key) := by
  have written := Table.get?_foldl_set engine.archived.entries engine.archived.nodup
    engine.pruned key
  have kept : engine.archived.get? key =
      (engine.transfers.get? key).filter fun transfer => transfer.isArchived :=
    Table.get?_filter _ _ _
  rw [← kept]
  exact written

end Engine
end Escrow
