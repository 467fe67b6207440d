import Escrow.Proofs.Engine.Filing
import Escrow.Proofs.Engine.Once

/-!
# Reconciliation with the archive

The counters of a pool are written when its funds move, the rows of the archive when its keeper hears
of it; one side adds up numbers, the other texts.  Between any two calls both tell the same: every
pending transfer has a pending row, and the counters rebuilt from the rows of a pool are its own.
-/

namespace Escrow

/-- The call is one that the archive can follow: legible, leaving the archive to its keeper, with
unused pools, and with a clock that can be read. -/
structure Call.IsFiled (engine : Engine) (call : Call) : Prop where
  names : call.IsLegible
  spares : call.SparesArchive
  unused : ∀ pool, call = .register pool → pool.IsUnused
  timely : (engine.perform call).1.TellsTime

namespace Engine

/-- The rows tell what the engine has booked: they are readable, of ids and pools that the engine
knows, and every pending transfer has a pending one; the counters rebuilt from them are those of the
pools. -/
structure Recorded (engine : Engine) (rows : Table String TransferRow) : Prop where
  readable : ∀ id row, rows.get? id = some row → Store.IsReadable row
  taken : ∀ id row, rows.get? id = some row → engine.isTaken (.text id) = true
  pooled : ∀ id row, rows.get? id = some row → engine.pools.contains (.text row.pool) = true
  pending : ∀ key transfer, engine.transfers.get? key = some transfer → transfer.isActive →
    ∃ row, rows.get? transfer.id.plain = some row ∧ row.status.isTerminal = false ∧
      row.pool = transfer.pool.plain ∧ row.amount = (Value.int transfer.amount).plain
  counts : ∀ id pool, engine.pools.get? (.text id) = some pool →
    pool.Counts (Store.tallyOf rows id)

variable {origin before after engine : Engine} {call : Call} {news : List News}
  {transfer : Transfer} {pool booked : Pool} {rows : Table String TransferRow}
  {events : List EventRow} {key : Value}

theorem IsLegible.key_eq (legible : engine.IsLegible) (orderly : engine.Orderly)
    (found : engine.transfers.get? key = some transfer) : key = .text transfer.id.plain := by
  rw [← (orderly.transfers _ _ found).id_eq]
  exact (legible.transfers _ _ found).id.canonical_eq

/-! ## Steps without news -/

private theorem Step.contains_pool (step : Step origin call before news after)
    (there : before.pools.contains key = true) : after.pools.contains key = true := by
  have written {place : Value} {pool : Pool} :
      (before.pools.set place pool).contains key = true := by
    rw [Table.contains_set, there, Bool.or_true]
  cases step with
  | deposit => exact written
  | settlement => exact written
  | fees => exact written
  | register => exact written
  | _ => exact there

/-- A step without news makes no transfer pending. -/
theorem Step.pending_of_quiet (step : Step origin call before [] after)
    (found : after.transfers.get? key = some transfer) (active : transfer.isActive) :
    before.transfers.get? key = some transfer := by
  cases step with
  | @archive before id held registered terminal =>
      rw [Table.get?_set] at found
      split at found
      · cases found
        have settled : held.asArchived.isActive = false := Progress.isActive_of_isTerminal terminal
        rw [settled] at active
        cases active
      · exact found
  | prune =>
      rw [get?_transfers_prune, Option.filter_eq_some_iff] at found
      exact found.1
  | _ => exact found

/-- A pool without rows has counters of zero. -/
theorem tallyOf_of_free (recorded : engine.Recorded rows) {id : String}
    (free : engine.pools.get? (.text id) = none) : Store.tallyOf rows id = {} := by
  have nothing (measure : TransferRow → Int) : Store.rowSum rows id measure = 0 := by
    apply Table.total_eq_zero
    intro key row found
    have other : row.pool ≠ id := by
      rintro rfl
      have there := recorded.pooled key row found
      rw [Table.contains, free] at there
      cases there
    rw [if_neg other]
  simp only [Store.tallyOf, nothing]

/-- A step without news leaves the rows true. -/
theorem Recorded.of_quiet (recorded : before.Recorded rows) (step : Step origin call before [] after)
    (unused : ∀ pool, call = .register pool → pool.IsUnused) : after.Recorded rows := by
  refine
    { readable := recorded.readable
      taken := fun id row found => step.isTaken (recorded.taken id row found)
      pooled := fun id row found => step.contains_pool (recorded.pooled id row found)
      pending := fun key transfer found active =>
        recorded.pending key transfer (step.pending_of_quiet found active) active
      counts := ?_ }
  intro id pool found
  cases step with
  | fees asked registered =>
      rw [Table.get?_set] at found
      split at found
      · rename_i same
        cases found
        have counts := recorded.counts id _ (same ▸ registered)
        exact ⟨counts.deposited, counts.withdrawn, counts.feesCollected, counts.created,
          counts.resolved⟩
      · exact recorded.counts id pool found
  | register asked usable free =>
      rw [Table.get?_set] at found
      split at found
      · rename_i same
        cases found
        rw [tallyOf_of_free recorded (same ▸ free)]
        exact unused _ asked
      · exact recorded.counts id pool found
  | _ => exact recorded.counts id pool found

/-! ## News that are filed -/

/-- Writing the row of one transfer keeps the rows true if it does so for the pool of this transfer. -/
theorem Recorded.of_written {row : TransferRow} {record : Transfer} {place home : String}
    (recorded : before.Recorded rows) (orderly : before.Orderly) (legible : before.IsLegible)
    (taken : ∀ id, before.isTaken id = true → after.isTaken id = true)
    (pools : after.pools = before.pools.set (.text home) booked)
    (transfers : ∀ key, after.transfers.get? key =
      if key = .text place then some record else before.transfers.get? key)
    (readable : Store.IsReadable row) (pooled : row.pool = home)
    (kept : ∀ old, rows.get? place = some old → old.pool = home)
    (pending : record.isActive → record.id.plain = place ∧ row.status.isTerminal = false ∧
      row.pool = record.pool.plain ∧ row.amount = (Value.int record.amount).plain)
    (counts : booked.Counts (Store.tallyOf (rows.set place row) home)) :
    after.Recorded (rows.set place row) := by
  refine ⟨?_, ?_, ?_, ?_, ?_⟩
  · intro id other found
    rw [Table.get?_set] at found
    split at found
    · cases found
      exact readable
    · exact recorded.readable id other found
  · intro id other found
    rw [Table.get?_set] at found
    split at found
    · rename_i same
      simp [Engine.isTaken, Table.contains, transfers, same]
    · exact taken _ (recorded.taken id other found)
  · intro id other found
    rw [Table.get?_set] at found
    rw [pools, Table.contains_set]
    split at found
    · cases found
      simp [pooled]
    · rw [recorded.pooled id other found, Bool.or_true]
  · intro key other found active
    rw [transfers] at found
    split at found
    · cases found
      obtain ⟨id_eq, rest⟩ := pending active
      exact ⟨row, id_eq ▸ Table.get?_set_self _ _ _, rest⟩
    · rename_i apart
      obtain ⟨held, there, rest⟩ := recorded.pending key other found active
      refine ⟨held, ?_, rest⟩
      rw [Table.get?_set, if_neg]
      · exact there
      · intro same
        rw [legible.key_eq orderly found, same] at apart
        exact apart rfl
  · intro id held found
    rw [pools, Table.get?_set] at found
    split at found
    · rename_i same
      cases found
      obtain rfl := Value.text.inj same
      exact counts
    · rename_i apart
      have elsewhere : home ≠ id := by
        rintro rfl
        exact apart rfl
      rw [Store.tallyOf_elsewhere (pooled ▸ elsewhere) fun old there => kept old there ▸ elsewhere]
      exact recorded.counts id held found

/-- A deposit is recorded by a new row. -/
theorem Recorded.deposit {request : CreateRequest} (recorded : before.Recorded rows)
    (orderly : before.Orderly) (legible : before.IsLegible) (fits : transfer.IsLegible)
    (admits : before.Admits request transfer pool)
    (booking : pool.bookDeposit transfer.amount = .ok booked)
    (taken : ∀ id, before.isTaken id = true → after.isTaken id = true)
    (pools : after.pools = before.pools.set transfer.pool.canonical booked)
    (transfers : after.transfers = before.transfers.set transfer.id.canonical transfer)
    (number : Nat) (time : Instant) :
    after.Recorded (Store.withRow rows (transfer.row number .null .null time)) := by
  have pool_eq := fits.pool.canonical_eq
  have absent : rows.get? transfer.id.plain = none := by
    by_contra there
    obtain ⟨row, found⟩ := Option.ne_none_iff_exists'.mp there
    have untaken : before.isTaken transfer.id = false :=
      isTaken_eq_false_iff.mpr ⟨admits.unused, admits.unpruned⟩
    rw [fits.id.eq_text, recorded.taken _ row found] at untaken
    cases untaken
  have written : Store.withRow rows (transfer.row number .null .null time) =
      rows.set transfer.id.plain (transfer.row number .null .null time) :=
    Store.withRow_of_absent absent
  have pending : (transfer.row number .null .null time).status.isTerminal = false := by
    change transfer.status.isTerminal = false
    rw [admits.asked.untouched]
    rfl
  obtain ⟨readable, amount_eq, -⟩ :=
    Store.isReadable_of_eq
      (Store.amountOf_eq fits.amount rfl : Store.amountOf (transfer.row number .null .null time) = _)
      (Store.feeOf_of_none rfl)
  rw [written]
  apply recorded.of_written orderly legible taken (pool_eq ▸ pools)
  · intro key
    rw [transfers, Table.get?_set, fits.id.canonical_eq]
  · exact readable
  · rfl
  · intro old there
    rw [absent] at there
    cases there
  · exact fun _ => ⟨rfl, pending, rfl, rfl⟩
  · have tally := Store.tallyOf_added absent pending
    rw [amount_eq] at tally
    have counts := (recorded.counts _ _ (pool_eq ▸ admits.pool_found)).deposit admits.checked booking
    exact tally ▸ counts

/-- A settlement is recorded by writing over the row of its transfer. -/
theorem Recorded.settle {id : Value} {settling : SettlementCall} {settlement : Settlement}
    {record : Transfer} (recorded : before.Recorded rows) (orderly : before.Orderly)
    (legible : before.IsLegible) (allows : before.Allows id settling transfer pool settlement)
    (booking : pool.bookSettlement transfer.amount (feeOf transfer pool settlement) = .ok booked)
    (taken : ∀ id, before.isTaken id = true → after.isTaken id = true)
    (pools : after.pools = before.pools.set transfer.pool.canonical booked)
    (transfers : ∀ key, after.transfers.get? key =
      if key = id.canonical then some record else before.transfers.get? key)
    (same_id : record.id = transfer.id) (terminal : record.status.isTerminal = true)
    (number : Nat) (net : Value) (time : Instant) :
    after.Recorded
      (Store.withRow rows
        (record.row number (feeOf transfer pool settlement).toValue net time)) := by
  have known := legible.transfers _ _ allows.transfer_found
  have pool_eq := known.pool.canonical_eq
  have key_eq := legible.key_eq orderly allows.transfer_found
  obtain ⟨old, found, pending, pooled, amount_cell⟩ :=
    recorded.pending _ _ allows.transfer_found allows.pending
  obtain ⟨fee, fee_eq, fee_amount⟩ :=
    isAmount_feeOf known (legible.pools _ _ allows.pool_found).2 settlement
  rw [fee_eq]
  have written : Store.withRow rows (record.row number (.int fee) net time) =
      rows.set transfer.id.plain (old.updatedBy (record.row number (.int fee) net time)) := by
    rw [← same_id] at found ⊢
    exact Store.withRow_of_get? found
  have amount := Store.amountOf_eq known.amount amount_cell
  obtain ⟨-, amount_eq, -⟩ := Store.isReadable_of_eq amount (recorded.readable _ _ found).fee
  obtain ⟨readable, new_amount_eq, new_fee_eq⟩ :=
    @Store.isReadable_of_eq (old.updatedBy (record.row number (.int fee) net time)) _ _ amount
      (Store.feeOf_eq fee_amount rfl)
  change after.Recorded (Store.withRow rows (record.row number (.int fee) net time))
  rw [written]
  apply recorded.of_written orderly legible taken (pool_eq ▸ pools)
  · intro key
    rw [transfers, key_eq]
  · exact readable
  · exact pooled
  · intro other there
    rw [found] at there
    cases there
    exact pooled
  · intro active
    have settled : record.isActive = false := Progress.isActive_of_isTerminal terminal
    rw [settled] at active
    cases active
  · have settles : (old.updatedBy (record.row number (.int fee) net time)).status.isTerminal =
        true := terminal
    have tally :=
      Store.tallyOf_settled found pending settles rfl (new_amount_eq.trans amount_eq.symm)
    have counts := (recorded.counts _ _ (pool_eq ▸ allows.pool_found)).settle allows.checked booking
    rw [amount_eq, new_fee_eq, pooled] at tally
    rw [fee_eq, Whole.toInt_number] at counts
    exact tally ▸ counts

/-! ## Calls and runs -/

/-- The clock can be read, everything is legible, and the rows of the archive are true. -/
structure Current (engine : Engine) : Prop where
  timely : engine.TellsTime
  legible : engine.IsLegible
  filed : ∃ rows events, engine.Stores rows events ∧ engine.Recorded rows

/-- Filing the news of a deposit makes the rows true again. -/
theorem Recorded.file_created {request : CreateRequest} {reference : Value} {time : Instant}
    (recorded : before.Recorded rows) (orderly : before.Orderly) (legible : before.IsLegible)
    (fits : transfer.IsLegible) (admits : before.Admits request transfer pool)
    (booking : pool.bookDeposit transfer.amount = .ok booked) (noted : reference.IsLegible)
    (taken : ∀ id, before.isTaken id = true → after.isTaken id = true)
    (pools : after.pools = before.pools.set transfer.pool.canonical booked)
    (transfers : after.transfers = before.transfers.set transfer.id.canonical transfer)
    (stores : after.Stores rows events) (timely : after.now = .ok time) :
    ∃ rows events, (after.archiveEvent (.created transfer reference)).Stores rows events ∧
      (after.archiveEvent (.created transfer reference)).Recorded rows := by
  have found : after.transfers.get? transfer.id.canonical = some transfer := by
    rw [transfers]
    exact Table.get?_set_self _ _ _
  obtain ⟨archive, number, filed, keeps⟩ :=
    archiveEvent_created stores (isLegible_created fits noted) rfl found fits timely
  rw [filed]
  refine ⟨_, _, ⟨archive, rfl, keeps⟩, ?_⟩
  apply recorded.deposit orderly legible fits admits booking
  · exact taken
  · exact pools
  · exact transfers

/-- Filing the news of a settlement makes the rows true again. -/
theorem Recorded.file_settled {id : Value} {settling : SettlementCall} {settlement : Settlement}
    {reference : Value} {settled time : Instant} (recorded : before.Recorded rows)
    (orderly : before.Orderly) (legible : before.IsLegible)
    (allows : before.Allows id settling transfer pool settlement)
    (booking : pool.bookSettlement transfer.amount (feeOf transfer pool settlement) = .ok booked)
    (noted : reference.IsLegible)
    (taken : ∀ id, before.isTaken id = true → after.isTaken id = true)
    (pools : after.pools = before.pools.set transfer.pool.canonical booked)
    (transfers : after.transfers =
      before.transfers.set id.canonical (transfer.settledBy settlement settled))
    (stores : after.Stores rows events) (timely : after.now = .ok time) :
    ∃ rows events,
      (after.archiveEvent (.settled (transfer.settledBy settlement settled) pool.id
        (feeOf transfer pool settlement) settled reference)).Stores rows events ∧
      (after.archiveEvent (.settled (transfer.settledBy settlement settled) pool.id
        (feeOf transfer pool settlement) settled reference)).Recorded rows := by
  have known := legible.transfers _ _ allows.transfer_found
  have same_key : transfer.id.canonical = id.canonical :=
    (orderly.transfers _ _ allows.transfer_found).id_eq
  have found : after.transfers.get? transfer.id.canonical =
      some (transfer.settledBy settlement settled) := by
    rw [transfers, same_key]
    exact Table.get?_set_self _ _ _
  have terminal := transfer.isTerminal_settledBy settlement settled
  obtain ⟨archive, number, filed, keeps⟩ :=
    archiveEvent_settled stores (isLegible_settled allows legible noted settled) terminal found
      terminal (allows.isLegible known settled) timely
  rw [filed]
  refine ⟨_, _, ⟨archive, rfl, keeps⟩, ?_⟩
  apply recorded.settle orderly legible allows booking
  · intro other there
    exact (Step.archive found terminal : Step after .prune after [] _).isTaken (taken other there)
  · exact pools
  · intro key
    change (after.transfers.set transfer.id.canonical _).get? key = _
    rw [transfers, same_key, Table.get?_set, Table.get?_set]
    split <;> rfl
  · rfl
  · exact terminal

/-- The filing of the news of a step makes the rows true again. -/
theorem Step.recorded {item : News} (step : Step origin call before [item] after)
    (names : call.IsLegible) (orderly : before.Orderly) (timely : before.TellsTime)
    (legible : before.IsLegible) (stores : before.Stores rows events)
    (recorded : before.Recorded rows) :
    ∃ rows events, (after.archiveEvent item.event).Stores rows events ∧
      (after.archiveEvent item.event).Recorded rows := by
  have taken (id : Value) (there : before.isTaken id = true) : after.isTaken id = true :=
    step.isTaken there
  obtain ⟨time, now_eq⟩ := timely
  cases step with
  | deposit asked drawn admits moved booking =>
      have fits := admits.isLegible orderly legible ⟨time, now_eq⟩ (asked ▸ names)
      have noted := isLegible_reference orderly.onBooks moved
      exact recorded.file_created orderly legible fits admits booking noted taken rfl rfl stores
        now_eq
  | settlement allows moved booking settled =>
      have noted := isLegible_reference orderly.onBooks moved
      exact recorded.file_settled orderly legible allows booking noted taken rfl rfl stores now_eq

/-- Every act of a call that the archive can follow keeps it current. -/
theorem Act.current (act : Act origin call before news after) (filed : call.IsFiled origin)
    (orderly : before.Orderly) (current : before.Current) : after.Current := by
  obtain ⟨timely, legible, rows, events, stores, recorded⟩ := current
  have stays := act.isLegible filed.names filed.timely orderly timely legible
  refine ⟨stays.1, stays.2, ?_⟩
  cases act with
  | quiet step leaves =>
      exact ⟨rows, events, leaves.tables rows events stores, recorded.of_quiet step filed.unused⟩
  | filed step =>
      exact step.recorded filed.names orderly timely legible stores recorded

private theorem IsFresh.current (fresh : engine.IsFresh) (timely : engine.TellsTime)
    (empty : engine.Stores .empty []) : engine.Current := by
  have recorded : engine.Recorded .empty := by
    refine ⟨?_, ?_, ?_, ?_, ?_⟩
    · rintro id row ⟨⟩
    · rintro id row ⟨⟩
    · rintro id row ⟨⟩
    · intro key transfer found
      rw [fresh.transfers, Table.get?_empty] at found
      cases found
    · intro id pool found
      rw [fresh.pools, Table.get?_empty] at found
      cases found
  exact ⟨timely, fresh.isLegible, .empty, [], empty, recorded⟩

/-- Whatever a fresh engine with an empty archive goes through, the archive stays current. -/
theorem IsFresh.current_run (fresh : engine.IsFresh) (timely : engine.TellsTime)
    (keeper : engine.KeepsArchive) (empty : engine.Stores .empty []) {calls : List Call}
    (filed : Along (fun engine call => call.IsFiled engine) engine calls) :
    (engine.run calls).Current :=
  @run_files (fun engine call => call.IsFiled engine) (fun _ engine => engine.Current)
    (fun _ _ filed _ _ _ _ act orderly current => act.current filed orderly current)
    (fun _ _ filed => filed.spares) engine fresh.orderly keeper calls filed []
    (fresh.current timely empty)

/-! ## The report of a pool -/

/-- The report of a pool with counted custody shows what is rebuilt from the rows. -/
theorem poolReport_eq {id : Value} {tally : Tally} (registered : engine.pool id = .ok pool)
    (counts : pool.Counts tally) (legible : id.IsLegible) (stores : engine.Stores rows events)
    (readable : ∀ id row, rows.get? id = some row → Store.IsReadable row) :
    ∃ rebuilt,
      engine.poolReport id = .ok ⟨pool, rebuilt, (engine.pending id).length⟩ ∧
        rebuilt.deposited = (Store.tallyOf rows id.plain).deposited ∧
        rebuilt.withdrawn = (Store.tallyOf rows id.plain).withdrawn ∧
        rebuilt.feesCollected = (Store.tallyOf rows id.plain).feesCollected ∧
        (rebuilt.resolved : Int) = (Store.tallyOf rows id.plain).resolved := by
  obtain ⟨archive, held, keeps⟩ := stores
  have rows_eq := keeps.rows_eq
  obtain ⟨rebuilt, reconciled, sums⟩ :=
    @Store.reconcile_eq archive.store id legible (rows_eq ▸ readable)
  rw [rows_eq] at sums
  refine ⟨rebuilt, ?_, sums⟩
  have shown : ∃ record, pool.toValue = .ok record := by
    unfold Pool.toValue
    rw [counts.escrowed_eq, counts.inCustody_eq]
    exact ⟨_, rfl⟩
  obtain ⟨record, shown⟩ := shown
  have read : engine.readArchive (.reconcile id) = .ok rebuilt := by
    have answered := @Archive.Keeps.read_eq archive rows events _ (.reconcile id) keeps
      legible.isFit
    unfold readArchive
    rw [held]
    exact answered.trans reconciled
  simp [poolReport, held, registered, shown, read, Except.mapError, bind, Except.bind, pure,
    Except.pure]

/-- Counters that are rebuilt as they are do not differ. -/
theorem mismatches_eq_nil {report : PoolReport} {tally : Tally} (counts : report.pool.Counts tally)
    (deposited : report.archive.deposited = tally.deposited)
    (withdrawn : report.archive.withdrawn = tally.withdrawn)
    (feesCollected : report.archive.feesCollected = tally.feesCollected)
    (resolved : (report.archive.resolved : Int) = tally.resolved) : report.mismatches = [] := by
  simp [PoolReport.mismatches, PoolReport.compared, counts.deposited, counts.withdrawn,
    counts.feesCollected, counts.resolved, deposited, withdrawn, feesCollected, resolved]

/-- Between any two calls the report of a pool shows no difference between its counters and those
rebuilt from the archive, and counts its pending transfers, as long as names are legible, fees are
numbers, pools come unused, the clock can be read, and nobody else touches the archive. -/
theorem report_of_run {engine : Engine} (fresh : engine.IsFresh) (timely : engine.TellsTime)
    (keeper : engine.KeepsArchive) (empty : engine.Stores .empty []) {calls : List Call}
    (filed : Along (fun engine call => call.IsFiled engine) engine calls) {id : Value}
    {pool : Pool} (registered : (engine.run calls).pool id = .ok pool) :
    ∃ report, (engine.run calls).poolReport id = .ok report ∧ report.pool = pool ∧
      report.isConsistent = true ∧ report.mismatches = [] ∧
      pool.escrowed = .ok (.int report.archive.escrowed) ∧
      ∃ created resolved : Int, pool.created = .int created ∧ pool.resolved = .int resolved ∧
        (report.pending : Int) = created - resolved := by
  have orderly := fresh.orderly.run calls
  obtain ⟨-, legible, rows, events, stores, recorded⟩ :=
    fresh.current_run timely keeper empty filed
  obtain ⟨key, found⟩ := pool_eq_ok_iff.mp registered
  have named := legible.named orderly found
  rw [named.canonical_eq] at found
  have counts := recorded.counts _ _ found
  obtain ⟨rebuilt, report_eq, deposited, withdrawn, feesCollected, resolved⟩ :=
    poolReport_eq registered counts named stores recorded.readable
  have consistent : (⟨pool, rebuilt, ((engine.run calls).pending id).length⟩ :
      PoolReport).mismatches = [] :=
    mismatches_eq_nil counts deposited withdrawn feesCollected resolved
  refine ⟨_, report_eq, rfl, ?_, consistent, ?_, ?_⟩
  · rw [PoolReport.isConsistent, consistent]
    rfl
  · rw [counts.escrowed_eq, Tally.escrowed, Reconciliation.escrowed, deposited, withdrawn]
  · have unused : ∀ pool, .register pool ∈ calls → pool.IsUnused := fun pool member =>
      @Along.forall_mem _ (fun call => ∀ pool, call = .register pool → pool.IsUnused)
        (fun _ _ filed => filed.unused) engine calls filed _ member pool rfl
    obtain ⟨tally, tallied, balanced⟩ := (fresh.accounts_run unused).pools _ _ found
    refine ⟨tally.created, tally.resolved, tallied.created, tallied.resolved, ?_⟩
    rw [balanced.pending, ← pending_text, ← named.eq_text]

/-- The small market with an archive that is kept nowhere. -/
def sampleOffice : Engine := sampleEngine.withArchive { path := ":memory:", kept := .transient }

private theorem minimum_valid_truth : IsAmount (Whole.truth true).toInt := by decide

private theorem maximum_valid_truth (top : Whole) (bounded : (none : Option Whole) = some top) :
    IsAmount top.toInt ∧ (Whole.truth true).toInt ≤ top.toInt := by cases bounded

/-- A fee of at least one, written as a truth value. -/
def truthPolicy : Policy :=
  { Policy.free with
    minimum := .truth true
    minimum_valid := minimum_valid_truth
    maximum_valid := maximum_valid_truth }

/-- A fee that is a truth value is written down as one, and the archive cannot be read any more. -/
theorem unreadable_sample :
    ((sampleOffice.run
      [.register { samplePool with schedule := { default := truthPolicy } },
        .create (sampleRequest "t1" 100),
        .settle (.text "t1") (.accept (.text "olga"))]).poolReport (.text "p")).map
          (fun report => report.isConsistent) = .error (.fault (.badNumeral (.text "True"))) := by
  decide +kernel

/-- A first transfer is accepted and a second one stays pending. -/
def sampleFiling : List Call :=
  [.register samplePool, .create (sampleRequest "t1" 300),
    .settle (.text "t1") (.accept (.text "olga")), .create (sampleRequest "t2" 200)]

private theorem isNumeric_sample : samplePool.schedule.IsNumeric := by
  intro outcome
  refine ⟨?_, ?_⟩
  · cases outcome <;> exact ⟨0, rfl⟩
  · cases outcome <;> rintro top ⟨⟩

private theorem isFiled_create_sample {engine : Engine} {id : String} {amount : Int}
    (clear : Text.hasHalf id = false)
    (timely : (engine.perform (.create (sampleRequest id amount))).1.TellsTime) :
    (Call.create (sampleRequest id amount)).IsFiled engine := by
  refine ⟨⟨?_, by simp, by simp⟩, ⟨by simp, by simp⟩, by simp, timely⟩
  rintro request ⟨⟩
  exact ⟨Value.isLegible_text (by decide +kernel), Value.isLegible_text (by decide +kernel),
    fun _ => Value.isLegible_text clear⟩

theorem isFiled_sample :
    Along (fun engine call => call.IsFiled engine) sampleOffice sampleFiling := by
  refine ⟨⟨⟨by simp, ?_, by simp⟩, ⟨by simp, by simp⟩, ?_, ?_⟩, isFiled_create_sample ?_ ?_,
    ⟨⟨by simp, by simp, by simp⟩, ⟨by simp, by simp⟩, by simp, ?_⟩, isFiled_create_sample ?_ ?_,
    trivial⟩
  · rintro pool ⟨⟩
    exact ⟨Value.isLegible_text (by decide +kernel), isNumeric_sample⟩
  · rintro pool ⟨⟩
    exact isUnused_sample
  · exact tellsTime_sample.of_clock (by decide +kernel)
  · decide +kernel
  · exact tellsTime_sample.of_clock (by decide +kernel)
  · exact tellsTime_sample.of_clock (by decide +kernel)
  · decide +kernel
  · exact tellsTime_sample.of_clock (by decide +kernel)

/-- The report of the small market agrees with its archive on what is held for the second transfer. -/
theorem report_sample :
    ∃ report, (sampleOffice.run sampleFiling).poolReport (.text "p") = .ok report ∧
      report.isConsistent = true ∧ report.archive.escrowed = 200 := by
  have fresh : sampleOffice.IsFresh := ⟨rfl, rfl, rfl, rfl⟩
  have timely : sampleOffice.TellsTime := tellsTime_sample
  have keeper : sampleOffice.KeepsArchive := ⟨[], rfl, by simp⟩
  have empty : sampleOffice.Stores .empty [] := ⟨_, rfl, rfl, rfl, rfl⟩
  have registered : ((sampleOffice.run sampleFiling).pool (.text "p")).isOk := by decide +kernel
  obtain ⟨pool, registered⟩ := exists_eq_ok registered
  have held : ((sampleOffice.run sampleFiling).pool (.text "p")).toOption.map Pool.escrowed =
      some (.ok (.int 200)) := by
    decide +kernel
  obtain ⟨report, reported, -, consistent, -, escrowed, -⟩ :=
    report_of_run fresh timely keeper empty isFiled_sample registered
  refine ⟨report, reported, consistent, ?_⟩
  rw [registered] at held
  simp only [Except.toOption, Option.map_some, escrowed, Option.some.injEq, Except.ok.injEq,
    Value.int.injEq] at held
  exact held

end Engine
end Escrow
