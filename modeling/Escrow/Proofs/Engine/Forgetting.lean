import Escrow.Proofs.Engine.Passage

/-!
# Engines that have dropped records

An engine next to the one that it becomes when the records under some ids are dropped and the ids
are kept.  As long as the dropped transfers are archived, everything that is not about one of them
goes the same way in both: the kept ids stand in for the records wherever an id must be unused.  A
dropped transfer is refused its settlement in both, because it is over.
-/

namespace Escrow
namespace Engine

variable {full before after : Engine} {pruned : Table Value Transfer} {id : Value}
  {call : Call} {event : Event}

/-- The engine without the records of the pruned ids. -/
def without (engine : Engine) (pruned : Table Value Transfer) : Engine :=
  { engine with
    transfers := engine.transfers.filter fun key _ => !pruned.contains key
    pruned := pruned }

/-- The pruned ids are the engine's own and some whose transfers are archived. -/
structure MayForget (engine : Engine) (pruned : Table Value Transfer) : Prop where
  keeps : ∀ key, engine.pruned.contains key → pruned.contains key
  archived : ∀ key, pruned.contains key → engine.pruned.contains key ∨
    ∃ transfer, engine.transfers.get? key = some transfer ∧ transfer.isArchived

/-! ## Archived records stay archived -/

theorem MayForget.of_same (forget : before.MayForget pruned)
    (transfers : after.transfers = before.transfers) (same : after.pruned = before.pruned) :
    after.MayForget pruned := by
  constructor
  · rw [same]
    exact forget.keeps
  · rw [same, transfers]
    exact forget.archived

/-- A write into the register lets no archived record become another one. -/
theorem MayForget.setTransfer (forget : before.MayForget pruned) {key : Value} {transfer : Transfer}
    (archived : ∀ old, before.transfers.get? key = some old → old.isArchived →
      transfer.isArchived) :
    ({ before with transfers := before.transfers.set key transfer } : Engine).MayForget pruned := by
  refine ⟨forget.keeps, fun other gone => ?_⟩
  refine (forget.archived other gone).imp_right ?_
  rintro ⟨old, found, was⟩
  change ∃ held, (before.transfers.set key transfer).get? other = some held ∧ held.isArchived
  rw [Table.get?_set]
  split
  · rename_i same
    rw [same] at found
    exact ⟨transfer, rfl, archived old found was⟩
  · exact ⟨old, found, was⟩

private theorem Step.mayForget {origin : Engine} {news : List News}
    (step : Step origin call before news after) (unpruning : call ≠ .prune) (tidy : before.Tidy)
    (forget : before.MayForget pruned) : after.MayForget pruned := by
  cases step with
  | @deposit request transfer pool booked ledger reference asked drawn admits moved booking =>
      have carried : ({ before with
          drawn := drawn
          ledger := ledger
          pools := before.pools.set transfer.pool.canonical booked } : Engine).MayForget pruned :=
        forget.of_same rfl rfl
      refine carried.setTransfer ?_
      intro old found
      have unused : before.transfers.get? transfer.id.canonical = some old := found
      rw [admits.unused] at unused
      cases unused
  | @settlement _ id settling transfer pool booked settlement ledger reference time allows moved
      booking timely =>
      have carried : ({ before with
          ledger := ledger
          pools := before.pools.set transfer.pool.canonical booked } : Engine).MayForget pruned :=
        forget.of_same rfl rfl
      refine carried.setTransfer ?_
      intro old found archived
      obtain rfl := Option.some.inj (allows.transfer_found.symm.trans found)
      have ended := (tidy.transfers _ _ allows.transfer_found).archived archived
      have pending := allows.pending
      rw [Progress.isActive_of_isTerminal ended] at pending
      cases pending
  | archive found terminal =>
      exact forget.setTransfer fun _ _ _ => rfl
  | prune asked => exact absurd asked unpruning
  | _ => exact forget.of_same rfl rfl

theorem Passage.mayForget {origin : Engine} {news : List News}
    (passage : Passage origin call before news after) (unpruning : call ≠ .prune)
    (tidy : before.Tidy) (forget : before.MayForget pruned) : after.MayForget pruned :=
  @Passage.sustains origin before after call news (fun _ engine => engine.MayForget pruned)
    (fun _ _ _ _ step tidy => step.mayForget unpruning tidy) passage tidy [] forget

/-! ## Lookups -/

theorem get?_without_of_kept (engine : Engine) {key : Value}
    (kept : pruned.contains key = false) :
    (engine.without pruned).transfers.get? key = engine.transfers.get? key := by
  unfold without
  rw [Table.get?_filter]
  cases engine.transfers.get? key <;> simp [Option.filter_some, kept]

theorem get?_without_of_dropped (engine : Engine) {key : Value}
    (dropped : pruned.contains key = true) :
    (engine.without pruned).transfers.get? key = none := by
  unfold without
  rw [Table.get?_filter]
  cases engine.transfers.get? key <;> simp [Option.filter_some, dropped]

theorem MayForget.unpruned (forget : full.MayForget pruned) {key : Value}
    (kept : pruned.contains key = false) : full.pruned.contains key = false := by
  by_contra there
  have gone := forget.keeps key (by simpa using there)
  rw [kept] at gone
  cases gone

private theorem MayForget.transfer (forget : full.MayForget pruned)
    (kept : pruned.contains id.canonical = false) :
    (full.without pruned).transfer id = full.transfer id := by
  have thin : (full.without pruned).pruned.contains id.canonical = false := kept
  unfold Engine.transfer find?
  rw [full.get?_without_of_kept kept, thin, forget.unpruned kept]

private theorem MayForget.isTaken (forget : full.MayForget pruned) (id : Value) :
    (full.without pruned).isTaken id = full.isTaken id := by
  unfold Engine.isTaken
  cases gone : pruned.contains id.canonical with
  | false =>
      have same : (full.without pruned).transfers.contains id.canonical =
          full.transfers.contains id.canonical := by
        unfold Table.contains
        rw [full.get?_without_of_kept gone]
      rw [same, forget.unpruned gone]
      exact congrArg _ gone
  | true =>
      have taken : (full.without pruned).pruned.contains id.canonical = true := gone
      rw [taken, Bool.or_true]
      rcases forget.archived _ gone with there | ⟨transfer, found, -⟩
      · rw [there, Bool.or_true]
      · rw [Table.contains_of_get? found, Bool.true_or]

/-- A dropped transfer cannot be settled, with its record or without it. -/
theorem MayForget.not_active (forget : full.MayForget pruned) (tidy : full.Tidy) {key : Value}
    (dropped : pruned.contains key = true) {transfer : Transfer}
    (found : full.transfers.get? key = some transfer) : transfer.isActive = false := by
  have registers := tidy.transfers key transfer found
  rcases forget.archived key dropped with there | ⟨other, found_other, archived⟩
  · rw [Table.contains, registers.unpruned] at there
    cases there
  · obtain rfl := Option.some.inj (found.symm.trans found_other)
    exact Progress.isActive_of_isTerminal (registers.archived archived)

/-! ## Settlements -/

private theorem without_setTransfer (engine : Engine) {key : Value}
    (kept : pruned.contains key = false) (transfer : Transfer) :
    ({ engine with transfers := engine.transfers.set key transfer } : Engine).without pruned =
      { engine.without pruned with
        transfers := (engine.without pruned).transfers.set key transfer } := by
  have keeps : (fun key => !pruned.contains key) key = true := by simp [kept]
  unfold without
  dsimp only
  rw [@Table.filter_set_of_keep _ _ _ (fun key => !pruned.contains key) _ keeps]

private theorem MayForget.book (forget : full.MayForget pruned) {payout : Payout}
    (kept : pruned.contains payout.transfer.canonical = false) (reference : Value) :
    (full.without pruned).book payout reference =
      ((full.book payout reference).1.without pruned, (full.book payout reference).2) := by
  have transfer_eq := forget.transfer kept
  have pool_eq : (full.without pruned).pool payout.pool = full.pool payout.pool := rfl
  have reading_eq : (full.without pruned).reading = full.reading := rfl
  unfold Engine.book
  rw [transfer_eq, pool_eq, reading_eq]
  dsimp only
  split
  · rfl
  · rename_i transfer pool booking
    cases full.reading with
    | error fault => rfl
    | ok shown =>
        refine Prod.ext ?_ rfl
        exact (without_setTransfer { full with
          pools := full.pools.set payout.pool.canonical pool } kept _).symm

private theorem MayForget.prepared (forget : full.MayForget pruned)
    (kept : pruned.contains id.canonical = false) (settling : SettlementCall) :
    (do (full.without pruned).checkCaller id settling; (full.without pruned).prepare id settling) =
      (do full.checkCaller id settling; full.prepare id settling) := by
  unfold checkCaller prepare
  rw [forget.transfer kept]
  rfl

private theorem MayForget.settle (forget : full.MayForget pruned) (tidy : full.Tidy)
    (kept : pruned.contains id.canonical = false) (settling : SettlementCall) :
    (full.without pruned).settle id settling =
      ((full.settle id settling).1.without pruned, (full.settle id settling).2) := by
  unfold Engine.settle
  rw [forget.prepared kept]
  split
  · rfl
  · rename_i payout prepared
    obtain ⟨transfer, pool, settlement, allows, rfl⟩ := prepared_eq_ok prepared
    have id_eq := (tidy.transfers _ _ allows.transfer_found).id_eq
    have now_eq : (full.without pruned).now = full.now := rfl
    have ledger_eq : (full.without pruned).ledger = full.ledger := rfl
    dsimp only
    rw [now_eq, ledger_eq]
    split
    · rfl
    · rename_i reference moved
      have paid : ({ full with
          ledger := (full.ledger.move (payoutMove transfer pool settlement) full.now).1 } :
            Engine).MayForget pruned := forget.of_same rfl rfl
      apply paid.book
      rw [id_eq]
      exact kept

/-- A dropped transfer is refused its settlement, with its record or without it. -/
theorem MayForget.settle_of_dropped (forget : full.MayForget pruned) (tidy : full.Tidy)
    (dropped : pruned.contains id.canonical = true) (settling : SettlementCall) :
    (∃ problem, full.settle id settling = (full, .error problem)) ∧
      ∃ problem, (full.without pruned).settle id settling =
        (full.without pruned, .error problem) := by
  constructor
  · apply settle_of_not_allows
    intro transfer pool settlement allows
    have pending := allows.pending
    rw [forget.not_active tidy dropped allows.transfer_found] at pending
    cases pending
  · apply settle_of_not_allows
    intro transfer pool settlement allows
    have found := allows.transfer_found
    rw [full.get?_without_of_dropped dropped] at found
    cases found

/-! ## Listeners -/

private theorem writeArchive_without (engine : Engine) (pruned : Table Value Transfer)
    (attempt : Archive → Archive × Except Fault Bool) :
    (engine.without pruned).writeArchive attempt =
      ((engine.writeArchive attempt).1.without pruned, (engine.writeArchive attempt).2) := by
  have archive_eq : (engine.without pruned).archive = engine.archive := rfl
  unfold writeArchive
  rw [archive_eq]
  cases engine.archive <;> rfl

theorem MayForget.archiveTransfer (forget : full.MayForget pruned)
    (kept : pruned.contains id.canonical = false) :
    (full.without pruned).archiveTransfer id =
      (full.archiveTransfer id).map fun done => (done.1.without pruned, done.2) := by
  unfold Engine.archiveTransfer
  rw [forget.transfer kept]
  cases full.transfer id with
  | error problem => rfl
  | ok transfer =>
      cases archiving : transfer.archive transfer.id with
      | error problem => simp [archiving, bind, Except.bind, Except.map]
      | ok progress =>
          simp [archiving, bind, Except.bind, Except.map, pure, Except.pure,
            without_setTransfer full kept]

private theorem MayForget.archiveEvent (forget : full.MayForget pruned)
    (kept : pruned.contains event.transfer.canonical = false) :
    (full.without pruned).archiveEvent event = (full.archiveEvent event).without pruned := by
  have recorded : (full.writeArchive (·.writeEvent event.toEntry)).1.MayForget pruned := by
    unfold writeArchive
    split
    · exact forget
    · exact forget.of_same rfl rfl
  unfold Engine.archiveEvent
  rw [writeArchive_without]
  generalize full.writeArchive (·.writeEvent event.toEntry) = written at recorded
  obtain ⟨next, fault | success⟩ := written
  · rfl
  · dsimp only
    split
    · rw [recorded.archiveTransfer kept]
      cases next.archiveTransfer event.transfer with
      | error problem => rfl
      | ok done => exact congrArg Prod.fst (writeArchive_without done.1 pruned _)
    · rw [recorded.transfer kept]
      cases next.transfer event.transfer with
      | error problem => rfl
      | ok transfer => exact congrArg Prod.fst (writeArchive_without next pruned _)

private theorem hear_without (engine : Engine) (pruned : Table Value Transfer) (listener : Listener)
    (event : Event) :
    (engine.without pruned).hear listener event = (engine.hear listener event).without pruned := by
  unfold hear
  cases listener.tag? <;> rfl

private theorem MayForget.tellSettled (forget : full.MayForget pruned)
    (kept : pruned.contains event.transfer.canonical = false) (listener : Listener) :
    tellSettled event (full.without pruned) listener =
      (tellSettled event full listener).without pruned := by
  unfold Engine.tellSettled
  split
  · exact forget.archiveEvent kept
  · exact hear_without full pruned listener event

private theorem MayForget.announceSettled (forget : full.MayForget pruned) (tidy : full.Tidy)
    (kept : pruned.contains event.transfer.canonical = false) :
    (full.without pruned).announceSettled event = (full.announceSettled event).without pruned := by
  unfold Engine.announceSettled
  have listeners_eq : (full.without pruned).listeners = full.listeners := rfl
  rw [listeners_eq]
  generalize full.listeners = listeners
  induction listeners generalizing full with
  | nil => rfl
  | cons listener rest ih =>
      have told := tellSettled_passage full .closeArchive full event listener
      rw [List.foldl_cons, List.foldl_cons, forget.tellSettled kept]
      exact ih (told.mayForget (by simp) tidy forget) (told.tidy tidy) rfl

/-- The event of a settlement is about the transfer that is settled. -/
theorem transfer_of_settle {next : Engine} (steady : full.Steady) {settling : SettlementCall}
    (done : full.settle id settling = (next, .ok event)) :
    event.transfer.canonical = id.canonical := by
  have ended := settled steady id settling
  rw [done] at ended
  cases ended with
  | done allows => exact (steady.transfers _ _ allows.transfer_found).id_eq

theorem MayForget.serve (forget : full.MayForget pruned) (steady : full.Steady)
    (kept : pruned.contains id.canonical = false) (settling : SettlementCall) :
    (full.without pruned).serve id settling =
      ((full.serve id settling).1.without pruned, (full.serve id settling).2) := by
  have passage := settle_passage full (.settle id settling) steady id settling
  unfold Engine.serve
  rw [forget.settle steady.toTidy kept]
  rcases ended : full.settle id settling with ⟨next, problem | event⟩
  · rfl
  · rw [ended] at passage
    have about := transfer_of_settle steady ended
    dsimp only
    rw [(passage.mayForget (by simp) steady.toTidy forget).announceSettled
      (passage.tidy steady.toTidy) (by rw [about]; exact kept)]

theorem MayForget.serve_of_dropped (forget : full.MayForget pruned) (tidy : full.Tidy)
    (dropped : pruned.contains id.canonical = true) (settling : SettlementCall) :
    (∃ problem, full.serve id settling = (full, .error problem)) ∧
      ∃ problem, (full.without pruned).serve id settling =
        (full.without pruned, .error problem) := by
  obtain ⟨⟨problem, failed⟩, other, missed⟩ := forget.settle_of_dropped tidy dropped settling
  unfold Engine.serve
  exact ⟨⟨problem, by rw [failed]⟩, other, by rw [missed]⟩

private theorem MayForget.tellCreated (forget : full.MayForget pruned) (steady : full.Steady)
    (kept : pruned.contains event.transfer.canonical = false) (listener : Listener) :
    tellCreated event (full.without pruned) listener =
      (tellCreated event full listener).without pruned := by
  cases listener with
  | archivist => exact forget.archiveEvent kept
  | acceptor tag caller =>
      have heard := hear_passage full .closeArchive full (.acceptor tag caller) event
      have later := heard.mayForget (by simp) steady.toTidy forget
      change (((full.without pruned).hear (.acceptor tag caller) event).serve event.transfer
        (.accept caller)).1 = _
      rw [hear_without, later.serve (steady.hear _ _) kept]
      rfl
  | observer tag => exact hear_without full pruned (.observer tag) event
  | deferred tag => exact hear_without full pruned (.deferred tag) event
  | broken tag => exact hear_without full pruned (.broken tag) event

private theorem MayForget.announceCreated (forget : full.MayForget pruned) (steady : full.Steady)
    (kept : pruned.contains event.transfer.canonical = false) :
    (full.without pruned).announceCreated event = (full.announceCreated event).without pruned := by
  unfold Engine.announceCreated
  have listeners_eq : (full.without pruned).listeners = full.listeners := rfl
  rw [listeners_eq]
  generalize full.listeners = listeners
  induction listeners generalizing full with
  | nil => rfl
  | cons listener rest ih =>
      have told := tellCreated_passage full .closeArchive steady event listener
      rw [List.foldl_cons, List.foldl_cons, forget.tellCreated steady kept]
      exact ih (told.mayForget (by simp) steady.toTidy forget) (told.steady rfl steady) rfl

/-! ## Creations -/

variable {request : CreateRequest}

private theorem drafted_without (engine : Engine) (pruned : Table Value Transfer)
    (request : CreateRequest) :
    (engine.without pruned).drafted request =
      ((engine.drafted request).1.without pruned, (engine.drafted request).2) := by
  have draft_eq (id : Value) :
      (engine.without pruned).draft request id = engine.draft request id := rfl
  have drawn_eq : (engine.without pruned).drawn = engine.drawn := rfl
  unfold drafted
  rw [draft_eq, draft_eq, drawn_eq]
  split
  · rfl
  · cases engine.draft request (.text (drawnId (engine.drawn + 1))) <;> rfl

private theorem MayForget.prepareDeposit (forget : full.MayForget pruned) (transfer : Transfer) :
    (full.without pruned).prepareDeposit transfer = full.prepareDeposit transfer := by
  unfold Engine.prepareDeposit
  rw [forget.isTaken]
  rfl

/-- An id that is free for a deposit is not a pruned one. -/
theorem MayForget.kept_of_prepareDeposit (forget : full.MayForget pruned) {transfer : Transfer}
    {move : Move} (prepared : full.prepareDeposit transfer = .ok move) :
    pruned.contains transfer.id.canonical = false := by
  unfold Engine.prepareDeposit at prepared
  obtain ⟨pool, -, prepared⟩ := bind_eq_ok_iff.mp prepared
  dsimp only at prepared
  split at prepared
  · exact absurd prepared (throw_bind_ne_ok _ _ _)
  · split at prepared
    · exact absurd prepared (throw_bind_ne_ok _ _ _)
    · rename_i free
      rw [← forget.isTaken, Engine.isTaken, Bool.or_eq_true, not_or, Bool.not_eq_true,
        Bool.not_eq_true] at free
      exact free.2

private theorem bookDeposit_without (engine : Engine) {transfer : Transfer}
    (kept : pruned.contains transfer.id.canonical = false) :
    (engine.without pruned).bookDeposit transfer =
      (engine.bookDeposit transfer).map fun booked => booked.without pruned := by
  have pool_eq : (engine.without pruned).pool transfer.pool = engine.pool transfer.pool := rfl
  unfold bookDeposit
  rw [pool_eq]
  cases engine.pool transfer.pool with
  | error problem => rfl
  | ok pool =>
      cases booking : pool.bookDeposit transfer.amount with
      | error problem => simp [booking, bind, Except.bind, Except.map]
      | ok booked =>
          have written := without_setTransfer { engine with
            pools := engine.pools.set transfer.pool.canonical booked } kept transfer
          simp only [booking, bind, Except.bind, Except.map, pure, Except.pure]
          rw [written]
          rfl

private theorem MayForget.deposit (forget : full.MayForget pruned) (request : CreateRequest) :
    (full.without pruned).deposit request =
      ((full.deposit request).1.without pruned, (full.deposit request).2) := by
  have drawing : (full.drafted request).1.MayForget pruned := by
    obtain ⟨drawn, drawn_eq, -⟩ := drafted_eq full request
    rw [drawn_eq]
    exact forget.of_same rfl rfl
  unfold Engine.deposit
  rw [drafted_without]
  generalize full.drafted request = drafted at drawing
  obtain ⟨next, problem | transfer⟩ := drafted
  · rfl
  · dsimp only
    rw [drawing.prepareDeposit]
    cases prepared : next.prepareDeposit transfer with
    | error problem => rfl
    | ok move =>
        have kept := drawing.kept_of_prepareDeposit prepared
        have moved_eq : (next.without pruned).ledger.move move (next.without pruned).now =
            next.ledger.move move next.now := rfl
        dsimp only
        rw [moved_eq]
        rcases next.ledger.move move next.now with ⟨ledger, problem | reference⟩
        · rfl
        · have booked : ({ next.without pruned with ledger := ledger } : Engine).bookDeposit
              transfer =
              (({ next with ledger := ledger } : Engine).bookDeposit transfer).map fun booked =>
                booked.without pruned :=
            bookDeposit_without { next with ledger := ledger } kept
          dsimp only
          rw [booked]
          cases ({ next with ledger := ledger } : Engine).bookDeposit transfer <;> rfl

private theorem transfer_of_deposit {next : Engine} {transfer : Transfer}
    (done : full.deposit request = (next, .ok (transfer, event))) :
    event.transfer = transfer.id ∧ full.isTaken transfer.id = false := by
  have ended := deposited full request
  rw [done] at ended
  cases ended with
  | done drawn admits => exact ⟨rfl, isTaken_eq_false_iff.mpr ⟨admits.unused, admits.unpruned⟩⟩

private theorem MayForget.lastRecord? (forget : full.MayForget pruned)
    (kept : pruned.contains id.canonical = false) :
    (full.without pruned).lastRecord? id = full.lastRecord? id := by
  have thin : (full.without pruned).pruned.get? id.canonical = none :=
    Option.not_isSome_iff_eq_none.mp (Bool.eq_false_iff.mp kept)
  have whole : full.pruned.get? id.canonical = none :=
    Option.not_isSome_iff_eq_none.mp (Bool.eq_false_iff.mp (forget.unpruned kept))
  unfold Engine.lastRecord?
  rw [full.get?_without_of_kept kept, thin, whole]

/-- A creation ends in the same way, with the same error if it fails. -/
theorem MayForget.create (forget : full.MayForget pruned) (steady : full.Steady)
    (request : CreateRequest) :
    (full.without pruned).create request =
      ((full.create request).1.without pruned, (full.create request).2) := by
  have passage := deposit_passage full request
  unfold Engine.create
  rw [forget.deposit]
  rcases ended : full.deposit request with ⟨next, problem | ⟨transfer, event⟩⟩
  · rfl
  · rw [ended] at passage
    obtain ⟨about, free⟩ := transfer_of_deposit ended
    have kept : pruned.contains transfer.id.canonical = false := by
      rw [← forget.isTaken, Engine.isTaken, Bool.or_eq_false_iff] at free
      exact free.2
    have next_steady := passage.steady rfl steady
    have next_forget := passage.mayForget (by simp) steady.toTidy forget
    have announced := announceCreated_passage full (.create request) rfl next_steady event
    have later := announced.mayForget (by simp) next_steady.toTidy next_forget
    dsimp only
    rw [next_forget.announceCreated next_steady (by rw [about]; exact kept),
      later.lastRecord? kept]

/-! ## Sweeps -/

theorem MayForget.pending (forget : full.MayForget pruned) (tidy : full.Tidy) (pool : Value) :
    (full.without pruned).pending pool = full.pending pool := by
  unfold Engine.pending without Table.values Table.filter
  dsimp only
  rw [List.filter_map, List.filter_map, List.filter_filter]
  congr 1
  apply List.filter_congr
  rintro ⟨key, transfer⟩ member
  have found := Table.mem_entries_iff.mp member
  cases gone : pruned.contains key with
  | false => simp
  | true =>
      have settled := forget.not_active tidy gone found
      simp [settled]

private theorem MayForget.overdue (forget : full.MayForget pruned) (tidy : full.Tidy)
    (pool : Value) :
    (full.without pruned).overdue pool = full.overdue pool := by
  unfold Engine.overdue
  rw [forget.pending tidy]
  rfl

/-- An overdue transfer is none that was dropped. -/
theorem MayForget.kept_of_overdue (forget : full.MayForget pruned) (tidy : full.Tidy) {pool : Value}
    {transfers : List Transfer} (overdue : full.overdue pool = .ok transfers) :
    ∀ transfer ∈ transfers, pruned.contains transfer.id.canonical = false := by
  intro transfer member
  unfold Engine.overdue at overdue
  obtain ⟨now, -, filtered⟩ := bind_eq_ok_iff.mp overdue
  have pending := mem_of_filterM filtered member
  obtain ⟨listed, active⟩ := List.mem_filter.mp pending
  obtain ⟨key, found⟩ := Table.mem_values_iff.mp listed
  rw [(tidy.transfers key transfer found).id_eq]
  by_contra gone
  rw [forget.not_active tidy (by simpa using gone) found] at active
  simp at active

private theorem MayForget.sweepEach (forget : full.MayForget pruned) (steady : full.Steady)
    (caller : Value) {ids : List Value} (kept : ∀ id ∈ ids, pruned.contains id.canonical = false) :
    (full.without pruned).sweepEach caller ids =
      ((full.sweepEach caller ids).1.without pruned, (full.sweepEach caller ids).2) := by
  induction ids generalizing full with
  | nil => rfl
  | cons id rest ih =>
      rw [List.forall_mem_cons] at kept
      have passage := serve_passage full .closeArchive steady id (.expire caller)
      have next_steady := passage.steady rfl steady
      have next_forget := passage.mayForget (by simp) steady.toTidy forget
      unfold Engine.sweepEach
      rw [forget.serve steady kept.1]
      generalize full.serve id (.expire caller) = served at next_steady next_forget
      obtain ⟨next, (refusal | fault) | event⟩ := served
      · have recorded : Passage full .closeArchive next [] (next.recordRefusal id refusal).1 :=
          writeArchive_passage full .closeArchive next _
        have noted_steady := recorded.steady rfl next_steady
        have noted_forget := recorded.mayForget (by simp) next_steady.toTidy next_forget
        have same : (next.without pruned).recordRefusal id refusal =
            ((next.recordRefusal id refusal).1.without pruned,
              (next.recordRefusal id refusal).2) := writeArchive_without next pruned _
        dsimp only
        rw [same]
        generalize next.recordRefusal id refusal = noting at noted_steady noted_forget
        obtain ⟨noted, fault | success⟩ := noting
        · rfl
        · exact ih noted_forget noted_steady kept.2
      · rfl
      · dsimp only
        rw [ih next_forget next_steady kept.2]

theorem MayForget.sweep (forget : full.MayForget pruned) (steady : full.Steady)
    (pool caller : Value) :
    (full.without pruned).sweep pool caller =
      ((full.sweep pool caller).1.without pruned, (full.sweep pool caller).2) := by
  have archive_eq : (full.without pruned).archive = full.archive := rfl
  unfold Engine.sweep
  rw [archive_eq, forget.overdue steady.toTidy]
  cases full.archive with
  | none => rfl
  | some archive =>
      cases overdue : full.overdue pool with
      | error fault => rfl
      | ok transfers =>
          apply forget.sweepEach steady
          rw [List.forall_mem_map]
          exact forget.kept_of_overdue steady.toTidy overdue

end Engine
end Escrow
