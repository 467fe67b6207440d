import Escrow.Proofs.Engine.Mirror

/-!
# News out of order

A listener that accepts a transfer as it hears of it lets the keeper of the archive hear of the
settlement before the creation.  The row of the transfer is then written again from the transfer as
it is by now, so that almost nothing is lost: it is the row that the usual order leaves, but for the
fee and the net amount, of which the creation tells nothing.  The fee is missing in every sum over
the rows as well.
-/

namespace Escrow

/-- The call is legible, and leaves a clock that can be read. -/
structure Call.IsClear (engine : Engine) (call : Call) : Prop where
  names : call.IsLegible
  timely : (engine.perform call).1.TellsTime

/-- The record tells of its settlement what the event does. -/
structure Transfer.AgreesWith (record : Transfer) (event : Event) : Prop where
  status_eq : record.status = event.status
  resolvedAt_eq : record.resolvedAt = event.occurredAt
  reasonCode_eq : record.reasonCode = event.reasonCode
  reasonMessage_eq : record.reasonMessage = event.reasonMessage

private theorem Transfer.AgreesWith.of_like {record kept : Transfer} {event : Event}
    (agrees : record.AgreesWith event) (like : kept.SettledLike record) : kept.AgreesWith event :=
  ⟨like.status_eq.trans agrees.status_eq, like.resolvedAt_eq.trans agrees.resolvedAt_eq,
    like.reasonCode_eq.trans agrees.reasonCode_eq,
    like.reasonMessage_eq.trans agrees.reasonMessage_eq⟩

namespace TransferRow

/-- The row tells everything about the settlement of its transfer that the event does. -/
structure TellsOf (row : TransferRow) (event : Event) : Prop where
  id_eq : row.transfer = event.transfer.plain
  status_eq : row.status = event.status
  terminal : row.status.isTerminal
  resolvedAt_eq : row.resolvedAt = event.occurredAt.map Instant.text
  reasonCode_eq : row.reasonCode = event.reasonCode
  reasonMessage_eq : row.reasonMessage = event.reasonMessage.cell?
  fee_eq : amountValue row.fee = .ok (.int event.fee.toInt)
  net_eq : amountValue row.net = .ok (.int event.net)

/-- The row without what was paid. -/
def unpaid (row : TransferRow) : TransferRow :=
  { row with
    fee := none
    net := none }

variable {record early : Transfer}

/-- Writing a record over a row of an earlier one leaves nothing of it but the number. -/
theorem updatedBy_row (continues : record.Continues early) (number again : Nat)
    (fee net before after : Value) (time now : Instant) :
    (early.row number before after time).updatedBy (record.asArchived.row again fee net now) =
      record.asArchived.row number fee net now := by
  simp [updatedBy, Transfer.row, Transfer.asArchived, continues.id_eq, continues.pool_eq,
    continues.sender_eq, continues.recipient_eq, continues.amount_eq, continues.createdAt_eq,
    continues.expiresAt_eq, continues.memo_eq]

/-- Writing a record over its own row without a fee leaves everything but what was paid. -/
theorem updatedBy_unpaid (record : Transfer) (number again : Nat) (fee net : Value)
    (now : Instant) :
    (record.row number fee net now).updatedBy (record.row again .null .null now) =
      (record.row number fee net now).unpaid := rfl

private theorem opens_row_asArchived (legible : record.IsLegible) (number : Nat) (fee net : Value)
    (now : Instant) : (record.asArchived.row number fee net now).Opens record := by
  have opens := opens_row (Engine.isLegible_asArchived legible) number fee net now
  exact ⟨opens.id_eq, opens.pool_eq, opens.sender_eq, opens.recipient_eq, opens.amount_eq,
    opens.memo_eq, opens.createdAt_eq, opens.expiresAt_eq⟩

private theorem tellsOf_row {event : Event} (legible : event.IsLegible)
    (id_eq : record.id.plain = event.transfer.plain) (agrees : record.AgreesWith event)
    (terminal : record.status.isTerminal) (number : Nat) (now : Instant) :
    (record.asArchived.row number event.fee.toValue (.int event.net) now).TellsOf event := by
  obtain ⟨fee, fee_eq, amount⟩ := legible.fee
  refine ⟨id_eq, agrees.status_eq, terminal, ?_, agrees.reasonCode_eq, ?_, ?_,
    amountValue_cell? legible.net⟩
  · exact congrArg (Option.map Instant.text) agrees.resolvedAt_eq
  · exact congrArg Value.cell? agrees.reasonMessage_eq
  · rw [fee_eq]
    exact amountValue_cell? amount

end TransferRow

/-- The reconciliation with one more settled transfer of this amount and fee. -/
def Reconciliation.counting (rebuilt : Reconciliation) (amount fee : Int) : Reconciliation :=
  { rebuilt with
    deposited := rebuilt.deposited + amount
    withdrawn := rebuilt.withdrawn + amount
    feesCollected := rebuilt.feesCollected + fee
    resolved := rebuilt.resolved + 1 }

namespace Store

/-- A second write of a new row goes over the first one. -/
theorem withRow_withRow {rows : Table String TransferRow} {row again : TransferRow}
    (absent : rows.get? row.transfer = none) (same : again.transfer = row.transfer) :
    withRow (withRow rows row) again = rows.set row.transfer (row.updatedBy again) := by
  have found : (rows.set row.transfer row).get? again.transfer = some row := by
    rw [same, Table.get?_set_self]
  rw [withRow_of_absent absent, withRow_of_get? found, same, Table.set_set]

private theorem sumOf_concat {read : TransferRow → Except Fault Int} {list : List TransferRow}
    {row : TransferRow} {sum n : Int} (summed : sumOf read list = .ok sum)
    (own : read row = .ok n) : sumOf read (list ++ [row]) = .ok (sum + n) := by
  induction list generalizing sum with
  | nil =>
      obtain rfl := Except.ok.inj summed
      simp [sumOf, own, bind, Except.bind, pure, Except.pure]
  | cons first rest ih =>
      simp only [sumOf, bind_eq_ok_iff, pure_eq_ok_iff] at summed
      obtain ⟨head, first_eq, tail, rest_eq, rfl⟩ := summed
      simp [sumOf, first_eq, ih rest_eq, Int.add_assoc, bind, Except.bind, pure, Except.pure]

/-- A new row of a settled transfer counts in its pool with its amount and its fee. -/
theorem reconcile_concat {store later : Store} {row : TransferRow} {amount fee : Int}
    {rebuilt : Reconciliation} (clear : Text.hasHalf row.pool = false)
    (rows : later.transfers.values = store.transfers.values ++ [row])
    (terminal : row.status.isTerminal) (amount_eq : amountOf row = .ok amount)
    (fee_eq : feeOf row = .ok fee) (before : store.reconcile (.text row.pool) = .ok rebuilt) :
    later.reconcile (.text row.pool) = .ok (rebuilt.counting amount fee) := by
  obtain ⟨list, listed, extended⟩ : ∃ list, store.rowsOfPool (.text row.pool) = .ok list ∧
      later.rowsOfPool (.text row.pool) = .ok (list ++ [row]) := by
    have searched := (Value.isLegible_text clear).searchText_eq
    simp [rowsOfPool, poolFilter, searched, rows, Except.map, Value.plain]
  have settled : settledRows (list ++ [row]) = settledRows list ++ [row] := by
    rw [settledRows, List.filter_append, List.filter_singleton, terminal]
    rfl
  simp only [reconcile, listed, bind_eq_ok_iff, pure_eq_ok_iff, Except.ok.injEq, exists_eq_left']
    at before
  obtain ⟨deposited, deposits, withdrawn, withdrawals, fees, collected, rfl⟩ := before
  simp [reconcile, extended, settled, sumOf_concat deposits amount_eq,
    sumOf_concat withdrawals amount_eq, sumOf_concat collected fee_eq, Reconciliation.counting,
    bind, Except.bind, pure, Except.pure]

end Store

namespace Engine

variable {origin before after engine : Engine} {call : Call} {news later : List News} {id : Value}
  {record early : Transfer} {rows : Table String TransferRow} {events : List EventRow}

/-! ## What news tell stays true -/

/-- The clock can be read, everything is legible, the news too, and of every settlement in the news
the last record of the transfer tells the same. -/
structure Reliable (news : List News) (engine : Engine) : Prop where
  timely : engine.TellsTime
  legible : engine.IsLegible
  news_legible : ∀ item ∈ news, item.event.IsLegible
  settled : ∀ item ∈ news, item.isSettlement → ∃ record,
    engine.lastRecord? item.event.transfer = some record ∧ record.AgreesWith item.event

private theorem Step.news_legible (step : Step origin call before later after)
    (names : call.IsLegible)
    (orderly : before.Orderly) (timely : before.TellsTime) (legible : before.IsLegible) :
    ∀ item ∈ later, item.event.IsLegible := by
  intro item member
  cases step with
  | deposit asked drawn admits moved booking =>
      rw [List.mem_singleton.mp member]
      exact isLegible_created (admits.isLegible orderly legible timely (asked ▸ names))
        (isLegible_reference orderly.onBooks moved)
  | settlement allows moved booking settling =>
      rw [List.mem_singleton.mp member]
      exact isLegible_settled allows legible (isLegible_reference orderly.onBooks moved) _
  | _ => cases member

private theorem Step.agrees (step : Step origin call before later after) (orderly : before.Orderly)
    {item : News} (member : item ∈ later) (settles : item.isSettlement) :
    ∃ record, after.lastRecord? item.event.transfer = some record ∧
      record.AgreesWith item.event := by
  cases step with
  | deposit asked drawn admits moved booking =>
      rw [List.mem_singleton.mp member] at settles
      cases settles
  | @settlement _ id settling transfer pool booked settlement ledger reference time allows moved
      booking settling_eq =>
      rw [List.mem_singleton.mp member]
      have same : transfer.id.canonical = id.canonical :=
        (orderly.transfers _ _ allows.transfer_found).id_eq
      refine ⟨transfer.settledBy settlement time, lastRecord?_eq_some_iff.mpr (.inl ?_), rfl, ?_,
        rfl, rfl⟩
      · change (before.transfers.set id.canonical _).get? transfer.id.canonical = _
        rw [same, Table.get?_set_self]
      · cases settlement <;> rfl
  | _ => cases member

private theorem Step.reliable (step : Step origin call before later after)
    (clear : call.IsClear origin) (orderly : before.Orderly) (reliable : Reliable news before) :
    Reliable (news ++ later) after := by
  obtain ⟨timely, legible, news_legible, settled⟩ := reliable
  refine ⟨step.tellsTime clear.timely timely, step.isLegible clear.names timely orderly legible,
    ?_, ?_⟩
  · intro item member
    rcases List.mem_append.mp member with old | new
    · exact news_legible item old
    · exact step.news_legible clear.names orderly timely legible item new
  · intro item member settles
    rcases List.mem_append.mp member with old | new
    · obtain ⟨record, found, agrees⟩ := settled item old settles
      have terminal : record.status.isTerminal := by
        rw [agrees.status_eq]
        exact settles
      obtain ⟨kept, found, like⟩ := step.lastRecord orderly.tidy found terminal
      exact ⟨kept, found, agrees.of_like like⟩
    · exact step.agrees orderly new settles

private theorem Reliable.run (reliable : Reliable news engine) (orderly : engine.Orderly)
    {calls : List Call} (clear : Along (fun engine call => call.IsClear engine) engine calls) :
    Reliable (news ++ engine.newsOf calls) (engine.run calls) :=
  run_preserves
    (fun _ _ clear _ _ _ _ step orderly reliable => step.reliable clear orderly reliable)
    orderly clear reliable

private theorem IsFresh.reliable (fresh : engine.IsFresh) (timely : engine.TellsTime) :
    Reliable [] engine := ⟨timely, fresh.isLegible, by simp, by simp⟩

/-- The record under an id keeps its terms. -/
theorem Step.continues_lastRecord (step : Step origin call before later after)
    (tidy : before.Tidy) (found : before.lastRecord? id = some early) :
    ∃ kept, after.lastRecord? id = some kept ∧ kept.Continues early := by
  have change := step.change tidy id
  generalize after.lastRecord? id = rewritten, newsAt id.canonical later = told at change
  cases change with
  | kept => exact ⟨early, found, .refl early⟩
  | archived known =>
      obtain rfl := Option.some.inj (found.symm.trans known)
      exact ⟨_, rfl, ⟨rfl, rfl, rfl, rfl, rfl, rfl, rfl, rfl⟩⟩
  | created asked free => simp [free] at found
  | settled named known allows =>
      obtain rfl := Option.some.inj (found.symm.trans known)
      exact ⟨_, rfl, ⟨rfl, rfl, rfl, rfl, rfl, rfl, rfl, rfl⟩⟩

private theorem Orderly.continues_run (orderly : engine.Orderly)
    (found : engine.lastRecord? id = some early) (calls : List Call) :
    ∃ kept, (engine.run calls).lastRecord? id = some kept ∧ kept.Continues early := by
  have always : Along (fun _ _ => True) engine calls := along_of_forall (fun _ _ => trivial) engine
  refine @run_keeps (fun _ _ => True)
    (fun engine => ∃ kept, engine.lastRecord? id = some kept ∧ kept.Continues early)
    ?_ engine orderly calls always ⟨early, found, .refl early⟩
  rintro origin call - before later after step orderly ⟨kept, found, continues⟩
  obtain ⟨next, found, further⟩ := step.continues_lastRecord orderly.tidy found
  exact ⟨next, found, further.trans continues⟩

/-! ## The two orders -/

/-- In place of the archive there is one that answers with the row when asked for its transfer, and
whose reconciliation of the pool counts the row with this amount and fee. -/
structure Shows (engine : Engine) (archive : Archive) (row : TransferRow) (amount fee : Int) :
    Prop where
  row_eq : engine.readArchive (.transferRow (.text row.transfer)) = .ok (some row)
  reconciled : ∀ rebuilt, archive.read (.reconcile (.text row.pool)) = .ok rebuilt →
    engine.readArchive (.reconcile (.text row.pool)) = .ok (rebuilt.counting amount fee)

/-- An archive that has got a row of a settled record shows it. -/
theorem shows_of_keeps {archive later : Archive} {row : TransferRow} {fee : Int}
    (fits : record.IsLegible) (id_eq : row.transfer = record.id.plain)
    (pool_eq : row.pool = record.pool.plain)
    (amount_eq : row.amount = (Value.int record.amount).plain)
    (terminal : row.status.isTerminal) (fee_eq : Store.feeOf row = .ok fee)
    (opened : archive.isOpen = true)
    (absent : archive.store.transfers.get? record.id.plain = none)
    (held : engine.archive = some later)
    (keeps : later.Keeps (archive.store.transfers.set record.id.plain row) events) :
    engine.Shows archive row record.amount fee := by
  have id_clear : Text.hasHalf row.transfer = false := by
    obtain ⟨text, same, clear⟩ := fits.id
    rwa [id_eq, same]
  have pool_clear : Text.hasHalf row.pool = false := by
    obtain ⟨text, same, clear⟩ := fits.pool
    rwa [pool_eq, same]
  have id_legible := Value.isLegible_text id_clear
  have pool_legible := Value.isLegible_text pool_clear
  have was : archive.Keeps archive.store.transfers archive.store.events := ⟨opened, rfl, rfl⟩
  constructor
  · have answered := @Archive.Keeps.read_eq later _ events _ (.transferRow (.text row.transfer))
      keeps id_legible.isFit
    unfold readArchive
    rw [held]
    dsimp only
    rw [answered]
    simp only [Query.transferRow, Store.transferRow?, id_legible.searchText_eq, keeps.rows_eq,
      Except.map, Option.bind_some]
    rw [Value.plain, id_eq, Table.get?_set_self]
  · intro rebuilt before
    have answered := @Archive.Keeps.read_eq later _ events _ (.reconcile (.text row.pool))
      keeps pool_legible.isFit
    have earlier := @Archive.Keeps.read_eq archive _ archive.store.events _
      (.reconcile (.text row.pool)) was pool_legible.isFit
    rw [earlier] at before
    unfold readArchive
    rw [held]
    dsimp only
    rw [answered]
    refine Store.reconcile_concat pool_clear ?_ terminal (Store.amountOf_eq fits.amount amount_eq)
      fee_eq before
    rw [keeps.rows_eq, Table.values_set_of_absent absent]

/-- The engine can tell the keeper of an archive of the event, of a transfer with this record. -/
structure Delivers (engine : Engine) (event : Event) (record : Transfer) : Prop where
  legible : event.IsLegible
  found : engine.transfers.get? event.transfer.canonical = some record
  fits : record.IsLegible
  id_eq : record.id.plain = event.transfer.plain

private theorem Reliable.delivers {item : News} (reliable : Reliable news engine)
    (orderly : engine.Orderly) (member : item ∈ news)
    (found : engine.transfers.get? item.key = some record) :
    engine.Delivers item.event record := by
  have legible := reliable.news_legible item member
  have fits := reliable.legible.transfers _ _ found
  have same : record.id.canonical = item.event.transfer.canonical :=
    (orderly.transfers _ _ found).id_eq
  rw [fits.id.canonical_eq, legible.transfer.canonical_eq] at same
  exact ⟨legible, found, fits, Value.text.inj same⟩

variable {creation settlement : Event} {archive : Archive} {late : Engine} {time : Instant}

/-- The row that the record leaves when both events have been heard of in their order. -/
def settledRow (record : Transfer) (settlement : Event) (archive : Archive) (time : Instant) :
    TransferRow :=
  record.asArchived.row (archive.store.transferWrites + 1) settlement.fee.toValue
    (.int settlement.net) time

/-- When the creation is heard of before the settlement, the archive shows what was paid. -/
theorem shows_of_created_first (first : engine.Delivers creation early)
    (second : late.Delivers settlement record) (creates : creation.status.isTerminal = false)
    (settles : settlement.status.isTerminal = true) (terminal : record.status.isTerminal)
    (continues : record.Continues early) (timely : engine.TellsTime) (now : late.now = .ok time)
    (opened : archive.isOpen = true)
    (absent : archive.store.transfers.get? record.id.plain = none) :
    ∃ heard, ((engine.withArchive archive).archiveEvent creation).archive = some heard ∧
      ((late.withArchive heard).archiveEvent settlement).Shows archive
        (settledRow record settlement archive time) record.amount settlement.fee.toInt := by
  obtain ⟨earlier, timely⟩ := timely
  have was : archive.Keeps archive.store.transfers archive.store.events := ⟨opened, rfl, rfl⟩
  obtain ⟨heard, filed, keeps⟩ := @archiveEvent_created_of_keeps _ _ (engine.withArchive archive)
    creation early earlier archive rfl was first.legible creates first.found first.fits timely
  obtain ⟨later, filed_late, keeps_late⟩ := @archiveEvent_settled_of_keeps _ _
    (late.withArchive heard) settlement record time heard rfl keeps second.legible settles
    second.found terminal second.fits now
  obtain ⟨fee, fee_eq, fee_amount⟩ := second.legible.fee
  have absent_early : archive.store.transfers.get? early.id.plain = none := by
    rw [← continues.id_eq]
    exact absent
  have same_id : record.id.plain = early.id.plain := congrArg Value.plain continues.id_eq
  rw [Store.withRow_withRow absent_early same_id, TransferRow.updatedBy_row continues] at keeps_late
  change later.Keeps (archive.store.transfers.set early.id.plain
    (settledRow record settlement archive time)) _ at keeps_late
  rw [← same_id] at keeps_late
  refine ⟨heard, by rw [filed], ?_⟩
  refine shows_of_keeps second.fits rfl rfl rfl terminal ?_ opened absent ?_ keeps_late
  · rw [fee_eq]
    exact Store.feeOf_eq fee_amount (by rw [settledRow, fee_eq]; rfl)
  · rw [filed_late]

/-- When the settlement is heard of before the creation, the archive shows the same but for what was
paid. -/
theorem shows_of_settled_first (first : late.Delivers settlement record)
    (second : late.Delivers creation record) (creates : creation.status.isTerminal = false)
    (settles : settlement.status.isTerminal = true) (terminal : record.status.isTerminal)
    (now : late.now = .ok time) (opened : archive.isOpen = true)
    (absent : archive.store.transfers.get? record.id.plain = none) :
    (((late.withArchive archive).archiveEvent settlement).archiveEvent creation).Shows archive
      (settledRow record settlement archive time).unpaid record.amount 0 := by
  have was : archive.Keeps archive.store.transfers archive.store.events := ⟨opened, rfl, rfl⟩
  obtain ⟨heard, filed, keeps⟩ := @archiveEvent_settled_of_keeps _ _ (late.withArchive archive)
    settlement record time archive rfl was first.legible settles first.found terminal first.fits now
  have same_key : creation.transfer.canonical = settlement.transfer.canonical := by
    rw [second.legible.transfer.canonical_eq, ← second.id_eq, first.id_eq,
      ← first.legible.transfer.canonical_eq]
  have archived : ((late.withArchive archive).archiveEvent settlement).transfers.get?
      creation.transfer.canonical = some record.asArchived := by
    rw [filed, same_key]
    exact Table.get?_set_self _ _ _
  have held : ((late.withArchive archive).archiveEvent settlement).archive = some heard := by
    rw [filed]
  have later_now : ((late.withArchive archive).archiveEvent settlement).now = .ok time := by
    rw [filed]
    exact now
  obtain ⟨later, filed_later, keeps_later⟩ := archiveEvent_created_of_keeps held keeps
    second.legible creates archived (isLegible_asArchived second.fits) later_now
  have overwritten := @Store.withRow_withRow archive.store.transfers
    (settledRow record settlement archive time)
    (record.asArchived.row (heard.store.transferWrites + 1) .null .null time) absent rfl
  rw [settledRow, TransferRow.updatedBy_unpaid] at overwritten
  change later.Keeps (Store.withRow (Store.withRow archive.store.transfers _)
    (record.asArchived.row (heard.store.transferWrites + 1) .null .null time)) _ at keeps_later
  rw [overwritten] at keeps_later
  refine shows_of_keeps first.fits rfl rfl rfl terminal (Store.feeOf_of_none rfl) opened absent ?_
    keeps_later
  rw [filed_later]

/-- The creation of a transfer and its settlement can be heard of in either order.  When the
creation is heard of first, at the end of some calls, and the settlement after some more, the archive
shows a row that tells with what the transfer was created and how it was settled, and counts the fee.
When the settlement is heard of first, the archive shows the same row without what was paid, and
counts no fee. -/
theorem filed_either_way_of_run (fresh : engine.IsFresh) (timely : engine.TellsTime)
    {calls later : List Call}
    (clear : Along (fun engine call => call.IsClear engine) engine calls)
    (clear_later : Along (fun engine call => call.IsClear engine) (engine.run calls) later)
    {creation settlement : News} (created : creation ∈ engine.newsOf calls)
    (settled : settlement ∈ engine.newsOf calls ++ (engine.run calls).newsOf later)
    (creates : creation.isSettlement = false) (settles : settlement.isSettlement)
    (same : settlement.key = creation.key)
    (registered : (engine.run calls).transfers.get? creation.key = some early)
    (kept : ((engine.run calls).run later).transfers.get? creation.key = some record)
    (opened : archive.isOpen = true)
    (absent : archive.store.transfers.get? creation.event.transfer.plain = none) :
    ∃ row : TransferRow, row.Opens record ∧ row.TellsOf settlement.event ∧
      (∃ heard, (((engine.run calls).withArchive archive).archiveEvent creation.event).archive =
          some heard ∧
        ((((engine.run calls).run later).withArchive heard).archiveEvent settlement.event).Shows
          archive row record.amount settlement.event.fee.toInt) ∧
      (((((engine.run calls).run later).withArchive archive).archiveEvent
          settlement.event).archiveEvent creation.event).Shows archive row.unpaid record.amount
        0 := by
  have orderly := fresh.orderly.run calls
  have reliable := (fresh.reliable timely).run fresh.orderly clear
  have reliable_later := reliable.run orderly clear_later
  simp only [List.nil_append] at reliable reliable_later
  have first := reliable.delivers orderly created registered
  have second := reliable_later.delivers (orderly.run later)
    (List.mem_append.mpr (.inl created)) kept
  have third := reliable_later.delivers (orderly.run later) settled (same ▸ kept)
  -- What is left under the id is the record of the settlement, and continues the early one.
  have known := lastRecord?_eq_some_iff.mpr (.inl third.found)
  obtain ⟨last, found, agrees⟩ := reliable_later.settled settlement settled settles
  obtain rfl : record = last := Option.some.inj (known.symm.trans found)
  have known := lastRecord?_eq_some_iff.mpr (.inl second.found)
  obtain ⟨last, found, continues⟩ := orderly.continues_run
    (lastRecord?_eq_some_iff.mpr (.inl first.found)) later
  obtain rfl : record = last := Option.some.inj (known.symm.trans found)
  have terminal : record.status.isTerminal := by
    rw [agrees.status_eq]
    exact settles
  have absent_record : archive.store.transfers.get? record.id.plain = none := by
    rw [second.id_eq]
    exact absent
  obtain ⟨time, now⟩ := reliable_later.timely
  refine ⟨settledRow record settlement.event archive time,
    TransferRow.opens_row_asArchived third.fits _ _ _ _,
    TransferRow.tellsOf_row third.legible third.id_eq agrees terminal _ _, ?_, ?_⟩
  · exact shows_of_created_first first third creates settles terminal continues reliable.timely now
      opened absent_record
  · exact shows_of_settled_first third second creates settles terminal now opened absent_record

/-- The first transfer of the small market is announced. -/
def sampleAnnouncement : List Call := [.register samplePool, .create (sampleRequest "t1" 300)]

/-- The first transfer of the small market is accepted. -/
def sampleAcceptance : List Call := [.settle (.text "t1") (.accept (.text "olga"))]

/-- An archive that is kept nowhere. -/
def sampleArchive : Archive := { path := ":memory:", kept := .transient }

/-- An archive hears of the first transfer of the small market in either order. -/
theorem filed_either_way_sample :
    ∃ creation ∈ sampleOffice.newsOf sampleAnnouncement,
      ∃ settlement ∈ (sampleOffice.run sampleAnnouncement).newsOf sampleAcceptance,
        ∃ (heard : Archive) (row : TransferRow),
          amountValue row.fee = .ok (.int 3) ∧ amountValue row.net = .ok (.int 297) ∧
          (((sampleOffice.run sampleAnnouncement).withArchive sampleArchive).archiveEvent
            creation.event).archive = some heard ∧
          ((((sampleOffice.run sampleAnnouncement).run sampleAcceptance).withArchive
            heard).archiveEvent settlement.event).readArchive (.transferRow (.text "t1")) =
              .ok (some row) ∧
          (((((sampleOffice.run sampleAnnouncement).run sampleAcceptance).withArchive
            sampleArchive).archiveEvent settlement.event).archiveEvent creation.event).readArchive
              (.transferRow (.text "t1")) = .ok (some row.unpaid) := by
  have fresh : sampleOffice.IsFresh := ⟨rfl, rfl, rfl, rfl⟩
  have clear : Along (fun engine call => call.IsClear engine) sampleOffice sampleFiling :=
    isFiled_sample.mono fun _ _ filed => ⟨filed.names, filed.timely⟩
  have creation_told : (sampleOffice.newsOf sampleAnnouncement).map
      (fun item => (item.event.transfer, item.isSettlement)) = [(.text "t1", false)] := by
    decide +kernel
  have settlement_told : ((sampleOffice.run sampleAnnouncement).newsOf sampleAcceptance).map
      (fun item => (item.event.transfer, item.isSettlement, item.event.fee.toInt, item.event.net)) =
        [(.text "t1", true, 3, 297)] := by
    decide +kernel
  obtain ⟨creation, created, creation_eq⟩ :=
    List.mem_map.mp (creation_told ▸ List.mem_singleton_self _)
  obtain ⟨settlement, settled, settlement_eq⟩ :=
    List.mem_map.mp (settlement_told ▸ List.mem_singleton_self _)
  simp only [Prod.mk.injEq] at creation_eq settlement_eq
  obtain ⟨named, creates⟩ := creation_eq
  obtain ⟨settlement_named, settles, fee, net⟩ := settlement_eq
  have key_eq : creation.key = .text "t1" := by rw [News.key, named]; rfl
  have settlement_key_eq : settlement.key = .text "t1" := by rw [News.key, settlement_named]; rfl
  have registered : ((sampleOffice.run sampleAnnouncement).transfers.get? (.text "t1")).isSome := by
    decide +kernel
  have kept : (((sampleOffice.run sampleAnnouncement).run sampleAcceptance).transfers.get?
      (.text "t1")).isSome := by
    decide +kernel
  obtain ⟨early, registered⟩ := Option.isSome_iff_exists.mp registered
  obtain ⟨record, kept⟩ := Option.isSome_iff_exists.mp kept
  obtain ⟨row, -, tells, ⟨heard, heard_eq, in_order⟩, overtaken⟩ :=
    @filed_either_way_of_run sampleOffice record early sampleArchive fresh tellsTime_sample
      sampleAnnouncement sampleAcceptance ⟨clear.1, clear.2.1, trivial⟩ ⟨clear.2.2.1, trivial⟩
      creation settlement created (List.mem_append.mpr (.inr settled)) creates settles
      (settlement_key_eq.trans key_eq.symm) (key_eq ▸ registered) (key_eq ▸ kept) rfl rfl
  have row_named : row.transfer = "t1" := by
    rw [tells.id_eq, settlement_named]
    rfl
  exact ⟨creation, created, settlement, settled, heard, row, fee ▸ tells.fee_eq, net ▸ tells.net_eq,
    heard_eq, row_named ▸ in_order.row_eq, row_named ▸ overtaken.row_eq⟩

/-- The first transfer of the small market is announced to these listeners, one of which keeps the
archive. -/
def announced (listeners : List Listener) : Engine :=
  { sampleOffice with listeners := listeners }.run sampleAnnouncement

/-- When Olga accepts a transfer as it is announced, the fee is in the archive if its keeper hears
of the creation before her, and is missing if she is the first to hear. -/
theorem unpaid_sample :
    ((announced [.archivist, .acceptor (.text "a") (.text "olga")]).readArchive
        (.transferRow (.text "t1"))).map
          (fun row? => row?.map fun row => (row.status, row.fee, row.net)) =
        .ok (some (.settled .accepted, some "3", some "297")) ∧
      ((announced [.archivist, .acceptor (.text "a") (.text "olga")]).readArchive
        (.reconcile (.text "p"))).map Reconciliation.feesCollected = .ok 3 ∧
      ((announced [.acceptor (.text "a") (.text "olga"), .archivist]).readArchive
        (.transferRow (.text "t1"))).map
          (fun row? => row?.map fun row => (row.status, row.fee, row.net)) =
        .ok (some (.settled .accepted, none, none)) ∧
      ((announced [.acceptor (.text "a") (.text "olga"), .archivist]).readArchive
        (.reconcile (.text "p"))).map Reconciliation.feesCollected = .ok 0 := by
  decide +kernel

end Engine
end Escrow
