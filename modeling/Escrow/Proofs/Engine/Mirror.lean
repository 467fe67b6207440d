import Escrow.Proofs.Engine.Chronicle
import Escrow.Proofs.Engine.Reconciliation

/-!
# The archive as a mirror

Of every id the archive shows what the engine knows: no row and no event of an id that is free, an open
row of a pending transfer, and of a settled one a row that is closed and never written again.  The
events of the id are those in the news, in their order.
-/

namespace Escrow

/-- The news is that of the creation of the transfer, which was drafted for a request. -/
def News.Creates (item : News) (transfer : Transfer) : Prop :=
  ∃ request pool reference, item.before.Admits request transfer pool ∧
    item.event = .created transfer reference

/-- The call is one that the archive can show: legible, leaving the archive to its keeper, and with a
clock that can be read. -/
structure Call.IsShown (engine : Engine) (call : Call) : Prop where
  names : call.IsLegible
  spares : call.SparesArchive
  timely : (engine.perform call).1.TellsTime

private theorem Transfer.Continues.asArchived {record transfer : Transfer}
    (continues : record.Continues transfer) : record.asArchived.Continues transfer :=
  ⟨continues.id_eq, continues.pool_eq, continues.sender_eq, continues.recipient_eq,
    continues.amount_eq, continues.createdAt_eq, continues.expiresAt_eq, continues.memo_eq⟩

/-! ## Rows -/

namespace TransferRow

/-- The first part of the row tells with what the transfer was created. -/
structure Opens (row : TransferRow) (transfer : Transfer) : Prop where
  id_eq : row.transfer = transfer.id.plain
  pool_eq : row.pool = transfer.pool.plain
  sender_eq : row.sender = transfer.sender.plain
  recipient_eq : row.recipient = transfer.recipient.plain
  amount_eq : readAmount row.amount = .ok transfer.amount
  memo_eq : row.memo = some transfer.memo
  createdAt_eq : some row.createdAt = transfer.createdAt.map Instant.text
  expiresAt_eq : row.expiresAt = transfer.expiresAt.map Instant.text

/-- The second part of the row tells that nothing has happened since. -/
structure Waits (row : TransferRow) : Prop where
  status_eq : row.status = .pending
  fee_eq : row.fee = none
  net_eq : row.net = none
  resolvedAt_eq : row.resolvedAt = none
  reasonCode_eq : row.reasonCode = .null
  reasonMessage_eq : row.reasonMessage = none
  archivedAt_eq : row.archivedAt = none

/-- The second part of the row tells how the transfer of the record was settled by the event. -/
structure Closes (row : TransferRow) (record : Transfer) (event : Event) : Prop where
  status_eq : row.status = record.status
  resolvedAt_eq : row.resolvedAt = record.resolvedAt.map Instant.text
  reasonCode_eq : row.reasonCode = record.reasonCode
  reasonMessage_eq : row.reasonMessage = record.reasonMessage.cell?
  fee_eq : amountValue row.fee = .ok (.int event.fee.toInt)
  net_eq : amountValue row.net = .ok (.int event.net)
  whole : event.fee.toInt + event.net = record.amount
  archivedAt : row.archivedAt.isSome

variable {row : TransferRow} {transfer : Transfer}

/-- The first part of a row stays when the row is written again. -/
theorem Opens.updatedBy (opens : row.Opens transfer) (new : TransferRow) :
    (row.updatedBy new).Opens transfer :=
  ⟨opens.id_eq, opens.pool_eq, opens.sender_eq, opens.recipient_eq, opens.amount_eq, opens.memo_eq,
    opens.createdAt_eq, opens.expiresAt_eq⟩

theorem opens_row (legible : transfer.IsLegible) (number : Nat) (fee net : Value)
    (time : Instant) : (transfer.row number fee net time).Opens transfer := by
  obtain ⟨createdAt, created⟩ := Option.isSome_iff_exists.mp legible.createdAt
  refine ⟨rfl, rfl, rfl, rfl, readAmount_plain legible.amount, rfl, ?_, rfl⟩
  simp [Transfer.row, created]

private theorem waits_row (untouched : transfer.toProgress = {}) (number : Nat) (time : Instant) :
    (transfer.row number .null .null time).Waits := by
  have unmarked : transfer.markedAt time = none := by
    rw [Transfer.markedAt, untouched]
    rfl
  constructor <;> simp [Transfer.row, unmarked, untouched, Value.cell?]

theorem amountValue_cell? {n : Int} (amount : IsAmount n) :
    amountValue (Value.int n).cell? = .ok (.int n) := by
  simp [amountValue, Value.cell?, readAmount_plain amount, Except.map]

/-- The row that is written of an archived transfer tells how it was settled. -/
theorem closes_row {record : Transfer} {event : Event} (legible : event.IsLegible)
    (whole : event.fee.toInt + event.net = record.amount) (old : TransferRow) (number : Nat)
    (time : Instant) :
    (old.updatedBy (record.asArchived.row number event.fee.toValue (.int event.net) time)).Closes
      record.asArchived event := by
  obtain ⟨fee, fee_eq, amount⟩ := legible.fee
  refine ⟨rfl, rfl, rfl, rfl, ?_, amountValue_cell? legible.net, whole, rfl⟩
  rw [fee_eq]
  exact amountValue_cell? amount

end TransferRow

/-- The events of an id. -/
def eventsOf (id : String) (events : List EventRow) : List EventRow :=
  events.filter fun row => decide (row.transfer = id)

/-- What the engine has on record under an id, the row of the id, its events and the news of it show
the same. -/
inductive Mirrors (id : String) :
    Option Transfer → Option TransferRow → List EventRow → List News → Prop where
  | unknown : Mirrors id none none [] []
  | pending {transfer : Transfer} {row : TransferRow} {creation : News} {number : Nat}
      (named : transfer.id = .text id) (creates : creation.Creates transfer)
      (opens : row.Opens transfer) (waits : row.Waits) :
      Mirrors id (some transfer) (some row) [creation.event.row number] [creation]
  | settled {transfer record : Transfer} {row : TransferRow} {creation settlement : News}
      {first second : Nat} (named : transfer.id = .text id) (creates : creation.Creates transfer)
      (opens : row.Opens transfer) (continues : record.Continues transfer)
      (settles : settlement.isSettlement) (terminal : record.status.isTerminal)
      (closes : row.Closes record settlement.event) :
      Mirrors id (some record) (some row)
        [creation.event.row first, settlement.event.row second] [creation, settlement]

namespace Mirrors

variable {id : String} {transfer : Transfer} {row? : Option TransferRow} {own : List EventRow}
  {told : List News}

private theorem of_none (mirrors : Mirrors id none row? own told) : row? = none ∧ own = [] ∧ told =
    [] := by
  cases mirrors with
  | unknown => exact ⟨rfl, rfl, rfl⟩

private theorem isActive_of_creates {creation : News} (creates : creation.Creates transfer) :
    transfer.isActive := by
  obtain ⟨request, pool, reference, admits, -⟩ := creates
  exact admits.asked.isActive

private theorem of_isActive (mirrors : Mirrors id (some transfer) row? own told)
    (active : transfer.isActive) :
    ∃ row creation number, row? = some row ∧ own = [creation.event.row number] ∧
      told = [creation] ∧ transfer.id = .text id ∧ creation.Creates transfer ∧
        row.Opens transfer ∧ row.Waits := by
  cases mirrors with
  | pending named creates opens waits =>
      exact ⟨_, _, _, rfl, rfl, rfl, named, creates, opens, waits⟩
  | settled named creates opens continues settles terminal =>
      rw [Progress.isActive_of_isTerminal terminal] at active
      cases active

private theorem archived (mirrors : Mirrors id (some transfer) row? own told)
    (terminal : transfer.status.isTerminal) :
    Mirrors id (some transfer.asArchived) row? own told := by
  cases mirrors with
  | pending named creates =>
      have active := isActive_of_creates creates
      rw [Progress.isActive_of_isTerminal terminal] at active
      cases active
  | settled named creates opens continues settles terminal closes =>
      refine .settled named creates opens continues.asArchived settles terminal ?_
      exact ⟨closes.status_eq, closes.resolvedAt_eq, closes.reasonCode_eq,
        closes.reasonMessage_eq, closes.fee_eq, closes.net_eq, closes.whole, closes.archivedAt⟩

end Mirrors

namespace Engine

/-- The tables of the archive mirror what the engine knows, id by id. -/
structure Mirrored (news : List News) (engine : Engine) (rows : Table String TransferRow)
    (events : List EventRow) : Prop where
  stores : engine.Stores rows events
  named : ∀ item ∈ news, ∃ id, item.event.transfer = .text id
  each : ∀ id, Mirrors id (engine.lastRecord? (.text id)) (rows.get? id) (eventsOf id events)
    (newsAt (.text id) news)

/-- The later rows have every row of a settled transfer as it was. -/
def Outlasts (later rows : Table String TransferRow) : Prop :=
  ∀ id row, rows.get? id = some row → row.status.isTerminal → later.get? id = some row

variable {origin before between after engine : Engine} {call : Call} {past news : List News}
  {item : News} {rows later : Table String TransferRow} {events : List EventRow} {place : String}

theorem Outlasts.refl (rows : Table String TransferRow) : Outlasts rows rows :=
  fun _ _ found _ => found

theorem Outlasts.trans {latest : Table String TransferRow} (second : Outlasts latest later)
    (first : Outlasts later rows) : Outlasts latest rows :=
  fun id row found terminal => second id row (first id row found terminal) terminal

/-! ## Acts without news -/

/-- A step without news leaves the tables a mirror. -/
theorem Mirrored.of_quiet (mirrored : Mirrored past before rows events)
    (step : Step origin call before [] after) (tidy : before.Tidy)
    (stores : after.Stores rows events) : Mirrored (past ++ []) after rows events := by
  rw [List.append_nil]
  refine ⟨stores, mirrored.named, ?_⟩
  intro id
  have shown := mirrored.each id
  have change := step.change tidy (.text id)
  generalize after.lastRecord? (.text id) = record, told_eq : newsAt _ [] = told at change
  cases change with
  | kept => exact shown
  | archived found terminal =>
      rw [found] at shown
      exact shown.archived terminal
  | created => cases told_eq
  | settled => cases told_eq

/-! ## Acts with news -/

private theorem lastRecord?_text_of_set {transfer : Transfer}
    (transfers : after.transfers = before.transfers.set (.text place) transfer)
    (pruned : after.pruned = before.pruned) (id : String) :
    after.lastRecord? (.text id) =
      if id = place then some transfer else before.lastRecord? (.text id) := by
  rw [lastRecord?_of_set transfers pruned]
  simp

/-- Filing news of one id touches nothing else. -/
theorem Mirrored.of_filed {number : Nat} {row : TransferRow} {record : Transfer}
    (mirrored : Mirrored past before rows events)
    (stores : after.Stores (rows.set place row) (events ++ [item.event.row number]))
    (named : item.event.transfer = .text place)
    (records : ∀ id, after.lastRecord? (.text id) =
      if id = place then some record else before.lastRecord? (.text id))
    (here : Mirrors place (some record) (some row)
      (eventsOf place events ++ [item.event.row number]) (newsAt (.text place) past ++ [item])) :
    Mirrored (past ++ [item]) after (rows.set place row) (events ++ [item.event.row number]) := by
  have event_id : (item.event.row number).transfer = place := by
    rw [Event.row, named]
    rfl
  have key_eq : item.key = .text place := by
    rw [News.key, named, Value.canonical_text]
  refine ⟨stores, ?_, ?_⟩
  · intro other member
    rcases List.mem_append.mp member with old | new
    · exact mirrored.named other old
    · exact ⟨place, List.mem_singleton.mp new ▸ named⟩
  intro id
  rw [records, Table.get?_set]
  by_cases same : id = place
  · subst same
    have own : eventsOf id (events ++ [item.event.row number]) =
        eventsOf id events ++ [item.event.row number] := by
      simp [eventsOf, event_id]
    have told : newsAt (.text id) (past ++ [item]) = newsAt (.text id) past ++ [item] := by
      simp [newsAt, key_eq]
    rw [if_pos rfl, if_pos rfl, own, told]
    exact here
  · have own : eventsOf id (events ++ [item.event.row number]) = eventsOf id events := by
      simp [eventsOf, event_id, Ne.symm same]
    have told : newsAt (.text id) (past ++ [item]) = newsAt (.text id) past := by
      simp [newsAt, key_eq, Ne.symm same]
    rw [if_neg same, if_neg same, own, told]
    exact mirrored.each id

private theorem outlasts_set {row : TransferRow}
    (pending : ∀ old, rows.get? place = some old → old.status = .pending) :
    Outlasts (rows.set place row) rows := by
  intro id old found terminal
  rw [Table.get?_set, if_neg]
  · exact found
  · rintro rfl
    rw [pending old found] at terminal
    cases terminal

/-- Filing the creation of a transfer leaves the tables a mirror. -/
theorem Mirrored.file_created {request : CreateRequest} {transfer : Transfer} {pool : Pool}
    {reference : Value} {time : Instant} (mirrored : Mirrored past before rows events)
    (admits : before.Admits request transfer pool) (fits : transfer.IsLegible)
    (noted : reference.IsLegible)
    (transfers : between.transfers = before.transfers.set transfer.id.canonical transfer)
    (pruned : between.pruned = before.pruned) (archive : between.archive = before.archive)
    (timely : between.now = .ok time) :
    ∃ rows' events',
      Mirrored (past ++ [⟨before, .created transfer reference⟩])
          (between.archiveEvent (.created transfer reference)) rows' events' ∧
        Outlasts rows' rows := by
  have key_eq : transfer.id.canonical = .text transfer.id.plain := fits.id.canonical_eq
  have found : between.transfers.get? transfer.id.canonical = some transfer := by
    rw [transfers]
    exact Table.get?_set_self _ _ _
  obtain ⟨next, number, filed, keeps⟩ :=
    archiveEvent_created (mirrored.stores.of_same archive) (isLegible_created fits noted) rfl found
      fits timely
  have free : before.lastRecord? (.text transfer.id.plain) = none := by
    rw [lastRecord?_eq_none_iff, Value.canonical_text, ← key_eq]
    exact ⟨admits.unused, admits.unpruned⟩
  have shown := mirrored.each transfer.id.plain
  rw [free] at shown
  obtain ⟨absent, own, told⟩ := shown.of_none
  have written : Store.withRow rows (transfer.row number .null .null time) =
      rows.set transfer.id.plain (transfer.row number .null .null time) :=
    Store.withRow_of_absent absent
  have records := lastRecord?_text_of_set (key_eq ▸ transfers) pruned
  rw [written] at keeps
  rw [filed]
  refine ⟨_, _, mirrored.of_filed ⟨next, rfl, keeps⟩ fits.id.eq_text records ?_, outlasts_set ?_⟩
  · rw [own, told]
    exact .pending fits.id.eq_text ⟨request, pool, reference, admits, rfl⟩
      (TransferRow.opens_row fits _ _ _ _) (TransferRow.waits_row admits.asked.untouched _ _)
  · intro old there
    rw [absent] at there
    cases there

/-- Filing the settlement of a transfer leaves the tables a mirror. -/
theorem Mirrored.file_settled {transfer record : Transfer} {time : Instant}
    (mirrored : Mirrored past before rows events)
    (pending : before.lastRecord? (.text place) = some transfer) (active : transfer.isActive)
    (legible : item.event.IsLegible) (named : item.event.transfer = .text place)
    (settles : item.isSettlement) (fits : record.IsLegible) (continues : record.Continues transfer)
    (terminal : record.status.isTerminal)
    (whole : item.event.fee.toInt + item.event.net = record.amount)
    (transfers : between.transfers = before.transfers.set (.text place) record)
    (pruned : between.pruned = before.pruned) (archive : between.archive = before.archive)
    (timely : between.now = .ok time) :
    ∃ rows' events', Mirrored (past ++ [item]) (between.archiveEvent item.event) rows' events' ∧
      Outlasts rows' rows := by
  have key_eq : item.event.transfer.canonical = .text place := by
    rw [named, Value.canonical_text]
  have found : between.transfers.get? item.event.transfer.canonical = some record := by
    rw [key_eq, transfers]
    exact Table.get?_set_self _ _ _
  obtain ⟨next, number, filed, keeps⟩ :=
    archiveEvent_settled (mirrored.stores.of_same archive) legible settles found terminal fits timely
  have shown := mirrored.each place
  rw [pending] at shown
  obtain ⟨old, creation, first, registered, own, told, transfer_id, creates, opens, waits⟩ :=
    shown.of_isActive active
  have place_eq : (record.asArchived.row number item.event.fee.toValue (.int item.event.net)
      time).transfer = place := by
    change record.id.plain = place
    rw [continues.id_eq, transfer_id]
    rfl
  have written := Store.withRow_of_get? (place_eq ▸ registered)
  have records (id : String) : (between.archiveEvent item.event).lastRecord? (.text id) =
      if id = place then some record.asArchived else before.lastRecord? (.text id) := by
    rw [filed, key_eq, transfers]
    unfold lastRecord?
    dsimp only
    rw [pruned, Table.get?_set, Table.get?_set]
    by_cases same : id = place <;> simp [same]
  rw [written, place_eq] at keeps
  refine ⟨_, _, mirrored.of_filed ⟨next, ?_, keeps⟩ named records ?_, outlasts_set ?_⟩
  · rw [filed]
  · rw [own, told]
    exact .settled transfer_id creates (opens.updatedBy _) continues.asArchived settles terminal
      (TransferRow.closes_row legible whole old number time)
  · intro other there
    rw [registered] at there
    cases there
    exact waits.status_eq

/-- The filing of the news of a step leaves the tables a mirror. -/
theorem Step.mirrored (step : Step origin call before [item] after) (names : call.IsLegible)
    (orderly : before.Orderly) (timely : before.TellsTime) (legible : before.IsLegible)
    (mirrored : Mirrored past before rows events) :
    ∃ rows' events', Mirrored (past ++ [item]) (after.archiveEvent item.event) rows' events' ∧
      Outlasts rows' rows := by
  have clock := timely
  obtain ⟨time, now_eq⟩ := timely
  cases step with
  | deposit asked drawn admits moved booking =>
      exact mirrored.file_created admits (admits.isLegible orderly legible clock (asked ▸ names))
        (isLegible_reference orderly.onBooks moved) rfl rfl rfl now_eq
  | @settlement _ id settling transfer pool booked settlement ledger reference settled allows
      moved =>
      have known := legible.transfers _ _ allows.transfer_found
      have key_eq := legible.key_eq orderly allows.transfer_found
      have noted := isLegible_reference orderly.onBooks moved
      have pending : before.lastRecord? (.text transfer.id.plain) = some transfer := by
        rw [lastRecord?_eq_some_iff, Value.canonical_text, ← key_eq]
        exact .inl allows.transfer_found
      refine mirrored.file_settled pending allows.pending
        (isLegible_settled allows legible noted settled) known.id.eq_text
        (transfer.isTerminal_settledBy settlement settled) (allows.isLegible known settled)
        ⟨rfl, rfl, rfl, rfl, rfl, rfl, rfl, rfl⟩ (transfer.isTerminal_settledBy settlement settled)
        ?_ ?_ rfl rfl now_eq
      · change (feeOf transfer pool settlement).toInt +
          (transfer.amount - (feeOf transfer pool settlement).toInt) = transfer.amount
        omega
      · rw [← key_eq]

/-- Every act of a call that the archive can show leaves the tables a mirror, and keeps the rows of
settled transfers. -/
theorem Act.mirrored (act : Act origin call before news after) (names : call.IsLegible)
    (orderly : before.Orderly) (timely : before.TellsTime) (legible : before.IsLegible)
    (mirrored : Mirrored past before rows events) :
    ∃ rows' events', Mirrored (past ++ news) after rows' events' ∧ Outlasts rows' rows := by
  cases act with
  | quiet step leaves =>
      have stores := leaves.tables rows events mirrored.stores
      exact ⟨rows, events, mirrored.of_quiet step orderly.tidy stores, .refl rows⟩
  | filed step => exact step.mirrored names orderly timely legible mirrored

/-! ## Runs -/

private theorem run_mirrored (orderly : engine.Orderly) (keeper : engine.KeepsArchive)
    (timely : engine.TellsTime) (legible : engine.IsLegible)
    (mirrored : Mirrored past engine rows events) {calls : List Call}
    (shown : Along (fun engine call => call.IsShown engine) engine calls) :
    (engine.run calls).TellsTime ∧ (engine.run calls).IsLegible ∧
      ∃ rows' events', Mirrored (past ++ engine.newsOf calls) (engine.run calls) rows' events' ∧
        Outlasts rows' rows := by
  refine @run_files (fun engine call => call.IsShown engine)
    (fun news engine => engine.TellsTime ∧ engine.IsLegible ∧
      ∃ rows' events', Mirrored news engine rows' events' ∧ Outlasts rows' rows)
    ?_ (fun _ _ shown => shown.spares) engine orderly keeper calls shown past
    ⟨timely, legible, rows, events, mirrored, .refl rows⟩
  rintro origin call shown before news after past act orderly
    ⟨timely, legible, rows', events', mirrored, outlasts⟩
  have stays := act.isLegible shown.names shown.timely orderly timely legible
  obtain ⟨rows'', events'', mirrored, further⟩ :=
    act.mirrored shown.names orderly timely legible mirrored
  exact ⟨stays.1, stays.2, rows'', events'', mirrored, further.trans outlasts⟩

private theorem IsFresh.mirrored (fresh : engine.IsFresh) (empty : engine.Stores .empty []) :
    Mirrored [] engine .empty [] := by
  refine ⟨empty, by simp, ?_⟩
  intro id
  have free : engine.lastRecord? (.text id) = none := by
    rw [lastRecord?_eq_none_iff, fresh.transfers, fresh.pruned]
    exact ⟨rfl, rfl⟩
  rw [free]
  exact .unknown

/-- What the tables keep of an id is what the archive answers when it is asked. -/
theorem Mirrored.answers (mirrored : Mirrored past engine rows events) {id : String}
    (clear : Text.hasHalf id = false) :
    engine.readArchive (.transferRow (.text id)) = .ok (rows.get? id) ∧
      engine.readArchive (.eventsOf (.text id)) = .ok (eventsOf id events) := by
  obtain ⟨archive, held, keeps⟩ := mirrored.stores
  have legible := Value.isLegible_text clear
  have row := @Archive.Keeps.read_eq archive rows events _ (.transferRow (.text id)) keeps
    legible.isFit
  have own := @Archive.Keeps.read_eq archive rows events _ (.eventsOf (.text id)) keeps
    legible.isFit
  unfold readArchive
  rw [held]
  dsimp only
  rw [row, own]
  simp [Query.transferRow, Query.eventsOf, Store.transferRow?, Store.eventsOf, legible.searchText_eq,
    keeps.rows_eq, keeps.events_eq, eventsOf, Value.plain, Except.map]

/-- Between any two calls the archive mirrors the engine, and answers accordingly, as long as names are
legible, fees are numbers, the clock can be read, and nobody else touches the archive.  The row of a
settled transfer is kept whatever comes later. -/
theorem mirrored_of_run {engine : Engine} (fresh : engine.IsFresh) (timely : engine.TellsTime)
    (keeper : engine.KeepsArchive) (empty : engine.Stores .empty []) {calls : List Call}
    (shown : Along (fun engine call => call.IsShown engine) engine calls) :
    ∃ rows events, Mirrored (engine.newsOf calls) (engine.run calls) rows events ∧
      (∀ id, Text.hasHalf id = false →
        (engine.run calls).readArchive (.transferRow (.text id)) = .ok (rows.get? id) ∧
          (engine.run calls).readArchive (.eventsOf (.text id)) = .ok (eventsOf id events)) ∧
      ∀ later, Along (fun engine call => call.IsShown engine) (engine.run calls) later →
        ∃ rows' events', ((engine.run calls).run later).Stores rows' events' ∧
          Outlasts rows' rows := by
  obtain ⟨next_timely, legible, rows, events, mirrored, -⟩ :=
    run_mirrored fresh.orderly keeper timely fresh.isLegible (fresh.mirrored empty) shown
  refine ⟨rows, events, mirrored, fun id clear => mirrored.answers clear, ?_⟩
  intro later shown_later
  have next_keeper := keeper.run (fun _ _ shown => shown.spares) fresh.orderly shown
  obtain ⟨-, -, rows', events', further, outlasts⟩ :=
    run_mirrored (fresh.orderly.run calls) next_keeper next_timely legible mirrored shown_later
  exact ⟨rows', events', further.stores, outlasts⟩

/-- The small market files the settlement of its first transfer, and its second one as pending. -/
theorem mirrored_sample :
    ∃ first second, (sampleOffice.run sampleFiling).readArchive (.transferRow (.text "t1")) =
        .ok (some first) ∧
      (sampleOffice.run sampleFiling).readArchive (.transferRow (.text "t2")) =
        .ok (some second) ∧
      amountValue first.fee = .ok (.int 3) ∧ amountValue first.net = .ok (.int 297) ∧
      second.Waits := by
  have fresh : sampleOffice.IsFresh := ⟨rfl, rfl, rfl, rfl⟩
  have keeper : sampleOffice.KeepsArchive := ⟨[], rfl, by simp⟩
  have empty : sampleOffice.Stores .empty [] := ⟨_, rfl, rfl, rfl, rfl⟩
  have shown : Along (fun engine call => call.IsShown engine) sampleOffice sampleFiling :=
    isFiled_sample.mono fun _ _ filed => ⟨filed.names, filed.spares, filed.timely⟩
  obtain ⟨rows, events, mirrored, answers, -⟩ :=
    mirrored_of_run fresh tellsTime_sample keeper empty shown
  have first_told : (newsAt (.text "t1") (sampleOffice.newsOf sampleFiling)).map
      (fun item => (item.event.fee.toInt, item.event.net)) = [(0, 300), (3, 297)] := by
    decide +kernel
  have second_told : (newsAt (.text "t2") (sampleOffice.newsOf sampleFiling)).length = 1 := by
    decide +kernel
  have first := mirrored.each "t1"
  have second := mirrored.each "t2"
  rw [(answers "t1" (by decide +kernel)).1, (answers "t2" (by decide +kernel)).1]
  generalize newsAt (.text "t1") _ = told, rows.get? "t1" = row? at first first_told ⊢
  generalize newsAt (.text "t2") _ = later, rows.get? "t2" = other? at second second_told ⊢
  generalize lastRecord? _ (.text "t1") = record?, eventsOf "t1" events = own at first
  generalize lastRecord? _ (.text "t2") = record?, eventsOf "t2" events = own at second
  cases first with
  | unknown => simp at first_told
  | pending => simp at first_told
  | settled _ _ _ _ _ _ closes =>
      simp only [List.map_cons, List.cons.injEq, Prod.mk.injEq] at first_told
      obtain ⟨-, ⟨fee, net⟩, -⟩ := first_told
      cases second with
      | unknown => cases second_told
      | pending _ _ _ waits =>
          exact ⟨_, _, rfl, rfl, fee ▸ closes.fee_eq, net ▸ closes.net_eq, waits⟩
      | settled => cases second_told

/-- The small market with a transfer whose fee is a truth value. -/
def sampleTruth : List Call :=
  [.register { samplePool with schedule := { default := truthPolicy } },
    .create (sampleRequest "t1" 100), .settle (.text "t1") (.accept (.text "olga"))]

/-- A fee that is a truth value is one in the event of the settlement, but no number in its row, which
cannot be read any more. -/
theorem misread_sample :
    (sampleOffice.newsOf sampleTruth).map (fun item => (item.event.fee.toInt, item.event.net)) =
        [(0, 100), (1, 99)] ∧
      ((sampleOffice.run sampleTruth).readArchive (.transferRow (.text "t1"))).map
          (fun row? => row?.map fun row => (row.fee, row.net)) =
        .ok (some (some "True", some "99")) ∧
      (sampleOffice.run sampleTruth).readArchive ((Query.transferRow (.text "t1")).andThen
          fun row? => row?.mapM TransferRow.toValue) = .error (.badNumeral (.text "True")) := by
  decide +kernel

end Engine
end Escrow
