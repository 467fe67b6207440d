import Escrow.Archive.Basic
import Escrow.Proofs.Pool
import Escrow.Proofs.Table
import Escrow.Proofs.Text

/-!
# What the archive keeps

Data that are legible fit in their cells, so an open archive takes up every event and every transfer
of legible data.  It keeps one row for each transfer: the first part as it was first written, the
second as it was last.  What it answers about a pool is read off these rows.
-/

namespace Escrow

/-! ## Data that fit in cells -/

namespace Value

/-- The value is a text that can be encoded. -/
def IsLegible (value : Value) : Prop := ∃ text, value = .text text ∧ Text.hasHalf text = false

/-- The value is nothing, or a text that can be encoded. -/
def IsNote (value : Value) : Prop := value = .null ∨ value.IsLegible

/-- The value is nothing, or a code of one byte. -/
def IsCode (value : Value) : Prop := value = .null ∨ ∃ n, value = .int n ∧ 0 ≤ n ∧ n ≤ 255

/-- The value is nothing, or an amount. -/
def IsFigure (value : Value) : Prop := value = .null ∨ ∃ n, value = .int n ∧ IsAmount n

/-- What a text cell keeps of a value: nothing of nothing, else the plain text. -/
def cell? : Value → Option String
  | .null => none
  | value => some value.plain

variable {value : Value}

theorem isLegible_text {text : String} (clear : Text.hasHalf text = false) :
    (Value.text text).IsLegible := ⟨text, rfl, clear⟩

theorem IsLegible.eq_text (legible : value.IsLegible) : value = .text value.plain := by
  obtain ⟨text, rfl, -⟩ := legible
  rfl

theorem IsLegible.isKey (legible : value.IsLegible) : value.isKey := by
  obtain ⟨text, rfl, -⟩ := legible
  exact isKey_text text

theorem IsLegible.canonical_eq (legible : value.IsLegible) :
    value.canonical = .text value.plain := by
  obtain ⟨text, rfl, -⟩ := legible
  exact canonical_text text

private theorem IsLegible.ofText_eq (legible : value.IsLegible) :
    Cell.ofText value = .ok (some value.plain) := by
  obtain ⟨text, rfl, clear⟩ := legible
  simp [Cell.ofText, Cell.textCell, clear, Except.map]

theorem IsLegible.isFit (legible : value.IsLegible) : Cell.isFit value := by
  unfold Cell.isFit
  rw [legible.ofText_eq]

theorem IsLegible.searchText_eq (legible : value.IsLegible) :
    Cell.searchText value = .ok (some value.plain) := by
  unfold Cell.searchText
  rw [legible.ofText_eq]
  rfl

private theorem IsNote.ofText_eq (note : value.IsNote) : Cell.ofText value = .ok value.cell? := by
  rcases note with rfl | legible
  · rfl
  · rw [legible.ofText_eq]
    obtain ⟨text, rfl, -⟩ := legible
    rfl

private theorem IsCode.ofNumber_eq (code : value.IsCode) : Cell.ofNumber value = .ok value := by
  rcases code with rfl | ⟨n, rfl, least, most⟩
  · rfl
  · have fits : Cell.fits n = true := by
      unfold Cell.fits Cell.least Cell.greatest
      rw [Bool.and_eq_true, decide_eq_true_eq, decide_eq_true_eq]
      omega
    simp [Cell.ofNumber, fits]

end Value

namespace Store

theorem amountCell_eq {n : Int} (writable : (Value.int n).isWritable = true) :
    amountCell (.int n) = .ok (Value.int n).plain := by
  simp [amountCell, writable, Cell.textCell, hasHalf_int n]

theorem amountCell_of_amount {n : Int} (amount : IsAmount n) :
    amountCell (.int n) = .ok (Value.int n).plain :=
  amountCell_eq (Value.isWritable_amount amount)

private theorem knownAmount_eq {value : Value} (figure : value.IsFigure) :
    knownAmount value = .ok value.cell? := by
  rcases figure with rfl | ⟨n, rfl, amount⟩
  · rfl
  · simp [knownAmount, amountCell_of_amount amount, Except.map, Value.cell?]

end Store

/-! ## Rows of legible data -/

/-- Every datum of the transfer fits in its cell. -/
structure Transfer.IsLegible (transfer : Transfer) : Prop where
  id : transfer.id.IsLegible
  pool : transfer.pool.IsLegible
  sender : transfer.sender.IsLegible
  recipient : transfer.recipient.IsLegible
  amount : IsAmount transfer.amount
  memo : Text.hasHalf transfer.memo = false
  createdAt : transfer.createdAt.isSome
  reasonCode : transfer.reasonCode.IsCode
  reasonMessage : transfer.reasonMessage.IsNote

/-- The time that a transfer is marked with when it is written at this time. -/
def Transfer.markedAt (transfer : Transfer) (time : Instant) : Option Instant :=
  if transfer.isArchived then some time else none

/-- The row of a transfer that is written at this time. -/
def Transfer.row (transfer : Transfer) (number : Nat) (fee net : Value) (time : Instant) :
    TransferRow where
  number := number
  transfer := transfer.id.plain
  pool := transfer.pool.plain
  sender := transfer.sender.plain
  recipient := transfer.recipient.plain
  amount := (Value.int transfer.amount).plain
  memo := some transfer.memo
  createdAt := (transfer.createdAt.map Instant.text).getD ""
  expiresAt := transfer.expiresAt.map Instant.text
  fee := fee.cell?
  net := net.cell?
  status := transfer.status
  reasonCode := transfer.reasonCode
  reasonMessage := transfer.reasonMessage.cell?
  resolvedAt := transfer.resolvedAt.map Instant.text
  archivedAt := (transfer.markedAt time).map Instant.text

/-- Every datum of the event fits in its cell. -/
structure Event.IsLegible (event : Event) : Prop where
  transfer : event.transfer.IsLegible
  pool : event.pool.IsLegible
  amount : IsAmount event.amount
  fee : ∃ n, event.fee = .number n ∧ IsAmount n
  net : IsAmount event.net
  occurredAt : event.occurredAt.isSome
  reasonCode : event.reasonCode.IsCode
  reasonMessage : event.reasonMessage.IsNote
  reference : event.reference.IsNote

/-- The row of an event. -/
def Event.row (event : Event) (number : Nat) : EventRow where
  number := number
  transfer := event.transfer.plain
  pool := event.pool.plain
  kind := event.kindName
  outcome := event.status.name
  amount := (Value.int event.amount).plain
  fee := event.fee.plain
  net := (Value.int event.net).plain
  reasonCode := event.reasonCode
  reasonMessage := event.reasonMessage.cell?
  reference := event.reference.cell?
  occurredAt := (event.occurredAt.map Instant.text).getD ""

private theorem hasHalf_name (status : Status) : Text.hasHalf status.name = false := by
  rcases status with _ | outcome
  · decide +kernel
  · cases outcome <;> decide +kernel

namespace Store

private theorem rowOf_eq {transfer : Transfer} (legible : transfer.IsLegible) {createdAt : Instant}
    (created : transfer.createdAt = some createdAt) {fee net : Value} (known : fee.IsFigure)
    (netKnown : net.IsFigure) (number : Nat) (time : Instant) :
    rowOf number transfer.toEntry createdAt fee net (transfer.markedAt time) =
      .ok (some (transfer.row number fee net time)) := by
  simp [rowOf, Transfer.toEntry, Transfer.row, legible.id.ofText_eq, legible.pool.ofText_eq,
    legible.sender.ofText_eq, legible.recipient.ofText_eq,
    amountCell_of_amount legible.amount, knownAmount_eq known, knownAmount_eq netKnown,
    (Value.isLegible_text legible.memo).ofText_eq,
    legible.reasonCode.ofNumber_eq, legible.reasonMessage.ofText_eq, created, bind, Except.bind,
    pure, Except.pure]

private theorem eventRowOf_eq {event : Event} (legible : event.IsLegible) {occurredAt : Instant}
    (occurred : event.occurredAt = some occurredAt) (number : Nat) :
    eventRowOf number event.toEntry occurredAt = .ok (some (event.row number)) := by
  obtain ⟨n, fee_eq, fee⟩ := legible.fee
  have kind : Text.hasHalf event.kindName = false ∧ eventKinds.contains event.kindName = true := by
    unfold Event.kindName
    split <;> exact ⟨by decide +kernel, by decide +kernel⟩
  simp [eventRowOf, Event.toEntry, Event.row, legible.transfer.ofText_eq, legible.pool.ofText_eq,
    (Value.isLegible_text kind.1).ofText_eq, (Value.isLegible_text (hasHalf_name _)).ofText_eq,
    List.contains_iff_mem.mp kind.2, amountCell_of_amount legible.amount,
    amountCell_of_amount fee, amountCell_of_amount legible.net, fee_eq, Whole.toValue, Whole.plain,
    legible.reasonCode.ofNumber_eq, legible.reasonMessage.ofText_eq, legible.reference.ofText_eq,
    occurred, bind, Except.bind, pure, Except.pure]

end Store

/-! ## Writing to an open archive -/

/-- The rows with a row written: the first part of a known row stays. -/
def Store.withRow (rows : Table String TransferRow) (row : TransferRow) :
    Table String TransferRow :=
  rows.set row.transfer ((rows.get? row.transfer).elim row (·.updatedBy row))

theorem Store.withRow_of_absent {rows : Table String TransferRow} {row : TransferRow}
    (absent : rows.get? row.transfer = none) : withRow rows row = rows.set row.transfer row := by
  rw [withRow, absent]
  rfl

theorem Store.withRow_of_get? {rows : Table String TransferRow} {row old : TransferRow}
    (found : rows.get? row.transfer = some old) :
    withRow rows row = rows.set row.transfer (old.updatedBy row) := by
  rw [withRow, found]
  rfl

theorem Store.transfers_putRow (store : Store) (row : TransferRow) :
    (store.putRow row).transfers = withRow store.transfers row := by
  unfold putRow withRow
  cases store.transfers.get? row.transfer <;> rfl

/-- What the change by a row would leave alone is the same however the write ends. -/
theorem Store.written_keeps {α β : Type} {part : Store → β} {store later : Store}
    {result : Store.WriteResult} {change : α → Store} {row : Except CellError (Option α)}
    (done : store.written (row.map (·.map change)) = .ok (later, result))
    (aside : ∀ row, part (change row) = part store) : part later = part store := by
  unfold written at done
  split at done
  · rename_i wrote
    cases done
    obtain ⟨row?, -, wrote⟩ := map_eq_ok_iff.mp wrote
    obtain ⟨row, -, rfl⟩ := Option.map_eq_some_iff.mp wrote
    exact aside row
  · cases done
    rfl
  · split at done <;> cases done
    rfl

namespace Archive

/-- The archive is open and keeps these rows and events. -/
structure Keeps (archive : Archive) (rows : Table String TransferRow) (events : List EventRow) :
    Prop where
  isOpen : archive.isOpen = true
  rows_eq : archive.store.transfers = rows
  events_eq : archive.store.events = events

variable {archive : Archive} {rows : Table String TransferRow} {events : List EventRow}

@[simp]
theorem isOpen_prepare (archive : Archive) (statement : Statement) :
    (archive.prepare statement).isOpen = archive.isOpen := by
  unfold Archive.prepare
  split <;> rfl

@[simp]
theorem store_prepare (archive : Archive) (statement : Statement) :
    (archive.prepare statement).store = archive.store := by
  unfold Archive.prepare
  split <;> rfl

private theorem isOpen_write (archive : Archive) (statement : Statement) (first : Value)
    (attempt : Store → Except Fault (Store × Store.WriteResult)) :
    (archive.write statement first attempt).1.isOpen = archive.isOpen := by
  unfold Archive.write
  dsimp only
  split
  · rfl
  · split
    · exact isOpen_prepare archive statement
    · split
      · exact isOpen_prepare archive statement
      · rfl
      · exact isOpen_prepare archive statement

/-- A write leaves alone what its attempt would leave alone. -/
theorem store_write {β : Type} {part : Store → β} {statement : Statement} {first : Value}
    {attempt : Store → Except Fault (Store × Store.WriteResult)}
    (aside : ∀ store result, attempt archive.store = .ok (store, result) →
      part store = part archive.store) :
    part (archive.write statement first attempt).1.store = part archive.store := by
  unfold Archive.write
  dsimp only
  split
  · rfl
  · split
    · rw [store_prepare]
    · split
      · rename_i store result done
        exact aside store result done
      · rfl
      · rw [store_prepare]

/-- A write that would leave the rows and events alone does so. -/
theorem Keeps.write {statement : Statement} {first : Value}
    {attempt : Store → Except Fault (Store × Store.WriteResult)} (keeps : archive.Keeps rows events)
    (aside : ∀ store result, attempt archive.store = .ok (store, result) →
      store.transfers = archive.store.transfers ∧ store.events = archive.store.events) :
    (archive.write statement first attempt).1.Keeps rows events := by
  have rows_kept := @store_write archive _ (·.transfers) statement first attempt
    fun store result done => (aside store result done).1
  have events_kept := @store_write archive _ (·.events) statement first attempt
    fun store result done => (aside store result done).2
  exact ⟨(isOpen_write archive statement first attempt).trans keeps.isOpen,
    rows_kept.trans keeps.rows_eq, events_kept.trans keeps.events_eq⟩

/-- A write of data that fit is done. -/
theorem write_of_isFit (statement : Statement)
    (attempt : Store → Except Fault (Store × Store.WriteResult)) {first : Value} {store : Store}
    (opened : archive.isOpen = true) (fit : Cell.isFit first = true)
    (done : attempt archive.store = .ok (store, .written)) :
    ∃ later, archive.write statement first attempt = (later, .ok true) ∧ later.isOpen = true ∧
      later.store = store := by
  have unrefused : archive.repeatsRefusal statement first = false := by
    simp [repeatsRefusal, fit]
  unfold Archive.write
  simp only [opened, unrefused, done, Bool.not_true, Bool.false_eq_true, if_false]
  exact ⟨_, rfl, (isOpen_prepare archive statement).trans opened, rfl⟩

theorem Keeps.writeEvent {event : Event} (keeps : archive.Keeps rows events)
    (legible : event.IsLegible) :
    ∃ later, archive.writeEvent event.toEntry = (later, .ok true) ∧
      later.Keeps rows (events ++ [event.row (events.length + 1)]) ∧
      later.store.transferWrites = archive.store.transferWrites := by
  obtain ⟨opened, rfl, rfl⟩ := keeps
  obtain ⟨occurredAt, occurred⟩ := Option.isSome_iff_exists.mp legible.occurredAt
  have occurs : event.toEntry.occurredAt = some occurredAt := occurred
  have recorded : archive.store.recordEvent event.toEntry =
      .ok ({ archive.store with
        events := archive.store.events ++ [event.row (archive.store.events.length + 1)] },
        .written) := by
    unfold Store.recordEvent
    rw [occurs]
    dsimp only
    rw [Store.eventRowOf_eq legible occurred]
    rfl
  obtain ⟨later, wrote, stays, store_eq⟩ :=
    write_of_isFit .writeEvent (·.recordEvent event.toEntry) opened legible.transfer.isFit recorded
  refine ⟨later, wrote, ⟨stays, ?_, ?_⟩, ?_⟩ <;> rw [store_eq]

/-- The row of a transfer that is written takes the next number. -/
theorem Keeps.writeTransfer {transfer : Transfer} {fee net : Value} {now : Except Fault Instant}
    {time : Instant} (keeps : archive.Keeps rows events) (legible : transfer.IsLegible)
    (known : fee.IsFigure) (netKnown : net.IsFigure) (timely : now = .ok time) :
    ∃ later, archive.writeTransfer transfer.toEntry fee net now = (later, .ok true) ∧
      later.Keeps
        (Store.withRow rows (transfer.row (archive.store.transferWrites + 1) fee net time))
        events := by
  obtain ⟨opened, rfl, rfl⟩ := keeps
  obtain ⟨createdAt, created⟩ := Option.isSome_iff_exists.mp legible.createdAt
  have creates : transfer.toEntry.createdAt = some createdAt := created
  have marked : Store.archivingTime transfer.toEntry now = .ok (transfer.markedAt time) := by
    subst timely
    unfold Store.archivingTime Transfer.markedAt
    change (if transfer.isArchived then _ else _) = _
    split <;> rfl
  have written : archive.store.archiveTransfer transfer.toEntry fee net (transfer.markedAt time) =
      .ok (archive.store.putRow (transfer.row (archive.store.transferWrites + 1) fee net time),
        .written) := by
    unfold Store.archiveTransfer
    rw [creates]
    dsimp only
    rw [Store.rowOf_eq legible created known netKnown]
    rfl
  obtain ⟨later, wrote, stays, store_eq⟩ :=
    write_of_isFit .writeTransfer (·.archiveTransfer transfer.toEntry fee net _) opened
      legible.id.isFit written
  refine ⟨later, ?_, stays, ?_, ?_⟩
  · unfold Archive.writeTransfer
    rw [marked]
    exact wrote
  · rw [store_eq, Store.transfers_putRow]
  · rw [store_eq]
    rfl

theorem Keeps.writeError (keeps : archive.Keeps rows events) (transfer kind message : Value)
    (now : Except Fault Instant) :
    (archive.writeError transfer kind message now).1.Keeps rows events := by
  have kept (time : Instant) :
      (archive.write .writeError transfer
        (·.recordError transfer kind message time)).1.Keeps rows events := by
    apply keeps.write
    intro store result recorded
    unfold Store.recordError at recorded
    exact ⟨Store.written_keeps recorded fun _ => rfl, Store.written_keeps recorded fun _ => rfl⟩
  unfold Archive.writeError
  rw [keeps.isOpen]
  cases now with
  | error fault => exact keeps
  | ok time => exact kept time

/-- The archive is open and holds these errors. -/
structure Holds (archive : Archive) (errors : List ErrorRow) : Prop where
  isOpen : archive.isOpen = true
  errors_eq : archive.store.errors = errors

variable {errors : List ErrorRow}

/-- A write that would leave the errors alone does so. -/
theorem Holds.write {statement : Statement} {first : Value}
    {attempt : Store → Except Fault (Store × Store.WriteResult)} (holds : archive.Holds errors)
    (aside : ∀ store result, attempt archive.store = .ok (store, result) →
      store.errors = archive.store.errors) :
    (archive.write statement first attempt).1.Holds errors :=
  ⟨(isOpen_write archive statement first attempt).trans holds.isOpen,
    (store_write aside).trans holds.errors_eq⟩

theorem Holds.writeEvent (holds : archive.Holds errors) (entry : EventEntry) :
    (archive.writeEvent entry).1.Holds errors := by
  apply holds.write
  intro store result recorded
  unfold Store.recordEvent at recorded
  split at recorded
  · cases recorded
  · exact Store.written_keeps recorded fun _ => rfl

theorem Holds.writeTransfer (holds : archive.Holds errors) (entry : TransferEntry)
    (fee net : Value) (now : Except Fault Instant) :
    (archive.writeTransfer entry fee net now).1.Holds errors := by
  unfold Archive.writeTransfer
  split
  · apply holds.write
    intro store result written
    unfold Store.archiveTransfer at written
    split at written
    · cases written
    · exact Store.written_keeps written fun _ => rfl
  · exact holds

/-- An error about a legible transfer is noted in words that can be encoded. -/
theorem Holds.writeError {transfer message : Value} {kind : String} {now : Except Fault Instant}
    {time : Instant} (holds : archive.Holds errors) (named : transfer.IsLegible)
    (clear : Text.hasHalf kind = false) (worded : message.IsLegible) (timely : now = .ok time) :
    ∃ later, archive.writeError transfer (.text kind) message now = (later, .ok true) ∧
      later.Holds
        (errors ++ [⟨errors.length + 1, some transfer.plain, kind, message.plain, time.text⟩]) := by
  obtain ⟨opened, rfl⟩ := holds
  have recorded : archive.store.recordError transfer (.text kind) message time =
      .ok ({ archive.store with
        errors := archive.store.errors ++
          [⟨archive.store.errors.length + 1, some transfer.plain, kind, message.plain,
            time.text⟩] }, .written) := by
    have kind_eq := (Value.isLegible_text clear).ofText_eq
    simp [Store.recordError, Store.errorRowOf, Store.written, named.ofText_eq, kind_eq,
      worded.ofText_eq, bind, Except.bind, pure, Except.pure, Except.map]
  obtain ⟨later, wrote, stays, store_eq⟩ :=
    write_of_isFit .writeError (·.recordError transfer (.text kind) message time) opened
      named.isFit recorded
  refine ⟨later, ?_, stays, ?_⟩
  · unfold Archive.writeError
    rw [opened, timely]
    exact wrote
  · rw [store_eq]

/-- A reading of a datum that fits is answered by the store of an open archive. -/
theorem read_of_isFit {α : Type} (query : Query α) (opened : archive.isOpen = true)
    (fit : Cell.isFit query.first = true) : archive.read query = query.answer archive.store := by
  have unrefused : archive.repeatsRefusal query.statement query.first = false := by
    simp [repeatsRefusal, fit]
  unfold Archive.read
  rw [opened, unrefused]
  rfl

theorem Keeps.read_eq {α : Type} {query : Query α} (keeps : archive.Keeps rows events)
    (fit : Cell.isFit query.first = true) : archive.read query = query.answer archive.store :=
  read_of_isFit query keeps.isOpen fit

end Archive

/-! ## Counters rebuilt from rows -/

namespace Store

/-- The amount of a row, if it can be read. -/
def amountIn (row : TransferRow) : Int := (amountOf row).toOption.getD 0

/-- The fee of a row, if it can be read. -/
def feeIn (row : TransferRow) : Int := (feeOf row).toOption.getD 0

/-- The amount and the fee of the row can be read. -/
structure IsReadable (row : TransferRow) : Prop where
  amount : amountOf row = .ok (amountIn row)
  fee : feeOf row = .ok (feeIn row)

/-- What a row of a settled transfer counts for. -/
def settledPart (measure : TransferRow → Int) (row : TransferRow) : Int :=
  if row.status.isTerminal then measure row else 0

/-- A sum over the rows of a pool. -/
def rowSum (rows : Table String TransferRow) (pool : String) (measure : TransferRow → Int) : Int :=
  rows.total fun _ row => if row.pool = pool then measure row else 0

/-- The counters of a pool, rebuilt from its rows. -/
def tallyOf (rows : Table String TransferRow) (pool : String) : Tally where
  deposited := rowSum rows pool amountIn
  withdrawn := rowSum rows pool (settledPart amountIn)
  feesCollected := rowSum rows pool (settledPart feeIn)
  created := rowSum rows pool fun _ => 1
  resolved := rowSum rows pool (settledPart fun _ => 1)

theorem isReadable_of_eq {row : TransferRow} {amount fee : Int}
    (amount_eq : amountOf row = .ok amount) (fee_eq : feeOf row = .ok fee) :
    IsReadable row ∧ amountIn row = amount ∧ feeIn row = fee := by
  have amountIn_eq : amountIn row = amount := by rw [amountIn, amount_eq]; rfl
  have feeIn_eq : feeIn row = fee := by rw [feeIn, fee_eq]; rfl
  exact ⟨⟨amountIn_eq ▸ amount_eq, feeIn_eq ▸ fee_eq⟩, amountIn_eq, feeIn_eq⟩

theorem amountOf_eq {row : TransferRow} {n : Int} (amount : IsAmount n)
    (cell : row.amount = (Value.int n).plain) : amountOf row = .ok n := by
  rw [amountOf, cell, readAmount_plain amount]

theorem feeOf_of_none {row : TransferRow} (cell : row.fee = none) : feeOf row = .ok 0 := by
  rw [feeOf, cell]

theorem feeOf_eq {row : TransferRow} {n : Int} (amount : IsAmount n)
    (cell : row.fee = some (Value.int n).plain) : feeOf row = .ok n := by
  rw [feeOf, cell]
  dsimp only
  rw [isEmpty_amount amount, readAmount_plain amount]
  rfl

variable {rows : Table String TransferRow} {id pool : String} {row old : TransferRow}
  {measure : TransferRow → Int}

private theorem rowSum_set_of_absent (absent : rows.get? id = none) (measure : TransferRow → Int) :
    rowSum (rows.set id row) row.pool measure = rowSum rows row.pool measure + measure row := by
  unfold rowSum
  rw [Table.total_set_of_absent absent, if_pos rfl]

private theorem rowSum_set_of_get? (found : rows.get? id = some old) (pooled : row.pool = old.pool)
    (measure : TransferRow → Int) :
    rowSum (rows.set id row) old.pool measure =
      rowSum rows old.pool measure + measure row - measure old := by
  unfold rowSum
  rw [Table.total_set_of_get? found, if_pos pooled, if_pos rfl]

private theorem rowSum_set_elsewhere (pooled : row.pool ≠ pool)
    (others : ∀ old, rows.get? id = some old → old.pool ≠ pool) (measure : TransferRow → Int) :
    rowSum (rows.set id row) pool measure = rowSum rows pool measure := by
  unfold rowSum
  rw [Table.total_set, if_neg pooled]
  cases found : rows.get? id with
  | none => simp
  | some old => simp [others old found]

theorem tallyOf_elsewhere (pooled : row.pool ≠ pool)
    (others : ∀ old, rows.get? id = some old → old.pool ≠ pool) :
    tallyOf (rows.set id row) pool = tallyOf rows pool := by
  simp only [tallyOf, rowSum_set_elsewhere pooled others]

/-- A row of a new pending transfer counts as a deposit. -/
theorem tallyOf_added (absent : rows.get? id = none) (pending : row.status.isTerminal = false) :
    tallyOf (rows.set id row) row.pool = (tallyOf rows row.pool).deposit (amountIn row) := by
  simp [tallyOf, Tally.deposit, rowSum_set_of_absent absent, settledPart, pending]

/-- A row of a pending transfer that is written over as settled counts as a settlement. -/
theorem tallyOf_settled (found : rows.get? id = some old)
    (pending : old.status.isTerminal = false) (terminal : row.status.isTerminal = true)
    (pooled : row.pool = old.pool) (amount : amountIn row = amountIn old) :
    tallyOf (rows.set id row) old.pool =
      (tallyOf rows old.pool).settle (amountIn old) (feeIn row) := by
  simp [tallyOf, Tally.settle, rowSum_set_of_get? found pooled, settledPart, pending, terminal,
    amount]

theorem sumOf_eq {read : TransferRow → Except Fault Int} {list : List TransferRow}
    (reads : ∀ row ∈ list, read row = .ok (measure row)) :
    sumOf read list = .ok (list.map measure).sum := by
  induction list with
  | nil => rfl
  | cons row rest ih =>
      rw [List.forall_mem_cons] at reads
      simp [sumOf, reads.1, ih reads.2, bind, Except.bind, pure, Except.pure]

/-- The rows of a pool among the given ones. -/
def rowsOf (pool : String) (rows : List TransferRow) : List TransferRow :=
  rows.filter fun row => decide (row.pool = pool)

private theorem sum_rowsOf (rows : Table String TransferRow) (pool : String)
    (measure : TransferRow → Int) :
    ((rowsOf pool rows.values).map measure).sum = rowSum rows pool measure := by
  unfold rowsOf
  rw [Table.sum_values_filter]
  simp [rowSum]

private theorem sum_settledRows (measure : TransferRow → Int) (list : List TransferRow) :
    ((settledRows list).map measure).sum = (list.map (settledPart measure)).sum := by
  unfold settledRows settledPart
  induction list with
  | nil => rfl
  | cons row rest ih => cases terminal : row.status.isTerminal <;> simp [terminal, ih]

theorem rowsOfPool_text {store : Store} {name : String} (clear : Text.hasHalf name = false) :
    store.rowsOfPool (.text name) = .ok (rowsOf name store.transfers.values) := by
  simp [rowsOfPool, poolFilter, (Value.isLegible_text clear).searchText_eq, Except.map, rowsOf]

/-- The counters that are rebuilt from readable rows. -/
def rebuiltOf (pool : Value) (rows : List TransferRow) : Reconciliation where
  pool := pool
  deposited := (rows.map amountIn).sum
  withdrawn := ((settledRows rows).map amountIn).sum
  feesCollected := ((settledRows rows).map feeIn).sum
  resolved := (settledRows rows).length

theorem reconcile_of_rows {store : Store} {pool : Value} {rows : List TransferRow}
    (listed : store.rowsOfPool pool = .ok rows) (readable : ∀ row ∈ rows, IsReadable row) :
    store.reconcile pool = .ok (rebuiltOf pool rows) := by
  have settledReads : ∀ row ∈ settledRows rows, IsReadable row := fun row member =>
    readable row (List.mem_filter.mp member).1
  have amounts := sumOf_eq fun row member => (readable row member).amount
  have settledAmounts := sumOf_eq fun row member => (settledReads row member).amount
  have settledFees := sumOf_eq fun row member => (settledReads row member).fee
  simp [reconcile, listed, amounts, settledAmounts, settledFees, rebuiltOf, bind, Except.bind, pure,
    Except.pure]

/-- The counters that are rebuilt from the readable rows of a pool are those of the tally. -/
theorem reconcile_eq {store : Store} {pool : Value} (legible : pool.IsLegible)
    (readable : ∀ id row, store.transfers.get? id = some row → IsReadable row) :
    ∃ rebuilt, store.reconcile pool = .ok rebuilt ∧
      rebuilt.deposited = (tallyOf store.transfers pool.plain).deposited ∧
      rebuilt.withdrawn = (tallyOf store.transfers pool.plain).withdrawn ∧
      rebuilt.feesCollected = (tallyOf store.transfers pool.plain).feesCollected ∧
      (rebuilt.resolved : Int) = (tallyOf store.transfers pool.plain).resolved := by
  obtain ⟨name, rfl, clear⟩ := legible
  have reads : ∀ row ∈ rowsOf name store.transfers.values, IsReadable row := by
    intro row member
    obtain ⟨id, found⟩ := Table.mem_values_iff.mp (List.mem_filter.mp member).1
    exact readable id row found
  have settled (measure : TransferRow → Int) :
      ((settledRows (rowsOf name store.transfers.values)).map measure).sum =
        rowSum store.transfers name (settledPart measure) :=
    (sum_settledRows _ _).trans (sum_rowsOf _ _ _)
  refine ⟨_, reconcile_of_rows (rowsOfPool_text clear) reads, sum_rowsOf _ _ _, settled _,
    settled _, ?_⟩
  simpa [rebuiltOf, tallyOf] using settled fun _ => 1

end Store
end Escrow
