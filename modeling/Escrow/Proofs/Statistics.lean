import Escrow.Proofs.Double
import Escrow.Proofs.Filings

/-!
# Figures that add up

The statistics of a pool and the counters that are rebuilt for it are two readings of the same rows.
They agree with each other, and over the pools that occur the statistics add up to those of the whole
archive, whatever the rows are, as long as their amounts and fees are numerals.  The record of the
statistics shows the average fee, too, which must be a double.
-/

namespace Escrow

/-! ## Figures of a list of rows -/

namespace Statistics

/-- The statistics of readable rows. -/
def ofRows (rows : List TransferRow) : Statistics where
  count := fun status => (rows.filter fun row => decide (row.status = status)).length
  settled := (Store.settledRows rows).length
  volume := ((Store.settledRows rows).map Store.amountIn).sum
  fees := ((Store.settledRows rows).map Store.feeIn).sum

/-- Every transfer has one status. -/
theorem total_ofRows (rows : List TransferRow) : (ofRows rows).total = rows.length := by
  induction rows with
  | nil => rfl
  | cons row rest ih =>
      have split_eq (status : Status) :
          (ofRows (row :: rest)).count status =
            (if row.status = status then 1 else 0) + (ofRows rest).count status := by
        by_cases same : row.status = status <;> simp [ofRows, same, Nat.add_comm]
      simp only [total, Status.all, Outcome.all, List.map_cons, List.map_nil, List.foldl_cons,
        List.foldl_nil, split_eq, List.length_cons] at ih ⊢
      rcases row.status with _ | outcome
      · simp
        omega
      · cases outcome <;> simp <;> omega

/-- The two readings of the rows of a pool give the same figures. -/
structure AgreesWith (statistics : Statistics) (rebuilt : Reconciliation) : Prop where
  volume_eq : statistics.volume = rebuilt.withdrawn
  fees_eq : statistics.fees = rebuilt.feesCollected
  settled_eq : statistics.settled = rebuilt.resolved
  pending_eq : statistics.settled + statistics.count .pending = statistics.total

/-- Every count and every sum is the sum of those of the parts. -/
structure AddsUp (whole : Statistics) (parts : List Statistics) : Prop where
  total_eq : whole.total = (parts.map total).sum
  settled_eq : whole.settled = (parts.map settled).sum
  count_eq : ∀ status, whole.count status = (parts.map (·.count status)).sum
  volume_eq : whole.volume = (parts.map volume).sum
  fees_eq : whole.fees = (parts.map fees).sum

end Statistics

/-- The rows of pending transfers. -/
def Store.pendingRows (rows : List TransferRow) : List TransferRow :=
  rows.filter fun row => decide (row.status = .pending)

theorem Status.pending_eq_not_isTerminal (status : Status) :
    decide (status = .pending) = !status.isTerminal := by
  cases status <;> rfl

private theorem Store.settled_add_pending (rows : List TransferRow) :
    (settledRows rows).length + (pendingRows rows).length = rows.length := by
  unfold settledRows pendingRows
  simp only [Status.pending_eq_not_isTerminal]
  exact (List.length_eq_length_filter_add _).symm

private theorem Statistics.agreesWith_ofRows (pool : Value) (rows : List TransferRow) :
    (ofRows rows).AgreesWith (Store.rebuiltOf pool rows) where
  volume_eq := rfl
  fees_eq := rfl
  settled_eq := rfl
  pending_eq := by
    rw [total_ofRows]
    exact Store.settled_add_pending rows

/-- What is held for a pool is what its pending rows amount to. -/
theorem Store.escrowed_rebuiltOf (pool : Value) (rows : List TransferRow) :
    (rebuiltOf pool rows).escrowed = ((pendingRows rows).map amountIn).sum := by
  unfold Reconciliation.escrowed rebuiltOf settledRows pendingRows
  dsimp only
  induction rows with
  | nil => rfl
  | cons row rest ih =>
      rcases status_eq : row.status with _ | outcome <;>
        simp [status_eq, Status.isTerminal] at ih ⊢ <;> omega

/-! ## Rows by their pools -/

/-- A figure that adds up over lists is the sum of its values on the items of each key. -/
theorem sum_of_keys {α κ M : Type} [DecidableEq κ] [AddCommMonoid M] (figure : List α → M)
    (nothing : figure [] = 0)
    (joined : ∀ first rest, figure (first ++ rest) = figure first + figure rest) {key : α → κ}
    {keys : List κ} (distinct : keys.Nodup) {items : List α}
    (covered : ∀ item ∈ items, key item ∈ keys) :
    figure items =
      (keys.map fun k => figure (items.filter fun item => decide (key item = k))).sum := by
  induction items with
  | nil => simp [nothing]
  | cons item rest ih =>
      rw [List.forall_mem_cons] at covered
      have each (k : κ) :
          figure ((item :: rest).filter fun item => decide (key item = k)) =
            (if key item = k then figure [item] else 0) +
              figure (rest.filter fun item => decide (key item = k)) := by
        by_cases same : key item = k
        · simp only [same, List.filter_cons, decide_true, if_true]
          exact joined [item] _
        · simp [same]
      have own : (keys.map fun k => if key item = k then figure [item] else 0).sum =
          figure [item] := by
        rw [List.sum_map_eq_nsmul_single (key item) _ fun k other _ => if_neg other.symm, if_pos rfl,
          List.count_eq_one_of_mem distinct covered.1, one_nsmul]
      simp only [each, List.sum_map_add, own]
      rw [← ih covered.2]
      exact joined [item] rest

namespace Store

/-- The pools that occur in rows, each one once. -/
def poolsOf (rows : List TransferRow) : List String := (rows.map (·.pool)).dedup

variable {store : Store} {pool : Value} {rows : List TransferRow}

private theorem rowsOfPool_null : store.rowsOfPool .null = .ok store.transfers.values := by
  simp [rowsOfPool, poolFilter, Except.map]

/-- The statistics of readable rows are read off them. -/
theorem statistics_eq (listed : store.rowsOfPool pool = .ok rows)
    (readable : ∀ row ∈ rows, IsReadable row) :
    store.statistics pool = .ok (.ofRows rows) := by
  have settledReads : ∀ row ∈ settledRows rows, IsReadable row := fun row member =>
    readable row (List.mem_filter.mp member).1
  have amounts := sumOf_eq fun row member => (settledReads row member).amount
  have fees := sumOf_eq fun row member => (settledReads row member).fee
  simp [statistics, listed, amounts, fees, Statistics.ofRows, bind, Except.bind, pure, Except.pure]

end Store

/-- Over the pools that occur, the statistics add up to those of all rows. -/
theorem Statistics.addsUp_ofRows (rows : List TransferRow) :
    (ofRows rows).AddsUp
      ((Store.poolsOf rows).map fun pool => ofRows (Store.rowsOf pool rows)) := by
  have covered : ∀ row ∈ rows, row.pool ∈ Store.poolsOf rows := fun row member =>
    List.mem_dedup.mpr (List.mem_map_of_mem member)
  have added {M : Type} [AddCommMonoid M] (figure : List TransferRow → M) (nothing : figure [] = 0)
      (joined : ∀ first rest, figure (first ++ rest) = figure first + figure rest) :
      figure rows = ((Store.poolsOf rows).map fun pool => figure (Store.rowsOf pool rows)).sum :=
    sum_of_keys figure nothing joined (List.nodup_dedup _) covered
  constructor
  case total_eq =>
    simp only [List.map_map, Function.comp_def, total_ofRows]
    exact added List.length rfl fun _ _ => List.length_append
  case count_eq =>
    intro status
    rw [List.map_map]
    exact added (fun rows => (ofRows rows).count status) rfl fun _ _ => by simp [ofRows]
  all_goals rw [List.map_map]
  case settled_eq =>
    exact added (fun rows => (ofRows rows).settled) rfl fun _ _ => by
      simp [ofRows, Store.settledRows]
  case volume_eq =>
    exact added (fun rows => (ofRows rows).volume) rfl fun _ _ => by
      simp [ofRows, Store.settledRows]
  case fees_eq =>
    exact added (fun rows => (ofRows rows).fees) rfl fun _ _ => by
      simp [ofRows, Store.settledRows]

/-! ## The record of the statistics -/

namespace Statistics

/-- The fees are not too great beside the volume for their share to be a double. -/
def IsShowable (statistics : Statistics) : Prop :=
  0 < statistics.volume →
    statistics.fees.natAbs < Double.overflowBound * statistics.volume.natAbs

/-- A share can be given in percent unless it is out of the range of the doubles. -/
theorem percentageValue_cases (part whole : Int) :
    (∃ share, percentageValue part whole = .ok share ∧
        (0 < whole → part.natAbs < Double.overflowBound * whole.natAbs)) ∨
      (percentageValue part whole = .error .outOfRange ∧
        ¬(0 < whole → part.natAbs < Double.overflowBound * whole.natAbs)) := by
  by_cases positive : 0 < whole
  · have infinite : (∃ sign, Double.ofRatio (decide (part < 0)) part.natAbs whole.natAbs =
        .infinite sign) ↔ Double.overflowBound * whole.natAbs ≤ part.natAbs :=
      Double.ofRatio_infinite_iff (Int.natAbs_pos.mpr positive.ne') _
    unfold percentageValue percentage
    rw [if_pos positive]
    split
    · rename_i sign reached
      have reached := infinite.mp ⟨sign, reached⟩
      exact .inr ⟨rfl, fun below => by have := below positive; omega⟩
    · rename_i missed
      refine .inl ⟨_, rfl, fun _ => ?_⟩
      by_contra reached
      obtain ⟨sign, reached⟩ := infinite.mpr (Nat.not_lt.mp reached)
      exact missed sign reached
  · exact .inl ⟨.int 0, by simp [percentageValue, positive],
      fun contrary => absurd contrary positive⟩

private theorem accepted_le_settled (rows : List TransferRow) :
    (ofRows rows).count (.settled .accepted) ≤ (ofRows rows).settled := by
  refine (List.monotone_filter_right rows fun row accepted => ?_).length_le
  rw [of_decide_eq_true accepted]
  rfl

/-- The record of the statistics of rows shows the average fee, if that is a double. -/
theorem toValue_ofRows (rows : List TransferRow) :
    ((ofRows rows).IsShowable → ∃ record, (ofRows rows).toValue = .ok record) ∧
      (¬(ofRows rows).IsShowable → (ofRows rows).toValue = .error .outOfRange) := by
  have few := accepted_le_settled rows
  have accepted : ∃ share, percentageValue ((ofRows rows).count (.settled .accepted))
      (ofRows rows).settled = .ok share := by
    rcases percentageValue_cases ((ofRows rows).count (.settled .accepted)) (ofRows rows).settled with
      ⟨share, share_eq, -⟩ | ⟨-, beyond⟩
    · exact ⟨share, share_eq⟩
    · refine absurd (fun positive => ?_) beyond
      rw [Int.natAbs_natCast, Int.natAbs_natCast]
      calc (ofRows rows).count (.settled .accepted) ≤ (ofRows rows).settled := few
        _ < Double.overflowBound * (ofRows rows).settled :=
          lt_mul_of_one_lt_left (by omega) (by decide +kernel)
  obtain ⟨share, share_eq⟩ := accepted
  unfold toValue IsShowable
  rcases percentageValue_cases (ofRows rows).fees (ofRows rows).volume with
    ⟨average, average_eq, showable⟩ | ⟨average_eq, beyond⟩
  · simp only [share_eq, average_eq]
    exact ⟨fun _ => ⟨_, rfl⟩, fun contrary => absurd showable contrary⟩
  · simp only [share_eq, average_eq]
    exact ⟨fun contrary => absurd contrary beyond, fun _ => rfl⟩

end Statistics
/-! ## Readings of an archive -/

namespace Archive

/-- The archive tells these statistics of a pool, or of all: their record if the average fee is a
double, and else only that it is none. -/
structure Tells (archive : Archive) (pool : Value) (statistics : Statistics) : Prop where
  read_eq : archive.read (.statistics pool) = .ok statistics
  shown : statistics.IsShowable → ∃ record, statistics.toValue = .ok record ∧
    archive.read ((Query.statistics pool).andThen Statistics.toValue) = .ok record
  refused : ¬statistics.IsShowable →
    archive.read ((Query.statistics pool).andThen Statistics.toValue) = .error .outOfRange

variable {archive : Archive}

private theorem tells_of_rows {pool : Value} {rows : List TransferRow}
    (opened : archive.isOpen = true)
    (fit : Cell.isFit pool = true) (listed : archive.store.rowsOfPool pool = .ok rows)
    (readable : ∀ row ∈ rows, Store.IsReadable row) : archive.Tells pool (.ofRows rows) := by
  have read := Store.statistics_eq listed readable
  have record_eq : archive.read ((Query.statistics pool).andThen Statistics.toValue) =
      (Statistics.ofRows rows).toValue := by
    refine (read_of_isFit _ opened fit).trans ?_
    change (archive.store.statistics pool).bind _ = _
    rw [read]
    rfl
  obtain ⟨shown, refused⟩ := Statistics.toValue_ofRows rows
  constructor
  · exact (read_of_isFit _ opened fit).trans read
  · intro showable
    obtain ⟨record, shown⟩ := shown showable
    exact ⟨record, shown, record_eq.trans shown⟩
  · intro unshowable
    exact record_eq.trans (refused unshowable)

/-- About a pool whose name cannot be encoded both readings answer with the same fault. -/
theorem exists_fault_of_hasHalf {pool : String} (unclear : Text.hasHalf pool = true) :
    ∃ fault, archive.read (.statistics (.text pool)) = .error fault ∧
      archive.read (.reconcile (.text pool)) = .error fault := by
  have unlisted : archive.store.rowsOfPool (.text pool) = .error .unencodable := by
    simp [Store.rowsOfPool, Store.poolFilter, Cell.searchText, Cell.ofText, Cell.textCell, unclear,
      Except.map, Except.mapError, CellError.fault?]
  unfold Archive.read
  split
  · exact ⟨_, rfl, rfl⟩
  · split
    · rename_i repeats
      exact ⟨.refusedRow, rfl, if_pos repeats⟩
    · rename_i unrepeated
      refine ⟨.unencodable, ?_, (if_neg unrepeated).trans ?_⟩
      · change archive.store.statistics _ = _
        rw [Store.statistics, unlisted]
        rfl
      · change archive.store.reconcile _ = _
        rw [Store.reconcile, unlisted]
        rfl

/-- Whatever an archive has done, if its rows have readable amounts and fees, the statistics of every
pool agree with the counters that are rebuilt for it, what is held for it is the sum of its pending
amounts, and the statistics of the pools that occur add up to those of the whole archive. -/
theorem figures_of_rows {filings : List Filing} (filed : archive.HasFiled filings)
    (opened : archive.isOpen = true)
    (readable : ∀ row ∈ archive.store.transfers.values, Store.IsReadable row) :
    let rows := archive.store.transfers.values
    (∀ pool, Text.hasHalf pool = false → ∃ statistics rebuilt,
      archive.Tells (.text pool) statistics ∧
        archive.read (.reconcile (.text pool)) = .ok rebuilt ∧
        statistics.AgreesWith rebuilt ∧
        rebuilt.escrowed =
          ((Store.pendingRows (Store.rowsOf pool rows)).map Store.amountIn).sum) ∧
      (∀ pool, Text.hasHalf pool = true → ∃ fault,
        archive.read (.statistics (.text pool)) = .error fault ∧
          archive.read (.reconcile (.text pool)) = .error fault) ∧
      ∃ whole parts, archive.Tells .null whole ∧
        List.Forall₂ (fun pool part => archive.Tells (.text pool) part) (Store.poolsOf rows) parts ∧
        whole.AddsUp parts := by
  intro rows
  have tells {pool : String} (clear : Text.hasHalf pool = false) :
      archive.Tells (.text pool) (.ofRows (Store.rowsOf pool rows)) :=
    tells_of_rows opened (Value.isLegible_text clear).isFit (Store.rowsOfPool_text clear)
      fun row member => readable row (List.mem_filter.mp member).1
  refine ⟨fun pool clear => ?_, fun pool => exists_fault_of_hasHalf, ?_⟩
  · refine ⟨_, Store.rebuiltOf (.text pool) (Store.rowsOf pool rows), tells clear, ?_,
      Statistics.agreesWith_ofRows _ _, Store.escrowed_rebuiltOf _ _⟩
    refine (read_of_isFit _ opened (Value.isLegible_text clear).isFit).trans ?_
    exact Store.reconcile_of_rows (Store.rowsOfPool_text clear)
      fun row member => readable row (List.mem_filter.mp member).1
  · refine ⟨_, _, tells_of_rows opened rfl Store.rowsOfPool_null readable, ?_,
      Statistics.addsUp_ofRows rows⟩
    rw [List.forall₂_map_right_iff, List.forall₂_same]
    intro pool occurs
    obtain ⟨row, member, rfl⟩ := List.mem_map.mp (List.mem_dedup.mp occurs)
    exact tells (filed.hasHalf_pool member)

/-- A fee that is no double. -/
def excessiveFee : Nat := 10 ^ 309

/-- A transfer of one unit that was accepted for this fee. -/
def excessiveRow : TransferRow where
  number := 1
  transfer := "t1"
  pool := "p"
  sender := "alice"
  recipient := "bob"
  amount := "1"
  memo := some ""
  createdAt := "2026-01-01T12:00:00+00:00"
  expiresAt := none
  fee := some (toString excessiveFee)
  net := none
  status := .settled .accepted
  reasonCode := .null
  reasonMessage := none
  resolvedAt := none
  archivedAt := none

/-- The filing of this transfer. -/
def excessiveFiling : Filing :=
  { pendingSample "t1" with
    entry := { (pendingSample "t1").entry with
      amount := .int 1
      status := .settled .accepted }
    fee := .int excessiveFee }

/-- An archive in which it is filed holds its row only. -/
theorem exists_excessive :
    ∃ archive : Archive, archive.HasFiled [excessiveFiling] ∧ archive.isOpen = true ∧
      archive.store.transfers.values = [excessiveRow] := by
  have created : excessiveFiling.entry.createdAt = some ⟨⟨2026, 1, 1⟩, 12, 0, 0, 0, some 0⟩ := rfl
  have marked : Store.archivingTime excessiveFiling.entry excessiveFiling.now = .ok none := rfl
  have fee : Store.knownAmount excessiveFiling.fee = .ok (some (toString excessiveFee)) := by
    have writable : (Value.int excessiveFee).isWritable = true := by decide +kernel
    unfold Store.knownAmount excessiveFiling
    rw [← Value.plain_natCast, if_neg (by simp), Store.amountCell_eq writable]
    rfl
  have amount : Store.amountCell excessiveFiling.entry.amount = .ok "1" :=
    Store.amountCell_of_amount (by decide)
  have row_made : Store.rowOf (inMemory.store.transferWrites + 1) excessiveFiling.entry
      ⟨⟨2026, 1, 1⟩, 12, 0, 0, 0, some 0⟩ excessiveFiling.fee excessiveFiling.net none =
        .ok (some excessiveRow) := by
    unfold Store.rowOf
    rw [amount, fee]
    rfl
  have done : inMemory.store.archiveTransfer excessiveFiling.entry excessiveFiling.fee
      excessiveFiling.net none = .ok (inMemory.store.putRow excessiveRow, .written) := by
    unfold Store.archiveTransfer
    rw [created]
    dsimp only
    rw [row_made]
    rfl
  have fit : Cell.isFit excessiveFiling.entry.transfer = true := by decide +kernel
  obtain ⟨archive, wrote, opened, store_eq⟩ :=
    @write_of_isFit inMemory .writeTransfer
      (·.archiveTransfer excessiveFiling.entry excessiveFiling.fee excessiveFiling.net none)
      _ _ rfl fit done
  have file_eq : inMemory.file excessiveFiling = (archive, .ok true) := by
    unfold file writeTransfer
    rw [marked]
    exact wrote
  have filed := (HasFiled.opened openAt_memoryPath).file excessiveFiling
  rw [accepted, file_eq] at filed
  refine ⟨archive, filed, opened, ?_⟩
  rw [store_eq]
  rfl

/-- The amount and the fee are numerals, and the counters of the pool are rebuilt, but its statistics
are not told. -/
theorem unshowable_sample :
    ∃ archive : Archive, archive.HasFiled [excessiveFiling] ∧ archive.isOpen = true ∧
      (∀ row ∈ archive.store.transfers.values, Store.IsReadable row) ∧
      archive.read (.reconcile (.text "p")) = .ok ⟨.text "p", 1, 1, excessiveFee, 1⟩ ∧
      archive.read ((Query.statistics (.text "p")).andThen Statistics.toValue) =
        .error .outOfRange := by
  obtain ⟨archive, filed, opened, rows_eq⟩ := exists_excessive
  have terminal : excessiveRow.status.isTerminal = true := rfl
  have amount_eq : Store.amountOf excessiveRow = .ok 1 := by decide +kernel
  have fee_eq : Store.feeOf excessiveRow = .ok excessiveFee := by
    have short : (Nat.toDigits 10 excessiveFee).length ≤ Text.greatestDigitCount := by
      decide +kernel
    unfold Store.feeOf excessiveRow
    dsimp only
    rw [isEmpty_toString, readAmount_toString short]
    rfl
  obtain ⟨readable, amountIn_eq, feeIn_eq⟩ := Store.isReadable_of_eq amount_eq fee_eq
  have reads : ∀ row ∈ [excessiveRow], Store.IsReadable row := by
    simpa using readable
  have clear : Text.hasHalf "p" = false := by decide +kernel
  have fit := (Value.isLegible_text clear).isFit
  have listed : archive.store.rowsOfPool (.text "p") = .ok [excessiveRow] := by
    rw [Store.rowsOfPool_text clear, rows_eq]
    rfl
  have rebuilt_eq : Store.rebuiltOf (.text "p") [excessiveRow] =
      ⟨.text "p", 1, 1, excessiveFee, 1⟩ := by
    simp [Store.rebuiltOf, Store.settledRows, terminal, amountIn_eq, feeIn_eq]
  have agrees := Statistics.agreesWith_ofRows (.text "p") [excessiveRow]
  refine ⟨archive, filed, opened, ?_, ?_, ?_⟩
  · rw [rows_eq]
    exact reads
  · rw [← rebuilt_eq]
    exact (read_of_isFit _ opened fit).trans (Store.reconcile_of_rows listed reads)
  · refine (tells_of_rows opened fit listed reads).refused fun showable => ?_
    unfold Statistics.IsShowable at showable
    rw [agrees.volume_eq, agrees.fees_eq, rebuilt_eq] at showable
    dsimp only [Int.natAbs_natCast] at showable
    have reached : Double.overflowBound * (1 : Int).natAbs ≤ excessiveFee := by decide +kernel
    exact Nat.not_lt.mpr reached (showable Int.one_pos)

/-- A pool with a pending and an accepted transfer, and another pool with one of half the amount. -/
def figureFilings : List Filing :=
  [pendingSample "t1", pendingSample "t2", renamedSample "t2",
    { pendingSample "t3" with
      entry := { (pendingSample "t3").entry with pool := .text "q", amount := .int 150 } }]

/-- Of the three transfers of the whole archive two are of the first pool. -/
theorem figures_sample :
    ∃ archive : Archive, archive.HasFiled figureFilings ∧ archive.isOpen = true ∧
      (∀ row ∈ archive.store.transfers.values, Store.IsReadable row) ∧
      ∃ whole first second, archive.Tells .null whole ∧ archive.Tells (.text "p") first ∧
        archive.Tells (.text "q") second ∧ whole.AddsUp [first, second] ∧ whole.total = 3 := by
  let archive := inMemory.fileAll figureFilings
  have filed : archive.HasFiled figureFilings := .of_accepted (by decide +kernel)
  have opened : archive.isOpen = true := by decide +kernel
  have reads : ∀ row ∈ archive.store.transfers.values,
      Store.amountOf row = .ok (Store.amountIn row) ∧ Store.feeOf row = .ok (Store.feeIn row) := by
    decide +kernel
  have readable : ∀ row ∈ archive.store.transfers.values, Store.IsReadable row :=
    fun row member => ⟨(reads row member).1, (reads row member).2⟩
  have pools_eq : Store.poolsOf archive.store.transfers.values = ["p", "q"] := by decide +kernel
  have counted : archive.store.transfers.values.length = 3 := by decide +kernel
  obtain ⟨-, -, whole, parts, told, each, adds_up⟩ := figures_of_rows filed opened readable
  have whole_eq := (tells_of_rows opened rfl Store.rowsOfPool_null readable).read_eq
  rw [told.read_eq] at whole_eq
  obtain rfl := Except.ok.inj whole_eq
  rw [pools_eq] at each
  obtain ⟨first, _, first_told, others, rfl⟩ := List.forall₂_cons_left_iff.mp each
  obtain ⟨second, _, second_told, none_left, rfl⟩ := List.forall₂_cons_left_iff.mp others
  obtain rfl := List.forall₂_nil_left_iff.mp none_left
  exact ⟨archive, filed, opened, readable, _, first, second, told, first_told, second_told, adds_up,
    (Statistics.total_ofRows _).trans counted⟩

end Archive
end Escrow
