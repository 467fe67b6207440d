import Escrow.Proofs.Archive

/-!
# Rows that are written again

The archive keeps one row for each transfer, whatever is filed in whatever order.  The first part of a
row is that of the first filing that succeeded, its later part that of the last one; a filing that
fails changes no row, and no filing changes the row of another transfer.
-/

namespace Escrow

/-- A transfer that is handed to the archive, what is known of its fee and its net amount, and what the
clock tells by then. -/
structure Filing where
  entry : TransferEntry
  fee : Value := .null
  net : Value := .null
  now : Except Fault Instant
  deriving DecidableEq

/-- The id under which a filing is kept, if it can be. -/
def Filing.key? (filing : Filing) : Option String :=
  match Cell.ofText filing.entry.transfer with
  | .ok key => key
  | .error _ => none

namespace TransferRow

/-- The first part of the row is that of the filing. -/
structure StartsAs (row : TransferRow) (filing : Filing) : Prop where
  transfer : Cell.ofText filing.entry.transfer = .ok (some row.transfer)
  pool : Cell.ofText filing.entry.pool = .ok (some row.pool)
  sender : Cell.ofText filing.entry.sender = .ok (some row.sender)
  recipient : Cell.ofText filing.entry.recipient = .ok (some row.recipient)
  amount : Store.amountCell filing.entry.amount = .ok row.amount
  memo : Cell.ofText filing.entry.memo = .ok row.memo
  createdAt : filing.entry.createdAt.map Instant.text = some row.createdAt
  expiresAt : filing.entry.expiresAt.map Instant.text = row.expiresAt

/-- The later part of the row is that of the filing. -/
structure StandsAs (row : TransferRow) (filing : Filing) : Prop where
  fee : Store.knownAmount filing.fee = .ok row.fee
  net : Store.knownAmount filing.net = .ok row.net
  status : filing.entry.status = row.status
  reasonCode : Cell.ofNumber filing.entry.reasonCode = .ok row.reasonCode
  reasonMessage : Cell.ofText filing.entry.reasonMessage = .ok row.reasonMessage
  resolvedAt : filing.entry.resolvedAt.map Instant.text = row.resolvedAt
  archivedAt : (Store.archivingTime filing.entry filing.now).map (·.map Instant.text) =
    .ok row.archivedAt

variable {row old : TransferRow} {filing : Filing}

private theorem StartsAs.key_eq (starts : row.StartsAs filing) :
    filing.key? = some row.transfer := by
  rw [Filing.key?, starts.transfer]

private theorem StartsAs.updatedBy (starts : old.StartsAs filing) (row : TransferRow) :
    (old.updatedBy row).StartsAs filing :=
  ⟨starts.transfer, starts.pool, starts.sender, starts.recipient, starts.amount, starts.memo,
    starts.createdAt, starts.expiresAt⟩

private theorem StandsAs.updatedBy (stands : row.StandsAs filing) (old : TransferRow) :
    (old.updatedBy row).StandsAs filing :=
  ⟨stands.fee, stands.net, stands.status, stands.reasonCode, stands.reasonMessage,
    stands.resolvedAt, stands.archivedAt⟩

end TransferRow

namespace Store

variable {store later : Store} {result : WriteResult}

/-! ## One row -/

private theorem row_of_rowOf {number : Nat} {filing : Filing} {createdAt : Instant}
    {archivedAt : Option Instant} {row : TransferRow}
    (created : filing.entry.createdAt = some createdAt)
    (marked : archivingTime filing.entry filing.now = .ok archivedAt)
    (made : rowOf number filing.entry createdAt filing.fee filing.net archivedAt = .ok (some row)) :
    row.StartsAs filing ∧ row.StandsAs filing := by
  simp only [rowOf, bind_eq_ok_iff] at made
  obtain ⟨transfer, transfer_eq, pool, pool_eq, sender, sender_eq, recipient, recipient_eq, amount,
    amount_eq, fee, fee_eq, net, net_eq, memo, memo_eq, code, code_eq, message, message_eq, made⟩ :=
    made
  split at made
  · obtain rfl := Option.some.inj (pure_eq_ok_iff.mp made)
    exact
      ⟨⟨transfer_eq, pool_eq, sender_eq, recipient_eq, amount_eq, memo_eq, by rw [created]; rfl, rfl⟩,
        ⟨fee_eq, net_eq, rfl, code_eq, message_eq, rfl, by rw [marked]; rfl⟩⟩
  · cases pure_eq_ok_iff.mp made

/-- What is not written leaves the store as it is. -/
theorem written_cases {attempt : Except CellError (Option Store)}
    (done : store.written attempt = .ok (later, result)) :
    (result = .written ∧ attempt = .ok (some later)) ∨ (result ≠ .written ∧ later = store) := by
  unfold written at done
  split at done
  · cases done
    exact .inl ⟨rfl, rfl⟩
  · cases done
    exact .inr ⟨by rintro ⟨⟩, rfl⟩
  · split at done <;> cases done
    exact .inr ⟨by rintro ⟨⟩, rfl⟩

/-- A filing that is written puts its row. -/
theorem archiveTransfer_cases {filing : Filing} {archivedAt : Option Instant}
    (marked : archivingTime filing.entry filing.now = .ok archivedAt)
    (done : store.archiveTransfer filing.entry filing.fee filing.net archivedAt =
      .ok (later, result)) :
    (result = .written ∧ ∃ row : TransferRow, row.StartsAs filing ∧ row.StandsAs filing ∧
        later.transfers = withRow store.transfers row) ∨
      (result ≠ .written ∧ later = store) := by
  unfold archiveTransfer at done
  split at done
  · cases done
  · rename_i createdAt created
    refine (written_cases done).imp_left ?_
    rintro ⟨rfl, attempted⟩
    obtain ⟨row?, made, changed⟩ := map_eq_ok_iff.mp attempted
    obtain ⟨row, rfl, rfl⟩ := Option.map_eq_some_iff.mp changed
    obtain ⟨starts, stands⟩ := row_of_rowOf created marked made
    exact ⟨rfl, row, starts, stands, transfers_putRow store row⟩

end Store

namespace Archive

/-- File a transfer; the answer says whether it succeeded. -/
def file (archive : Archive) (filing : Filing) : Archive × Except Fault Bool :=
  archive.writeTransfer filing.entry filing.fee filing.net filing.now

/-- File transfers one after another. -/
def fileAll (archive : Archive) (filings : List Filing) : Archive :=
  filings.foldl (fun archive filing => (archive.file filing).1) archive

/-- The filings that succeed when they are filed one after another. -/
def accepted (archive : Archive) : List Filing → List Filing
  | [] => []
  | filing :: rest =>
    let later := (archive.file filing).1.accepted rest
    if (archive.file filing).2 = .ok true then filing :: later else later

variable {archive : Archive} {filing : Filing}

/-! ## One filing -/

/-- How a filing ends: its row is put, or no row is changed. -/
inductive Filed (archive : Archive) (filing : Filing) : Archive × Except Fault Bool → Prop where
  | kept {next : Archive} {row : TransferRow} (starts : row.StartsAs filing)
      (stands : row.StandsAs filing)
      (rows_eq : next.store.transfers = Store.withRow archive.store.transfers row) :
      Filed archive filing (next, .ok true)
  | failed {next : Archive} {answer : Except Fault Bool} (unsuccessful : answer ≠ .ok true)
      (rows_eq : next.store.transfers = archive.store.transfers) :
      Filed archive filing (next, answer)

private theorem filed (archive : Archive) (filing : Filing) : Filed archive filing
    (archive.file filing) := by
  unfold file Archive.writeTransfer
  split
  swap
  · exact .failed (by simp) rfl
  rename_i archivedAt marked
  unfold Archive.write
  dsimp only
  split
  · exact .failed (by simp) rfl
  split
  · exact .failed (by simp) (by rw [store_prepare])
  split
  · rename_i store result done
    rcases Store.archiveTransfer_cases marked done with
      ⟨rfl, row, starts, stands, rows_eq⟩ | ⟨unwritten, rfl⟩
    · exact .kept starts stands rows_eq
    · exact .failed (by simpa using unwritten) rfl
  · exact .failed (by simp) rfl
  · exact .failed (by simp) (by rw [store_prepare])

/-- A filing that fails changes no row. -/
theorem Filed.rows_eq {outcome : Archive × Except Fault Bool} (ended : Filed archive filing outcome)
    (unsuccessful : outcome.2 ≠ .ok true) :
    outcome.1.store.transfers = archive.store.transfers := by
  cases ended with
  | kept => exact absurd rfl unsuccessful
  | failed _ rows_eq => exact rows_eq

/-- What filings of one transfer leave of it: no row if there are none, else one that starts as the
first and stands as the last of them. -/
inductive Leaves : List Filing → Option TransferRow → Prop where
  | absent : Leaves [] none
  | row {filings : List Filing} {first last : Filing} {row : TransferRow}
      (first_eq : filings.head? = some first) (last_eq : filings.getLast? = some last)
      (starts : row.StartsAs first) (stands : row.StandsAs last) : Leaves filings (some row)

private theorem Leaves.snoc {filings : List Filing} {old : Option TransferRow} {row : TransferRow}
    (leaves : Leaves filings old) (starts : row.StartsAs filing) (stands : row.StandsAs filing) :
    Leaves (filings ++ [filing]) (some (old.elim row (·.updatedBy row))) := by
  cases leaves with
  | absent => exact .row rfl rfl starts stands
  | @row _ first last old first_eq last_eq began stood =>
      have head : (filings ++ [filing]).head? = some first := by
        rw [List.head?_append, first_eq, Option.some_or]
      exact .row head List.getLast?_concat (began.updatedBy row) (stands.updatedBy old)

theorem Leaves.exists_first {filings : List Filing} {row : TransferRow}
    (leaves : Leaves filings (some row)) : ∃ first ∈ filings, row.StartsAs first := by
  cases leaves with
  | row first_eq last_eq starts stands => exact ⟨_, List.mem_of_mem_head? first_eq, starts⟩

/-- The rows are what the filings leave, each of its own transfer. -/
def Reflects (rows : Table String TransferRow) (filings : List Filing) : Prop :=
  ∀ key, Leaves (filings.filter fun filing => decide (filing.key? = some key)) (rows.get? key)

/-- A row that is put reflects its filing, too. -/
theorem Reflects.withRow {rows : Table String TransferRow} {filings : List Filing}
    {row : TransferRow} (reflects : Reflects rows filings) (starts : row.StartsAs filing)
    (stands : row.StandsAs filing) : Reflects (Store.withRow rows row) (filings ++ [filing]) := by
  intro key
  rw [List.filter_append, Store.withRow, Table.get?_set]
  by_cases own : key = row.transfer
  · subst own
    rw [List.filter_singleton, decide_eq_true starts.key_eq, if_pos rfl]
    exact (reflects row.transfer).snoc starts stands
  · have others : filing.key? ≠ some key := by
      rw [starts.key_eq]
      exact fun same => own (Option.some.inj same).symm
    rw [List.filter_singleton, decide_eq_false others, if_neg own]
    simpa using reflects key

/-- Filings one after another are reflected as far as they succeed. -/
theorem Reflects.fileAll {past : List Filing} (reflects : Reflects archive.store.transfers past)
    (filings : List Filing) :
    Reflects (archive.fileAll filings).store.transfers (past ++ archive.accepted filings) := by
  induction filings generalizing archive past with
  | nil =>
      rw [accepted, List.append_nil]
      exact reflects
  | cons filing rest ih =>
      have ended := archive.filed filing
      change Reflects ((archive.file filing).1.fileAll rest).store.transfers _
      rw [accepted]
      generalize archive.file filing = outcome at ended ⊢
      cases ended with
      | @kept next row starts stands rows_eq =>
          rw [if_pos rfl, List.append_cons]
          exact ih (by rw [rows_eq]; exact reflects.withRow starts stands)
      | @failed next answer unsuccessful rows_eq =>
          rw [if_neg unsuccessful]
          exact ih (by rw [rows_eq]; exact reflects)

/-- A new archive has no rows. -/
theorem transfers_openAt {path : Value} (opened : openAt path = .ok archive) :
    archive.store.transfers = .empty := by
  unfold openAt at opened
  split at opened
  · split at opened <;> cases opened
    rfl
  · cases opened

/-- Every row is kept under the id of its transfer. -/
theorem Reflects.transfer_eq {rows : Table String TransferRow} {filings : List Filing}
    {key : String} {row : TransferRow} (reflects : Reflects rows filings)
    (found : rows.get? key = some row) : row.transfer = key := by
  have leaves := reflects key
  rw [found] at leaves
  obtain ⟨first, member, starts⟩ := leaves.exists_first
  have named := of_decide_eq_true (List.mem_filter.mp member).2
  rw [starts.key_eq] at named
  exact Option.some.inj named

/-- No transfer has two rows. -/
theorem Reflects.nodup {rows : Table String TransferRow} {filings : List Filing}
    (reflects : Reflects rows filings) : (rows.values.map (·.transfer)).Nodup := by
  have keyed : rows.values.map (·.transfer) = rows.keys := by
    rw [Table.values, Table.keys, List.map_map]
    refine List.map_congr_left ?_
    rintro ⟨key, row⟩ member
    exact reflects.transfer_eq (Table.mem_entries_iff.mp member)
  rw [keyed]
  exact rows.nodup

/-- A pending transfer of three dollars, filed at noon. -/
def pendingSample (id : String) : Filing :=
  let noon : Instant := ⟨⟨2026, 1, 1⟩, 12, 0, 0, 0, some 0⟩
  { entry := {
      transfer := .text id
      pool := .text "p"
      sender := .text "alice"
      recipient := .text "bob"
      amount := .int 300
      createdAt := some noon }
    now := .ok noon }

/-- The transfer is accepted for a fee, and all its parties are renamed. -/
def renamedSample (id : String) : Filing :=
  { pendingSample id with
    entry := { (pendingSample id).entry with
      sender := .text "carol"
      recipient := .text "dave"
      status := .settled .accepted
      resolvedAt := (pendingSample id).entry.createdAt
      archived := .bool true }
    fee := .int 3
    net := .int 297 }

end Archive
end Escrow
