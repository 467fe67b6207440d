import Escrow.Proofs.Engine.Reconciliation
import Escrow.Proofs.Listing
import Escrow.Proofs.Statistics

/-!
# The view of a wallet

The view of a wallet splits the rows that the archive lists for it into active and completed ones, and
tells of each one its direction and the party on the other side.  A row whose amount, fee or net amount
is no numeral is listed, too, but keeps the records of the view from being made.
-/

namespace Escrow

/-! ## Rows that can be shown -/

/-- The amount, the fee and the net amount of the row are numerals, as far as there are any. -/
structure TransferRow.HasFigures (row : TransferRow) : Prop where
  amount : ∃ n, readAmount row.amount = .ok n
  fee : ∀ cell ∈ row.fee, ∃ n, readAmount cell = .ok n
  net : ∀ cell ∈ row.net, ∃ n, readAmount cell = .ok n

private theorem exists_amountValue_iff (cell : Option String) :
    (∃ value, amountValue cell = .ok value) ↔ ∀ text ∈ cell, ∃ n, readAmount text = .ok n := by
  cases cell with
  | none => simp [amountValue]
  | some text => simp [amountValue, map_eq_ok_iff]

private theorem TransferRow.exists_toEntries_iff {row : TransferRow} :
    (∃ entries, row.toEntries = .ok entries) ↔ row.HasFigures := by
  have amount_iff := exists_amountValue_iff (some row.amount)
  simp only [Option.mem_some_iff, forall_eq'] at amount_iff
  constructor
  · rintro ⟨entries, entries_eq⟩
    obtain ⟨amount, amount_eq, entries_eq⟩ := bind_eq_ok_iff.mp entries_eq
    obtain ⟨fee, fee_eq, entries_eq⟩ := bind_eq_ok_iff.mp entries_eq
    obtain ⟨net, net_eq, -⟩ := bind_eq_ok_iff.mp entries_eq
    exact ⟨amount_iff.mp ⟨amount, amount_eq⟩, (exists_amountValue_iff _).mp ⟨fee, fee_eq⟩,
      (exists_amountValue_iff _).mp ⟨net, net_eq⟩⟩
  · rintro ⟨amount, fee, net⟩
    obtain ⟨amount, amount_eq⟩ := amount_iff.mpr amount
    obtain ⟨fee, fee_eq⟩ := (exists_amountValue_iff _).mpr fee
    obtain ⟨net, net_eq⟩ := (exists_amountValue_iff _).mpr net
    unfold toEntries
    rw [amount_eq, fee_eq, net_eq]
    exact ⟨_, rfl⟩

namespace WalletRow

/-- The record of an entry is that of its row, with the direction and the other party behind. -/
def IsShownAs (entry : WalletRow) (record : Value) : Prop :=
  ∃ fields, entry.row.toEntries = .ok fields ∧
    record = .mapping (fields ++ [(.text "direction", .text entry.direction),
      (.text "counterparty", .text entry.counterparty)])

variable {entry : WalletRow}

private theorem toValue_eq_ok_iff {record : Value} :
    entry.toValue = .ok record ↔ entry.IsShownAs record := by
  refine bind_eq_ok_iff.trans (exists_congr fun fields => and_congr_right fun _ => ?_)
  exact pure_eq_ok_iff.trans eq_comm

private theorem exists_toValue_iff :
    (∃ record, entry.toValue = .ok record) ↔ entry.row.HasFigures := by
  simp only [toValue_eq_ok_iff, IsShownAs, ← TransferRow.exists_toEntries_iff]
  constructor
  · rintro ⟨record, fields, fields_eq, -⟩
    exact ⟨fields, fields_eq⟩
  · rintro ⟨fields, fields_eq⟩
    exact ⟨_, fields, fields_eq, rfl⟩

end WalletRow

/-! ## The two lists -/

namespace WalletView

/-- The view splits the rows of a wallet, each of them as the wallet sees it. -/
structure Splits (view : WalletView) (wallet : String) (rows : List TransferRow) : Prop where
  each_once : ((view.active ++ view.completed).map (·.row)).Perm rows
  active_in_order : (view.active.map (·.row)).Sublist rows
  completed_in_order : (view.completed.map (·.row)).Sublist rows
  active_pending : ∀ entry ∈ view.active, entry.row.status = .pending
  completed_settled : ∀ entry ∈ view.completed, entry.row.status ≠ .pending
  sent : ∀ entry ∈ view.active ++ view.completed, entry.row.sender = wallet →
    entry.direction = "SENT" ∧ entry.counterparty = entry.row.recipient
  received : ∀ entry ∈ view.active ++ view.completed, entry.row.sender ≠ wallet →
    entry.direction = "RECEIVED" ∧ entry.counterparty = entry.row.sender

/-- The records of the view are those of its entries, in their order. -/
def IsShownAs (view : WalletView) (record : Value) : Prop :=
  ∃ active completed, record =
      .mapping [(.text "active", .list active), (.text "completed", .list completed)] ∧
    List.Forall₂ WalletRow.IsShownAs view.active active ∧
    List.Forall₂ WalletRow.IsShownAs view.completed completed

variable {view : WalletView} {wallet : String} {rows : List TransferRow}

private theorem map_row_ofRow (wallet : Value) (rows : List TransferRow) :
    (rows.map (WalletRow.ofRow wallet)).map (·.row) = rows := by
  rw [List.map_map]
  exact List.map_id rows

private theorem splits_ofRows (wallet : String) (rows : List TransferRow) :
    (ofRows (.text wallet) rows).Splits wallet rows := by
  have listed {entry : WalletRow}
      (member : entry ∈ (ofRows (.text wallet) rows).active ++ (ofRows (.text wallet) rows).completed) :
      ∃ row, entry = .ofRow (.text wallet) row := by
    rcases List.mem_append.mp member with active | completed
    · obtain ⟨row, -, rfl⟩ := List.mem_map.mp active
      exact ⟨row, rfl⟩
    · obtain ⟨row, -, rfl⟩ := List.mem_map.mp completed
      exact ⟨row, rfl⟩
  constructor
  case each_once =>
    rw [List.map_append, ofRows, map_row_ofRow, map_row_ofRow]
    exact List.perm_append_comm.trans (List.filter_append_perm _ rows)
  case active_in_order =>
    rw [ofRows, map_row_ofRow]
    exact List.filter_sublist
  case completed_in_order =>
    rw [ofRows, map_row_ofRow]
    exact List.filter_sublist
  case active_pending =>
    intro entry member
    obtain ⟨row, kept, rfl⟩ := List.mem_map.mp member
    have pending := (List.mem_filter.mp kept).2
    rw [← Status.pending_eq_not_isTerminal] at pending
    exact of_decide_eq_true pending
  case completed_settled =>
    intro entry member pending
    obtain ⟨row, kept, rfl⟩ := List.mem_map.mp member
    have terminal := (List.mem_filter.mp kept).2
    have pending : row.status = .pending := pending
    rw [pending] at terminal
    cases terminal
  case sent =>
    intro entry member own
    obtain ⟨row, rfl⟩ := listed member
    have own : row.sender = wallet := own
    simp [WalletRow.direction, WalletRow.counterparty, WalletRow.ofRow, own]
  case received =>
    intro entry member other
    obtain ⟨row, rfl⟩ := listed member
    have other : row.sender ≠ wallet := other
    simp [WalletRow.direction, WalletRow.counterparty, WalletRow.ofRow, other]

private theorem toValue_eq_ok_iff {record : Value} :
    view.toValue = .ok record ↔ view.IsShownAs record := by
  have each {entries : List WalletRow} {records : List Value} :
      entries.mapM WalletRow.toValue = .ok records ↔
        List.Forall₂ WalletRow.IsShownAs entries records := by
    simp only [mapM_eq_ok_iff, WalletRow.toValue_eq_ok_iff]
  simp only [toValue, bind_eq_ok_iff, pure_eq_ok_iff, each, IsShownAs]
  constructor
  · rintro ⟨active, shown, completed, shown', rfl⟩
    exact ⟨active, completed, rfl, shown, shown'⟩
  · rintro ⟨active, completed, rfl, shown, shown'⟩
    exact ⟨active, shown, completed, shown', rfl⟩

/-- There are records exactly if all rows have figures. -/
theorem Splits.exists_toValue_iff (splits : view.Splits wallet rows) :
    (∃ record, view.toValue = .ok record) ↔ ∀ row ∈ rows, row.HasFigures := by
  have each (entries : List WalletRow) : (∃ records, entries.mapM WalletRow.toValue = .ok records) ↔
      ∀ row ∈ entries.map (·.row), row.HasFigures := by
    simp only [exists_mapM_eq_ok_iff, WalletRow.exists_toValue_iff, List.forall_mem_map]
  simp only [← splits.each_once.mem_iff, List.map_append, List.forall_mem_append, ← each]
  simp only [toValue, bind_eq_ok_iff, pure_eq_ok_iff]
  constructor
  · rintro ⟨_, active, active_eq, completed, completed_eq, -⟩
    exact ⟨⟨active, active_eq⟩, completed, completed_eq⟩
  · rintro ⟨⟨active, active_eq⟩, completed, completed_eq⟩
    exact ⟨_, active, active_eq, completed, completed_eq, rfl⟩

end WalletView

/-! ## Views of an archive -/

/-- The rows of a wallet: all of them, and those on either side, each of them once. -/
structure Archive.ListsWallet (archive : Archive) (wallet : String)
    (all sent received : List TransferRow) : Prop where
  all_eq : archive.read (.walletRows (.text wallet) .both) = .ok all
  sent_eq : archive.read (.walletRows (.text wallet) .sent) = .ok sent
  received_eq : archive.read (.walletRows (.text wallet) .received) = .ok received
  once : all.Nodup
  sent_once : sent.Nodup
  received_once : received.Nodup
  mem_all_iff : ∀ row, row ∈ all ↔
    row ∈ archive.store.transfers.values ∧ (row.sender = wallet ∨ row.recipient = wallet)
  mem_sent_iff : ∀ row, row ∈ sent ↔ row ∈ archive.store.transfers.values ∧ row.sender = wallet
  mem_received_iff : ∀ row, row ∈ received ↔
    row ∈ archive.store.transfers.values ∧ row.recipient = wallet
  union : ∀ row, row ∈ all ↔ row ∈ sent ∨ row ∈ received

private theorem Archive.HasFiled.listsWallet {archive : Archive} {filings : List Filing}
    {wallet : String} (filed : archive.HasFiled filings) (opened : archive.isOpen = true)
    (clear : Text.hasHalf wallet = false) :
    archive.ListsWallet wallet
      (archive.store.newestFirst (Store.Direction.both.admits wallet))
      (archive.store.newestFirst (Store.Direction.sent.admits wallet))
      (archive.store.newestFirst (Store.Direction.received.admits wallet)) := by
  have distinct : archive.store.transfers.values.Nodup := .of_map _ filed.reflects.nodup
  have once (direction : Store.Direction) :
      (archive.store.newestFirst (direction.admits wallet)).Nodup :=
    (archive.store.newestFirst_perm _).nodup_iff.mpr (distinct.filter _)
  have mem_iff (direction : Store.Direction) (row : TransferRow) :
      row ∈ archive.store.newestFirst (direction.admits wallet) ↔
        row ∈ archive.store.transfers.values ∧ direction.admits wallet row = true :=
    archive.store.mem_newestFirst_iff (direction.admits wallet)
  constructor
  case all_eq => exact read_walletRows opened clear .both
  case sent_eq => exact read_walletRows opened clear .sent
  case received_eq => exact read_walletRows opened clear .received
  case once => exact once .both
  case sent_once => exact once .sent
  case received_once => exact once .received
  all_goals
    intro row
    simp only [mem_iff, Store.Direction.admits, Bool.or_eq_true, beq_iff_eq, and_or_left]

namespace Engine

variable {engine : Engine} {archive : Archive} {filings : List Filing} {wallet : String}

/-- Whatever an archive has done, its view of a wallet splits the rows of the wallet, each of which
stands in one of the two lists once, also if the wallet is on both sides of it: the active ones are the
pending ones, and each list keeps their order.  The rows of the wallet are those on which it stands on
either side, without doubles.  The records of the view are those of its entries, and they are made
exactly if the amounts, fees and net amounts of all these rows are numerals. -/
theorem view_of_history (kept : engine.archive = some archive) (filed : archive.HasFiled filings)
    (opened : archive.isOpen = true) (clear : Text.hasHalf wallet = false) :
    ∃ view all sent received, engine.walletView (.text wallet) = .ok view ∧
      archive.ListsWallet wallet all sent received ∧ view.Splits wallet all ∧
      (∀ record, view.toValue = .ok record → view.IsShownAs record) ∧
      ((∃ record, view.toValue = .ok record) ↔ ∀ row ∈ all, row.HasFigures) := by
  have lists := filed.listsWallet opened clear
  have splits := WalletView.splits_ofRows wallet
    (archive.store.newestFirst (Store.Direction.both.admits wallet))
  refine ⟨_, _, _, _, ?_, lists, splits, fun record => WalletView.toValue_eq_ok_iff.mp,
    splits.exists_toValue_iff⟩
  unfold walletView readArchive
  rw [kept]
  dsimp only
  rw [lists.all_eq]
  rfl

/-- The transfer of Alice is archived with a fee that is written as a truth value. -/
def truthOffice : Engine :=
  sampleOffice.run
    [.register { samplePool with schedule := { default := truthPolicy } },
      .create (sampleRequest "t1" 100), .settle (.text "t1") (.accept (.text "olga"))]

/-- The only row of her wallet is listed, but no records are made of the view. -/
theorem unshown_sample :
    ∃ archive row, truthOffice.archive = some archive ∧ archive.isOpen = true ∧
      archive.store.transfers.values = [row] ∧ row.sender = "alice" ∧
      truthOffice.walletView (.text "alice") = .ok ⟨[], [⟨row, true⟩]⟩ ∧
      (truthOffice.walletView (.text "alice")).bind WalletView.toValue =
        .error (.badNumeral (.text "True")) := by
  have isOpen : truthOffice.archive.map (·.isOpen) = some true := by decide +kernel
  have rows : truthOffice.archive.map (fun archive => archive.store.transfers.values.map fun row =>
      (row.sender, row.status.isTerminal, row.amount, row.fee)) =
      some [("alice", true, "100", some "True")] := by decide +kernel
  obtain ⟨archive, kept, opened⟩ := Option.map_eq_some_iff.mp isOpen
  rw [kept] at rows
  obtain ⟨row, rows_eq, row_eq⟩ := List.map_eq_singleton_iff.mp (Option.some.inj rows)
  simp only [Prod.mk.injEq] at row_eq
  obtain ⟨sender, terminal, amount, fee⟩ := row_eq
  have listed : archive.store.newestFirst (Store.Direction.both.admits "alice") = [row] := by
    simp [Store.newestFirst, rows_eq, Store.Direction.admits, sender]
  have view_eq : truthOffice.walletView (.text "alice") = .ok ⟨[], [⟨row, true⟩]⟩ := by
    unfold walletView readArchive
    rw [kept]
    dsimp only
    rw [Archive.read_walletRows opened (by decide +kernel), listed]
    simp [Except.map, WalletView.ofRows, WalletRow.ofRow, terminal, sender]
  have amount_eq : amountValue (some row.amount) = .ok (.int 100) := by
    rw [amount]
    decide +kernel
  have fee_eq : amountValue row.fee = .error (.badNumeral (.text "True")) := by
    rw [fee]
    decide +kernel
  refine ⟨archive, row, kept, opened, rows_eq, sender, view_eq, ?_⟩
  rw [view_eq]
  simp [WalletView.toValue, WalletRow.toValue, TransferRow.toEntries, amount_eq, fee_eq, bind,
    Except.bind, pure, Except.pure]

/-- Alice has a transfer to Bob, one to herself that has been accepted, and one from Carol. -/
def walletFilings : List Filing :=
  let toSelf (entry : TransferEntry) : TransferEntry := { entry with recipient := .text "alice" }
  let fromCarol (entry : TransferEntry) : TransferEntry :=
    { toSelf entry with sender := .text "carol" }
  let first := Archive.pendingSample "t1"
  let second := Archive.pendingSample "t2"
  let settled := Archive.renamedSample "t2"
  let third := Archive.pendingSample "t3"
  [first, { second with entry := toSelf second.entry }, settled,
    { third with entry := fromCarol third.entry }]

/-- All three transfers stand in the view, that to herself once and as sent. -/
theorem view_sample :
    ∃ archive, archive.HasFiled walletFilings ∧ archive.isOpen = true ∧
      Text.hasHalf "alice" = false ∧
      ∃ view record, (sampleEngine.withArchive archive).walletView (.text "alice") = .ok view ∧
        view.toValue = .ok record ∧ (view.active ++ view.completed).length = 3 ∧
        ∀ entry ∈ view.completed, entry.row.transfer = "t2" ∧ entry.direction = "SENT" ∧
          entry.counterparty = "alice" := by
  let archive := Archive.inMemory.fileAll walletFilings
  have filed : archive.HasFiled walletFilings := .of_accepted (by decide +kernel)
  have opened : archive.isOpen = true := by decide +kernel
  have clear : Text.hasHalf "alice" = false := by decide +kernel
  have counted : archive.store.transfers.values.length = 3 := by decide +kernel
  have own : ∀ row ∈ archive.store.transfers.values,
      row.sender = "alice" ∨ row.recipient = "alice" := by decide +kernel
  have settled : ∀ row ∈ archive.store.transfers.values, row.status ≠ .pending →
      row.transfer = "t2" ∧ row.sender = "alice" ∧ row.recipient = "alice" := by decide +kernel
  have numerals : ∀ row ∈ archive.store.transfers.values, (amountValue (some row.amount)).isOk ∧
      (amountValue row.fee).isOk ∧ (amountValue row.net).isOk := by decide +kernel
  have figures : ∀ row ∈ archive.store.transfers.values, row.HasFigures := by
    intro row member
    obtain ⟨amount, fee, net⟩ := numerals row member
    exact ⟨(exists_amountValue_iff _).mp (exists_eq_ok amount) row.amount rfl,
      (exists_amountValue_iff _).mp (exists_eq_ok fee),
      (exists_amountValue_iff _).mp (exists_eq_ok net)⟩
  obtain ⟨view, all, sent, received, view_eq, lists, splits, -, shown⟩ :=
    @view_of_history (sampleEngine.withArchive archive) archive _ _ rfl filed opened clear
  have listed (row : TransferRow) : row ∈ all ↔ row ∈ archive.store.transfers.values := by
    rw [lists.mem_all_iff]
    exact and_iff_left_of_imp (own row)
  have same : all.Perm archive.store.transfers.values :=
    (List.perm_ext_iff_of_nodup lists.once (.of_map _ filed.reflects.nodup)).mpr listed
  obtain ⟨record, record_eq⟩ := shown.mpr fun row member => figures row ((listed row).mp member)
  refine ⟨archive, filed, opened, clear, view, record, view_eq, record_eq, ?_, ?_⟩
  · rw [← counted, ← same.length_eq, ← splits.each_once.length_eq, List.length_map]
  · intro entry member
    have there := List.mem_append_right view.active member
    have stored := (listed _).mp (splits.each_once.mem_iff.mp (List.mem_map_of_mem there))
    obtain ⟨transfer, sender, recipient⟩ :=
      settled entry.row stored (splits.completed_settled entry member)
    obtain ⟨direction, counterparty⟩ := splits.sent entry there sender
    exact ⟨transfer, direction, counterparty.trans recipient⟩

end Engine
end Escrow
