import Escrow.Proofs.Calendar
import Escrow.Proofs.Filings

/-!
# Lists from the newest back

The archive lists the transfers of a wallet or of a status by the texts of their times of creation.
Where these times are universal, such a list is in the order of time, whatever has been filed before and
whatever else the archive has done.
-/

namespace Escrow

/-! ## The order of a list -/

namespace Store

private theorem isNewer_iff {a b : TransferRow} :
    isNewer a b = true ↔
      b.createdAt < a.createdAt ∨ (a.createdAt = b.createdAt ∧ a.transfer ≤ b.transfer) := by
  unfold isNewer
  by_cases same : a.createdAt = b.createdAt
  · simp [same]
  · simp [same, lt_iff_le_and_ne, Ne.symm same]

private theorem isNewer_trans (a b c : TransferRow) (first : isNewer a b = true)
    (second : isNewer b c = true) : isNewer a c = true := by
  rw [isNewer_iff] at *
  rcases first with later | ⟨same, before⟩ <;> rcases second with later' | ⟨same', before'⟩
  · exact .inl (later'.trans later)
  · exact .inl (same' ▸ later)
  · exact .inl (same ▸ later')
  · exact .inr ⟨same.trans same', before.trans before'⟩

private theorem isNewer_total (a b : TransferRow) : (isNewer a b || isNewer b a) = true := by
  rw [Bool.or_eq_true, isNewer_iff, isNewer_iff]
  rcases lt_trichotomy a.createdAt b.createdAt with earlier | same | later
  · exact .inr (.inl earlier)
  · exact (le_total a.transfer b.transfer).imp (fun before => .inr ⟨same, before⟩)
      fun before => .inr ⟨same.symm, before⟩
  · exact .inl (.inl later)

variable (store : Store) (keep : TransferRow → Bool)

theorem newestFirst_perm : (store.newestFirst keep).Perm (store.transfers.values.filter keep) :=
  List.mergeSort_perm _ _

theorem mem_newestFirst_iff {row : TransferRow} :
    row ∈ store.newestFirst keep ↔ row ∈ store.transfers.values ∧ keep row = true :=
  (store.newestFirst_perm keep).mem_iff.trans List.mem_filter

/-- A later text of creation stands before an earlier one. -/
theorem pairwise_newestFirst :
    (store.newestFirst keep).Pairwise fun first second => second.createdAt ≤ first.createdAt := by
  refine (List.pairwise_mergeSort isNewer_trans isNewer_total _).imp fun newer => ?_
  rcases isNewer_iff.mp newer with later | ⟨same, -⟩
  · exact later.le
  · exact same.ge

end Store

/-- The rows of a query as records. -/
def Query.records (query : Query (List TransferRow)) : Query (List Value) :=
  query.andThen (·.mapM TransferRow.toValue)

namespace Archive

variable {archive : Archive} {filings : List Filing}

theorem read_walletRows {wallet : String} (opened : archive.isOpen = true)
    (clear : Text.hasHalf wallet = false) (direction : Store.Direction) :
    archive.read (.walletRows (.text wallet) direction) =
      .ok (archive.store.newestFirst (direction.admits wallet)) := by
  have legible := Value.isLegible_text clear
  refine (read_of_isFit _ opened legible.isFit).trans ?_
  unfold Query.walletRows Store.walletRows
  rw [legible.searchText_eq]
  rfl

/-- The rows of a status, of one pool if it is named. -/
def ofStatus (status : String) (pool : Option String) (row : TransferRow) : Bool :=
  decide (row.status.name = status) && pool.all fun name => decide (row.pool = name)

private theorem read_rowsByStatus {status : String} {pool : Option String}
    (opened : archive.isOpen = true)
    (clear : Text.hasHalf status = false) (clearPool : ∀ name ∈ pool, Text.hasHalf name = false) :
    archive.read (.rowsByStatus (.text status) (cellValue pool)) =
      .ok (archive.store.newestFirst (ofStatus status pool)) := by
  have legible := Value.isLegible_text clear
  refine (read_of_isFit _ opened legible.isFit).trans ?_
  unfold Query.rowsByStatus Store.rowsByStatus
  rw [legible.searchText_eq]
  have keep_eq : ofStatus status pool = fun row =>
      decide (some row.status.name = some status) && pool.all fun name => decide (row.pool = name) := by
    funext row
    simp [ofStatus]
  rw [keep_eq]
  cases pool with
  | none => rfl
  | some name =>
      have named := Value.isLegible_text (clearPool name rfl)
      simp [Store.poolFilter, cellValue, named.searchText_eq, Except.map, bind, Except.bind, pure,
        Except.pure]

private theorem read_andThen {α β : Type} (archive : Archive) (query : Query α)
    (work : α → Except Fault β) :
    archive.read (query.andThen work) = (archive.read query).bind work := by
  unfold Archive.read Query.andThen
  split
  · rfl
  · split <;> rfl

/-- The answer of a query lists rows in the order of their times, from the latest back, and so do the
records of these rows. -/
def ListsBackwards (archive : Archive) (time : TransferRow → Instant)
    (query : Query (List TransferRow)) (keep : TransferRow → Bool) : Prop :=
  ∃ rows, archive.read query = .ok rows ∧
    archive.read query.records = rows.mapM TransferRow.toValue ∧
    rows.Perm (archive.store.transfers.values.filter keep) ∧
    rows.Pairwise fun first second => (time second).ticks ≤ (time first).ticks

/-- The rows were created at these times, which are universal. -/
def AreTimed (rows : List TransferRow) (filings : List Filing) (time : TransferRow → Instant) :
    Prop :=
  ∀ row ∈ rows, (time row).IsUniversal ∧
    ∃ filing ∈ filings, row.StartsAs filing ∧ filing.entry.createdAt = some (time row)

private theorem AreTimed.text_eq {rows : List TransferRow} {time : TransferRow → Instant}
    (timed : AreTimed rows filings time) {row : TransferRow} (member : row ∈ rows) :
    row.createdAt = (time row).text := by
  obtain ⟨-, filing, -, starts, created⟩ := timed row member
  have shown := starts.createdAt
  rw [created] at shown
  exact (Option.some.inj shown).symm

/-- Rows of filings in universal time have universal times. -/
theorem Reflects.exists_areTimed {rows : Table String TransferRow}
    (reflects : Reflects rows filings)
    (universal : ∀ filing ∈ filings, ∀ t, filing.entry.createdAt = some t → t.IsUniversal) :
    ∃ time, AreTimed rows.values filings time := by
  have timed (row : TransferRow) : ∃ t : Instant, row ∈ rows.values → t.IsUniversal ∧
      ∃ filing ∈ filings, row.StartsAs filing ∧ filing.entry.createdAt = some t := by
    by_cases member : row ∈ rows.values
    · obtain ⟨filing, listed, starts⟩ := reflects.exists_filing member
      obtain ⟨t, created, -⟩ := Option.map_eq_some_iff.mp starts.createdAt
      exact ⟨t, fun _ => ⟨universal filing listed t created, filing, listed, starts, created⟩⟩
    · exact ⟨default, fun contrary => absurd contrary member⟩
  choose time timed using timed
  exact ⟨time, timed⟩

/-- Texts in order are times in order. -/
theorem AreTimed.listsBackwards {time : TransferRow → Instant} {query : Query (List TransferRow)}
    {keep : TransferRow → Bool} (timed : AreTimed archive.store.transfers.values filings time)
    (answered : archive.read query = .ok (archive.store.newestFirst keep)) :
    archive.ListsBackwards time query keep := by
  refine ⟨_, answered, ?_, archive.store.newestFirst_perm keep, ?_⟩
  · rw [Query.records, read_andThen, answered]
    rfl
  · refine (archive.store.pairwise_newestFirst keep).imp_of_mem ?_
    intro first second member member' later
    have listed := ((archive.store.mem_newestFirst_iff keep).mp member).1
    have listed' := ((archive.store.mem_newestFirst_iff keep).mp member').1
    rw [timed.text_eq listed, timed.text_eq listed'] at later
    exact ((timed second listed').1.text_le_iff (timed first listed).1).mp later

/-- In universal time texts are in the order of the instants.  So whatever an archive has done, if all
its transfers were filed in universal time, it lists those of a wallet, on either side or on both, and
those of a status, of one pool or of all, in the order of the instants of their creation, from the
latest back. -/
theorem backwards_of_filings (filed : HasFiled archive filings) (opened : archive.isOpen = true)
    (universal : ∀ filing ∈ filings, ∀ t, filing.entry.createdAt = some t → t.IsUniversal) :
    (∀ t u : Instant, t.IsUniversal → u.IsUniversal → (t.text ≤ u.text ↔ t.ticks ≤ u.ticks)) ∧
      ∃ time, AreTimed archive.store.transfers.values filings time ∧
        (∀ wallet direction, Text.hasHalf wallet = false →
          archive.ListsBackwards time (.walletRows (.text wallet) direction)
            (direction.admits wallet)) ∧
        ∀ status pool, Text.hasHalf status = false → (∀ name ∈ pool, Text.hasHalf name = false) →
          archive.ListsBackwards time (.rowsByStatus (.text status) (cellValue pool))
            (ofStatus status pool) := by
  obtain ⟨time, timed⟩ := filed.reflects.exists_areTimed universal
  refine ⟨fun t u first second => first.text_le_iff second, time, timed, ?_, ?_⟩
  · intro wallet direction clear
    exact timed.listsBackwards (read_walletRows opened clear direction)
  · intro status pool clear clearPool
    exact timed.listsBackwards (read_rowsByStatus opened clear clearPool)

/-- A transfer that is filed so many microseconds after noon. -/
def lateSample (id : String) (micro : Nat) : Filing :=
  { pendingSample id with
    entry := { (pendingSample id).entry with
      createdAt := some ⟨⟨2026, 1, 1⟩, 12, 0, 0, micro, some 0⟩ } }

/-- Whole seconds between fractions of them. -/
def lateSamples : List Filing := [lateSample "t1" 40, lateSample "t2" 0, lateSample "t3" 5]

/-- The three transfers of a wallet are listed backwards, though one of their times is a shorter text
than the others. -/
theorem backwards_sample :
    ∃ archive, HasFiled archive lateSamples ∧ archive.isOpen = true ∧
      (∀ filing ∈ lateSamples, ∀ t, filing.entry.createdAt = some t → t.IsUniversal) ∧
      ∃ time rows, AreTimed archive.store.transfers.values lateSamples time ∧
        archive.read (.walletRows (.text "alice") .both) = .ok rows ∧ rows.length = 3 ∧
        rows.Pairwise fun first second => (time second).ticks ≤ (time first).ticks := by
  let archive := inMemory.fileAll lateSamples
  have filed : archive.HasFiled lateSamples := .of_accepted (by decide +kernel)
  have opened : archive.isOpen = true := by decide +kernel
  have counted : (archive.store.transfers.values.filter
      (Store.Direction.both.admits "alice")).length = 3 := by decide +kernel
  have universal : ∀ filing ∈ lateSamples, ∀ t, filing.entry.createdAt = some t →
      t.IsUniversal := by
    intro filing member t created
    simp only [lateSamples, List.mem_cons, List.not_mem_nil, or_false] at member
    rcases member with rfl | rfl | rfl <;> obtain rfl := Option.some.inj created <;>
      exact ⟨by decide +kernel, rfl⟩
  obtain ⟨-, time, timed, wallets, -⟩ := backwards_of_filings filed opened universal
  obtain ⟨rows, answered, -, perm, backwards⟩ := wallets "alice" .both (by decide +kernel)
  exact ⟨archive, filed, opened, universal, time, rows, timed, answered, perm.length_eq.trans counted,
    backwards⟩

end Archive
end Escrow
