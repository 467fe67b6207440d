import Escrow.Proofs.Upsert

/-!
# Archives in use

An archive is opened and used: transfers, events and errors are filed in it, it is read, closed and
opened again.  Whatever it has done, its rows reflect the filings that have succeeded, and what
stands in them can be encoded.
-/

namespace Escrow

/-! ## What a text cell holds -/

namespace Text

private theorem hasHalf_toDigits (n : Nat) : hasHalf (String.ofList (Nat.toDigits 10 n)) = false :=
  hasHalf_ofList fun _ member => toNat_lt_of_mem_toDigits (by omega) (by omega) member

private theorem hasHalf_replicate_zero (n : Nat) :
    hasHalf (String.ofList (List.replicate n '0')) = false := by
  refine hasHalf_ofList fun c member => ?_
  rw [List.eq_of_mem_replicate member]
  decide

private theorem hasHalf_paddedNumber (width n : Nat) : hasHalf (paddedNumber width n) = false := by
  unfold paddedNumber
  rw [String.ofList_append, hasHalf_append, hasHalf_replicate_zero, hasHalf_toDigits]
  rfl

/-- The marks between digits. -/
def marks : List String := ["", "-", "+", ":", ".", "0.", "0", ".0", "0.0", "e", "Inf", " ", "1"]

private theorem hasHalf_marks : ∀ mark ∈ marks, hasHalf mark = false := by decide +kernel

private theorem hasHalf_date (date : Date) : hasHalf date.text = false := by
  have dash := hasHalf_marks "-" (by decide)
  simp [Date.text, hasHalf_append, hasHalf_paddedNumber, dash]

private theorem hasHalf_offset (seconds : Int) : hasHalf (Instant.offsetText seconds) = false := by
  have colon := hasHalf_marks ":" (by decide)
  have sign : hasHalf (if seconds < 0 then "-" else "+") = false :=
    hasHalf_marks _ (by split <;> decide)
  unfold Instant.offsetText
  simp only [hasHalf_append, hasHalf_paddedNumber, sign, colon, Bool.or_false, Bool.false_or]
  split
  · exact hasHalf_marks "" (by decide)
  · simp only [hasHalf_append, colon, hasHalf_paddedNumber, Bool.or_false]

private theorem hasHalf_moment (t : Instant) : hasHalf (t.textWith " ") = false := by
  have blank := hasHalf_marks " " (by decide)
  have colon := hasHalf_marks ":" (by decide)
  have fraction : hasHalf (if t.micro = 0 then "" else "." ++ paddedNumber 6 t.micro) = false := by
    split
    · exact hasHalf_marks "" (by decide)
    · simp only [hasHalf_append, hasHalf_marks "." (by decide), hasHalf_paddedNumber, Bool.or_false]
  unfold Instant.textWith
  simp only [hasHalf_append, hasHalf_date, hasHalf_paddedNumber, blank, colon, fraction,
    Bool.or_false, Bool.false_or]
  split
  · exact hasHalf_offset _
  · exact hasHalf_marks "" (by decide)

private theorem hasHalf_place (style : Double.Layout) {digits : List Char}
    (small : AreDigits digits)
    (point : Int) : hasHalf (Double.place style digits point) = false := by
  have shown {part : List Char} (sub : part ⊆ digits) : hasHalf (String.ofList part) = false :=
    hasHalf_ofList fun c member =>
      (toNat_of_isDigit (small c (sub member))).2.trans_lt (by omega)
  have point_clear := hasHalf_marks "." (by decide)
  unfold Double.place
  split
  · split
    · simp only [hasHalf_append, hasHalf_marks "0." (by decide), hasHalf_replicate_zero,
        shown (List.Subset.refl _), Bool.or_false]
    · simp only [hasHalf_append, shown (List.take_subset _ _), hasHalf_replicate_zero, point_clear,
        Bool.false_or]
      split
      · exact hasHalf_marks "0" (by decide)
      · exact shown (List.drop_subset _ _)
  · have sign : hasHalf (if point - 1 < 0 then "-" else "+") = false :=
      hasHalf_marks _ (by split <;> decide)
    have exponent := hasHalf_marks "e" (by decide)
    simp only [hasHalf_append, shown (List.take_subset _ _), hasHalf_replicate_zero,
      hasHalf_toDigits, sign, exponent, Bool.or_false, Bool.false_or]
    split
    · exact hasHalf_marks _ (by split <;> decide)
    · simp only [hasHalf_append, point_clear, shown (List.drop_subset _ _), Bool.or_false]

private theorem hasHalf_significantText (style : Double.Layout) (digits : Nat) {x : Double}
    (number : x ≠ .nan) : hasHalf (x.significantText style digits) = false := by
  have sign (negative : Bool) : hasHalf (Double.signText negative) = false :=
    hasHalf_marks _ (by cases negative <;> decide)
  unfold Double.significantText
  split
  · exact absurd rfl number
  · simp only [hasHalf_append, sign, hasHalf_marks "Inf" (by decide), Bool.or_false]
  · split
    · exact hasHalf_marks "0.0" (by decide)
    · simp only [hasHalf_append, sign, Bool.false_or]
      refine hasHalf_place style (fun c member => ?_) _
      have kept := List.dropWhile_subset _ (List.mem_reverse.mp member)
      exact areDigits_toDigits _ c (List.mem_reverse.mp kept)

/-- The text of whatever is put into a text cell can be encoded. -/
theorem hasHalf_of_ofText {value : Value} {text : String}
    (held : Cell.ofText value = .ok (some text)) : hasHalf text = false := by
  cases value with
  | null => cases held
  | bool b =>
      obtain rfl := Option.some.inj (Except.ok.inj held)
      exact hasHalf_marks _ (by cases b <;> decide)
  | int n =>
      have held : (if Cell.fits n then .ok (some (toString n)) else .error CellError.outOfRange) =
        Except.ok (some text) := held
      split at held
      · obtain rfl := Option.some.inj (Except.ok.inj held)
        exact hasHalf_int n
      · cases held
  | double x =>
      have held : Cell.doubleText x = some text := Except.ok.inj held
      unfold Cell.doubleText at held
      split at held
      · cases held
      · rename_i number
        obtain rfl := Option.some.inj held
        exact hasHalf_significantText _ _ number
  | text s =>
      obtain ⟨cell, cell_eq, made⟩ := map_eq_ok_iff.mp held
      obtain rfl := Option.some.inj made
      unfold Cell.textCell at cell_eq
      split at cell_eq
      · cases cell_eq
      · rename_i clear
        obtain rfl := Except.ok.inj cell_eq
        simpa using clear
  | date d =>
      obtain rfl := Option.some.inj (Except.ok.inj held)
      exact hasHalf_date d
  | moment t =>
      obtain rfl := Option.some.inj (Except.ok.inj held)
      exact hasHalf_moment t
  | _ => cases held

end Text

/-! ## Archives and their filings -/

namespace Archive

/-- What is left of the filings of an archive when it is opened again. -/
def keptFilings (archive : Archive) (filings : List Filing) : List Filing :=
  match archive.kept with
  | .transient => []
  | .inFile => filings

/-- The archive has been opened and used, and these of its filings have succeeded. -/
inductive HasFiled : Archive → List Filing → Prop where
  | opened {path : Value} {archive : Archive} (opened : openAt path = .ok archive) :
      HasFiled archive []
  | file {archive : Archive} {past : List Filing} (before : HasFiled archive past)
      (filing : Filing) : HasFiled (archive.file filing).1 (past ++ archive.accepted [filing])
  | event {archive : Archive} {past : List Filing} (before : HasFiled archive past)
      (entry : EventEntry) : HasFiled (archive.writeEvent entry).1 past
  | error {archive : Archive} {past : List Filing} (before : HasFiled archive past)
      (transfer kind message : Value) (now : Except Fault Instant) :
      HasFiled (archive.writeError transfer kind message now).1 past
  | reading {α : Type} {archive : Archive} {past : List Filing} (before : HasFiled archive past)
      (query : Query α) : HasFiled (archive.afterReading query) past
  | close {archive : Archive} {past : List Filing} (before : HasFiled archive past) :
      HasFiled archive.close past
  | reopen {archive : Archive} {past : List Filing} (before : HasFiled archive past) :
      HasFiled archive.reopen (archive.keptFilings past)

variable {archive : Archive} {filings : List Filing}

private theorem transfers_writeEvent (archive : Archive) (entry : EventEntry) :
    (archive.writeEvent entry).1.store.transfers = archive.store.transfers := by
  refine @store_write archive _ (·.transfers) _ _ _ fun store result recorded => ?_
  unfold Store.recordEvent at recorded
  split at recorded
  · cases recorded
  · exact Store.written_keeps recorded fun _ => rfl

private theorem transfers_writeError (archive : Archive) (transfer kind message : Value)
    (now : Except Fault Instant) :
    (archive.writeError transfer kind message now).1.store.transfers = archive.store.transfers := by
  unfold writeError
  split
  · rfl
  · refine @store_write archive _ (·.transfers) _ _ _ fun store result recorded => ?_
    exact Store.written_keeps recorded fun _ => rfl
  · rfl

private theorem store_afterReading {α : Type} (archive : Archive) (query : Query α) :
    (archive.afterReading query).store = archive.store := by
  unfold afterReading
  split
  · rfl
  · exact store_prepare archive query.statement

private theorem reflects_empty : Reflects .empty [] := by
  intro key
  rw [Table.get?_empty]
  exact .absent

theorem HasFiled.reflects (filed : HasFiled archive filings) :
    Reflects archive.store.transfers filings := by
  induction filed with
  | opened opened =>
      rw [transfers_openAt opened]
      exact reflects_empty
  | file _ filing ih => exact ih.fileAll [filing]
  | event _ entry ih => rwa [transfers_writeEvent]
  | error _ transfer kind message now ih => rwa [transfers_writeError]
  | reading _ query ih => rwa [store_afterReading]
  | close _ ih => exact ih
  | @reopen archive past _ ih =>
      unfold Archive.reopen keptFilings
      cases archive.kept with
      | transient => exact reflects_empty
      | inFile => exact ih

private theorem HasFiled.fileAll {past : List Filing} (filed : HasFiled archive past)
    (filings : List Filing) :
    HasFiled (archive.fileAll filings) (past ++ archive.accepted filings) := by
  induction filings generalizing archive past with
  | nil =>
      rw [accepted, List.append_nil]
      exact filed
  | cons filing rest ih =>
      have later := ih (filed.file filing)
      rw [List.append_assoc] at later
      have accepted_eq : archive.accepted [filing] ++ (archive.file filing).1.accepted rest =
          archive.accepted (filing :: rest) := by
        simp only [accepted]
        split <;> rfl
      rwa [accepted_eq] at later

/-- A new archive that is kept nowhere. -/
def inMemory : Archive := { path := memoryPath, kept := .transient }

theorem openAt_memoryPath : openAt (.text memoryPath) = .ok inMemory := by decide +kernel

/-- A new archive in which all filings succeed has filed them. -/
theorem HasFiled.of_accepted (accepted_eq : inMemory.accepted filings = filings) :
    HasFiled (inMemory.fileAll filings) filings := by
  have filed := (HasFiled.opened openAt_memoryPath).fileAll filings
  rwa [accepted_eq, List.nil_append] at filed

/-- Every row starts as a filing. -/
theorem Reflects.exists_filing {rows : Table String TransferRow} {row : TransferRow}
    (reflects : Reflects rows filings) (member : row ∈ rows.values) :
    ∃ filing ∈ filings, row.StartsAs filing := by
  obtain ⟨key, found⟩ := Table.mem_values_iff.mp member
  have leaves := reflects key
  rw [found] at leaves
  obtain ⟨filing, listed, starts⟩ := leaves.exists_first
  exact ⟨filing, List.mem_of_mem_filter listed, starts⟩

/-- The pools of the rows can be encoded. -/
theorem HasFiled.hasHalf_pool (filed : HasFiled archive filings) {row : TransferRow}
    (member : row ∈ archive.store.transfers.values) : Text.hasHalf row.pool = false := by
  obtain ⟨filing, -, starts⟩ := filed.reflects.exists_filing member
  exact Text.hasHalf_of_ofText starts.pool

end Archive
end Escrow
