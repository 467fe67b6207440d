import Escrow.Proofs.Decimal
import Escrow.Proofs.Definitions
import Escrow.Proofs.Double
import Escrow.Roster.Definition

/-!
# Numbers in the cells of a row

A cell is not set or shows a text, and the text of a cell with a number is read as a whole number or as
a double that loses its fraction.  A text that stands for no number is refused.  One that stands for a
number beyond the doubles is out of range, which is told from the text: it is infinity in words, or its
exact value reaches the bound from which on it would be rounded to infinity.
-/

namespace Escrow

/-! ## Numbers beyond the doubles -/

namespace Text

variable {text : String} {chars : List Char}

/-- A numeral without its sign, in small letters. -/
def wordOf (chars : List Char) : String := String.ofList ((takeSign chars).2.map Char.toLower)

/-- The text is a word for a number beyond every other one. -/
def NamesInfinity (text : String) : Prop :=
  ∃ chars, plainNumeral text = some chars ∧ (wordOf chars = "inf" ∨ wordOf chars = "infinity")

/-- The digits of a decimal numeral and the power of ten that they are moved by. -/
def decimal? (text : String) : Option (Nat × Int) := do
  let (digits, behind, rest) ← takeDecimal (takeSign (← plainNumeral text)).2
  let exponent ← exponent? rest
  return (digitsValue digits, exponent - behind)

/-- The text stands for a number beyond the doubles: for infinity in words, or for a decimal numeral
whose value reaches their bound. -/
def IsBeyond (text : String) : Prop :=
  NamesInfinity text ∨ ∃ digits exponent, decimal? text = some (digits, exponent) ∧
    Double.ReachesBound digits exponent

/-- A word begins with a letter, so that it is no decimal numeral. -/
theorem decimal?_of_word {word : String} {first : Char} {others : List Char}
    (plain : plainNumeral text = some chars) (spelled : wordOf chars = word)
    (word_eq : word.toList = first :: others) (letter : first.isDigit = false)
    (no_point : first ≠ '.') : decimal? text = none := by
  rw [← spelled, wordOf, String.toList_ofList] at word_eq
  obtain ⟨c, rest, body_eq, first_eq, -⟩ := List.map_eq_cons_iff.mp word_eq
  have no_digit : c.isDigit = false := by
    by_contra digit
    rw [Bool.not_eq_false] at digit
    rw [toLower_of_isDigit digit] at first_eq
    rw [first_eq, letter] at digit
    cases digit
  have other : c ≠ '.' := by
    rintro rfl
    exact no_point first_eq.symm
  unfold decimal? takeDecimal
  simp [plain, body_eq, no_digit, other]

/-- A numeral is read as the word that it is, or else as a decimal numeral. -/
theorem readDouble?_eq (plain : plainNumeral text = some chars) :
    readDouble? text =
      if wordOf chars = "inf" ∨ wordOf chars = "infinity" then some (.infinite (takeSign chars).1)
      else if wordOf chars = "nan" then some .nan
      else (decimal? text).map fun (digits, exponent) =>
        .ofDecimal (takeSign chars).1 digits exponent := by
  unfold readDouble? decimal?
  rw [plain]
  simp [wordOf, Option.map_bind]

/-- A text is read as infinite exactly if it stands for a number beyond the doubles. -/
theorem readDouble?_infinite_iff :
    (∃ sign, readDouble? text = some (.infinite sign)) ↔ IsBeyond text := by
  unfold IsBeyond NamesInfinity
  cases plain : plainNumeral text with
  | none => simp [readDouble?, decimal?, plain]
  | some chars =>
      rw [readDouble?_eq plain]
      by_cases infinity : wordOf chars = "inf" ∨ wordOf chars = "infinity"
      · simp [infinity]
      by_cases undefined : wordOf chars = "nan"
      · have no_decimal := decimal?_of_word plain undefined rfl (by decide) (by decide)
        simp [undefined, no_decimal]
      cases value : decimal? text with
      | none => simp [infinity, undefined]
      | some decimal =>
          obtain ⟨digits, exponent⟩ := decimal
          have rounded := Double.ofDecimal_infinite_iff (takeSign chars).1 digits exponent
          simp [infinity, undefined, ← rounded]

/-- The text stands for a number that is neither read as a whole one nor held by a double. -/
structure IsOutOfRange (text : String) : Prop where
  unread : ∀ n, readInt text ≠ .ok n
  beyond : IsBeyond text

end Text

/-! ## Cells -/

namespace SheetRow

/-- The row has one cell at most under each heading. -/
def IsMapping (row : SheetRow) : Prop := (row.map Prod.fst).Nodup

instance (row : SheetRow) : Decidable row.IsMapping := inferInstanceAs (Decidable (List.Nodup _))

/-- The cell of a column is missing, blank or a dash. -/
def IsUnset (row : SheetRow) (column : String) : Prop :=
  ∀ cell, (column, some cell) ∈ row → Text.strip cell = "" ∨ Text.strip cell = "-"

/-- The cell of a column shows a text. -/
def Shows (row : SheetRow) (column text : String) : Prop :=
  ∃ cell, (column, some cell) ∈ row ∧ setText? cell = some text

variable {row : SheetRow} {column text : String} {cell : Option String}

private theorem setText?_eq_none_iff :
    setText? text = none ↔ Text.strip text = "" ∨ Text.strip text = "-" := by
  simp [setText?, or_iff_not_imp_left]

theorem Shows.not_isUnset (shows : row.Shows column text) : ¬row.IsUnset column := by
  obtain ⟨cell, member, set⟩ := shows
  intro unset
  rw [setText?_eq_none_iff.mpr (unset cell member)] at set
  cases set

private theorem IsMapping.cell_of_mem (mapping : row.IsMapping) (member : (column, cell) ∈ row) :
    row.cell column = .ok (cell.bind setText?) := by
  have single : row.filter (fun entry => entry.1 = column) = [(column, cell)] := by
    induction row with
    | nil => cases member
    | cons entry rest ih =>
        obtain ⟨absent, mapping⟩ := List.nodup_cons.mp mapping
        rcases List.mem_cons.mp member with rfl | later
        · rw [List.filter_cons_of_pos (by simp), List.cons_inj_right, List.filter_eq_nil_iff]
          intro other listed
          simp only [decide_eq_true_eq]
          exact fun same => absent (List.mem_map.mpr ⟨other, listed, same⟩)
        · have other : entry.1 ≠ column := fun same =>
            absent (List.mem_map.mpr ⟨(column, cell), later, same.symm⟩)
          rw [List.filter_cons_of_neg (by simpa using other)]
          exact ih mapping later
  unfold SheetRow.cell
  rw [single]

private theorem cell_of_absent (absent : ∀ cell, (column, cell) ∉ row) :
    row.cell column = .ok none := by
  have none_left : row.filter (fun entry => entry.1 = column) = [] := by
    rw [List.filter_eq_nil_iff]
    rintro ⟨heading, cell⟩ member
    simp only [decide_eq_true_eq]
    rintro rfl
    exact absent cell member
  unfold SheetRow.cell
  rw [none_left]

private theorem IsMapping.cell_of_shows (mapping : row.IsMapping) (shows : row.Shows column text) :
    row.cell column = .ok (some text) := by
  obtain ⟨given, member, set⟩ := shows
  rw [mapping.cell_of_mem member, Option.bind_some, set]

/-- A cell of a row is not set or shows a text. -/
theorem IsMapping.cell_cases (mapping : row.IsMapping) (column : String) :
    row.cell column = .ok none ∧ row.IsUnset column ∨
      ∃ text, row.cell column = .ok (some text) ∧ row.Shows column text := by
  by_cases there : ∃ cell, (column, cell) ∈ row
  · obtain ⟨cell, member⟩ := there
    have read := mapping.cell_of_mem member
    have only {other : Option String} (member' : (column, other) ∈ row) : other = cell :=
      congrArg Prod.snd (List.inj_on_of_nodup_map mapping member' member rfl)
    cases shown : cell.bind setText? with
    | none =>
        refine .inl ⟨read.trans (by rw [shown]), fun other member' => ?_⟩
        rw [← only member'] at shown
        exact setText?_eq_none_iff.mp shown
    | some text =>
        obtain ⟨given, rfl, set⟩ := Option.bind_eq_some_iff.mp shown
        exact .inr ⟨text, read.trans (by rw [shown]), given, member, set⟩
  · rw [not_exists] at there
    exact .inl ⟨cell_of_absent there, fun cell member => absurd member (there (some cell))⟩

end SheetRow

namespace Definition

/-! ## Numbers -/

variable {row : SheetRow} {column text : String} {columns front : List String}
  {problem other : Problem}

theorem isUnset_or_textCell (mapping : row.IsMapping) (column : String) :
    row.IsUnset column ∧ textCell row column = .ok none ∨
      ¬row.IsUnset column ∧ ∃ text, textCell row column = .ok (some text) := by
  unfold textCell
  rcases mapping.cell_cases column with ⟨read, unset⟩ | ⟨text, read, shows⟩
  · rw [read]
    exact .inl ⟨unset, rfl⟩
  · rw [read]
    exact .inr ⟨shows.not_isUnset, text, rfl⟩

theorem exists_textCell (mapping : row.IsMapping) (column : String) :
    ∃ cell, textCell row column = .ok cell := by
  rcases isUnset_or_textCell mapping column with ⟨-, cell⟩ | ⟨-, text, cell⟩
  · exact ⟨none, cell⟩
  · exact ⟨some text, cell⟩

private theorem numberOf_of_isOutOfRange (out : Text.IsOutOfRange text) (column : String) :
    numberOf column text = .error (.fault .outOfRange) := by
  obtain ⟨sign, infinite⟩ := Text.readDouble?_infinite_iff.mpr out.beyond
  unfold numberOf
  cases whole : Text.readInt text with
  | ok n => exact absurd whole (out.unread n)
  | error _ =>
      rw [infinite]
      rfl

/-- A text that is not out of range is read, or it is refused as no number. -/
theorem numberOf_of_not_isOutOfRange (inside : ¬Text.IsOutOfRange text) (column : String) :
    (∃ n, numberOf column text = .ok n) ∨
      numberOf column text = .error (.ofCause (.setup (.notNumeric column text))) := by
  unfold numberOf
  cases whole : Text.readInt text with
  | ok n => exact .inl ⟨n, rfl⟩
  | error _ =>
      have unread (n : Int) : Text.readInt text ≠ .ok n := by simp [whole]
      cases broken : Text.readDouble? text with
      | none => exact .inr rfl
      | some x =>
          cases x with
          | finite negative mantissa exponent => exact .inl ⟨_, rfl⟩
          | nan => exact .inr rfl
          | infinite sign =>
              exact absurd ⟨unread, Text.readDouble?_infinite_iff.mp ⟨sign, broken⟩⟩ inside

private theorem numberCell_of_shows (mapping : row.IsMapping) (shows : row.Shows column text) :
    numberCell row column = some <$> numberOf column text := by
  unfold numberCell textCell
  rw [mapping.cell_of_shows shows]
  rfl

/-- The number of a column that cannot be read is refused, or its text is out of range. -/
theorem numberCell_eq_error (mapping : row.IsMapping)
    (fails : numberCell row column = .error problem) :
    problem.IsOfSetup ∨ problem = .fault .outOfRange ∧
      ∃ text, row.Shows column text ∧ Text.IsOutOfRange text := by
  rcases mapping.cell_cases column with ⟨read, -⟩ | ⟨text, -, shows⟩
  · unfold numberCell textCell at fails
    rw [read] at fails
    cases fails
  · rw [numberCell_of_shows mapping shows] at fails
    by_cases out : Text.IsOutOfRange text
    · rw [numberOf_of_isOutOfRange out] at fails
      cases fails
      exact .inr ⟨rfl, text, shows, out⟩
    · rcases numberOf_of_not_isOutOfRange out column with ⟨n, read⟩ | refused
      · rw [read] at fails
        cases fails
      · rw [refused] at fails
        cases fails
        exact .inl ⟨_, rfl⟩

theorem numberCell_of_isOutOfRange (mapping : row.IsMapping) (shows : row.Shows column text)
    (out : Text.IsOutOfRange text) : numberCell row column = .error (.fault .outOfRange) := by
  rw [numberCell_of_shows mapping shows, numberOf_of_isOutOfRange out]
  rfl

/-- The numbers of some columns can be read. -/
def AreRead (row : SheetRow) (columns : List String) : Prop :=
  ∀ column ∈ columns, ∃ number, numberCell row column = .ok number

/-- The numbers of some columns are read up to the first that fails. -/
inductive StopsAt (row : SheetRow) : List String → Problem → Prop where
  | here {column : String} {rest : List String} {problem : Problem}
      (fails : numberCell row column = .error problem) : StopsAt row (column :: rest) problem
  | later {column : String} {rest : List String} {problem : Problem} {number : Option Int}
      (read : numberCell row column = .ok number) (stops : StopsAt row rest problem) :
      StopsAt row (column :: rest) problem

theorem areRead_or_stopsAt (row : SheetRow) (columns : List String) :
    AreRead row columns ∨ ∃ problem, StopsAt row columns problem := by
  induction columns with
  | nil => exact .inl (by simp [AreRead])
  | cons column rest ih =>
      cases cell : numberCell row column with
      | error problem => exact .inr ⟨problem, .here cell⟩
      | ok number =>
          refine ih.imp (fun read => ?_) fun ⟨problem, stops⟩ => ⟨problem, .later cell stops⟩
          exact List.forall_mem_cons.mpr ⟨⟨number, cell⟩, read⟩

theorem stopsAt_iff :
    StopsAt row columns problem ↔ ∃ earlier column later, columns = earlier ++ column :: later ∧
      AreRead row earlier ∧ numberCell row column = .error problem := by
  constructor
  · intro stops
    induction stops with
    | @here column rest _ fails => exact ⟨[], column, rest, rfl, by simp [AreRead], fails⟩
    | @later first _ _ number read _ ih =>
        obtain ⟨earlier, column, later, rfl, all_read, fails⟩ := ih
        exact ⟨first :: earlier, column, later, rfl,
          List.forall_mem_cons.mpr ⟨⟨number, read⟩, all_read⟩, fails⟩
  · rintro ⟨earlier, column, later, rfl, all_read, fails⟩
    induction earlier with
    | nil => exact .here fails
    | cons first rest ih =>
        obtain ⟨⟨number, read⟩, others⟩ := List.forall_mem_cons.mp all_read
        exact .later read (ih others)

theorem StopsAt.unique (stops : StopsAt row columns problem) (again : StopsAt row columns other) :
    problem = other := by
  induction stops with
  | here fails =>
      cases again with
      | here fails' => exact Except.error.inj (fails.symm.trans fails')
      | later read => cases fails.symm.trans read
  | later read _ ih =>
      cases again with
      | here fails => cases fails.symm.trans read
      | later _ stops => exact ih stops

theorem StopsAt.not_areRead (stops : StopsAt row columns problem) : ¬AreRead row columns := by
  obtain ⟨earlier, column, later, rfl, -, fails⟩ := stopsAt_iff.mp stops
  intro read
  obtain ⟨number, cell⟩ := read column (by simp)
  cases cell.symm.trans fails

theorem StopsAt.append (stops : StopsAt row front problem) (back : List String) :
    StopsAt row (front ++ back) problem := by
  induction stops with
  | here fails => exact .here fails
  | later read _ ih => exact .later read ih

end Definition
end Escrow
