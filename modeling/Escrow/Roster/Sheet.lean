import Escrow.Error
import Escrow.Text.Case

/-!
# Sheets

A sheet is a table of texts under headings.  Headings are compared without regard to letter case,
to blanks around them, and to whether their words are joined by spaces or underscores.  A cell that
is blank or a dash is not set.
-/

namespace Escrow

/-- The cells of a row under their headings; a cell may be missing. -/
abbrev SheetRow := List (String × Option String)

/-- A table of texts under headings. -/
structure Sheet where
  headings : List String
  rows : List SheetRow
  deriving Inhabited

namespace Sheet

/-- A heading in the form in which headings are compared. -/
def plainHeading (heading : String) : String :=
  (Text.lower (Text.strip heading)).map fun c => if c = ' ' then '_' else c

/-- Headings as they are told apart: one that came before gets a number behind it, so that only
the first of equal headings keeps its name. -/
def distinguish : List String → List String → List String
  | _, [] => []
  | before, heading :: rest =>
    let named :=
      match before.count heading with
      | 0 => heading
      | number => s!"{heading}.{number}"
    named :: distinguish (heading :: before) rest

/-- The sheet with the given headings and cells.  A row may be shorter than the headings. -/
def make (headings : List String) (rows : List (List (Option String))) : Sheet :=
  let headings := (distinguish [] headings).map plainHeading
  let pad (cells : List (Option String)) : List (Option String) :=
    cells ++ List.replicate (headings.length - cells.length) none
  ⟨headings, rows.map fun cells => headings.zip (pad cells)⟩

end Sheet

namespace SheetRow

/-- The text that sets a cell; blanks around it do not count. -/
def setText? (text : String) : Option String :=
  let shown := Text.strip text
  if shown = "" || shown = "-" then none else some shown

/-- The text of the cell in a column.  Two columns of one heading leave open which one is meant. -/
def cell (row : SheetRow) (column : String) : Except Fault (Option String) :=
  match row.filter fun entry => entry.1 = column with
  | [] => .ok none
  | [(_, text)] => .ok (text.bind setText?)
  | _ => .error .badValue

end SheetRow
end Escrow
