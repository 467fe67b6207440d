import Escrow.Double.Significant
import Escrow.Roster.Sheet
import Escrow.Roster.Title
import Escrow.Text.Half
import Escrow.Value.Order
import Escrow.Value.Print

/-!
# Workbooks

A workbook holds sheets with titles, whose cells are texts, numbers or truth values.  Numbers are
kept with 16 significant digits, line breaks as line feeds, formulas have no value, and some words
in a cell stand for an unset one.  The first row holds the headings; blank rows and cells at the end
do not count.
-/

namespace Escrow

/-- Sheets of cells under their titles. -/
structure Workbook where
  sheets : List (String × List (List Value))

namespace Workbook

/-- How many significant digits of a number a cell keeps. -/
def keptDigits : Nat := 16

/-- How many characters of a text a cell keeps. -/
def keptLength : Nat := 32767

/-- The words for an error in a cell. -/
def errorWords : List String :=
  ["#NULL!", "#DIV/0!", "#VALUE!", "#REF!", "#NAME?", "#NUM!", "#N/A"]

/-- The words that stand for an unset cell. -/
def unsetWords : List String :=
  ["", "#N/A", "#N/A N/A", "#NA", "-1.#IND", "-1.#QNAN", "-NaN", "-nan", "1.#IND", "1.#QNAN",
    "<NA>", "N/A", "NA", "NULL", "NaN", "None", "n/a", "nan", "null"]

/-- The mark of an escaped character in a stored text. -/
def escapeMark : String := "x005F_"

/-- Is the text a formula? -/
def isFormula (text : String) : Bool :=
  match text.toList with
  | '=' :: _ :: _ => true
  | _ => false

/-- Is the character a control that a cell cannot hold? -/
def isControl (c : Char) : Bool := c.toNat < 0x20 && c != '\t' && c != '\n' && c != '\r'

/-- Line breaks of every form as line feeds. -/
def plainBreaks : List Char → List Char
  | '\r' :: '\n' :: rest => '\n' :: plainBreaks rest
  | '\r' :: rest => '\n' :: plainBreaks rest
  | c :: rest => c :: plainBreaks rest
  | [] => []

/-- A number as a cell keeps it: whole if it has no fraction, and no number beyond the finite. -/
def keptNumber (x : Double) : Value :=
  let kept := x.rounded keptDigits
  match kept with
  | .finite .. =>
    match kept.toInt? with
    | some n => .int n
    | none => .double kept
  | _ => .text ""

/-- A text as a cell keeps it; an error is kept as nothing. -/
def keptText (text : String) : Value :=
  if isFormula text then .text ""
  else if errorWords.contains text then .null
  else .text ((String.ofList (plainBreaks text.toList)).replace escapeMark "")

/-- What a cell holds once it is stored. -/
def stored : Value → Except Fault Value
  | .null => .ok (.text "")
  | .bool b => .ok (.bool b)
  | .int n =>
    match Double.ofInt n with
    | .infinite _ => .error .outOfRange
    | x => .ok (keptNumber x)
  | .double x => .ok (keptNumber x)
  | .text s =>
    let kept := String.ofList (s.toList.take keptLength)
    if kept.toList.any isControl then .error .illegalCharacter
    else if Text.hasHalf kept then .error .unencodable
    else .ok (keptText kept)
  | _ => .error .badValue

/-- A workbook with one more sheet. -/
def addSheet (book : Workbook) (title : Value) (rows : List (List Value)) :
    Except Fault Workbook := do
  let title ← SheetTitle.ofValue (book.sheets.map Prod.fst) title
  return ⟨book.sheets ++ [(title, ← rows.mapM fun row => row.mapM stored)]⟩

/-- The workbook of sheets; it must have one. -/
def make (sheets : List (Value × List (List Value))) : Except Fault Workbook := do
  let book ← sheets.foldlM (fun book (title, rows) => book.addSheet title rows) ⟨[]⟩
  if book.sheets.isEmpty then throw .missingItem
  if book.sheets.any fun sheet => Text.hasHalf sheet.1 then throw .unencodable
  return book

/-- Is the cell empty? -/
def isEmpty (cell : Value) : Bool := decide (cell = .text "")

/-- The cells of a row up to the last one that is not empty. -/
def trimRow (cells : List Value) : List Value := (cells.reverse.dropWhile isEmpty).reverse

/-- The rows up to the last one that is not blank. -/
def trimRows (rows : List (List Value)) : List (List Value) :=
  (rows.reverse.dropWhile List.isEmpty).reverse

/-- The text of a cell, if it is set. -/
def cellText? : Value → Option String
  | .null => none
  | .text s => if unsetWords.contains s then none else some s
  | value => some value.plain

/-- The sheet of rows of cells. -/
def sheetOfRows (rows : List (List Value)) : Sheet :=
  let kept := trimRows (rows.map trimRow)
  let width := (kept.map List.length).foldl max 0
  let pad (row : List Value) : List Value := row ++ List.replicate (width - row.length) (.text "")
  match kept with
  | [] => ⟨[], []⟩
  | headings :: rows =>
    .make ((pad headings).map Value.plain) (rows.map fun row => (pad row).map cellText?)

/-- The sheet with a title or at a place; negative places count from the end. -/
def sheetAt (book : Workbook) (choice : Value) : Except Fault (List (List Value)) :=
  match choice with
  | .text title =>
    match book.sheets.lookup title with
    | some rows => .ok rows
    | none => .error .badValue
  | _ =>
    match Value.atMost? (.int book.sheets.length) choice with
    | none => .error .wrongKind
    | some true => .error .badValue
    | some false =>
      match choice.toInt? with
      | none => .error .wrongKind
      | some place =>
        let place := if place < 0 then place + book.sheets.length else place
        if place < 0 then .error .missingItem
        else
          match book.sheets[place.toNat]? with
          | some (_, rows) => .ok rows
          | none => .error .missingItem

/-- The chosen sheet of a workbook; the first one if nothing is chosen.  A list chooses several
sheets, which are no sheet together. -/
def choose (book : Workbook) (choice : Value) : Except Fault (List (List Value)) := do
  match choice.orElse (.int 0) with
  | .list choices =>
    if choices.any fun choice => !choice.isKey then throw .wrongKind
    let _ ← choices.mapM book.sheetAt
    throw .missingMember
  | choice =>
    if !choice.isKey then throw .wrongKind
    book.sheetAt choice

end Workbook
end Escrow
