import Escrow.Roster.Sheet
import Escrow.Text.Content

/-!
# Comma-separated sheets

A text of rows whose fields are separated by commas.  A row ends at a line feed, a carriage return or
both.  A field in quotes may hold commas, line breaks and, doubled, quotes; behind the closing quote
it goes on as a plain one.  Blank lines do not count: a comma right behind the carriage return of a
blank line belongs to that line.  The first row holds the headings.  If the second one is longer,
its first fields name the row and the headings start behind them.
-/

namespace Escrow.Delimited

/-- Where a reading stands. -/
inductive Place where
  /-- At the start of a row. -/
  | row
  /-- In the blanks at the start of a row. -/
  | blanks
  /-- Behind the carriage return of a blank line. -/
  | afterBlankLine
  /-- At the start of a field. -/
  | field
  /-- In a field. -/
  | inside
  /-- In quotes. -/
  | quoted
  /-- Behind a quote inside quotes. -/
  | afterQuote
  /-- Behind the carriage return of a row. -/
  | afterReturn
  deriving DecidableEq

/-- What has been read. -/
structure Reading where
  /-- The finished rows, last one first. -/
  rows : List (List String) := []
  /-- The finished fields of the row, last one first. -/
  fields : List String := []
  /-- The characters of the field, last one first. -/
  chars : List Char := []
  place : Place := .row
  /-- The characters of blank lines since the last line feed or row, last one first. -/
  behind : List Char := []

namespace Reading

/-- Add a character to the field. -/
def push (reading : Reading) (c : Char) : Reading :=
  { reading with chars := c :: reading.chars, place := .inside }

/-- Finish the field. -/
def endField (reading : Reading) : Reading :=
  { reading with
    fields := String.ofList reading.chars.reverse :: reading.fields
    chars := []
    place := .field }

/-- Finish the row. -/
def endRow (reading : Reading) : Reading := { rows := reading.fields.reverse :: reading.rows }

/-- Keep a character of a blank line. -/
def keep (reading : Reading) (c : Char) (place : Place) : Reading :=
  { reading with behind := c :: reading.behind, place := place }

/-- Read a character outside quotes. -/
def stepPlain (reading : Reading) (c : Char) : Reading :=
  if c == ',' then reading.endField
  else if c == '\n' then reading.endField.endRow
  else if c == '\r' then { reading.endField with place := .afterReturn }
  else reading.push c

/-- Read a character at the start of a field. -/
def stepField (reading : Reading) (c : Char) : Reading :=
  if c == '"' then { reading with place := .quoted, behind := [] }
  else { reading with behind := [] }.stepPlain c

/-- Read a character at the start of a row. -/
def stepRow (reading : Reading) (c : Char) : Reading :=
  if c == '\n' then { rows := reading.rows }
  else if c == '\r' then reading.keep c .afterBlankLine
  else if c == ' ' || c == '\t' then reading.keep c .blanks
  else reading.stepField c

/-- Read a character; the characters that come back are to be read again.  Blanks that turn out to
start a row are read again as a part of its first field, together with the blank lines kept before
them. -/
def step (reading : Reading) (c : Char) : Reading × List Char :=
  match reading.place with
  | .row => (reading.stepRow c, [])
  | .blanks =>
    if c == '\n' || c == '\r' || c == ' ' || c == '\t' then (reading.stepRow c, [])
    else ({ reading with place := .field, behind := [] }, (c :: reading.behind).reverse)
  | .afterBlankLine =>
    if c == ',' then (reading.keep c .row, []) else (reading.stepRow c, [])
  | .field => (reading.stepField c, [])
  | .inside => (reading.stepPlain c, [])
  | .quoted =>
    if c == '"' then ({ reading with place := .afterQuote }, [])
    else ({ reading with chars := c :: reading.chars }, [])
  | .afterQuote =>
    if c == '"' then ({ reading.push c with place := .quoted }, []) else (reading.stepPlain c, [])
  | .afterReturn =>
    if c == '\n' then (reading.endRow, [])
    else if c == ',' then (reading.endRow.endField, [])
    else (reading.endRow.stepRow c, [])

/-- Read a text in at most so many steps. -/
def run : Nat → Reading → List Char → Reading
  | 0, reading, _ => reading
  | _, reading, [] => reading
  | steps + 1, reading, c :: rest =>
    let (reading, again) := reading.step c
    run steps reading (again ++ rest)

/-- The rows at the end of a text.  A quote must be closed. -/
def finish (reading : Reading) : Except Fault (List (List String)) :=
  match reading.place with
  | .quoted => .error .malformedRows
  | .row | .blanks | .afterBlankLine => .ok reading.rows.reverse
  | .field | .inside | .afterQuote => .ok reading.endField.endRow.rows.reverse
  | .afterReturn => .ok reading.endRow.rows.reverse

end Reading

/-- The rows of a text.  Characters that are read again start behind those that were read again
before, so the square of the length bounds the steps. -/
def rows (text : List Char) : Except Fault (List (List String)) :=
  (Reading.run ((text.length + 1) * (text.length + 1)) {} text).finish

/-- The characters of a text, without the byte order mark at its start. -/
def withoutMark (text : String) : List Char :=
  match text.toList with
  | '\ufeff' :: rest => rest
  | chars => chars

/-- The sheet of a text. -/
def sheet (text : String) : Except Fault Sheet := do
  match ← rows (withoutMark text) with
  | [] => throw .noHeader
  | headings :: rows =>
    let width := max headings.length (rows.head?.getD []).length
    if rows.any fun row => decide (width < row.length) then throw .malformedRows
    let names := width - headings.length
    return .make headings (rows.map fun row => (row.drop names).map some)

end Escrow.Delimited
