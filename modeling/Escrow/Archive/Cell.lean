import Escrow.Double.Significant
import Escrow.Error
import Escrow.Text.Numeral

/-!
# Cells of the archive

A cell of the archive holds nothing, a text or a number.  A text column stores every number as its
text; a number column stores a text as the number that it stands for, if there is one.  Lists and
mappings fit in no cell, whole numbers must fit in 64 bits with a sign, and a text must have bytes.
-/

namespace Escrow

/-- Why a datum does not fit in a cell. -/
inductive CellError where
  /-- The datum is no single datum. -/
  | unbindable
  /-- The datum is a whole number of more than 64 bits. -/
  | outOfRange
  /-- The datum is a text without bytes. -/
  | unencodable
  /-- The datum is a whole number of too many digits. -/
  | unwritable
  deriving DecidableEq

/-- The fault that an attempt ends in whose datum does not fit, unless the attempt is only refused. -/
def CellError.fault? : CellError → Option Fault
  | .unbindable => none
  | .outOfRange => some .outOfRange
  | .unencodable => some .unencodable
  | .unwritable => some .badValue

namespace Cell

/-- The least whole number that fits in a cell. -/
def least : Int := -9223372036854775808

/-- The greatest whole number that fits in a cell. -/
def greatest : Int := 9223372036854775807

/-- Does a whole number fit in a cell? -/
def fits (n : Int) : Bool := least ≤ n && n ≤ greatest

/-- How many digits the text of a double has at most. -/
def keptDigits : Nat := 15

/-- The layout of a double in a text column. -/
def layout : Double.Layout where
  leastPoint := -4
  greatestPoint := keptDigits
  exponentWidth := 2
  isPointed := true

/-- The text of a double in a text column; what is no number is stored as nothing. -/
def doubleText : Double → Option String
  | .nan => none
  | x => some (x.significantText layout keptDigits)

/-- A text in a cell. -/
def textCell (text : String) : Except CellError String :=
  if Text.hasHalf text then .error .unencodable else .ok text

/-- A datum in a text column. -/
def ofText : Value → Except CellError (Option String)
  | .null => .ok none
  | .text s => (textCell s).map some
  | .bool b => .ok (some (if b then "1" else "0"))
  | .int n => if fits n then .ok (some (toString n)) else .error .outOfRange
  | .double x => .ok (doubleText x)
  | .date d => .ok (some d.text)
  | .moment t => .ok (some (t.textWith " "))
  | _ => .error .unbindable

/-- A double as a whole number, if it is one well inside the range of a cell. -/
def wholeIfPossible (x : Double) : Value :=
  match x.toInt? with
  | some n => if least < n && n < greatest then .int n else .double x
  | none => .double x

/-- Blanks around a number in a cell. -/
def isCellBlank (c : Char) : Bool := c == ' ' || (9 ≤ c.toNat && c.toNat ≤ 13)

/-- The number that a text stands for. -/
def numberOfText? (text : String) : Option Value := do
  let (negative, body) := Text.takeSign (Text.trim isCellBlank text.toList)
  let signed (n : Nat) : Int := if negative then -(n : Int) else n
  match Text.natural? body with
  | some n =>
    if fits (signed n) then some (.int (signed n)) else some (.double (.ofInt (signed n)))
  | none =>
    let (digits, behind, rest) ← Text.takeDecimal body
    let exponent ← Text.exponent? rest
    some (wholeIfPossible (.ofDecimal negative (Text.digitsValue digits) (exponent - behind)))

/-- A datum in a number column. -/
def ofNumber : Value → Except CellError Value
  | .null => .ok .null
  | .bool b => .ok (.int (if b then 1 else 0))
  | .int n => if fits n then .ok (.int n) else .error .outOfRange
  | .double .nan => .ok .null
  | .double x => .ok (wholeIfPossible x)
  | .text s => (textCell s).map fun s => (numberOfText? s).getD (.text s)
  | .date d => .ok (.text d.text)
  | .moment t => .ok (.text (t.textWith " "))
  | _ => .error .unbindable

/-- Can the datum be handed to the archive? -/
def isFit (value : Value) : Bool :=
  match ofText value with
  | .ok _ => true
  | .error _ => false

/-- The text that a text column is searched for; nothing is found nowhere. -/
def searchText (value : Value) : Except Fault (Option String) :=
  (ofText value).mapError fun error => error.fault?.getD .unstorable

end Cell
end Escrow
