import Escrow.Error
import Escrow.Text.Numeral

/-!
# Reading values

Values of one form read as another: as a whole number, as a mapping.  Each reading says which fault
a value of any other form is.
-/

namespace Escrow.Value

/-- The whole number that a datum stands for whose numeral is the text. -/
def readNumeral (datum : Value) (text : String) : Except Fault Int :=
  match Text.readInt text with
  | .ok n => .ok n
  | .error .malformed => .error (.badNumeral datum)
  | .error .tooLong => .error .badValue

/-- The whole number that a value stands for: a number without its fraction, or a numeral, which may be
given as bytes. -/
def readInt : Value → Except Fault Int
  | .int n => .ok n
  | .bool b => .ok (if b then 1 else 0)
  | .double x =>
    match x with
    | .nan => .error .badValue
    | _ =>
      match x.truncate with
      | some n => .ok n
      | none => .error .outOfRange
  | .text s => readNumeral (.text s) s
  | .bytes data =>
    match Text.ofAscii? data with
    | some s => readNumeral (.bytes data) s
    | none => .error (.badNumeral (.bytes data))
  | _ => .error .wrongKind

/-- A pair that an element of a list of entries stands for. -/
def readEntry (element : Value) : Except Fault (Value × Value) :=
  match element.elements? with
  | none => .error .wrongKind
  | some [key, value] => if key.isKey then .ok (key, value) else .error .wrongKind
  | some _ => .error .badValue

/-- The entries that a value stands for: those of a mapping, or a list of pairs. -/
def readEntries : Value → Except Fault (List (Value × Value))
  | .mapping entries => .ok entries
  | value =>
    match value.elements? with
    | none => .error .wrongKind
    | some elements => (elements.mapM readEntry).map insertAll

/-- The entries of a value that fields are read from. -/
def fields : Value → Except Fault (List (Value × Value))
  | .mapping entries => .ok entries
  | _ => .error .missingMember

/-- The value of a named field; nothing if the field is not there. -/
def field (name : String) (entries : List (Value × Value)) : Value :=
  (find? (.text name) entries).getD .null

/-- The value of a named field, or another value if the field is not there. -/
def fieldOr (name : String) (other : Value) (entries : List (Value × Value)) : Value :=
  (find? (.text name) entries).getD other

end Escrow.Value
