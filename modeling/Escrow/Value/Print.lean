import Escrow.Double.Shortest
import Escrow.Text.Numeral
import Escrow.Text.Quoted
import Escrow.Value.Basic

/-!
# Values as text

The two texts of a value: the plain one, which messages show, and the quoted one, which tells texts
from other data and which lists and mappings show of what they hold.  Both are total, but a whole number
of more digits than are read from a text cannot be written either: whether a value has such a number in
it is asked for apart from its texts.  However deep a value is nested, it is taken to be written.
-/

namespace Escrow

/-- The quoted text of an offset from universal time. -/
def Instant.quotedOffset (seconds : Int) : String :=
  if seconds = 0 then "datetime.timezone.utc"
  else if 0 < seconds then s!"datetime.timezone(datetime.timedelta(seconds={seconds}))"
  else
    let rest := seconds + 86400
    if rest = 0 then "datetime.timezone(datetime.timedelta(days=-1))"
    else s!"datetime.timezone(datetime.timedelta(days=-1, seconds={rest}))"

/-- The quoted text of a date. -/
def Date.quoted (date : Date) : String :=
  s!"datetime.date({date.year}, {date.month}, {date.day})"

/-- The quoted text of an instant: its fields, without zero seconds and microseconds at the end. -/
def Instant.quoted (t : Instant) : String :=
  let seconds :=
    if t.micro ≠ 0 then s!", {t.second}, {t.micro}"
    else if t.second ≠ 0 then s!", {t.second}" else ""
  let zone :=
    match t.offset with
    | some offset => ", tzinfo=" ++ quotedOffset offset
    | none => ""
  s!"datetime.datetime({t.date.year}, {t.date.month}, {t.date.day}, {t.hour}, {t.minute}" ++
    seconds ++ zone ++ ")"

namespace Value

/-- A truth value as text. -/
def truthText (b : Bool) : String := if b then "True" else "False"

mutual

/-- The quoted text of a value. -/
def quoted : Value → String
  | .null => "None"
  | .bool b => truthText b
  | .int n => toString n
  | .double x => x.text
  | .text s => Text.quoted s
  | .bytes data => Text.quotedBytes data
  | .date d => d.quoted
  | .moment t => t.quoted
  | .list items => "[" ++ quotedList items ++ "]"
  | .tuple [item] => "(" ++ quoted item ++ ",)"
  | .tuple items => "(" ++ quotedList items ++ ")"
  | .set [] => "set()"
  | .set members => "\x7b" ++ quotedList members ++ "\x7d"
  | .mapping entries => "\x7b" ++ quotedEntries entries ++ "\x7d"

/-- The quoted texts of a list, between commas. -/
def quotedList : List Value → String
  | [] => ""
  | [value] => quoted value
  | value :: rest => quoted value ++ ", " ++ quotedList rest

/-- The quoted texts of entries, between commas. -/
def quotedEntries : List (Value × Value) → String
  | [] => ""
  | [(key, value)] => quoted key ++ ": " ++ quoted value
  | (key, value) :: rest => quoted key ++ ": " ++ quoted value ++ ", " ++ quotedEntries rest

end

/-- The plain text of a value. -/
def plain : Value → String
  | .text s => s
  | .date d => d.text
  | .moment t => t.textWith " "
  | value => value.quoted

@[simp]
theorem plain_text (s : String) : Value.plain (.text s) = s := rfl

mutual

/-- Can the texts of a value be written?  No whole number in it may have too many digits. -/
def isWritable : Value → Bool
  | .int n => decide ((Nat.toDigits 10 n.natAbs).length ≤ Text.greatestDigitCount)
  | .list items => isWritableList items
  | .tuple items => isWritableList items
  | .set members => isWritableList members
  | .mapping entries => isWritableEntries entries
  | _ => true

/-- Can the texts of all values of a list be written? -/
def isWritableList : List Value → Bool
  | [] => true
  | value :: rest => isWritable value && isWritableList rest

/-- Can the texts of all keys and values of entries be written? -/
def isWritableEntries : List (Value × Value) → Bool
  | [] => true
  | (key, value) :: rest => isWritable key && isWritable value && isWritableEntries rest

end

@[simp]
theorem isWritable_text (s : String) : isWritable (.text s) = true := by simp [isWritable]

end Value

/-- The text of a whole number, in its own form. -/
def Whole.plain (n : Whole) : String := n.toValue.plain

instance : ToString Value := ⟨Value.plain⟩

instance : ToString Whole := ⟨Whole.plain⟩

end Escrow
