import Escrow.Calendar

/-!
# Tags

A tag says what kind of datum a node is.  A plain scalar without a tag gets one from its form: the
words for truth values and for nothing, the forms of whole and of other numbers, of dates and of
instants; every other text is a text.
-/

namespace Escrow.Yaml

/-- The common part of the tags of the language. -/
def coreTag (name : String) : String := "tag:yaml.org,2002:" ++ name

/-- The kinds of plain scalars. -/
inductive Form where
  | null
  | bool
  | int
  | float
  | timestamp
  | merge
  | value
  /-- A sign that has a meaning in front of a node. -/
  | indicator
  | text
  deriving DecidableEq, Inhabited

/-- The name of a kind. -/
def Form.name : Form → String
  | .null => "null"
  | .bool => "bool"
  | .int => "int"
  | .float => "float"
  | .timestamp => "timestamp"
  | .merge => "merge"
  | .value => "value"
  | .indicator => "yaml"
  | .text => "str"

/-- The tag of a kind. -/
def Form.tag (form : Form) : String := coreTag form.name

namespace Form

/-- The words for true. -/
def trueWords : List String := ["yes", "Yes", "YES", "true", "True", "TRUE", "on", "On", "ON"]

/-- The words for false. -/
def falseWords : List String := ["no", "No", "NO", "false", "False", "FALSE", "off", "Off", "OFF"]

/-- The words for nothing. -/
def nullWords : List String := ["", "~", "null", "Null", "NULL"]

/-- A digit or an underscore. -/
def isDigitPart (c : Char) : Bool := c.isDigit || c == '_'

/-- A text without its sign. -/
def unsigned : List Char → List Char
  | '+' :: rest => rest
  | '-' :: rest => rest
  | chars => chars

/-- The parts of a text between its colons. -/
def parts : List Char → List (List Char)
  | [] => [[]]
  | c :: rest =>
    match parts rest with
    | first :: others => if c == ':' then [] :: first :: others else (c :: first) :: others
    | [] => [[c]]

/-- Is this a part of a sexagesimal number: one or two digits below 60? -/
def isSixtieth : List Char → Bool
  | [c] => c.isDigit
  | [c, d] => '0' ≤ c && c ≤ '5' && d.isDigit
  | _ => false

/-- Is this a digit and then digits and underscores? -/
def isDigits : List Char → Bool
  | c :: rest => c.isDigit && rest.all isDigitPart
  | [] => false

/-- The form of a whole number: binary, octal, hexadecimal, decimal or sexagesimal. -/
def isInt (text : List Char) : Bool :=
  match unsigned text with
  | '0' :: 'b' :: digits => !digits.isEmpty && digits.all fun c => c == '0' || c == '1' || c == '_'
  | '0' :: 'x' :: digits =>
    !digits.isEmpty && digits.all fun c =>
      isDigitPart c || ('a' ≤ c && c ≤ 'f') || ('A' ≤ c && c ≤ 'F')
  | '0' :: digits => digits.all fun c => ('0' ≤ c && c ≤ '7') || c == '_'
  | digits =>
    match parts digits with
    | first :: others => isDigits first && others.all isSixtieth
    | [] => false

/-- The form of an exponent: a letter, a sign and digits. -/
def isExponent : List Char → Bool
  | c :: sign :: digits =>
    (c == 'e' || c == 'E') && (sign == '+' || sign == '-') && !digits.isEmpty &&
      digits.all Char.isDigit
  | _ => false

/-- The form of what follows the point of a number. -/
def isFraction (chars : List Char) : Bool :=
  let rest := chars.dropWhile isDigitPart
  rest.isEmpty || isExponent rest

/-- The form of a number with a point. -/
def isPointed (text : List Char) : Bool :=
  let body := unsigned text
  match body.dropWhile isDigitPart with
  | '.' :: rest => isDigits (body.takeWhile isDigitPart) && isFraction rest
  | _ => false

/-- The form of a number that starts with a point. -/
def startsWithPoint : List Char → Bool
  | '.' :: c :: rest => c.isDigit && isFraction rest
  | _ => false

/-- The form of a sexagesimal number with a point. -/
def isPointedSexagesimal (text : List Char) : Bool :=
  let body := unsigned text
  match body.dropWhile (· != '.') with
  | '.' :: rest =>
    rest.all isDigitPart &&
      match parts (body.takeWhile (· != '.')) with
      | first :: second :: others => isDigits first && (second :: others).all isSixtieth
      | _ => false
  | _ => false

/-- The words for infinity, without a sign. -/
def infinityWords : List String := [".inf", ".Inf", ".INF"]

/-- The words for no number. -/
def nanWords : List String := [".nan", ".NaN", ".NAN"]

/-- The form of a number that is not whole. -/
def isFloat (text : List Char) : Bool :=
  isPointed text || startsWithPoint text || isPointedSexagesimal text ||
    infinityWords.contains (String.ofList (unsigned text)) ||
    nanWords.contains (String.ofList text)

/-- The fields of a date or an instant, as they are written. -/
structure Moment where
  date : Date
  /-- Hour, minute and second. -/
  time : Option (Nat × Nat × Nat) := none
  fraction : List Char := []
  /-- The sign of the offset, with its hours and minutes. -/
  offset : Option (Bool × Nat × Nat) := none

/-- A number of one or two digits at the front. -/
def takeShort (chars : List Char) : Option (Nat × List Char) :=
  match chars with
  | c :: d :: rest =>
    if c.isDigit then
      if d.isDigit then some (Text.digitsValue [c, d], rest) else some (Text.digitsValue [c], d :: rest)
    else none
  | [c] => if c.isDigit then some (Text.digitsValue [c], []) else none
  | [] => none

/-- Is the character a space or a tab? -/
def isGap (c : Char) : Bool := c == ' ' || c == '\t'

/-- What stands between a date and a time. -/
def takeSeparator (chars : List Char) : Option (List Char) :=
  match chars with
  | 'T' :: rest => some rest
  | 't' :: rest => some rest
  | c :: rest => if isGap c then some (rest.dropWhile isGap) else none
  | [] => none

/-- The offset at the end of an instant. -/
def takeOffset (chars : List Char) : Option (Option (Bool × Nat × Nat)) :=
  match chars.dropWhile isGap with
  | [] => if chars.isEmpty then some none else none
  | ['Z'] => some (some (false, 0, 0))
  | sign :: rest => do
    if sign != '+' && sign != '-' then none
    let (hours, rest) ← takeShort rest
    match rest with
    | [] => some (some (sign == '-', hours, 0))
    | _ =>
      let (minutes, rest) ← Instant.takeDigits 2 (← Instant.takeChar ':' rest)
      if rest.isEmpty then some (some (sign == '-', hours, minutes)) else none

/-- The time of an instant. -/
def takeTime (date : Date) (chars : List Char) : Option Moment := do
  let (hour, rest) ← takeShort (← takeSeparator chars)
  let (minute, rest) ← Instant.takeDigits 2 (← Instant.takeChar ':' rest)
  let (second, rest) ← Instant.takeDigits 2 (← Instant.takeChar ':' rest)
  let (fraction, rest) :=
    match rest with
    | '.' :: behind => (behind.takeWhile Char.isDigit, behind.dropWhile Char.isDigit)
    | _ => ([], rest)
  return ⟨date, some (hour, minute, second), fraction, ← takeOffset rest⟩

/-- The fields of a text in the form of a date or an instant. -/
def moment? (text : List Char) : Option Moment := do
  let (year, rest) ← Instant.takeDigits 4 text
  let (month, rest) ← takeShort (← Instant.takeChar '-' rest)
  let (day, rest) ← takeShort (← Instant.takeChar '-' rest)
  let date : Date := ⟨year, month, day⟩
  match rest with
  | [] => some { date := date }
  | _ => takeTime date rest

/-- How many characters a date has whose month and day have two digits. -/
def dateLength : Nat := 10

/-- The form of a date or an instant.  A date alone has all its digits. -/
def isTimestamp (text : List Char) : Bool :=
  match moment? text with
  | some moment => moment.time.isSome || text.length == dateLength
  | none => false

/-- The signs that have a meaning in front of a node. -/
def signs : List String := ["!", "&", "*"]

/-- A text without the line feed behind it, if it has one and is more than that. -/
def withoutFinalBreak (chars : List Char) : List Char :=
  if chars.length > 1 && chars.getLast? = some '\n' then chars.dropLast else chars

/-- The kind of a plain scalar.  A line feed behind it does not count. -/
def ofText (text : String) : Form :=
  let chars := withoutFinalBreak text.toList
  let word := String.ofList chars
  if trueWords.contains word || falseWords.contains word then .bool
  else if isFloat chars then .float
  else if isInt chars then .int
  else if word == "<<" then .merge
  else if nullWords.contains word then .null
  else if isTimestamp chars then .timestamp
  else if word == "=" then .value
  else if signs.contains word then .indicator
  else .text

end Form
end Escrow.Yaml
