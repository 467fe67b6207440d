import Escrow.Double.Basic
import Escrow.Text.Character

/-!
# Numerals

The texts that stand for whole numbers and for doubles.  Both may have blanks around them, a sign,
decimal digits of any script, and single underscores between two digits.
-/

namespace Escrow.Text

/-- A whole number of more digits than this is not read from a text. -/
def greatestDigitCount : Nat := 4300

/-- The blanks allowed around a numeral: all but the four ASCII separators. -/
def isNumeralBlank (c : Char) : Bool := isBlank c && !(0x1c ≤ c.toNat && c.toNat ≤ 0x1f)

/-- Write decimal digits of every script as ASCII digits. -/
def asciiDigits (chars : List Char) : List Char :=
  chars.map fun c =>
    match digitValue? c with
    | some value => Char.ofNat ('0'.toNat + value)
    | none => c

/-- Remove underscores, each of which must stand between two digits. -/
def dropUnderscores (afterDigit : Bool) : List Char → Option (List Char)
  | [] => some []
  | '_' :: rest =>
    match rest with
    | c :: _ => if afterDigit && c.isDigit then dropUnderscores false rest else none
    | [] => none
  | c :: rest => (dropUnderscores c.isDigit rest).map (c :: ·)

/-- Split a sign off; no sign is a plus. -/
def takeSign : List Char → Bool × List Char
  | '-' :: rest => (true, rest)
  | '+' :: rest => (false, rest)
  | chars => (false, chars)

/-- The value of ASCII digits. -/
def digitsValue (chars : List Char) : Nat :=
  chars.foldl (fun value c => 10 * value + (c.toNat - '0'.toNat)) 0

/-- The number that a non-empty text of ASCII digits stands for. -/
def natural? (chars : List Char) : Option Nat :=
  if !chars.isEmpty && chars.all Char.isDigit then some (digitsValue chars) else none

/-- The value of a hexadecimal digit. -/
def hexDigit? (c : Char) : Option Nat :=
  if c.isDigit then some (c.toNat - '0'.toNat)
  else if 'a' ≤ c && c ≤ 'f' then some (c.toNat - 'a'.toNat + 10)
  else if 'A' ≤ c && c ≤ 'F' then some (c.toNat - 'A'.toNat + 10)
  else none

/-- The number of hexadecimal digits. -/
def hexNumber? (digits : List Char) : Option Nat :=
  digits.foldlM (fun value c => (hexDigit? c).map fun digit => 16 * value + digit) 0

/-- A numeral without its blanks and underscores, in ASCII digits. -/
def plainNumeral (text : String) : Option (List Char) :=
  dropUnderscores false (asciiDigits (trim isNumeralBlank text.toList))

/-- Why a text is not read as a whole number. -/
inductive NumeralError where
  /-- The text is no numeral. -/
  | malformed
  /-- The numeral has too many digits. -/
  | tooLong
  deriving DecidableEq

/-- The whole number that a text stands for. -/
def readInt (text : String) : Except NumeralError Int :=
  match plainNumeral text with
  | none => .error .malformed
  | some chars =>
    let (negative, digits) := takeSign chars
    match natural? digits with
    | none => .error .malformed
    | some value =>
      if greatestDigitCount < digits.length then .error .tooLong
      else .ok (if negative then -(value : Int) else value)

/-- The text of bytes that are all ASCII characters. -/
def ofAscii? (data : List UInt8) : Option String :=
  if data.all fun byte => decide (byte < 128) then
    some (String.ofList (data.map fun byte => Char.ofNat byte.toNat))
  else none

/-- The letter that follows a zero in front of the digits of a base. -/
def baseLetter? : Nat → Option Char
  | 2 => some 'b'
  | 8 => some 'o'
  | 16 => some 'x'
  | _ => none

/-- Digits without the zero and the letter of their base in front of them. -/
def withoutBase (base : Nat) : List Char → List Char
  | '0' :: letter :: digits =>
    if baseLetter? base = some letter.toLower then digits else '0' :: letter :: digits
  | digits => digits

/-- The whole number that a text stands for in a base of at most 16. -/
def readIntIn? (base : Nat) (chars : List Char) : Option Int := do
  let (negative, body) := takeSign (asciiDigits (trim isNumeralBlank chars))
  let digits := withoutBase base body
  if digits.isEmpty then none
  let value ← digits.foldlM (fun value c => do
    let digit ← hexDigit? c
    if digit < base then some (base * value + digit) else none) 0
  return if negative then -(value : Int) else value

/-- The exponent behind the digits of a numeral: nothing, or `e` with a signed whole number. -/
def exponent? : List Char → Option Int
  | [] => some 0
  | c :: rest =>
    if c == 'e' || c == 'E' then
      let (negative, digits) := takeSign rest
      (natural? digits).map fun value => if negative then -(value : Int) else value
    else none

/-- Digits with at most one point among them, as digits and the count of those behind the point,
and what follows. -/
def takeDecimal (chars : List Char) : Option (List Char × Nat × List Char) :=
  let whole := chars.takeWhile Char.isDigit
  let rest := chars.dropWhile Char.isDigit
  let (fraction, rest) :=
    match rest with
    | '.' :: behind => (behind.takeWhile Char.isDigit, behind.dropWhile Char.isDigit)
    | _ => ([], rest)
  if whole.isEmpty && fraction.isEmpty then none else some (whole ++ fraction, fraction.length, rest)

/-- The double that a text stands for. -/
def readDouble? (text : String) : Option Double := do
  let (negative, body) := takeSign (← plainNumeral text)
  let word := String.ofList (body.map Char.toLower)
  if word == "inf" || word == "infinity" then return .infinite negative
  if word == "nan" then return .nan
  let (digits, behind, rest) ← takeDecimal body
  let exponent ← exponent? rest
  return .ofDecimal negative (digitsValue digits) (exponent - behind)

/-- A whole number with a comma before every third digit from the right. -/
def grouped (n : Int) : String :=
  let digits := Nat.toDigits 10 n.natAbs
  let rec insert : Nat → List Char → List Char
    | _, [] => []
    | count, c :: rest =>
      if count != 0 && count % 3 == 0 then ',' :: c :: insert (count - 1) rest
      else c :: insert (count - 1) rest
  match insert digits.length digits with
  | ',' :: shown => (if n < 0 then "-" else "") ++ String.ofList shown
  | shown => (if n < 0 then "-" else "") ++ String.ofList shown

end Escrow.Text
