import Escrow.Decimal.Basic
import Escrow.Text.Numeral

/-!
# Decimal numbers as text

Reading a decimal number, and its two texts: the positional one, which never has an exponent, and
the general one, which uses an exponent for numbers far from one.
-/

namespace Escrow.Decimal

/-- The greatest exponent of the first digit that a text may have. -/
def greatestReadExponent : Int := 999999999999999999

/-- The least exponent of the last digit that a text may have. -/
def leastReadExponent : Int := -1999999999999999997

/-- The number of a digit text, unless its exponent is out of range. -/
def ofDigits? (negative : Bool) (digits : List Char) (exponent : Int) : Option Decimal :=
  let significant := digits.dropWhile (· == '0')
  let top := exponent + (significant.length - 1 : Nat)
  if exponent < leastReadExponent || greatestReadExponent < top then none
  else some (.finite negative (Text.digitsValue significant) exponent)

/-- The number that a text stands for: a decimal numeral with an optional exponent, or a word for
infinity or for no number.  Blanks around it and underscores in it do not count. -/
def ofText? (text : String) : Option Decimal := do
  let chars := Text.asciiDigits (Text.trim Text.isBlank text.toList)
  let (negative, body) := Text.takeSign (chars.filter (· != '_'))
  let word := body.map Char.toLower
  if word = "inf".toList || word = "infinity".toList then return .infinite negative
  let nan? (signalling : Bool) (diagnosis : List Char) : Option Decimal :=
    if diagnosis.all Char.isDigit then some (.nan negative signalling (Text.digitsValue diagnosis))
    else none
  if word.take 3 = "nan".toList then return ← nan? false (word.drop 3)
  if word.take 4 = "snan".toList then return ← nan? true (word.drop 4)
  let (digits, behind, rest) ← Text.takeDecimal body
  let exponent ← Text.exponent? rest
  ofDigits? negative digits (exponent - behind)

/-- Digits with a point before the last `places` of them. -/
def pointed (digits : List Char) (places : Nat) : List Char :=
  if places = 0 then digits
  else
    let padded := List.replicate (places + 1 - digits.length) '0' ++ digits
    padded.take (padded.length - places) ++ '.' :: padded.drop (padded.length - places)

/-- A number without an exponent. -/
def positionalText : Decimal → String
  | .nan negative signalling diagnosis =>
    Double.signText negative ++ (if signalling then "sNaN" else "NaN") ++
      (if diagnosis = 0 then "" else toString diagnosis)
  | .infinite negative => Double.signText negative ++ "Infinity"
  | .finite negative coefficient exponent =>
    let digits := Nat.toDigits 10 coefficient
    Double.signText negative ++
      if 0 ≤ exponent then
        if coefficient = 0 then "0"
        else String.ofList (digits ++ List.replicate exponent.toNat '0')
      else String.ofList (pointed digits (-exponent).toNat)

/-- A number with an exponent unless it is a whole number or lies close enough to one. -/
def text : Decimal → String
  | .finite negative coefficient exponent =>
    let digits := Nat.toDigits 10 coefficient
    let top := exponent + (digits.length - 1 : Nat)
    if exponent ≤ 0 && -6 ≤ top then positionalText (.finite negative coefficient exponent)
    else
      Double.signText negative ++ String.ofList (digits.take 1) ++
        (if digits.length = 1 then "" else "." ++ String.ofList (digits.drop 1)) ++
        "E" ++ (if top < 0 then "-" else "+") ++ toString top.natAbs
  | other => other.positionalText

end Escrow.Decimal
