import Escrow.Double.Basic
import Escrow.Error

/-!
# Decimal numbers

Decimal floating-point numbers of 28 significant digits.  A number keeps its coefficient and its
power of ten apart, so that shifting the point is exact; only a coefficient that is too long, or an
exponent beyond its range, is rounded, ties to the even digit.
-/

namespace Escrow

/-- A decimal number. -/
inductive Decimal where
  /-- The number `± coefficient * 10 ^ exponent`. -/
  | finite (negative : Bool) (coefficient : Nat) (exponent : Int)
  | infinite (negative : Bool)
  /-- No number, which may carry a diagnosis; a signalling one may not be computed with. -/
  | nan (negative signalling : Bool) (diagnosis : Nat)
  deriving DecidableEq, Inhabited

namespace Decimal

/-- How many digits a computed coefficient has at most. -/
def precision : Nat := 28

/-- The greatest exponent of the first digit of a computed number. -/
def greatestExponent : Int := 999999

/-- The least exponent of the first digit that is kept with full precision. -/
def leastExponent : Int := -999999

/-- The least exponent of the last digit of a computed number. -/
def finestExponent : Int := leastExponent - (precision - 1)

/-- The farthest shift of the point. -/
def greatestShift : Int := 2 * (greatestExponent + precision)

/-- What is no number, without anything more to say about it. -/
def notNumber : Decimal := .nan false false 0

/-- A whole number. -/
def ofInt (n : Int) : Decimal := .finite (decide (n < 0)) n.natAbs 0

/-- The exact value of a double. -/
def ofDouble : Double → Decimal
  | .nan => .notNumber
  | .infinite negative => .infinite negative
  | .finite negative mantissa exponent =>
    if 0 ≤ exponent then .finite negative (mantissa * Nat.pow 2 exponent.toNat) 0
    else .finite negative (mantissa * Nat.pow 5 (-exponent).toNat) exponent

/-- A coefficient without its last digits, rounded. -/
def dropDigits (coefficient count : Nat) : Nat :=
  if Double.digitCount coefficient < count then 0
  else Double.roundQuotient coefficient (Nat.pow 10 count)

/-- Raise a low exponent to the finest one, dropping the digits below it. -/
def raised (coefficient : Nat) (exponent : Int) : Nat × Int :=
  if exponent < finestExponent then
    (dropDigits coefficient (finestExponent - exponent).toNat, finestExponent)
  else (coefficient, exponent)

/-- Shorten a coefficient to the precision. -/
def shortened (coefficient : Nat) (exponent : Int) : Nat × Int :=
  let excess := Double.digitCount coefficient - precision
  if excess = 0 then (coefficient, exponent)
  else
    let kept := dropDigits coefficient excess
    if kept = Nat.pow 10 precision then (Nat.pow 10 (precision - 1), exponent + excess + 1)
    else (kept, exponent + excess)

/-- The computed number nearest to a coefficient and an exponent. -/
def computed (negative : Bool) (coefficient : Nat) (exponent : Int) : Except Fault Decimal :=
  if coefficient = 0 then
    .ok (.finite negative 0 (max finestExponent (min exponent greatestExponent)))
  else
    let (coefficient, exponent) := raised coefficient exponent
    let (coefficient, exponent) := shortened coefficient exponent
    if greatestExponent < exponent + Double.digitCount coefficient - 1 then
      .error .decimalOverflow
    else .ok (.finite negative coefficient exponent)

/-- What an operation makes of what is no number: the last digits of a diagnosis are kept. -/
def ofNan (negative signalling : Bool) (diagnosis : Nat) : Except Fault Decimal :=
  if signalling then .error .invalidOperation
  else .ok (.nan negative false (diagnosis % Nat.pow 10 precision))

/-- Shift the point to the right by a number of places. -/
def shift (places : Int) : Decimal → Except Fault Decimal
  | .nan negative signalling diagnosis => ofNan negative signalling diagnosis
  | number =>
    if greatestShift < places.natAbs then .error .invalidOperation
    else
      match number with
      | .finite negative coefficient exponent => computed negative coefficient (exponent + places)
      | other => .ok other

/-- How many zeros a list of digits ends in. -/
def finalZeros (digits : List Char) : Nat := (digits.reverse.takeWhile (· == '0')).length

/-- The same number without zeros at the end of its coefficient. -/
def stripped : Decimal → Decimal
  | .finite negative coefficient exponent =>
    if coefficient = 0 then .finite negative 0 0
    else
      let zeros := finalZeros (Nat.toDigits 10 coefficient)
      .finite negative (coefficient / Nat.pow 10 zeros) (exponent + zeros)
  | other => other

/-- The shortest computed form of a number. -/
def reduced : Decimal → Except Fault Decimal
  | .nan negative signalling diagnosis => ofNan negative signalling diagnosis
  | number => .ok number.stripped

/-- Are two numbers equal?  Nothing is equal to what is no number. -/
def equals (a b : Decimal) : Except Fault Bool :=
  match a, b with
  | .nan _ true _, _ => .error .invalidOperation
  | _, .nan _ true _ => .error .invalidOperation
  | .nan _ false _, _ => .ok false
  | _, .nan _ false _ => .ok false
  | .finite _ 0 _, .finite _ 0 _ => .ok true
  | _, _ => .ok (decide (a.stripped = b.stripped))

end Decimal
end Escrow
