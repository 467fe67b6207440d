/-!
# Double-precision numbers

A double is kept decoded, as sign, mantissa and power of two, so that every operation is exact
natural-number arithmetic followed by one rounding.  The decoding is canonical: a finite double has
a mantissa below `2 ^ 53` and its exponent is the least possible, so equal doubles of one sign are
equal terms.
-/

namespace Escrow

/-- A double-precision number. -/
inductive Double where
  /-- The number `± mantissa * 2 ^ exponent`. -/
  | finite (negative : Bool) (mantissa : Nat) (exponent : Int)
  | infinite (negative : Bool)
  | nan
  deriving DecidableEq, Inhabited

namespace Double

/-- The least exponent, that of zero and of the subnormal numbers. -/
def leastExponent : Int := -1074

/-- The greatest exponent of a finite double. -/
def greatestExponent : Int := 971

/-- Zero of either sign. -/
def zero (negative : Bool) : Double := .finite negative 0 leastExponent

/-- The whole number nearest to `num / den`; of two equally near ones the even one. -/
def roundQuotient (num den : Nat) : Nat :=
  let quotient := num / den
  let twice := 2 * (num % den)
  if den < twice || (twice == den && quotient % 2 == 1) then quotient + 1 else quotient

/-- The quotient `num / den` divided by `2 ^ exponent`, again as a quotient. -/
def scaleDown (num den : Nat) (exponent : Int) : Nat × Nat :=
  if 0 ≤ exponent then (num, den * Nat.pow 2 exponent.toNat)
  else (num * Nat.pow 2 (-exponent).toNat, den)

/-- The exponent of the greatest power of two that is at most `num / den`. -/
def binaryOrder (num den : Nat) : Int :=
  let guess : Int := (Nat.log2 num : Int) - Nat.log2 den
  let (n, d) := scaleDown num den guess
  if d ≤ n then guess else guess - 1

/-- The double nearest to `± num / den`, ties to the even mantissa. -/
def ofRatio (negative : Bool) (num den : Nat) : Double :=
  if num = 0 then zero negative
  else
    let exponent := max (binaryOrder num den - 52) leastExponent
    let (n, d) := scaleDown num den exponent
    let mantissa := roundQuotient n d
    let (mantissa, exponent) :=
      if mantissa = Nat.pow 2 53 then (Nat.pow 2 52, exponent + 1) else (mantissa, exponent)
    if greatestExponent < exponent then .infinite negative
    else if mantissa = 0 then zero negative
    else .finite negative mantissa exponent

/-- How many decimal digits a number has. -/
def digitCount (n : Nat) : Nat := (Nat.toDigits 10 n).length

/-- The double nearest to `± digits * 10 ^ exponent`.  Beyond the range of doubles the answer is
known from the order of magnitude alone. -/
def ofDecimal (negative : Bool) (digits : Nat) (exponent : Int) : Double :=
  let order : Int := digitCount digits + exponent
  if digits = 0 || order < -400 then zero negative
  else if 400 < order then .infinite negative
  else if 0 ≤ exponent then ofRatio negative (digits * Nat.pow 10 exponent.toNat) 1
  else ofRatio negative digits (Nat.pow 10 (-exponent).toNat)

/-- The double nearest to a whole number. -/
def ofInt (n : Int) : Double := ofRatio (decide (n < 0)) n.natAbs 1

/-- A finite double without its sign, as a quotient. -/
def magnitude (mantissa : Nat) (exponent : Int) : Nat × Nat := scaleDown mantissa 1 (-exponent)

/-- The product of two doubles, rounded once. -/
def mul : Double → Double → Double
  | .finite n m e, .finite n' m' e' =>
    let (num, den) := magnitude (m * m') (e + e')
    ofRatio (n != n') num den
  | .nan, _ => .nan
  | _, .nan => .nan
  | .infinite n, .infinite n' => .infinite (n != n')
  | .infinite n, .finite n' m _ => if m = 0 then .nan else .infinite (n != n')
  | .finite n m _, .infinite n' => if m = 0 then .nan else .infinite (n != n')

/-- The sum of two doubles, rounded once. -/
def add : Double → Double → Double
  | .finite n m e, .finite n' m' e' =>
    let least := min e e'
    let signed (negative : Bool) (mantissa : Nat) (exponent : Int) : Int :=
      let scaled : Int := (mantissa * Nat.pow 2 (exponent - least).toNat : Nat)
      if negative then -scaled else scaled
    let sum := signed n m e + signed n' m' e'
    let (num, den) := magnitude sum.natAbs least
    ofRatio (if sum = 0 then n && n' else decide (sum < 0)) num den
  | .nan, _ => .nan
  | _, .nan => .nan
  | .infinite n, .infinite n' => if n = n' then .infinite n else .nan
  | .infinite n, _ => .infinite n
  | _, .infinite n => .infinite n

/-- The double with the other sign. -/
def neg : Double → Double
  | .finite n m e => .finite (!n) m e
  | .infinite n => .infinite (!n)
  | .nan => .nan

/-- Is the number zero, of either sign? -/
def isZero : Double → Bool
  | .finite _ mantissa _ => mantissa == 0
  | _ => false

/-- The whole part of a finite double, rounded toward zero. -/
def truncate : Double → Option Int
  | .finite negative mantissa exponent =>
    let (num, den) := magnitude mantissa exponent
    let whole : Int := (num / den : Nat)
    some (if negative then -whole else whole)
  | _ => none

/-- The whole number that a double is, if it is one. -/
def toInt? : Double → Option Int
  | .finite negative mantissa exponent =>
    let (num, den) := magnitude mantissa exponent
    if num % den == 0 then
      let whole : Int := (num / den : Nat)
      some (if negative then -whole else whole)
    else none
  | _ => none

/-- The sign shown in front of a number. -/
def signText (negative : Bool) : String := if negative then "-" else ""

end Double
end Escrow
