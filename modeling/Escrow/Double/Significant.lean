import Escrow.Double.Shortest

/-!
# Significant digits

A double rounded to a number of decimal digits, from its exact value: as the double that is read
back, with ties to the even digit, and as a text, with ties away from zero.
-/

namespace Escrow.Double

/-- The double that is read back after writing this many significant digits. -/
def rounded (digits : Nat) : Double → Double
  | .finite negative mantissa exponent =>
    if mantissa = 0 then zero negative
    else
      let (num, den) := magnitude mantissa exponent
      let order := decimalOrder num den - digits + 1
      let kept :=
        if 0 ≤ order then roundQuotient num (den * Nat.pow 10 order.toNat)
        else roundQuotient (num * Nat.pow 10 (-order).toNat) den
      ofDecimal negative kept order
  | x => x

/-- The digits of a number of significant ones, with ties away from zero, and their power of ten. -/
def significant (digits num den : Nat) : Nat × Int :=
  let order := decimalOrder num den - digits + 1
  let (n, d) :=
    if 0 ≤ order then (num, den * Nat.pow 10 order.toNat)
    else (num * Nat.pow 10 (-order).toNat, den)
  let kept := (2 * n + d) / (2 * d)
  if kept = Nat.pow 10 digits then (Nat.pow 10 (digits - 1), order + 1) else (kept, order)

/-- The text of a double with at most this many significant digits.  Zero has no sign. -/
def significantText (style : Layout) (digits : Nat) : Double → String
  | .nan => "NaN"
  | .infinite negative => signText negative ++ "Inf"
  | .finite negative mantissa exponent =>
    if mantissa = 0 then "0.0"
    else
      let (num, den) := magnitude mantissa exponent
      let (kept, order) := significant digits num den
      let shown := Nat.toDigits 10 kept
      signText negative ++ place style (dropFinalZeros shown) (shown.length + order)

end Escrow.Double
