import Escrow.Double.Basic

/-!
# Fixed decimal places

A double with a fixed number of places, rounded from its exact value with ties to the even digit.
-/

namespace Escrow.Double

/-- Write `n` with its last `places` digits behind a point. -/
def pointText (n places : Nat) : String :=
  let shown := Nat.toDigits 10 n
  let padded := List.replicate (places + 1 - shown.length) '0' ++ shown
  let whole := padded.take (padded.length - places)
  if places = 0 then String.ofList whole
  else String.ofList whole ++ "." ++ String.ofList (padded.drop (padded.length - places))

/-- The text with exactly this many places. -/
def fixedText (places : Nat) : Double → String
  | .nan => "nan"
  | .infinite negative => signText negative ++ "inf"
  | .finite negative mantissa exponent =>
    let (num, den) := magnitude mantissa exponent
    signText negative ++ pointText (roundQuotient (num * Nat.pow 10 places) den) places

end Escrow.Double
