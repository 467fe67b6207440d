import Escrow.Double.Basic

/-!
# Shortest decimal texts of doubles

The text of a double has the fewest digits that read back as the same double, and of those the
digits nearest to it.  The grids of one, two, … seventeen digits are tried in turn: if a grid has a
point that rounds to the double, one of the double's two neighbours on that grid does.
-/

namespace Escrow.Double

/-- Where a text of digits changes its notation, and how an exponent is written. -/
structure Layout where
  /-- Positional notation is used when the point stands after more than this many places. -/
  leastPoint : Int
  /-- Positional notation is used when the point stands after at most this many places. -/
  greatestPoint : Int
  /-- How many digits an exponent has at least. -/
  exponentWidth : Nat
  /-- Does a single digit in front of an exponent get a point and a zero? -/
  isPointed : Bool := false

/-- The layout of every double that the library shows: positional from `0.0001` to below
`10 ^ 16`, two-digit exponents outside. -/
def shownLayout : Layout where
  leastPoint := -4
  greatestPoint := 16
  exponentWidth := 2

/-- The exponent of the greatest power of ten that is at most `num / den`. -/
def decimalOrder (num den : Nat) : Int :=
  let guess : Int := (digitCount num : Int) - digitCount den
  let reached : Bool :=
    if 0 ≤ guess then decide (den * Nat.pow 10 guess.toNat ≤ num)
    else decide (den ≤ num * Nat.pow 10 (-guess).toNat)
  if reached then guess else guess - 1

/-- A grid of numbers `c * 10 ^ order` searched for a point in the interval of a double.  All
quantities are multiples of one common unit, `num / den`. -/
structure Search where
  /-- The double itself, its lower and its upper bound, in quarters of its last place. -/
  centre : Nat
  lower : Nat
  upper : Nat
  /-- Do the bounds themselves round to the double? -/
  closed : Bool
  /-- The quarter of the last place. -/
  num : Nat
  den : Nat

namespace Search

/-- The numbers that round to `mantissa * 2 ^ exponent`.  Below a power of two the doubles lie
twice as dense. -/
def ofMantissa (mantissa : Nat) (exponent : Int) : Search :=
  let (num, den) := magnitude 1 (exponent - 2)
  { centre := 4 * mantissa
    lower := if mantissa = Nat.pow 2 52 && leastExponent < exponent then 4 * mantissa - 1
      else 4 * mantissa - 2
    upper := 4 * mantissa + 2
    closed := mantissa % 2 == 0
    num := num
    den := den }

/-- The two sides of a comparison of `c * 10 ^ order` with `quarters` units. -/
def sides (search : Search) (c : Nat) (order : Int) (quarters : Nat) : Nat × Nat :=
  if 0 ≤ order then (c * Nat.pow 10 order.toNat * search.den, quarters * search.num)
  else (c * search.den, quarters * search.num * Nat.pow 10 (-order).toNat)

/-- Does the grid point round to the double? -/
def accepts (search : Search) (c : Nat) (order : Int) : Bool :=
  let (point, lower) := search.sides c order search.lower
  let (point', upper) := search.sides c order search.upper
  if search.closed then decide (lower ≤ point) && decide (point' ≤ upper)
  else decide (lower < point) && decide (point' < upper)

/-- The grid point of this order that is nearest to the double, if one rounds to it. -/
def pick? (search : Search) (order : Int) : Option Nat :=
  let (one, centre) := search.sides 1 order search.centre
  let below := centre / one
  match search.accepts below order, search.accepts (below + 1) order with
  | true, true =>
    let twice := 2 * (centre % one)
    some (if twice < one || (twice == one && below % 2 == 0) then below else below + 1)
  | true, false => some below
  | false, true => some (below + 1)
  | false, false => none

/-- Try the grids of `digits`, `digits + 1`, … digits; the last resort is the finest one. -/
def run (search : Search) (top : Int) : Nat → Nat → Nat × Int
  | 0, digits =>
    let order := top - digits + 1
    let (one, centre) := search.sides 1 order search.centre
    (centre / one, order)
  | fuel + 1, digits =>
    let order := top - digits + 1
    match search.pick? order with
    | some c => (c, order)
    | none => search.run top fuel (digits + 1)

end Search

/-- The shortest digits and their power of ten. -/
def shortest (mantissa : Nat) (exponent : Int) : Nat × Int :=
  let search := Search.ofMantissa mantissa exponent
  search.run (decimalOrder (search.centre * search.num) search.den) 17 1

/-- Drop the zeros at the end of a list of digits. -/
def dropFinalZeros (digits : List Char) : List Char :=
  (digits.reverse.dropWhile (· == '0')).reverse

/-- Digits with the point after `point` places, in the given notation. -/
def place (style : Layout) (digits : List Char) (point : Int) : String :=
  if style.leastPoint < point && point ≤ style.greatestPoint then
    if point ≤ 0 then
      "0." ++ String.ofList (List.replicate (-point).toNat '0') ++ String.ofList digits
    else
      let whole := digits.take point.toNat
      let padding := List.replicate (point.toNat - digits.length) '0'
      let rest := digits.drop point.toNat
      String.ofList whole ++ String.ofList padding ++ "." ++
        (if rest.isEmpty then "0" else String.ofList rest)
  else
    let power := point - 1
    let shown := Nat.toDigits 10 power.natAbs
    let padding := List.replicate (style.exponentWidth - shown.length) '0'
    let fraction := digits.drop 1
    let behind :=
      if fraction.isEmpty then (if style.isPointed then ".0" else "")
      else "." ++ String.ofList fraction
    String.ofList (digits.take 1) ++ behind ++ "e" ++
      (if power < 0 then "-" else "+") ++ String.ofList padding ++ String.ofList shown

/-- The text of a double: the shortest digits that read back. -/
def text : Double → String
  | .nan => "nan"
  | .infinite negative => signText negative ++ "inf"
  | .finite negative mantissa exponent =>
    if mantissa = 0 then signText negative ++ "0.0"
    else
      let (digits, order) := shortest mantissa exponent
      let shown := Nat.toDigits 10 digits
      signText negative ++ place shownLayout (dropFinalZeros shown) (shown.length + order)

end Escrow.Double
