import Escrow.Value.Read

/-!
# Durations

A duration is a whole number of microseconds.  It is given in seconds and microseconds, either of
which may be a double: then the whole parts are added exactly, and what is left over is rounded once,
to the nearest microsecond, ties to the even one.
-/

namespace Escrow.Duration

/-- The farthest duration, in microseconds: that of a billion days, exclusive. -/
def limit : Nat := 1000000000 * Instant.dayLength

/-- The whole part of a double and the rest of it. -/
def splitDouble (x : Double) : Except Fault (Int × Double) :=
  match x with
  | .nan => .error .badValue
  | .infinite _ => .error .outOfRange
  | .finite negative mantissa exponent =>
    let (num, den) := Double.magnitude mantissa exponent
    let whole : Int := (num / den : Nat)
    .ok (if negative then -whole else whole, .ofRatio negative (num % den) den)

/-- A number of units as whole microseconds, and the rest as a double. -/
def micros (unit : Nat) : Value → Except Fault (Int × Double)
  | .double x => do
    let (whole, rest) ← splitDouble x
    let (more, rest) ← splitDouble ((Double.ofInt unit).mul rest)
    return (whole * unit + more, rest)
  | value =>
    match value.toInt? with
    | some n => .ok (n * unit, .zero false)
    | none => .error .wrongKind

/-- The whole number nearest to a whole number and a rest; of two equally near ones the even one. -/
def nearest (whole : Int) (rest : Double) : Int :=
  match rest with
  | .finite negative mantissa exponent =>
    let (num, den) := Double.magnitude mantissa exponent
    let total : Int := whole * den + (if negative then -(num : Int) else num)
    let below := Int.fdiv total den
    let twice := 2 * (total - below * den)
    if twice < den ∨ twice = den ∧ below % 2 = 0 then below else below + 1
  | _ => whole

/-- The duration of a number of seconds and a number of microseconds. -/
def ofParts (seconds microseconds : Value) : Except Fault Int := do
  let (few, fewRest) ← micros 1 microseconds
  let (many, manyRest) ← micros 1000000 seconds
  let total := nearest (few + many) (fewRest.add manyRest)
  if total.natAbs < limit then return total else throw .outOfRange

end Escrow.Duration
