import Escrow.Value.Basic

/-!
# The order of values

Texts are ordered by their characters, numbers by their size whatever their form, days and instants
by time, and lists by the first place where they differ.  There is no order between values of
different sorts.
-/

namespace Escrow

/-- A finite double as a signed quotient. -/
def Double.quotient? : Double → Option (Int × Nat)
  | .finite negative mantissa exponent =>
    let (num, den) := magnitude mantissa exponent
    some (if negative then -(num : Int) else num, den)
  | _ => none

/-- Is the first double at most the second?  Nothing is at most what is no number. -/
def Double.atMost : Double → Double → Bool
  | .nan, _ => false
  | _, .nan => false
  | .infinite true, _ => true
  | _, .infinite false => true
  | x, y =>
    match x.quotient?, y.quotient? with
    | some (a, b), some (c, d) => decide (a * d ≤ c * b)
    | _, _ => false

namespace Value

mutual

/-- Is the first value at most the second?  There is no answer for values of different sorts. -/
def atMost? : Value → Value → Option Bool
  | .text s, .text t => some (decide (s ≤ t))
  | .bytes s, .bytes t => some (decide (s ≤ t))
  | .date d, .date e => some (decide (d.number ≤ e.number))
  | .moment t, .moment u => t.atOrBefore? u
  | .list items, .list others => listAtMost? items others
  | .tuple items, .tuple others => listAtMost? items others
  | .double x, .double y => some (x.atMost y)
  | .double x, b => b.toInt?.map fun n =>
    match x.quotient? with
    | some (num, den) => decide (num ≤ n * den)
    | none => decide (x = .infinite true)
  | a, .double y => a.toInt?.map fun n =>
    match y.quotient? with
    | some (num, den) => decide (n * den ≤ num)
    | none => decide (y = .infinite false)
  | a, b => do return decide ((← a.toInt?) ≤ (← b.toInt?))

/-- Is the first list at most the second? -/
def listAtMost? : List Value → List Value → Option Bool
  | [], _ => some true
  | _ :: _, [] => some false
  | a :: as, b :: bs => if a.same b then listAtMost? as bs else atMost? a b

end

/-- Is the first value less than the second?  There is no answer for values of different sorts. -/
def less? (a b : Value) : Option Bool := do
  return (← a.atMost? b) && !(← b.atMost? a)

@[simp]
theorem atMost?_int (a b : Int) : atMost? (.int a) (.int b) = some (decide (a ≤ b)) := by
  simp [atMost?, toInt?]

@[simp]
theorem less?_int (a b : Int) : less? (.int a) (.int b) = some (decide (a < b)) := by
  by_cases h : a < b
  · simp [less?, h, Int.le_of_lt h]
  · simp [less?, h, Int.not_lt.1 h]

/-- A value put among values that are in order, behind those that are not greater. -/
def insertSorted? (value : Value) : List Value → Option (List Value)
  | [] => some [value]
  | first :: rest => do
    if ← value.less? first then return value :: first :: rest
    return first :: (← insertSorted? value rest)

/-- Values of one sort in their order, equal ones as they came. -/
def sorted? (values : List Value) : Option (List Value) :=
  values.foldlM (fun done value => insertSorted? value done) []

end Value
end Escrow
