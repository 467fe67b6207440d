import Escrow.Error
import Escrow.Value.Order

/-!
# Sums of values

Balances and counters are whole numbers unless a caller brings in other data.  Then they are added
by these rules: a truth value counts as 1 or 0, a double makes the result a double, two texts or two
lists are joined, and everything else is a fault.
-/

namespace Escrow.Value

/-- The double that a whole number is converted to beside a double. -/
def asDouble (n : Int) : Except Fault Double :=
  match Double.ofInt n with
  | .infinite _ => .error .outOfRange
  | x => .ok x

/-- The result of an operation on two numbers, in doubles if one of them is a double. -/
def combine (onInts : Int → Int → Int) (onDoubles : Double → Double → Double) :
    Value → Value → Except Fault Value
  | .double x, .double y => .ok (.double (onDoubles x y))
  | .double x, b =>
    match b.toInt? with
    | some n => (asDouble n).map fun y => .double (onDoubles x y)
    | none => .error .wrongKind
  | a, .double y =>
    match a.toInt? with
    | some n => (asDouble n).map fun x => .double (onDoubles x y)
    | none => .error .wrongKind
  | a, b =>
    match a.toInt?, b.toInt? with
    | some m, some n => .ok (.int (onInts m n))
    | _, _ => .error .wrongKind

/-- The sum of two values. -/
def add : Value → Value → Except Fault Value
  | .text s, .text t => .ok (.text (s ++ t))
  | .list items, .list others => .ok (.list (items ++ others))
  | a, b => combine (· + ·) Double.add a b

/-- The difference of two values. -/
def sub (a b : Value) : Except Fault Value :=
  combine (· - ·) (fun x y => x.add y.neg) a b

/-- Is the first value less than the second?  Values of different sorts are a fault. -/
def less (a b : Value) : Except Fault Bool :=
  match a.less? b with
  | some answer => .ok answer
  | none => .error .wrongKind

@[simp]
theorem add_int (a b : Int) : add (.int a) (.int b) = .ok (.int (a + b)) := by
  simp [add, combine, toInt?]

@[simp]
theorem sub_int (a b : Int) : sub (.int a) (.int b) = .ok (.int (a - b)) := by
  simp [sub, combine, toInt?]

@[simp]
theorem less_int (a b : Int) : less (.int a) (.int b) = .ok (decide (a < b)) := by simp [less]

end Escrow.Value
