import Escrow.Calendar
import Escrow.Double.Basic

/-!
# Values

What a caller or a configuration file may hand in: anything from nothing at all to nested lists and
mappings.  Behind its checks the library works with types of its own; a value is kept only where
any value is allowed, as for ids and the names of the parties.
-/

namespace Escrow

/-- Any datum of a call or of a configuration file. -/
inductive Value where
  | null
  | bool (b : Bool)
  | int (n : Int)
  | double (x : Double)
  | text (s : String)
  | bytes (data : List UInt8)
  | date (d : Date)
  | moment (t : Instant)
  | list (items : List Value)
  /-- A list that cannot change, so that it can be a key. -/
  | tuple (items : List Value)
  /-- Members without an order; none occurs twice. -/
  | set (members : List Value)
  | mapping (entries : List (Value × Value))
  deriving Inhabited

namespace Value

mutual

/-- Structural equality, as a test. -/
def eqb : Value → Value → Bool
  | .null, .null => true
  | .bool a, .bool b => a == b
  | .int a, .int b => a == b
  | .double a, .double b => decide (a = b)
  | .text a, .text b => a == b
  | .bytes a, .bytes b => decide (a = b)
  | .date a, .date b => decide (a = b)
  | .moment a, .moment b => decide (a = b)
  | .list a, .list b => eqbList a b
  | .tuple a, .tuple b => eqbList a b
  | .set a, .set b => eqbList a b
  | .mapping a, .mapping b => eqbEntries a b
  | _, _ => false

/-- Structural equality of lists, as a test. -/
def eqbList : List Value → List Value → Bool
  | [], [] => true
  | a :: as, b :: bs => eqb a b && eqbList as bs
  | _, _ => false

/-- Structural equality of entries, as a test. -/
def eqbEntries : List (Value × Value) → List (Value × Value) → Bool
  | [], [] => true
  | (k, v) :: as, (l, w) :: bs => eqb k l && eqb v w && eqbEntries as bs
  | _, _ => false

end

mutual

theorem eqb_iff : ∀ a b : Value, eqb a b = true ↔ a = b
  | .null, b => by cases b <;> simp [eqb]
  | .bool _, b => by cases b <;> simp [eqb]
  | .int _, b => by cases b <;> simp [eqb]
  | .double _, b => by cases b <;> simp [eqb]
  | .text _, b => by cases b <;> simp [eqb]
  | .bytes _, b => by cases b <;> simp [eqb]
  | .date _, b => by cases b <;> simp [eqb]
  | .moment _, b => by cases b <;> simp [eqb]
  | .list items, b => by
    cases b with
    | list others => simp [eqb, eqbList_iff items others]
    | _ => simp [eqb]
  | .tuple items, b => by
    cases b with
    | tuple others => simp [eqb, eqbList_iff items others]
    | _ => simp [eqb]
  | .set members, b => by
    cases b with
    | set others => simp [eqb, eqbList_iff members others]
    | _ => simp [eqb]
  | .mapping entries, b => by
    cases b with
    | mapping others => simp [eqb, eqbEntries_iff entries others]
    | _ => simp [eqb]

theorem eqbList_iff : ∀ a b : List Value, eqbList a b = true ↔ a = b
  | [], b => by cases b <;> simp [eqbList]
  | head :: rest, b => by
    cases b with
    | nil => simp [eqbList]
    | cons other others => simp [eqbList, eqb_iff head other, eqbList_iff rest others]

theorem eqbEntries_iff : ∀ a b : List (Value × Value), eqbEntries a b = true ↔ a = b
  | [], b => by cases b <;> simp [eqbEntries]
  | (k, v) :: rest, b => by
    cases b with
    | nil => simp [eqbEntries]
    | cons other others =>
      obtain ⟨l, w⟩ := other
      simp [eqbEntries, eqb_iff k l, eqb_iff v w, eqbEntries_iff rest others]

end

instance : DecidableEq Value := fun a b => decidable_of_iff (eqb a b = true) (eqb_iff a b)

/-- The number that a value is, in one form: a whole number unless it has a fraction or no end. -/
def number? : Value → Option (Int ⊕ Double)
  | .int n => some (.inl n)
  | .bool b => some (.inl (if b then 1 else 0))
  | .double .nan => none
  | .double x =>
    match x.toInt? with
    | some n => some (.inl n)
    | none => some (.inr x)
  | _ => none

mutual

/-- Do two values count as the same?  Numbers count by their size, whatever their form, mappings and
sets without regard to order, and instants by the time that they name. -/
def same : Value → Value → Bool
  | .null, .null => true
  | .text s, .text t => decide (s = t)
  | .bytes s, .bytes t => decide (s = t)
  | .date d, .date e => decide (d = e)
  | .moment t, .moment u => t.offset.isSome == u.offset.isSome && t.ticks == u.ticks
  | .list items, .list others => sameLists items others
  | .tuple items, .tuple others => sameLists items others
  | .set members, .set others => members.length == others.length && areAmong members others
  | .mapping entries, .mapping others =>
    entries.length == others.length && entriesAreAmong entries others
  | a, b =>
    match a.number?, b.number? with
    | some x, some y => decide (x = y)
    | _, _ => false

/-- Do two lists hold the same values in the same order? -/
def sameLists : List Value → List Value → Bool
  | [], [] => true
  | a :: as, b :: bs => same a b && sameLists as bs
  | _, _ => false

/-- Is every member of a list among the others? -/
def areAmong : List Value → List Value → Bool
  | [], _ => true
  | a :: rest, others => others.any (fun b => same a b) && areAmong rest others

/-- Is every entry of a list among the others? -/
def entriesAreAmong : List (Value × Value) → List (Value × Value) → Bool
  | [], _ => true
  | (key, value) :: rest, others =>
    others.any (fun (k, v) => same key k && same value v) && entriesAreAmong rest others

end

@[simp]
theorem same_text (s t : String) : same (.text s) (.text t) = decide (s = t) := by simp [same]

@[simp]
theorem same_int (a b : Int) : same (.int a) (.int b) = decide (a = b) := by
  simp [same, number?]

mutual

/-- A key in the form in which keys are told apart: every number in one form. -/
def canonical : Value → Value
  | .bool b => .int (if b then 1 else 0)
  | .double x =>
    match x.toInt? with
    | some n => .int n
    | none => .double x
  | .tuple items => .tuple (canonicalList items)
  | value => value

/-- The canonical forms of a list of keys. -/
def canonicalList : List Value → List Value
  | [] => []
  | value :: rest => canonical value :: canonicalList rest

end

@[simp]
theorem canonical_text (s : String) : canonical (.text s) = .text s := by simp [canonical]

mutual

/-- Can the value be a key or a member of a set? -/
def isKey : Value → Bool
  | .list _ => false
  | .set _ => false
  | .mapping _ => false
  | .tuple items => areKeys items
  | _ => true

/-- Can every value of a list be a key? -/
def areKeys : List Value → Bool
  | [] => true
  | value :: rest => isKey value && areKeys rest

end

@[simp]
theorem isKey_text (s : String) : isKey (.text s) = true := by simp [isKey]

/-- Does the value count as something?  Nothing, zero and whatever is empty do not. -/
def isTruthy : Value → Bool
  | .null => false
  | .bool b => b
  | .int n => n != 0
  | .double x => !x.isZero
  | .text s => !s.isEmpty
  | .bytes data => !data.isEmpty
  | .date _ => true
  | .moment _ => true
  | .list items => !items.isEmpty
  | .tuple items => !items.isEmpty
  | .set members => !members.isEmpty
  | .mapping entries => !entries.isEmpty

/-- The value, or another one if it does not count as something. -/
def orElse (value other : Value) : Value := if value.isTruthy then value else other

/-- The value of the first entry whose key counts as the given one. -/
def find? (key : Value) : List (Value × Value) → Option Value
  | [] => none
  | (k, value) :: rest => if k.same key then some value else find? key rest

/-- Entries with a value written at a key: in place if the key is there, at the end otherwise. -/
def insert (key value : Value) : List (Value × Value) → List (Value × Value)
  | [] => [(key, value)]
  | (k, old) :: rest =>
    if k.same key then (k, value) :: rest else (k, old) :: insert key value rest

/-- Entries written one after another: the last value of a key wins, its first form stays. -/
def insertAll (entries : List (Value × Value)) : List (Value × Value) :=
  entries.foldl (fun done (key, value) => insert key value done) []

/-- The whole number that a value is; a truth value counts as 1 or 0. -/
def toInt? : Value → Option Int
  | .int n => some n
  | .bool b => some (if b then 1 else 0)
  | _ => none

/-- The elements that going through a value gives; there are none for single data. -/
def elements? : Value → Option (List Value)
  | .list items => some items
  | .tuple items => some items
  | .set members => some members
  | .bytes data => some (data.map fun byte => .int byte.toNat)
  | .mapping entries => some (entries.map Prod.fst)
  | .text s => some (s.toList.map fun c => .text (String.singleton c))
  | _ => none

end Value

/-- A whole number in the form its caller chose: as a number or as a truth value, which counts as
1 or 0.  It is given back in the form it came in. -/
inductive Whole where
  | number (n : Int)
  | truth (b : Bool)
  deriving DecidableEq, Inhabited

namespace Whole

/-- The number. -/
def toInt : Whole → Int
  | .number n => n
  | .truth b => if b then 1 else 0

/-- The number as a value, in its own form. -/
def toValue : Whole → Value
  | .number n => .int n
  | .truth b => .bool b

/-- The greater of two numbers; the first if they are equal. -/
def max (a b : Whole) : Whole := if a.toInt < b.toInt then b else a

/-- The lesser of two numbers; the first if they are equal. -/
def min (a b : Whole) : Whole := if b.toInt < a.toInt then b else a

instance (n : Nat) : OfNat Whole n := ⟨.number n⟩

@[simp]
theorem toInt_number (n : Int) : (Whole.number n).toInt = n := rfl

theorem toInt_max (a b : Whole) : (a.max b).toInt = Max.max a.toInt b.toInt := by
  unfold Whole.max
  split <;> omega

theorem toInt_min (a b : Whole) : (a.min b).toInt = Min.min a.toInt b.toInt := by
  unfold Whole.min
  split <;> omega

end Whole

/-- The whole number that a value is, in its own form. -/
def Value.whole? : Value → Option Whole
  | .int n => some (.number n)
  | .bool b => some (.truth b)
  | _ => none

end Escrow
