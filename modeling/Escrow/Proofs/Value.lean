import Escrow.Amount
import Escrow.Proofs.Answer
import Escrow.Proofs.Double
import Escrow.Value.Arithmetic

/-!
# Numbers and names among the values

Balances are numbers, of whatever form.  A number can be compared with an amount, and an amount can
be taken from it and added to it: no amount is too great for the conversion to a double.  Names are
texts; a text is the same as itself only, in whatever way it is compared.
-/

namespace Escrow

namespace Value

/-- Is the value a number, in any form? -/
def isNumber : Value → Bool
  | .bool _ => true
  | .int _ => true
  | .double _ => true
  | _ => false

theorem asDouble_amount {n : Int} (amount : IsAmount n) : asDouble n = .ok (Double.ofInt n) := by
  have bounded : n.natAbs < 2 ^ 200 := by
    obtain ⟨positive, bounded⟩ := amount
    unfold greatestAmount at bounded
    omega
  unfold asDouble
  split
  · rename_i infinite
    exact absurd infinite (Double.ofInt_ne_infinite bounded _)
  · rfl

theorem add_amount_of_isNumber {value : Value} (number : value.isNumber) {n : Int}
    (amount : IsAmount n) : ∃ total, value.add (.int n) = .ok total := by
  cases value with
  | bool b => exact ⟨_, by simp [add, combine, toInt?]; rfl⟩
  | int m => exact ⟨_, add_int m n⟩
  | double x => exact ⟨_, by simp [add, combine, toInt?, asDouble_amount amount, Except.map]; rfl⟩
  | _ => simp [isNumber] at number

/-- What two numbers combine to is a number. -/
theorem isNumber_of_combine {onInts : Int → Int → Int} {onDoubles : Double → Double → Double}
    {a b result : Value} (combined : combine onInts onDoubles a b = .ok result) :
    result.isNumber := by
  unfold combine at combined
  split at combined
  · cases combined
    rfl
  · split at combined
    · obtain ⟨_, -, rfl⟩ := map_eq_ok_iff.mp combined
      rfl
    · cases combined
  · split at combined
    · obtain ⟨_, -, rfl⟩ := map_eq_ok_iff.mp combined
      rfl
    · cases combined
  · split at combined
    · cases combined
      rfl
    · cases combined

theorem isNumber_of_sub {a b result : Value} (subtracted : a.sub b = .ok result) :
    result.isNumber := isNumber_of_combine subtracted

theorem isNumber_of_add {a b result : Value} (number : a.isNumber) (added : a.add b = .ok result) :
    result.isNumber := by
  unfold add at added
  split at added
  · simp [isNumber] at number
  · simp [isNumber] at number
  · exact isNumber_of_combine added

theorem same_text_right (value : Value) (name : String) :
    value.same (.text name) = decide (value = .text name) := by
  cases value <;> simp [same, number?]

theorem canonical_eq_text_iff {value : Value} {name : String} :
    value.canonical = .text name ↔ value = .text name := by
  cases value with
  | double x =>
      unfold canonical
      cases x.toInt? <;> simp
  | _ => simp [canonical]

mutual

/-- The canonical form of a value can be a key exactly if the value can be one. -/
theorem isKey_canonical : ∀ value : Value, value.canonical.isKey = value.isKey
  | .double x => by
      unfold canonical
      cases x.toInt? <;> simp [isKey]
  | .tuple items => by simp [canonical, isKey, areKeys_canonicalList items]
  | .null => by simp [canonical]
  | .bool _ => by simp [canonical, isKey]
  | .int _ => by simp [canonical]
  | .text _ => by simp [canonical]
  | .bytes _ => by simp [canonical]
  | .date _ => by simp [canonical]
  | .moment _ => by simp [canonical]
  | .list _ => by simp [canonical]
  | .set _ => by simp [canonical]
  | .mapping _ => by simp [canonical]

theorem areKeys_canonicalList : ∀ items : List Value,
    areKeys (canonicalList items) = areKeys items
  | [] => by simp [canonicalList]
  | value :: rest => by
      simp [canonicalList, areKeys, isKey_canonical value, areKeys_canonicalList rest]

end

end Value
end Escrow
