/-!
# Amounts

Amounts are whole numbers of base units and fit in 64 bits without a sign.
-/

namespace Escrow

/-- The greatest amount, and the greatest value of a counter. -/
def greatestAmount : Int := 18446744073709551615

/-- Is a whole number an amount? -/
def IsAmount (n : Int) : Prop := 0 ≤ n ∧ n ≤ greatestAmount

instance (n : Int) : Decidable (IsAmount n) := inferInstanceAs (Decidable (_ ∧ _))

end Escrow
