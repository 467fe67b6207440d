import Mathlib
import Escrow.Double.Basic

/-!
# The range of the doubles

A quotient is rounded to the nearest double.  The doubles end before `2 ^ 1024`; a quotient that reaches
this power is infinite, and so is one that would be rounded up to it, within half of a last place.  The
same holds of a decimal numeral, whose size is first guessed from the count of its digits.
-/

namespace Escrow.Double

variable {num den : Nat}

/-! ## The order of magnitude -/

private theorem scaleDown_natCast (num den k : Nat) : scaleDown num den k = (num, den * 2 ^ k) := by
  simp [scaleDown]

/-- The order of a quotient is the exponent of the greatest power of two that it reaches. -/
theorem le_binaryOrder_iff (num_pos : 0 < num) (den_pos : 0 < den) (k : Nat) :
    (k : Int) ≤ binaryOrder num den ↔ 2 ^ k * den ≤ num := by
  have num_least : 2 ^ num.log2 ≤ num := (Nat.le_log2 num_pos.ne').mp le_rfl
  have num_most : num < 2 ^ (num.log2 + 1) := (Nat.log2_lt num_pos.ne').mp (Nat.lt_succ_self _)
  have den_least : 2 ^ den.log2 ≤ den := (Nat.le_log2 den_pos.ne').mp le_rfl
  have den_most : den < 2 ^ (den.log2 + 1) := (Nat.log2_lt den_pos.ne').mp (Nat.lt_succ_self _)
  have at_most (reached : 2 ^ k * den ≤ num) : k + den.log2 ≤ num.log2 := by
    have power : 2 ^ (k + den.log2) < 2 ^ (num.log2 + 1) := by
      calc 2 ^ (k + den.log2) = 2 ^ k * 2 ^ den.log2 := pow_add 2 k _
        _ ≤ 2 ^ k * den := Nat.mul_le_mul_left _ den_least
        _ < 2 ^ (num.log2 + 1) := reached.trans_lt num_most
    have := (Nat.pow_lt_pow_iff_right (by omega)).mp power
    omega
  have reached_below (below : k + den.log2 + 1 ≤ num.log2) : 2 ^ k * den ≤ num := by
    calc 2 ^ k * den ≤ 2 ^ k * 2 ^ (den.log2 + 1) := Nat.mul_le_mul_left _ den_most.le
      _ = 2 ^ (k + (den.log2 + 1)) := (pow_add 2 k _).symm
      _ ≤ 2 ^ num.log2 := Nat.pow_le_pow_right (by omega) (by omega)
      _ ≤ num := num_least
  unfold binaryOrder
  by_cases whole : den.log2 ≤ num.log2
  · obtain ⟨guess, guess_eq⟩ := Nat.exists_eq_add_of_le whole
    have exponent : (num.log2 : Int) - den.log2 = guess := by omega
    simp only [exponent, scaleDown_natCast]
    split
    · rename_i reached
      refine ⟨fun le => ?_, fun le => ?_⟩
      · calc 2 ^ k * den ≤ 2 ^ guess * den :=
              Nat.mul_le_mul_right _ (Nat.pow_le_pow_right (by omega) (by omega))
          _ ≤ num := by rwa [Nat.mul_comm]
      · have := at_most le
        omega
    · rename_i missed
      refine ⟨fun le => reached_below (by omega), fun le => ?_⟩
      have most := at_most le
      have other : k ≠ guess := by
        rintro rfl
        exact missed (by rwa [Nat.mul_comm])
      omega
  · refine ⟨fun le => ?_, fun le => ?_⟩
    · dsimp only at le
      split at le <;> omega
    · have := at_most le
      omega

/-! ## Rounding -/

/-- Below an even number a quotient is rounded up to it from half a unit on. -/
theorem roundQuotient_eq_iff {top half : Nat} (even : top % 2 = 0)
    (below : num < top * (2 * half)) :
    roundQuotient num (2 * half) = top ↔ (2 * top - 1) * half ≤ num := by
  have half_pos : 0 < half := Nat.pos_of_ne_zero (by rintro rfl; omega)
  have quotient_lt : num / (2 * half) < top := (Nat.div_lt_iff_lt_mul (by omega)).mpr below
  have rest_lt := Nat.mod_lt num (show 0 < 2 * half by omega)
  have parts := Nat.div_add_mod num (2 * half)
  obtain ⟨gap, rfl⟩ := Nat.exists_eq_add_of_lt quotient_lt
  unfold roundQuotient
  generalize num / (2 * half) = quotient at *
  generalize num % (2 * half) = rest at *
  subst parts
  have doubled : 2 * (quotient + gap + 1) - 1 = 2 * quotient + 2 * gap + 1 := by omega
  rw [doubled]
  simp only [Bool.or_eq_true, Bool.and_eq_true, decide_eq_true_eq, beq_iff_eq]
  cases gap with
  | zero =>
      have last : (2 * quotient + 2 * 0 + 1) * half ≤ 2 * half * quotient + rest ↔ half ≤ rest := by
        constructor <;> intro <;> nlinarith
      rw [last]
      split <;> omega
  | succ gap =>
      have far : ¬(2 * quotient + 2 * (gap + 1) + 1) * half ≤ 2 * half * quotient + rest := by
        have : 0 ≤ gap * half := Nat.zero_le _
        nlinarith
      refine iff_of_false ?_ far
      split <;> omega

/-- The same beside a power of two, with the bound as a whole number. -/
theorem roundQuotient_pow_eq_iff {top k : Nat} (even : top % 2 = 0)
    (below : num < top * 2 ^ (k + 1) * den) :
    roundQuotient num (den * 2 ^ (k + 1)) = top ↔ (2 * top - 1) * 2 ^ k * den ≤ num := by
  have unit_eq : den * 2 ^ (k + 1) = 2 * (2 ^ k * den) := by
    rw [pow_succ]
    ring
  have limit_eq : top * 2 ^ (k + 1) * den = top * (2 * (2 ^ k * den)) := by
    rw [pow_succ]
    ring
  rw [unit_eq, roundQuotient_eq_iff even (limit_eq ▸ below), Nat.mul_assoc]

/-- The double of a mantissa that may have been rounded up to the next power of two. -/
def ofRounded (negative : Bool) (mantissa : Nat) (exponent : Int) : Double :=
  let (mantissa, exponent) :=
    if mantissa = Nat.pow 2 53 then (Nat.pow 2 52, exponent + 1) else (mantissa, exponent)
  if greatestExponent < exponent then .infinite negative
  else if mantissa = 0 then zero negative
  else .finite negative mantissa exponent

private theorem ofRatio_eq {exponent : Int} {n d : Nat} (num_pos : 0 < num)
    (exponent_eq : max (binaryOrder num den - 52) leastExponent = exponent)
    (scaled : scaleDown num den exponent = (n, d)) (negative : Bool) :
    ofRatio negative num den = ofRounded negative (roundQuotient n d) exponent := by
  unfold ofRatio ofRounded
  rw [if_neg num_pos.ne']
  simp only [exponent_eq, scaled]

private theorem ofRounded_infinite_iff (negative : Bool) (mantissa : Nat) (exponent : Int) :
    (∃ sign, ofRounded negative mantissa exponent = .infinite sign) ↔
      greatestExponent < exponent ∨ greatestExponent = exponent ∧ mantissa = 2 ^ 53 := by
  have ranged (m : Nat) (e : Int) :
      (∃ sign, (if greatestExponent < e then infinite negative
        else if m = 0 then zero negative else finite negative m e) = .infinite sign) ↔
          greatestExponent < e := by
    by_cases beyond : greatestExponent < e
    · simp [beyond]
    · refine iff_of_false (not_exists.mpr fun sign => ?_) beyond
      rw [if_neg beyond]
      split <;> simp [zero]
  unfold ofRounded
  by_cases raised : mantissa = 2 ^ 53
  · rw [if_pos (show mantissa = Nat.pow 2 53 from raised)]
    refine (ranged (Nat.pow 2 52) (exponent + 1)).trans ?_
    simp only [raised, and_true]
    omega
  · rw [if_neg (show ¬mantissa = Nat.pow 2 53 from raised)]
    simpa only [raised, and_false, or_false] using ranged mantissa exponent

/-! ## Out of range -/

/-- The least whole number that is rounded out of the range of the doubles: `2 ^ 1024` without half
of the last place before it. -/
def overflowBound : Nat := (2 * 2 ^ 53 - 1) * 2 ^ 970

/-- A quotient is rounded out of the range of the doubles exactly if it reaches the bound. -/
theorem ofRatio_infinite_iff (den_pos : 0 < den) (negative : Bool) :
    (∃ sign, ofRatio negative num den = .infinite sign) ↔ overflowBound * den ≤ num := by
  by_cases none : num = 0
  · subst none
    have positive : 0 < overflowBound * den := Nat.mul_pos (by decide +kernel) den_pos
    simp [ofRatio, zero, Nat.not_le.mpr positive]
  have num_pos := Nat.pos_of_ne_zero none
  have least := le_binaryOrder_iff num_pos den_pos 1023
  have most := le_binaryOrder_iff num_pos den_pos 1024
  by_cases great : 1024 ≤ binaryOrder num den
  · -- The quotient has too many places before the point already.
    have reached : overflowBound * den ≤ num :=
      (Nat.mul_le_mul_right den (by decide +kernel)).trans (most.mp great)
    rw [ofRatio_eq num_pos rfl rfl negative, ofRounded_infinite_iff]
    refine iff_of_true (.inl ?_) reached
    unfold leastExponent greatestExponent
    omega
  by_cases small : binaryOrder num den < 1023
  · have missed : ¬overflowBound * den ≤ num := by
      intro reached
      have := least.mpr ((Nat.mul_le_mul_right den (by decide +kernel)).trans reached)
      omega
    rw [ofRatio_eq num_pos rfl rfl negative, ofRounded_infinite_iff]
    refine iff_of_false ?_ missed
    unfold leastExponent greatestExponent
    omega
  · -- All depends on whether the mantissa is rounded up to the next power of two.
    have order_eq : binaryOrder num den = 1023 := by omega
    have below : num < 2 ^ 53 * 2 ^ (970 + 1) * den := by
      have missed : ¬2 ^ 1024 * den ≤ num := fun reached => great (most.mpr reached)
      exact (Nat.lt_of_not_le missed).trans_eq (by rw [← pow_add])
    have raised := roundQuotient_pow_eq_iff (by norm_num) below
    have exponent_eq : max (binaryOrder num den - 52) leastExponent = (970 + 1 : Nat) := by
      rw [order_eq]
      decide
    rw [ofRatio_eq num_pos exponent_eq (scaleDown_natCast num den (970 + 1)) negative,
      ofRounded_infinite_iff, or_iff_right (by decide), and_iff_right (by decide), raised,
      overflowBound]

/-- A whole number of a size well inside the range of doubles is not rounded out of it. -/
theorem ofInt_ne_infinite {n : Int} (bounded : n.natAbs < 2 ^ 200) (sign : Bool) :
    ofInt n ≠ .infinite sign := by
  intro infinite
  have reached := (ofRatio_infinite_iff Nat.one_pos (decide (n < 0))).mp ⟨sign, infinite⟩
  have bound : 2 ^ 200 ≤ overflowBound := by decide +kernel
  omega

/-! ## Decimal numerals -/

/-- The value of digits that are moved by a power of ten reaches the bound. -/
def ReachesBound (digits : Nat) (exponent : Int) : Prop :=
  (overflowBound : ℚ) ≤ digits * 10 ^ exponent

private theorem lt_pow_digitCount (n : Nat) : n < 10 ^ digitCount n :=
  (Nat.length_toDigits_le_iff (by omega) Nat.length_toDigits_pos).mp le_rfl

private theorem pow_le_of_digitCount {n : Nat} (pos : 0 < n) : 10 ^ (digitCount n - 1) ≤ n := by
  by_contra missed
  have several : 0 < digitCount n - 1 := by
    refine Nat.pos_of_ne_zero fun single => missed ?_
    rw [single]
    exact pos
  have shorter : digitCount n ≤ digitCount n - 1 :=
    (Nat.length_toDigits_le_iff (by omega) several).mpr (Nat.lt_of_not_le missed)
  omega

variable {digits : Nat}

/-- A value without digits before the point is far from the bound. -/
theorem not_reachesBound_of_small {exponent : Int} (small : digitCount digits + exponent ≤ 0) :
    ¬ReachesBound digits exponent := by
  have digits_lt : (digits : ℚ) < 10 ^ (digitCount digits : Int) := by
    rw [zpow_natCast]
    exact_mod_cast lt_pow_digitCount digits
  have bound : 1 < overflowBound := by decide +kernel
  refine not_le.mpr ?_
  calc (digits : ℚ) * 10 ^ exponent < 10 ^ (digitCount digits : Int) * 10 ^ exponent :=
        mul_lt_mul_of_pos_right digits_lt (by positivity)
    _ = 10 ^ (digitCount digits + exponent) := (zpow_add₀ (by norm_num) ..).symm
    _ ≤ 10 ^ (0 : Int) := zpow_le_zpow_right₀ (by norm_num) small
    _ = (1 : Nat) := by rw [zpow_zero, Nat.cast_one]
    _ ≤ overflowBound := Nat.cast_le.mpr bound.le

/-- A value with hundreds of digits before the point is beyond the bound. -/
theorem reachesBound_of_great {exponent : Int} (pos : 0 < digits)
    (great : 400 < digitCount digits + exponent) : ReachesBound digits exponent := by
  have counted : 0 < digitCount digits := Nat.length_toDigits_pos
  have digits_ge : 10 ^ ((digitCount digits - 1 : Nat) : Int) ≤ (digits : ℚ) := by
    rw [zpow_natCast]
    exact_mod_cast pow_le_of_digitCount pos
  have bound : overflowBound ≤ 10 ^ 400 := by decide +kernel
  calc (overflowBound : ℚ) ≤ 10 ^ (400 : Int) := by exact_mod_cast bound
    _ ≤ 10 ^ ((digitCount digits - 1 : Nat) + exponent) :=
        zpow_le_zpow_right₀ (by norm_num) (by omega)
    _ = 10 ^ ((digitCount digits - 1 : Nat) : Int) * 10 ^ exponent := zpow_add₀ (by norm_num) ..
    _ ≤ digits * 10 ^ exponent := mul_le_mul_of_nonneg_right digits_ge (by positivity)

theorem reachesBound_natCast_iff (digits places : Nat) :
    ReachesBound digits places ↔ overflowBound ≤ digits * 10 ^ places := by
  rw [ReachesBound, zpow_natCast]
  exact_mod_cast Iff.rfl

private theorem reachesBound_neg_iff (digits places : Nat) :
    ReachesBound digits (-places) ↔ overflowBound * 10 ^ places ≤ digits := by
  have scale_pos : (0 : ℚ) < 10 ^ places := by positivity
  rw [ReachesBound, zpow_neg, zpow_natCast, ← div_eq_mul_inv, le_div_iff₀ scale_pos]
  exact_mod_cast Iff.rfl

/-- A decimal numeral has no double exactly if its value reaches the bound: what the order of magnitude
tells beforehand agrees with the rounding. -/
theorem ofDecimal_infinite_iff (negative : Bool) (digits : Nat) (exponent : Int) :
    (∃ sign, ofDecimal negative digits exponent = .infinite sign) ↔
      ReachesBound digits exponent := by
  have zero_finite : ¬∃ sign, zero negative = .infinite sign := by simp [zero]
  unfold ofDecimal
  dsimp only
  by_cases none : digits = 0
  · have bound : ¬overflowBound ≤ 0 := by decide +kernel
    rw [if_pos (by simp [none])]
    refine iff_of_false zero_finite fun reached => bound ?_
    rw [ReachesBound, none, Nat.cast_zero, zero_mul] at reached
    exact_mod_cast reached
  by_cases small : (digitCount digits + exponent : Int) < -400
  · rw [if_pos (by simp [small])]
    exact iff_of_false zero_finite (not_reachesBound_of_small (by omega))
  rw [if_neg (by simp [none, small])]
  by_cases great : 400 < (digitCount digits + exponent : Int)
  · rw [if_pos great]
    exact iff_of_true ⟨negative, rfl⟩ (reachesBound_of_great (Nat.pos_of_ne_zero none) great)
  rw [if_neg great]
  -- Between these orders the value is rounded as a quotient of whole numbers.
  split
  · rename_i whole
    obtain ⟨places, rfl⟩ := Int.eq_ofNat_of_zero_le whole
    rw [reachesBound_natCast_iff, Int.toNat_natCast, ofRatio_infinite_iff Nat.one_pos, Nat.mul_one]
    exact Iff.rfl
  · rename_i broken
    obtain ⟨places, rfl⟩ : ∃ places : Nat, exponent = -places := ⟨(-exponent).toNat, by omega⟩
    have scale_pos : 0 < Nat.pow 10 places := Nat.pow_pos (by omega)
    rw [reachesBound_neg_iff, neg_neg, Int.toNat_natCast, ofRatio_infinite_iff scale_pos]
    exact Iff.rfl

end Escrow.Double
