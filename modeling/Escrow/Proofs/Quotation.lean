import Escrow.Proofs.Decimal

/-!
# Amounts as an exchange quotes them

A deposit backs a move if the exchange quotes the amount of the move for it.  Numbers are compared in
their shortest form, and every number has exactly one, so the comparison is that of rational numbers;
and since an amount in whole units stands for exactly the amount, it is told apart from every other.
-/

namespace Escrow

open Text

namespace Decimal

/-! ## Comparing numbers -/

/-- No number has two forms that do not end in a zero. -/
theorem IsReduced.eq {a b : Nat} {e f : Int} (first : IsReduced a e) (second : IsReduced b f)
    (same : (a * 10 ^ e : ℚ) = b * 10 ^ f) : a = b ∧ e = f := by
  wlog order : e ≤ f generalizing a b e f
  · obtain ⟨rfl, rfl⟩ := this second first same.symm (le_of_not_ge order)
    exact ⟨rfl, rfl⟩
  obtain ⟨count, rfl⟩ : ∃ count : Nat, f = e + count := ⟨(f - e).toNat, by omega⟩
  have power : (10 : ℚ) ^ e ≠ 0 := by positivity
  have scaled : a = b * 10 ^ count := by
    rw [zpow_add₀ (by norm_num), mul_left_comm, mul_comm, mul_right_inj' power,
      zpow_natCast] at same
    exact_mod_cast same
  cases count with
  | zero => exact ⟨by simpa using scaled, by simp⟩
  | succ count =>
      -- a coefficient that is ten times another ends in a zero, so both numbers are nothing
      have multiple : a % 10 = 0 := by
        rw [scaled, pow_succ, ← mul_assoc, Nat.mul_mod_left]
      obtain ⟨rfl, rfl⟩ := first multiple
      have nothing : b = 0 := by
        rcases Nat.mul_eq_zero.mp scaled.symm with nothing | power
        · exact nothing
        · exact absurd power (by positivity)
      obtain ⟨-, level⟩ := second (by rw [nothing])
      exact ⟨nothing.symm, level.symm⟩

/-- Two numbers have the same shortest form exactly if they stand for the same. -/
theorem stripped_eq_iff (a b : Nat) (e f : Int) :
    stripped (.finite false a e) = stripped (.finite false b f) ↔
      (a * 10 ^ e : ℚ) = b * 10 ^ f := by
  obtain ⟨kept, raised, first, value, reduced, -⟩ := exists_stripped a e
  obtain ⟨kept', raised', second, value', reduced', -⟩ := exists_stripped b f
  rw [first, second, ← value, ← value']
  constructor
  · intro same
    obtain ⟨-, rfl, rfl⟩ := Decimal.finite.inj same
    rfl
  · intro same
    obtain ⟨rfl, rfl⟩ := reduced.eq reduced' same
    rfl

/-- The sign of a number is not looked at when zeros are dropped. -/
theorem stripped_signed (negative : Bool) (coefficient : Nat) (exponent : Int) :
    ∃ kept raised, stripped (.finite false coefficient exponent) = .finite false kept raised ∧
      stripped (.finite negative coefficient exponent) = .finite negative kept raised := by
  unfold stripped
  dsimp only
  split <;> exact ⟨_, _, rfl, rfl⟩

/-- Two numbers of any signs that are not both zero have the same shortest form exactly if they stand
for the same. -/
theorem stripped_signed_eq_iff {a b : Nat} (nonzero : ¬(a = 0 ∧ b = 0)) (m n : Bool) (e f : Int) :
    stripped (.finite m a e) = stripped (.finite n b f) ↔
      ((if m then -1 else 1) * a * 10 ^ e : ℚ) = (if n then -1 else 1) * b * 10 ^ f := by
  obtain ⟨kept, raised, plain, signed⟩ := stripped_signed m a e
  obtain ⟨kept', raised', plain', signed'⟩ := stripped_signed n b f
  have sizes : (kept = kept' ∧ raised = raised') ↔ (a * 10 ^ e : ℚ) = b * 10 ^ f := by
    rw [← stripped_eq_iff, plain, plain']
    simp
  have positive : (0 : ℚ) < 10 ^ e ∧ (0 : ℚ) < 10 ^ f := ⟨by positivity, by positivity⟩
  have left_nonneg : (0 : ℚ) ≤ a * 10 ^ e := by positivity
  have right_nonneg : (0 : ℚ) ≤ b * 10 ^ f := by positivity
  have opposite : (a * 10 ^ e : ℚ) + b * 10 ^ f ≠ 0 := by
    intro nothing
    have left : (a * 10 ^ e : ℚ) = 0 := by linarith
    have right : (b * 10 ^ f : ℚ) = 0 := by linarith
    simp only [mul_eq_zero, positive.1.ne', positive.2.ne', or_false, Nat.cast_eq_zero] at left right
    exact nonzero ⟨left, right⟩
  rw [signed, signed', finite.injEq, sizes]
  cases m <;> cases n <;> simp only [if_true, if_false, Bool.false_eq_true, reduceCtorEq, true_and,
    false_and, one_mul, neg_mul, neg_inj, false_iff]
  · intro same
    exact opposite (by linarith)
  · intro same
    exact opposite (by linarith)

/-- Numbers are compared by what they stand for, whatever their signs. -/
theorem equals_of_toRat? {first second : Decimal} {x y : ℚ} (left : first.toRat? = some x)
    (right : second.toRat? = some y) : first.equals second = .ok (decide (x = y)) := by
  cases first with
  | finite m a e =>
      cases second with
      | finite n b f =>
          obtain rfl := Option.some.inj left
          obtain rfl := Option.some.inj right
          by_cases nothing : a = 0 ∧ b = 0
          · obtain ⟨rfl, rfl⟩ := nothing
            simp [equals]
          · have shortest : equals (.finite m a e) (.finite n b f) =
                .ok (decide (stripped (.finite m a e) = stripped (.finite n b f))) := by
              cases a with
              | zero =>
                  cases b with
                  | zero => exact absurd ⟨rfl, rfl⟩ nothing
                  | succ b => rfl
              | succ a => cases b <;> rfl
            rw [shortest, decide_eq_decide.mpr (stripped_signed_eq_iff nothing m n e f)]
      | infinite => cases right
      | nan => cases right
  | infinite => cases left
  | nan => cases left

private theorem equals_finite (a b : Nat) (e f : Int) :
    equals (.finite false a e) (.finite false b f) =
      .ok (decide ((a * 10 ^ e : ℚ) = b * 10 ^ f)) :=
  equals_of_toRat? (toRat?_finite a e) (toRat?_finite b f)

end Decimal

namespace Custody

/-! ## Deposits that are quoted -/

/-- Is a deposit sent to the right address, and not known to come from someone else than the
sender? -/
def comesFrom (custody : Custody) (deposit : List (Value × Value)) (sender : Value) :
    Answer Bool := do
  if custody.depositAddress.isTruthy &&
      !(Value.field "address" deposit).same custody.depositAddress then return false
  let known ← lookUp custody.addresses sender
  let source := Value.field "addressFrom" deposit
  return !(known.isTruthy && source.isTruthy && !source.same known)

/-- Of a completed deposit that states an amount, first the amount is compared and then where it comes
from. -/
theorem backs_of_completed {custody : Custody} {deposit : List (Value × Value)}
    (completed : Value.field "status" deposit = .text "ok")
    (stated : Value.field "amount" deposit ≠ .null) (sender : Value) (expected : Decimal) :
    custody.backs deposit sender expected =
      ((amountMatches (Value.field "amount" deposit) expected).mapError .fault).bind fun matched =>
        if matched then custody.comesFrom deposit sender else .ok false := by
  unfold backs
  dsimp only
  rw [completed, if_neg (by simpa using stated)]
  cases amountMatches (Value.field "amount" deposit) expected with
  | error fault => rfl
  | ok matched => cases matched <;> rfl

section

variable {custody : Custody} {asset decimals : Value} {places : Int}

/-- With the places of its asset within the range of exponents, an amount in whole units is a plain
numeral that stands for exactly the amount.  So it is the text of no other amount, and a completed
deposit that quotes it backs a move, as far as its amount goes, exactly if the move is of that
amount. -/
theorem exchangeAmount_exact (listed : custody.decimalsOf asset = .ok (some decimals))
    (read : placesOf decimals = .ok places) (least : 0 ≤ places) (most : places ≤ 999999) :
    (∀ n, IsAmount n → ∃ whole fraction,
      custody.exchangeAmount (.int n) asset = .ok (String.ofList (withPoint whole fraction)) ∧
      IsNumeral whole fraction ∧
      (digitsValue (whole ++ fraction) / 10 ^ fraction.length * 10 ^ places : ℚ) = n) ∧
    (∀ m n, IsAmount m → IsAmount n →
      custody.exchangeAmount (.int m) asset = custody.exchangeAmount (.int n) asset → m = n) ∧
    ∀ m n, IsAmount m → IsAmount n → ∃ quoted shown expected,
      custody.exchangeAmount (.int m) asset = .ok quoted ∧
      custody.exchangeAmount (.int n) asset = .ok shown ∧
      Decimal.ofText? shown = some expected ∧
      amountMatches (.text quoted) expected = .ok (decide (m = n)) ∧
      ∀ deposit sender, Value.field "status" deposit = .text "ok" →
        Value.field "amount" deposit = .text quoted →
        custody.backs deposit sender expected =
          if m = n then custody.comesFrom deposit sender else .ok false := by
  have cancelled : (10 : ℚ) ^ (-places) * 10 ^ places = 1 :=
    zpow_neg_mul_zpow_self places (by norm_num)
  have power : (10 : ℚ) ^ (-places) ≠ 0 := by positivity
  refine ⟨fun n amount => ?_, fun m n first second same => ?_, fun m n first second => ?_⟩
  · obtain ⟨whole, fraction, converted, numeral, -, value⟩ :=
      exists_exchangeAmount listed read least most amount
    refine ⟨whole, fraction, converted, numeral, ?_⟩
    rw [zpow_neg, zpow_natCast, ← div_eq_mul_inv] at value
    rw [value, mul_assoc, cancelled, mul_one]
  · obtain ⟨whole, fraction, converted, -⟩ := exists_exchangeAmount listed read least most first
    have units := baseUnits?_exchangeAmount listed read least most first converted
    rw [same] at converted
    have units' := baseUnits?_exchangeAmount listed read least most second converted
    rw [units, Option.some_inj] at units'
    exact_mod_cast units'
  · obtain ⟨whole, fraction, converted, numeral, short, value⟩ :=
      exists_exchangeAmount listed read least most first
    obtain ⟨whole', fraction', converted', numeral', short', value'⟩ :=
      exists_exchangeAmount listed read least most second
    have matched : amountMatches (.text (String.ofList (withPoint whole fraction)))
        (.finite false (digitsValue (whole' ++ fraction')) (-(fraction'.length : Int))) =
          .ok (decide (m = n)) := by
      rw [amountMatches, Value.plain_text, Decimal.ofText?_withPoint numeral.some_digits
        numeral.whole_digits numeral.fraction_digits short]
      dsimp only
      rw [Decimal.equals_finite, value, value']
      simp only [mul_left_inj' power, Int.cast_inj]
    refine ⟨_, _, _, converted, converted', Decimal.ofText?_withPoint numeral'.some_digits
      numeral'.whole_digits numeral'.fraction_digits short', matched,
      fun deposit sender completed quotes => ?_⟩
    rw [backs_of_completed completed (by simp [quotes]), quotes, matched]
    by_cases same : m = n <;> simp [same, Except.mapError, Except.bind]

/-- A deposit of ten cents backs no move of one cent. -/
theorem exchangeAmount_exact_sample :
    let custody : Custody :=
      { exchange := {}
        account := .text "hot"
        addresses := .mapping []
        decimals := .mapping [(.text "EUR", .int 2)] }
    custody.decimalsOf (.text "EUR") = .ok (some (.int 2)) ∧ placesOf (.int 2) = .ok 2 ∧
      ∃ quoted shown expected,
        custody.exchangeAmount (.int 10) (.text "EUR") = .ok quoted ∧
        custody.exchangeAmount (.int 1) (.text "EUR") = .ok shown ∧
        Decimal.ofText? shown = some expected ∧
        amountMatches (.text quoted) expected = .ok false := by
  intro custody
  have listed : custody.decimalsOf (.text "EUR") = .ok (some (.int 2)) := by
    simp [custody, decimalsOf, Value.isKey, Value.find?]
  have read : placesOf (.int 2) = .ok 2 := rfl
  obtain ⟨-, -, compares⟩ := exchangeAmount_exact listed read (by decide) (by decide)
  obtain ⟨quoted, shown, expected, first, second, number, matched, -⟩ :=
    compares 10 1 (by decide) (by decide)
  exact ⟨listed, read, quoted, shown, expected, first, second, number, matched⟩

end

end Custody
end Escrow
