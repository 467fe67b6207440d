import Escrow.Fee.Schedule
import Escrow.Proofs.Answer

/-!
# Bounds of a fee

A fee is never negative and never more than the amount, whatever the policy: the bounds of a policy
are those that it was made with.  A higher amount bears no lower fee and leaves no less after it,
because the rate never takes more than one unit for a unit, and neither do the bounds; and a policy
with no lower terms takes no lower fee.  A schedule charges by the policy of the outcome that it is
asked for, in whatever letter case the outcome is named.
-/

namespace Escrow

private theorem Policy.fee_nonneg (policy : Policy) {amount : Whole} (nonneg : 0 ≤ amount.toInt) :
    0 ≤ (policy.fee amount).toInt := by
  have least := policy.minimum_valid.1
  unfold fee
  cases top : policy.maximum with
  | none =>
      simp only [Whole.toInt_min, Whole.toInt_max]
      omega
  | some most =>
      have greatest := (policy.maximum_valid most top).1.1
      simp only [Whole.toInt_min, Whole.toInt_max]
      omega

private theorem Policy.fee_le (policy : Policy) (amount : Whole) :
    (policy.fee amount).toInt ≤ amount.toInt := by
  unfold fee
  rw [Whole.toInt_min]
  omega

namespace Policy

/-- What the rate alone takes from an amount, rounded down. -/
def proportional (policy : Policy) (amount : Int) : Int := amount * policy.rate.toInt / basisPoints

/-- A number brought between the minimum and the maximum of a policy. -/
def clamp (policy : Policy) (n : Int) : Int :=
  match policy.maximum with
  | some top => min (max n policy.minimum.toInt) top.toInt
  | none => max n policy.minimum.toInt

/-- Each term of the policy is at most that of the other one; no maximum is above every other. -/
structure IsBelow (policy other : Policy) : Prop where
  rate_le : policy.rate.toInt ≤ other.rate.toInt
  minimum_le : policy.minimum.toInt ≤ other.minimum.toInt
  maximum_le : ∀ top, other.maximum = some top →
    ∃ lower, policy.maximum = some lower ∧ lower.toInt ≤ top.toInt

/-- The fee on an amount is one that the terms of the policy allow. -/
structure Takes (policy : Policy) (amount fee : Int) : Prop where
  nonneg : 0 ≤ fee
  le_amount : fee ≤ amount
  minimum_le : min amount policy.minimum.toInt ≤ fee
  le_maximum : ∀ top, policy.maximum = some top → fee ≤ top.toInt
  /-- Between the minimum and the maximum the fee is the proportional one. -/
  eq_floor : policy.minimum.toInt ≤ ⌊(amount * policy.rate.toInt : ℚ) / 10000⌋ →
    (∀ top, policy.maximum = some top → ⌊(amount * policy.rate.toInt : ℚ) / 10000⌋ ≤ top.toInt) →
      fee = ⌊(amount * policy.rate.toInt : ℚ) / 10000⌋

variable {policy other : Policy} {amount m n : Int}

theorem toInt_fee (policy : Policy) (amount : Whole) :
    (policy.fee amount).toInt =
      min (policy.clamp (policy.proportional amount.toInt)) amount.toInt := by
  unfold Policy.fee clamp proportional
  cases policy.maximum <;> simp only [Whole.toInt_min, Whole.toInt_max, Whole.toInt_number]

private theorem floor_eq_proportional (policy : Policy) (amount : Int) :
    ⌊(amount * policy.rate.toInt : ℚ) / 10000⌋ = policy.proportional amount := by
  have floor := Rat.floor_intCast_div_natCast (amount * policy.rate.toInt) 10000
  push_cast at floor
  exact floor

/-! ## The rate -/

private theorem proportional_mono (policy : Policy) (le : m ≤ n) :
    policy.proportional m ≤ policy.proportional n := by
  apply Int.ediv_le_ediv (by decide)
  exact Int.mul_le_mul_of_nonneg_right le policy.rate_valid.1

/-- The rate takes at most one unit more for a unit more. -/
theorem proportional_sub_le (policy : Policy) (le : m ≤ n) :
    policy.proportional n - policy.proportional m ≤ n - m := by
  have whole : (n - m) * policy.rate.toInt ≤ (n - m) * basisPoints :=
    Int.mul_le_mul_of_nonneg_left policy.rate_valid.2 (by omega)
  rw [Int.sub_mul, Int.sub_mul] at whole
  unfold proportional basisPoints at *
  omega

private theorem proportional_le (policy : Policy) (nonneg : 0 ≤ amount) :
    policy.proportional amount ≤ amount := by
  have most := policy.proportional_sub_le nonneg
  have nothing : policy.proportional 0 = 0 := by simp [proportional]
  omega

private theorem IsBelow.proportional_le (below : policy.IsBelow other) (nonneg : 0 ≤ amount) :
    policy.proportional amount ≤ other.proportional amount := by
  apply Int.ediv_le_ediv (by decide)
  exact Int.mul_le_mul_of_nonneg_left below.rate_le nonneg

/-! ## The bounds -/

private theorem clamp_mono (policy : Policy) (le : m ≤ n) : policy.clamp m ≤ policy.clamp n := by
  unfold clamp
  split <;> omega

private theorem clamp_sub_le (policy : Policy) (le : m ≤ n) :
    policy.clamp n - policy.clamp m ≤ n - m := by
  unfold clamp
  split <;> omega

private theorem minimum_le_clamp (policy : Policy) (n : Int) :
    policy.minimum.toInt ≤ policy.clamp n := by
  unfold clamp
  split
  · rename_i top maximum_eq
    have ordered := (policy.maximum_valid top maximum_eq).2
    omega
  · omega

private theorem clamp_le_maximum {top : Whole} (maximum_eq : policy.maximum = some top) (n : Int) :
    policy.clamp n ≤ top.toInt := by
  rw [clamp, maximum_eq]
  exact min_le_right _ _

private theorem clamp_eq_self (least : policy.minimum.toInt ≤ n)
    (most : ∀ top, policy.maximum = some top → n ≤ top.toInt) : policy.clamp n = n := by
  unfold clamp
  split
  · rename_i top maximum_eq
    have greatest := most top maximum_eq
    omega
  · omega

private theorem IsBelow.clamp_le (below : policy.IsBelow other) (le : m ≤ n) :
    policy.clamp m ≤ other.clamp n := by
  have least := below.minimum_le
  cases maximum_eq : other.maximum with
  | none =>
      unfold clamp
      rw [maximum_eq]
      dsimp only
      split <;> omega
  | some top =>
      obtain ⟨lower, lower_eq, ordered⟩ := below.maximum_le top maximum_eq
      simp only [clamp, maximum_eq, lower_eq]
      omega

/-! ## The fee -/

private theorem fee_mono (policy : Policy) {a b : Whole} (le : a.toInt ≤ b.toInt) :
    (policy.fee a).toInt ≤ (policy.fee b).toInt := by
  have clamped := policy.clamp_mono (policy.proportional_mono le)
  rw [toInt_fee, toInt_fee]
  omega

/-- What is left of a higher amount after its fee is no less. -/
theorem sub_fee_mono (policy : Policy) {a b : Whole} (le : a.toInt ≤ b.toInt) :
    a.toInt - (policy.fee a).toInt ≤ b.toInt - (policy.fee b).toInt := by
  have rated := policy.proportional_sub_le le
  have clamped := policy.clamp_sub_le (policy.proportional_mono le)
  rw [toInt_fee, toInt_fee]
  omega

private theorem IsBelow.fee_le (below : policy.IsBelow other) {amount : Whole}
    (nonneg : 0 ≤ amount.toInt) :
    (policy.fee amount).toInt ≤ (other.fee amount).toInt := by
  have clamped := below.clamp_le (below.proportional_le nonneg)
  rw [toInt_fee, toInt_fee]
  omega

private theorem takes_fee (policy : Policy) {amount : Whole} (nonneg : 0 ≤ amount.toInt) :
    policy.Takes amount.toInt (policy.fee amount).toInt where
  nonneg := policy.fee_nonneg nonneg
  le_amount := policy.fee_le amount
  minimum_le := by
    have least := policy.minimum_le_clamp (policy.proportional amount.toInt)
    rw [toInt_fee]
    omega
  le_maximum := by
    intro top maximum_eq
    have most := clamp_le_maximum maximum_eq (policy.proportional amount.toInt)
    rw [toInt_fee]
    omega
  eq_floor := by
    rw [floor_eq_proportional]
    intro least most
    have whole := policy.proportional_le nonneg
    rw [toInt_fee, clamp_eq_self least most]
    omega

private theorem feeOf_eq (policy : Policy) {amount : Whole} (bounded : IsAmount amount.toInt) :
    policy.feeOf amount.toValue = .ok (policy.fee amount) := by
  have whole : amount.toValue.whole? = some amount := by cases amount <;> rfl
  unfold feeOf
  rw [whole]
  dsimp only
  rw [if_pos bounded]

/-- The fees on two amounts are those that the terms of the policy allow; the higher amount bears no
lower fee and leaves no less after it, and a policy with no lower terms takes no lower fee. -/
theorem fees_of_amounts (policy : Policy) {a b : Whole} (a_bounded : IsAmount a.toInt)
    (b_bounded : IsAmount b.toInt) (le : a.toInt ≤ b.toInt) :
    ∃ less more, policy.feeOf a.toValue = .ok less ∧ policy.feeOf b.toValue = .ok more ∧
      policy.Takes a.toInt less.toInt ∧ policy.Takes b.toInt more.toInt ∧
      less.toInt ≤ more.toInt ∧ a.toInt - less.toInt ≤ b.toInt - more.toInt ∧
      ∀ other : Policy, policy.IsBelow other →
        ∃ higher, other.feeOf a.toValue = .ok higher ∧ less.toInt ≤ higher.toInt := by
  refine ⟨policy.fee a, policy.fee b, policy.feeOf_eq a_bounded, policy.feeOf_eq b_bounded,
    policy.takes_fee a_bounded.1, policy.takes_fee b_bounded.1, policy.fee_mono le,
    policy.sub_fee_mono le, ?_⟩
  intro other below
  exact ⟨other.fee a, other.feeOf_eq a_bounded, below.fee_le a_bounded.1⟩

/-- A fee of one percent, from 5 to 100 units. -/
def cappedSample : Policy where
  rate := 100
  minimum := 5
  maximum := some 100
  rate_valid := by decide
  minimum_valid := by decide
  maximum_valid := by
    rintro top ⟨⟩
    decide

/-- A fee of two percent, from 5 units without end. -/
def uncappedSample : Policy where
  rate := 200
  minimum := 5
  maximum := none
  rate_valid := by decide
  minimum_valid := by decide
  maximum_valid := by simp

/-- On a small amount the fee is the minimum, and on a great one it is the maximum. -/
theorem fees_sample :
    cappedSample.feeOf (.int 300) = .ok 5 ∧ cappedSample.feeOf (.int 12345) = .ok 100 ∧
      ∃ less more higher, cappedSample.feeOf (.int 300) = .ok less ∧
        cappedSample.feeOf (.int 12345) = .ok more ∧ less.toInt ≤ more.toInt ∧
        300 - less.toInt ≤ 12345 - more.toInt ∧ cappedSample.Takes 12345 more.toInt ∧
        uncappedSample.feeOf (.int 300) = .ok higher ∧ less.toInt ≤ higher.toInt := by
  have below : cappedSample.IsBelow uncappedSample := ⟨by decide, by decide, by rintro top ⟨⟩⟩
  obtain ⟨less, more, first, second, -, takes, grows, leaves, others⟩ :=
    @fees_of_amounts cappedSample 300 12345 (by decide) (by decide) (by decide)
  obtain ⟨higher, third, lower⟩ := others uncappedSample below
  exact ⟨by decide, by decide, less, more, higher, first, second, grows, leaves, takes, third,
    lower⟩

end Policy

/-! ## Names in any letter case -/

namespace Text

private theorem lowerChar_of_small {c : Char} (small : c.toNat < 128) : lowerChar c =
    [c.toLower] := by
  have each : ∀ n : Fin 128, lowerChar (Char.ofNat n) = [(Char.ofNat n).toLower] := by
    decide +kernel
  have read := each ⟨c.toNat, small⟩
  rwa [Char.ofNat_toNat] at read

private theorem lowerChars_of_small {chars : List Char} (small : ∀ c ∈ chars, c.toNat < 128)
    (before : List Char) : lowerChars before chars = chars.map Char.toLower := by
  induction chars generalizing before with
  | nil => rfl
  | cons c rest ih =>
      rw [List.forall_mem_cons] at small
      have apart : (c == 'Σ') = false := by
        rw [beq_eq_false_iff_ne]
        rintro rfl
        exact absurd small.1 (by decide)
      rw [lowerChars, apart, lowerChar_of_small small.1, ih small.2]
      rfl

private theorem small_of_toLower {c : Char} (small : c.toLower.toNat < 128) : c.toNat < 128 := by
  by_cases upper : c.val ≥ 'A'.val ∧ c.val ≤ 'Z'.val
  · have below : c.toNat ≤ 90 := upper.2
    omega
  · simp only [Char.toLower, upper, dif_neg, not_false_eq_true] at small
    exact small

end Text

/-- The text is the name of the outcome, each letter being a small one or a capital. -/
def Outcome.Spells (outcome : Outcome) (text : String) : Prop :=
  text.toList.map Char.toLower = outcome.name.toList

private theorem Outcome.Spells.lower_eq {outcome : Outcome} {text : String}
    (spells : outcome.Spells text) : Text.lower text = outcome.name := by
  have names : ∀ c ∈ outcome.name.toList, c.toNat < 128 := by
    have all : outcome.name.toList.all (·.toNat < 128) = true := by
      cases outcome <;> decide +kernel
    simpa using all
  have small : ∀ c ∈ text.toList, c.toNat < 128 := by
    intro c member
    apply Text.small_of_toLower
    apply names
    rw [← spells]
    exact List.mem_map_of_mem member
  unfold Text.lower
  rw [Text.lowerChars_of_small small, spells, String.ofList_toList]

private theorem Outcome.spells_name (outcome : Outcome) : outcome.Spells outcome.name := by
  unfold Spells
  cases outcome <;> decide +kernel

namespace Schedule

theorem fee_nonneg (schedule : Schedule) (outcome : Outcome) {amount : Whole}
    (nonneg : 0 ≤ amount.toInt) : 0 ≤ (schedule.fee outcome amount).toInt :=
  (schedule.policy outcome).fee_nonneg nonneg

theorem fee_le (schedule : Schedule) (outcome : Outcome) (amount : Whole) :
    (schedule.fee outcome amount).toInt ≤ amount.toInt :=
  (schedule.policy outcome).fee_le amount

/-- What is left of an amount after its fee is an amount. -/
theorem isAmount_sub_fee (schedule : Schedule) (outcome : Outcome) {amount : Int}
    (bounded : IsAmount amount) :
    IsAmount (amount - (schedule.fee outcome (.number amount)).toInt) := by
  have nonneg : 0 ≤ (schedule.fee outcome (.number amount)).toInt :=
    schedule.fee_nonneg outcome bounded.1
  have most := schedule.fee_le outcome (.number amount)
  rw [Whole.toInt_number] at most
  obtain ⟨-, above⟩ := bounded
  constructor <;> omega

/-- An outcome is recognised in any letter case. -/
theorem policyFor_of_spells (schedule : Schedule) {outcome : Outcome} {text : String}
    (spells : outcome.Spells text) :
    schedule.policyFor (.text text) = .ok (schedule.policy outcome) := by
  unfold policyFor
  rw [Value.plain_text]
  dsimp only
  rw [spells.lower_eq, Outcome.ofName?_name]

theorem feeFor_of_spells (schedule : Schedule) {outcome : Outcome} {text : String}
    (spells : outcome.Spells text) {amount : Whole} (bounded : IsAmount amount.toInt) :
    schedule.feeFor amount.toValue (.text text) = .ok (schedule.fee outcome amount) := by
  unfold feeFor
  rw [schedule.policyFor_of_spells spells]
  exact (schedule.policy outcome).feeOf_eq bounded

/-- The fee for an outcome by its name is the fee that a settlement takes. -/
theorem feeFor_name (schedule : Schedule) (outcome : Outcome) {amount : Int}
    (bounded : IsAmount amount) :
    schedule.feeFor (.int amount) (.text outcome.name) =
      .ok (schedule.fee outcome (.number amount)) :=
  @feeFor_of_spells schedule outcome outcome.name outcome.spells_name (.number amount) bounded

end Schedule
end Escrow
