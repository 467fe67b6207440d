import Escrow.Proofs.Fee

/-!
# Fee schedules as tables

A schedule that is written as a table is read back.  A term that came in as a truth value comes back
as the number that it counts as, and nothing else changes, so the schedule charges as before.
-/

namespace Escrow

/-! ## Policies -/

private theorem readInt_toValue (n : Whole) : n.toValue.readInt = .ok n.toInt := by
  cases n <;> rfl

namespace Policy

/-- Two policies have the same terms, in whatever form these are given. -/
structure Equals (policy other : Policy) : Prop where
  rate_eq : policy.rate.toInt = other.rate.toInt
  minimum_eq : policy.minimum.toInt = other.minimum.toInt
  maximum_eq : policy.maximum.map Whole.toInt = other.maximum.map Whole.toInt

theorem Equals.refl (policy : Policy) : policy.Equals policy := ⟨rfl, rfl, rfl⟩

/-- The policy with its terms as numbers. -/
def inNumbers (policy : Policy) : Policy where
  rate := .number policy.rate.toInt
  minimum := .number policy.minimum.toInt
  maximum := policy.maximum.map fun top => .number top.toInt
  rate_valid := policy.rate_valid
  minimum_valid := policy.minimum_valid
  maximum_valid := by
    intro top capped
    obtain ⟨most, maximum_eq, rfl⟩ := Option.map_eq_some_iff.mp capped
    exact policy.maximum_valid most maximum_eq

private theorem inNumbers_equals (policy : Policy) : policy.inNumbers.Equals policy where
  rate_eq := rfl
  minimum_eq := rfl
  maximum_eq := by simp [inNumbers, Function.comp_def]

private theorem Equals.fee_eq {policy other : Policy} (equals : policy.Equals other)
    (amount : Whole) :
    (policy.fee amount).toInt = (other.fee amount).toInt := by
  have clamped (n : Int) : policy.clamp n = other.clamp n := by
    have maximum_eq := equals.maximum_eq
    unfold clamp
    cases first : policy.maximum <;> cases second : other.maximum <;>
      simp_all [equals.minimum_eq]
  rw [toInt_fee, toInt_fee, clamped, proportional, proportional, equals.rate_eq]

/-- The terms of a policy pass the check of a policy as numbers, too. -/
theorem make_inNumbers (policy : Policy) :
    make (.int policy.rate.toInt) (.int policy.minimum.toInt)
      ((policy.maximum.map fun top => .int top.toInt).getD .null) = .ok policy.inNumbers := by
  obtain ⟨rate, minimum, maximum, rate_valid, minimum_valid, maximum_valid⟩ := policy
  unfold make inNumbers
  cases maximum with
  | none => simp [Value.whole?, rate_valid, minimum_valid]
  | some top =>
      obtain ⟨bounded, ordered⟩ := maximum_valid top rfl
      simp [Value.whole?, rate_valid, minimum_valid, bounded, ordered]

private theorem ofConfig_toValue (policy : Policy) :
    ofConfig policy.toValue = .ok policy.inNumbers := by
  have made := policy.make_inNumbers
  have number (n : Int) : (Whole.number n).toValue = .int n := rfl
  have truth (b : Bool) : (Whole.truth b).toValue = .bool b := rfl
  have readNumber (n : Int) : (Value.int n).readInt = .ok n := rfl
  have readTruth (b : Bool) : (Value.bool b).readInt = .ok (Whole.truth b).toInt := rfl
  obtain ⟨rate, minimum, maximum, rate_valid, minimum_valid, maximum_valid⟩ := policy
  rcases maximum with _ | ⟨n | b⟩ <;>
    simp [ofConfig, toValue, Value.isTruthy, Value.fields, Value.fieldOr, Value.field, Value.find?,
      readInt_toValue, number, truth, readNumber, readTruth, Except.mapError, bind, Except.bind, pure,
      Except.pure, ofCause, Functor.map, Except.map]
      at made ⊢ <;>
    rw [made]

end Policy

namespace Schedule

/-- Two schedules have equal default policies, and equal overrides for the same outcomes. -/
structure Equals (schedule other : Schedule) : Prop where
  default : schedule.default.Equals other.default
  override : ∀ outcome,
    Option.Rel Policy.Equals (schedule.override outcome) (other.override outcome)

/-- The schedule with the terms of its policies as numbers. -/
def inNumbers (schedule : Schedule) : Schedule where
  default := schedule.default.inNumbers
  accepted := schedule.accepted.map Policy.inNumbers
  rejected := schedule.rejected.map Policy.inNumbers
  expired := schedule.expired.map Policy.inNumbers
  cancelled := schedule.cancelled.map Policy.inNumbers

private theorem override_inNumbers (schedule : Schedule) (outcome : Outcome) :
    schedule.inNumbers.override outcome = (schedule.override outcome).map Policy.inNumbers := by
  cases outcome <;> rfl

private theorem inNumbers_equals (schedule : Schedule) : schedule.inNumbers.Equals schedule where
  default := schedule.default.inNumbers_equals
  override := by
    intro outcome
    rw [override_inNumbers]
    cases schedule.override outcome with
    | none => exact .none
    | some policy => exact .some policy.inNumbers_equals

private theorem Equals.policy {schedule other : Schedule} (equals : schedule.Equals other)
    (outcome : Outcome) : (schedule.policy outcome).Equals (other.policy outcome) := by
  have chosen {first second : Option Policy} (related : Option.Rel Policy.Equals first second)
      {policy fallback : Policy} (falls : policy.Equals fallback) :
      (first.getD policy).Equals (second.getD fallback) := by
    cases related with
    | none => exact falls
    | some same => exact same
  have either {first second third fourth : Option Policy}
      (left : Option.Rel Policy.Equals first second)
      (right : Option.Rel Policy.Equals third fourth) :
      Option.Rel Policy.Equals (first <|> third) (second <|> fourth) := by
    cases left with
    | none => exact right
    | some same => exact .some same
  cases outcome with
  | accepted => exact chosen (equals.override .accepted) equals.default
  | rejected => exact chosen (equals.override .rejected) equals.default
  | expired =>
      exact chosen (either (equals.override .expired) (equals.override .rejected)) equals.default
  | cancelled => exact chosen (equals.override .cancelled) (.refl Policy.free)

/-! ## Written and read -/

/-- The overrides under the names of their outcomes. -/
def overrides (schedule : Schedule) : List (Value × Policy) :=
  Outcome.all.filterMap fun outcome =>
    (schedule.override outcome).map fun policy => (.text outcome.name, policy)

private theorem toValue_eq (schedule : Schedule) :
    schedule.toValue =
      .mapping ((.text "default", schedule.default.toValue) ::
        schedule.overrides.map fun (key, policy) => (key, policy.toValue)) := by
  simp [toValue, overrides, List.map_filterMap, Option.map_map, Function.comp_def]

private theorem overrides_inNumbers (schedule : Schedule) :
    schedule.inNumbers.overrides =
      schedule.overrides.map fun (key, policy) => (key, policy.inNumbers) := by
  simp [overrides, override_inNumbers, List.map_filterMap, Option.map_map, Function.comp_def]

/-- No outcome is called default. -/
theorem key_ne_default {schedule : Schedule} {entry : Value × Policy}
    (member : entry ∈ schedule.overrides) : entry.1 ≠ .text "default" := by
  obtain ⟨outcome, -, listed⟩ := List.mem_filterMap.mp member
  obtain ⟨policy, -, rfl⟩ := Option.map_eq_some_iff.mp listed
  cases outcome <;> simp [Outcome.name]

private theorem readPolicies_toValue (overrides : List (Value × Policy)) :
    readPolicies Policy.ofConfig (overrides.map fun (key, policy) => (key, policy.toValue)) =
      .ok (overrides.map fun (key, policy) => (key, policy.inNumbers)) := by
  induction overrides with
  | nil => rfl
  | cons entry rest ih =>
      rw [List.map_cons, readPolicies, Policy.ofConfig_toValue, ih]
      rfl

/-- A schedule is made of its default and its overrides. -/
theorem make_overrides (schedule : Schedule) :
    make schedule.default schedule.overrides = .ok schedule := by
  obtain ⟨default, accepted, rejected, expired, cancelled⟩ := schedule
  cases accepted <;> cases rejected <;> cases expired <;> cases cancelled <;> rfl

private theorem ofConfig_toValue (schedule : Schedule) :
    ofConfig schedule.toValue = .ok schedule.inNumbers := by
  have others : (schedule.overrides.map fun (key, policy) => (key, policy.toValue)).filter
      (fun entry : Value × Value => !decide (entry.1 = .text "default")) =
        schedule.overrides.map fun (key, policy) => (key, policy.toValue) := by
    apply List.filter_eq_self.mpr
    intro entry member
    obtain ⟨override, listed, rfl⟩ := List.mem_map.mp member
    simpa using key_ne_default listed
  have made := make_overrides schedule.inNumbers
  rw [overrides_inNumbers] at made
  rw [toValue_eq]
  simp [ofConfig, Value.isTruthy, Value.readEntries, Value.field, Value.find?, Except.mapError,
    bind, Except.bind, Policy.ofConfig_toValue, others, readPolicies_toValue]
  exact made

/-- What a schedule is written as is read as an equal schedule, which charges the same fee on every
amount for every outcome, in whatever letter case the outcome is named. -/
theorem read_of_toValue (schedule : Schedule) :
    ∃ read, ofConfig schedule.toValue = .ok read ∧ read.Equals schedule ∧
      ∀ (amount : Whole) (outcome : Outcome) (text : String), IsAmount amount.toInt →
        outcome.Spells text → ∃ fee same,
          schedule.feeFor amount.toValue (.text text) = .ok fee ∧
          read.feeFor amount.toValue (.text text) = .ok same ∧ same.toInt = fee.toInt := by
  have equals := schedule.inNumbers_equals
  refine ⟨schedule.inNumbers, schedule.ofConfig_toValue, equals, ?_⟩
  intro amount outcome text bounded spells
  exact ⟨_, _, schedule.feeFor_of_spells spells bounded,
    schedule.inNumbers.feeFor_of_spells spells bounded, (equals.policy outcome).fee_eq amount⟩

/-- A fee of one unit, whose least and greatest value came in as truth values. -/
def truthSample : Policy :=
  { Policy.free with
    minimum := .truth true
    maximum := some (.truth true)
    minimum_valid := by decide
    maximum_valid := by
      rintro top ⟨⟩
      decide }

/-- A schedule by which an expired transfer pays nothing, although a rejected one pays, and a
cancelled one pays one unit. -/
def writtenSample : Schedule where
  default := Policy.uncappedSample
  expired := some Policy.free
  cancelled := some truthSample

/-- What an expired and a cancelled transfer pay is kept, and truth values become numbers. -/
theorem read_of_toValue_sample :
    Outcome.expired.Spells "EXPIRED" ∧ Outcome.cancelled.Spells "Cancelled" ∧
      ∃ read free least, ofConfig writtenSample.toValue = .ok read ∧ read.Equals writtenSample ∧
        read.feeFor (.int 1000) (.text "EXPIRED") = .ok free ∧ free.toInt = 0 ∧
        read.feeFor (.int 1000) (.text "Cancelled") = .ok least ∧ least.toInt = 1 := by
  have expired : Outcome.expired.Spells "EXPIRED" := by
    unfold Outcome.Spells
    decide +kernel
  have cancelled : Outcome.cancelled.Spells "Cancelled" := by
    unfold Outcome.Spells
    decide +kernel
  obtain ⟨read, written, equals, charges⟩ := read_of_toValue writtenSample
  obtain ⟨_, free, paid, second, free_eq⟩ := charges 1000 .expired _ (by decide) expired
  rw [feeFor_of_spells _ expired (by decide)] at paid
  cases paid
  obtain ⟨_, least, paid, third, least_eq⟩ := charges 1000 .cancelled _ (by decide) cancelled
  rw [feeFor_of_spells _ cancelled (by decide)] at paid
  cases paid
  exact ⟨expired, cancelled, read, free, least, written, equals, second,
    free_eq.trans (by decide), third, least_eq.trans (by decide)⟩

end Schedule
end Escrow
