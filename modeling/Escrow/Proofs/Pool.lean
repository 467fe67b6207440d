import Escrow.Pool
import Escrow.Proofs.Answer

/-!
# The counters of a pool

A tally is the five counters of a pool as numbers.  The checks of a pool read off as inequalities on
its tally, and whatever passes a check is booked: this is what lets an engine move funds between the
two.
-/

namespace Escrow

/-- The counters of a pool as numbers. -/
structure Tally where
  deposited : Int := 0
  withdrawn : Int := 0
  feesCollected : Int := 0
  created : Int := 0
  resolved : Int := 0

namespace Tally

/-- What is still held for pending transfers. -/
def escrowed (tally : Tally) : Int := tally.deposited - tally.withdrawn

/-- What the custody account holds. -/
def inCustody (tally : Tally) : Int := tally.escrowed + tally.feesCollected

/-- The tally after a deposit for a new transfer. -/
def deposit (tally : Tally) (amount : Int) : Tally :=
  { tally with
    deposited := tally.deposited + amount
    created := tally.created + 1 }

/-- The tally after a settlement that keeps a fee. -/
def settle (tally : Tally) (amount fee : Int) : Tally :=
  { tally with
    withdrawn := tally.withdrawn + amount
    feesCollected := tally.feesCollected + fee
    resolved := tally.resolved + 1 }

end Tally

namespace Pool

/-- The counters of the pool are these numbers. -/
structure Counts (pool : Pool) (tally : Tally) : Prop where
  deposited : pool.deposited = .int tally.deposited
  withdrawn : pool.withdrawn = .int tally.withdrawn
  feesCollected : pool.feesCollected = .int tally.feesCollected
  created : pool.created = .int tally.created
  resolved : pool.resolved = .int tally.resolved

/-- A pool that nothing has been booked on. -/
def IsUnused (pool : Pool) : Prop := pool.Counts {}

/-- The counters of the pool read as numbers. -/
def tally (pool : Pool) : Tally where
  deposited := pool.deposited.toInt?.getD 0
  withdrawn := pool.withdrawn.toInt?.getD 0
  feesCollected := pool.feesCollected.toInt?.getD 0
  created := pool.created.toInt?.getD 0
  resolved := pool.resolved.toInt?.getD 0

theorem Counts.tally_eq {pool : Pool} {tally : Tally} (counts : pool.Counts tally) :
    pool.tally = tally := by
  unfold Pool.tally
  rw [counts.deposited, counts.withdrawn, counts.feesCollected, counts.created, counts.resolved]
  rfl

theorem Counts.escrowed_eq {pool : Pool} {tally : Tally} (counts : pool.Counts tally) :
    pool.escrowed = .ok (.int tally.escrowed) := by
  rw [escrowed, counts.deposited, counts.withdrawn, Value.sub_int, Tally.escrowed]

theorem Counts.inCustody_eq {pool : Pool} {tally : Tally} (counts : pool.Counts tally) :
    pool.inCustody = .ok (.int tally.inCustody) := by
  rw [inCustody, counts.escrowed_eq, counts.feesCollected]
  exact Value.add_int _ _

/-! ## Increments -/

private theorem toInt?_toValue (n : Whole) : n.toValue.toInt? = some n.toInt := by cases n <;> rfl

private theorem add_toValue (m : Int) (n : Whole) :
    (Value.int m).add n.toValue = .ok (.int (m + n.toInt)) := by
  cases n <;> simp [Whole.toValue, Value.add, Value.combine, Value.toInt?, Whole.toInt]

/-- A whole counter grows by what is not negative and stays in the range of amounts. -/
theorem increased_eq_ok_iff {counter : Counter} {current : Int} {amount : Whole} {total : Value} :
    increased counter (.int current) amount.toValue = .ok total ↔
      0 ≤ amount.toInt ∧ current + amount.toInt ≤ greatestAmount ∧
        total = .int (current + amount.toInt) := by
  simp only [increased, toInt?_toValue, add_toValue, refuse]
  by_cases negative : amount.toInt < 0
  · rw [if_pos negative]
    constructor
    · intro taken
      cases taken
    · omega
  · rw [if_neg negative]
    by_cases above : greatestAmount < current + amount.toInt
    · constructor
      · intro taken
        simp [above, Except.mapError, bind, Except.bind] at taken
      · omega
    · constructor
      · intro taken
        simp [above, Except.mapError, bind, Except.bind, pure, Except.pure] at taken
        exact ⟨by omega, by omega, taken.symm⟩
      · rintro ⟨-, -, rfl⟩
        simp [above, Except.mapError, bind, Except.bind, pure, Except.pure]

theorem increased_int_eq_ok_iff {counter : Counter} {current amount : Int} {total : Value} :
    increased counter (.int current) (.int amount) = .ok total ↔
      0 ≤ amount ∧ current + amount ≤ greatestAmount ∧ total = .int (current + amount) := by
  have whole := @increased_eq_ok_iff counter current (.number amount) total
  exact whole

/-! ## What passes a check is booked -/

private theorem checkDeposit_eq_ok_iff {pool : Pool} {amount : Value} :
    pool.checkDeposit amount = .ok () ↔
      ∃ deposited created, increased .deposited pool.deposited amount = .ok deposited ∧
        increased .created pool.created (.int 1) = .ok created := by
  simp only [checkDeposit, bind_eq_ok_iff, pure_eq_ok_iff, and_true, exists_and_left]

private theorem checkSettlement_eq_ok_iff {pool : Pool} {amount fee : Value} :
    pool.checkSettlement amount fee = .ok () ↔
      ∃ withdrawn fees resolved, pool.nextWithdrawn amount = .ok withdrawn ∧
        pool.nextFees fee withdrawn = .ok fees ∧
        increased .resolved pool.resolved (.int 1) = .ok resolved := by
  simp only [checkSettlement, bind_eq_ok_iff, pure_eq_ok_iff, and_true, exists_and_left]

/-- A deposit that passes its check is booked, whatever the counters are. -/
theorem bookDeposit_of_check {pool : Pool} {amount : Int}
    (checked : pool.checkDeposit (.int amount) = .ok ()) :
    ∃ deposited created, increased .deposited pool.deposited (.int amount) = .ok deposited ∧
      increased .created pool.created (.int 1) = .ok created ∧
      pool.bookDeposit amount = .ok { pool with deposited := deposited, created := created } := by
  obtain ⟨deposited, created, grown, counted⟩ := checkDeposit_eq_ok_iff.mp checked
  refine ⟨deposited, created, grown, counted, ?_⟩
  simp [bookDeposit, addDeposit, addCreated, grown, counted, bind, Except.bind, pure, Except.pure]

/-- The fees collected after a settlement: a fee of nothing leaves them alone. -/
def feesAfter (pool : Pool) (fee fees : Value) : Value :=
  if fee.same (.int 0) then pool.feesCollected else fees

/-- A settlement that passes its check is booked, whatever the counters are. -/
theorem bookSettlement_of_check {pool : Pool} {amount : Int} {fee : Whole}
    (checked : pool.checkSettlement (.int amount) fee.toValue = .ok ()) :
    ∃ withdrawn fees resolved, pool.nextWithdrawn (.int amount) = .ok withdrawn ∧
      pool.nextFees fee.toValue withdrawn = .ok fees ∧
      increased .resolved pool.resolved (.int 1) = .ok resolved ∧
      pool.bookSettlement amount fee =
        .ok { pool with
          withdrawn := withdrawn
          feesCollected := pool.feesAfter fee.toValue fees
          resolved := resolved } := by
  obtain ⟨withdrawn, fees, resolved, released, kept, counted⟩ :=
    checkSettlement_eq_ok_iff.mp checked
  refine ⟨withdrawn, fees, resolved, released, kept, counted, ?_⟩
  have kept' : nextFees { pool with withdrawn := withdrawn } fee.toValue withdrawn = .ok fees :=
    kept
  cases free : fee.toValue.same (.int 0) <;>
    simp [bookSettlement, addWithdrawal, addFee, addResolved, feesAfter, released, kept', counted,
      free, bind, Except.bind, pure, Except.pure]

/-- Booking a deposit writes two counters and nothing else. -/
theorem bookDeposit_eq_ok {pool booked : Pool} {amount : Int}
    (booking : pool.bookDeposit amount = .ok booked) :
    ∃ deposited created,
      booked = { pool with deposited := deposited, created := created } := by
  simp only [bookDeposit, addDeposit, addCreated, bind_eq_ok_iff, pure_eq_ok_iff] at booking
  obtain ⟨_, ⟨deposited, -, rfl⟩, created, -, rfl⟩ := booking
  exact ⟨deposited, created, rfl⟩

/-- Booking a settlement writes three counters and nothing else. -/
theorem bookSettlement_eq_ok {pool booked : Pool} {amount : Int} {fee : Whole}
    (booking : pool.bookSettlement amount fee = .ok booked) :
    ∃ withdrawn fees resolved,
      booked =
        { pool with withdrawn := withdrawn, feesCollected := fees, resolved := resolved } := by
  simp only [bookSettlement, addWithdrawal, addFee, addResolved, bind_eq_ok_iff,
    pure_eq_ok_iff] at booking
  obtain ⟨_, ⟨withdrawn, -, rfl⟩, _, kept, resolved, -, rfl⟩ := booking
  split at kept
  · cases kept
    exact ⟨withdrawn, pool.feesCollected, resolved, rfl⟩
  · obtain ⟨fees, -, kept⟩ := bind_eq_ok_iff.mp kept
    obtain rfl := pure_eq_ok_iff.mp kept
    exact ⟨withdrawn, fees, resolved, rfl⟩

/-! ## Checks on a tally -/

/-- A deposit passes exactly if both counters stay in the range of amounts. -/
theorem Counts.checkDeposit_iff {pool : Pool} {tally : Tally} (counts : pool.Counts tally)
    {amount : Int} :
    pool.checkDeposit (.int amount) = .ok () ↔
      0 ≤ amount ∧ tally.deposited + amount ≤ greatestAmount ∧
        tally.created + 1 ≤ greatestAmount := by
  rw [checkDeposit_eq_ok_iff, counts.deposited, counts.created]
  simp [increased_int_eq_ok_iff, and_assoc]

theorem Counts.nextWithdrawn_eq_ok_iff {pool : Pool} {tally : Tally} (counts : pool.Counts tally)
    (amount : Whole) {total : Value} :
    pool.nextWithdrawn amount.toValue = .ok total ↔
      0 ≤ amount.toInt ∧ tally.withdrawn + amount.toInt ≤ greatestAmount ∧
        tally.withdrawn + amount.toInt ≤ tally.deposited ∧
        total = .int (tally.withdrawn + amount.toInt) := by
  simp only [nextWithdrawn, counts.withdrawn, counts.deposited, bind_eq_ok_iff,
    increased_eq_ok_iff]
  by_cases above : tally.deposited < tally.withdrawn + amount.toInt
  · constructor
    · rintro ⟨_, ⟨_, _, rfl⟩, taken⟩
      simp [above, Except.mapError, refuse] at taken
    · omega
  · constructor
    · rintro ⟨_, ⟨positive, bounded, rfl⟩, taken⟩
      simp [above, Except.mapError, pure, Except.pure] at taken
      exact ⟨positive, bounded, by omega, taken.symm⟩
    · rintro ⟨positive, bounded, _, rfl⟩
      exact ⟨_, ⟨positive, bounded, rfl⟩, by simp [above, Except.mapError, pure, Except.pure]⟩

theorem Counts.nextFees_eq_ok_iff {pool : Pool} {tally : Tally} (counts : pool.Counts tally)
    {withdrawn : Int} {fee : Whole} {total : Value} :
    pool.nextFees fee.toValue (.int withdrawn) = .ok total ↔
      0 ≤ fee.toInt ∧ tally.feesCollected + fee.toInt ≤ greatestAmount ∧
        tally.feesCollected + fee.toInt ≤ withdrawn ∧
        total = .int (tally.feesCollected + fee.toInt) := by
  simp only [nextFees, counts.feesCollected, bind_eq_ok_iff, increased_eq_ok_iff]
  by_cases above : withdrawn < tally.feesCollected + fee.toInt
  · constructor
    · rintro ⟨_, ⟨_, _, rfl⟩, taken⟩
      simp [above, Except.mapError, refuse] at taken
    · omega
  · constructor
    · rintro ⟨_, ⟨positive, bounded, rfl⟩, taken⟩
      simp [above, Except.mapError, pure, Except.pure] at taken
      exact ⟨positive, bounded, by omega, taken.symm⟩
    · rintro ⟨positive, bounded, _, rfl⟩
      exact ⟨_, ⟨positive, bounded, rfl⟩, by simp [above, Except.mapError, pure, Except.pure]⟩

/-- A settlement passes exactly if the deposits cover what is released, what is released covers the
fees, and no counter leaves the range of amounts. -/
theorem Counts.checkSettlement_iff {pool : Pool} {tally : Tally} (counts : pool.Counts tally)
    {amount : Int} {fee : Whole} :
    pool.checkSettlement (.int amount) fee.toValue = .ok () ↔
      0 ≤ amount ∧ 0 ≤ fee.toInt ∧ tally.withdrawn + amount ≤ tally.deposited ∧
        tally.feesCollected + fee.toInt ≤ tally.withdrawn + amount ∧
        tally.withdrawn + amount ≤ greatestAmount ∧
        tally.feesCollected + fee.toInt ≤ greatestAmount ∧
        tally.resolved + 1 ≤ greatestAmount := by
  rw [checkSettlement_eq_ok_iff, counts.resolved]
  constructor
  · rintro ⟨withdrawn, fees, resolved, released, kept, counted⟩
    obtain ⟨positive, bounded, covered, rfl⟩ :=
      (counts.nextWithdrawn_eq_ok_iff (.number amount)).mp released
    obtain ⟨feePositive, feeBounded, feeCovered, -⟩ := counts.nextFees_eq_ok_iff.mp kept
    obtain ⟨-, countBounded, -⟩ := increased_int_eq_ok_iff.mp counted
    exact ⟨positive, feePositive, covered, feeCovered, bounded, feeBounded, countBounded⟩
  · rintro ⟨positive, feePositive, covered, feeCovered, bounded, feeBounded, countBounded⟩
    exact ⟨_, _, _,
      (counts.nextWithdrawn_eq_ok_iff (.number amount)).mpr ⟨positive, bounded, covered, rfl⟩,
      counts.nextFees_eq_ok_iff.mpr ⟨feePositive, feeBounded, feeCovered, rfl⟩,
      increased_int_eq_ok_iff.mpr ⟨by omega, countBounded, rfl⟩⟩

theorem same_zero_iff (n : Whole) : n.toValue.same (.int 0) = true ↔ n.toInt = 0 := by
  cases n with
  | number n => simp [Whole.toValue]
  | truth b => cases b <;> simp [Whole.toValue, Whole.toInt, Value.same, Value.number?]

private theorem Counts.feesAfter_eq {pool : Pool} {tally : Tally} (counts : pool.Counts tally)
    (fee : Whole) :
    pool.feesAfter fee.toValue (.int (tally.feesCollected + fee.toInt)) =
      .int (tally.feesCollected + fee.toInt) := by
  unfold feesAfter
  split
  · rename_i free
    rw [(same_zero_iff fee).mp free, Int.add_zero]
    exact counts.feesCollected
  · rfl

/-! ## Bookings on a tally -/

theorem Counts.deposit {pool booked : Pool} {tally : Tally} (counts : pool.Counts tally)
    {amount : Int} (checked : pool.checkDeposit (.int amount) = .ok ())
    (booking : pool.bookDeposit amount = .ok booked) : booked.Counts (tally.deposit amount) := by
  obtain ⟨deposited, created, grown, counted, booking'⟩ := bookDeposit_of_check checked
  rw [booking] at booking'
  obtain rfl := Except.ok.inj booking'
  rw [counts.deposited] at grown
  rw [counts.created] at counted
  obtain ⟨-, -, rfl⟩ := increased_int_eq_ok_iff.mp grown
  obtain ⟨-, -, rfl⟩ := increased_int_eq_ok_iff.mp counted
  exact ⟨rfl, counts.withdrawn, counts.feesCollected, rfl, counts.resolved⟩

theorem Counts.settle {pool booked : Pool} {tally : Tally} (counts : pool.Counts tally)
    {amount : Int} {fee : Whole} (checked : pool.checkSettlement (.int amount) fee.toValue = .ok ())
    (booking : pool.bookSettlement amount fee = .ok booked) :
    booked.Counts (tally.settle amount fee.toInt) := by
  obtain ⟨withdrawn, fees, resolved, released, kept, counted, booking'⟩ :=
    bookSettlement_of_check checked
  rw [booking] at booking'
  obtain rfl := Except.ok.inj booking'
  obtain ⟨-, -, -, rfl⟩ := (counts.nextWithdrawn_eq_ok_iff (.number amount)).mp released
  obtain ⟨-, -, -, rfl⟩ := counts.nextFees_eq_ok_iff.mp kept
  rw [counts.resolved] at counted
  obtain ⟨-, -, rfl⟩ := increased_int_eq_ok_iff.mp counted
  exact ⟨counts.deposited, rfl, counts.feesAfter_eq fee, counts.created, rfl⟩

/-- The pool with these numbers as its counters. -/
def withTally (pool : Pool) (tally : Tally) : Pool :=
  { pool with
    deposited := .int tally.deposited
    withdrawn := .int tally.withdrawn
    feesCollected := .int tally.feesCollected
    created := .int tally.created
    resolved := .int tally.resolved }

theorem Counts.withTally_eq {pool : Pool} {tally : Tally} (counts : pool.Counts tally) :
    pool.withTally tally = pool := by
  unfold withTally
  rw [← counts.deposited, ← counts.withdrawn, ← counts.feesCollected, ← counts.created,
    ← counts.resolved]

theorem counts_withTally (pool : Pool) (tally : Tally) : (pool.withTally tally).Counts tally :=
  ⟨rfl, rfl, rfl, rfl, rfl⟩

/-- What a settlement makes of a pool can be read off the tally. -/
theorem eq_withTally_of_settlement {pool booked : Pool} {tally : Tally} {amount : Int} {fee : Whole}
    (checked : (pool.withTally tally).checkSettlement (.int amount) fee.toValue = .ok ())
    (booking : (pool.withTally tally).bookSettlement amount fee = .ok booked) :
    booked = pool.withTally (tally.settle amount fee.toInt) := by
  have counts := (pool.counts_withTally tally).settle checked booking
  rw [← counts.withTally_eq]
  obtain ⟨withdrawn, fees, resolved, rfl⟩ := bookSettlement_eq_ok booking
  rfl

end Pool
end Escrow
