import Escrow.Proofs.Pool

/-!
# Calls on a pool

The calls that write a pool, and the checks that come before them, as data.  Each writer guards one
inequality between two counters and knows nothing of the others; together they keep the counters in
order, whatever is called and with whatever data.  A check answers what the writers after it will
answer, although it runs on a pool that none of them has written yet.
-/

namespace Escrow

/-- A call on a pool.  Amounts are any data. -/
inductive PoolCall where
  | deposit (amount : Value)
  | withdraw (amount : Value)
  | keepFee (amount : Value)
  | countCreated
  | countResolved
  | setSchedule (schedule : Schedule)
  | checkDeposit (amount : Value)
  | checkSettlement (amount fee : Value)
  deriving DecidableEq

/-- What a call may write: one counter, or the schedule, or nothing if it is a check. -/
def PoolCall.Writes : PoolCall → Pool → Pool → Prop
  | .deposit _, before, after => ∃ total, after = { before with deposited := total }
  | .withdraw _, before, after => ∃ total, after = { before with withdrawn := total }
  | .keepFee _, before, after => ∃ total, after = { before with feesCollected := total }
  | .countCreated, before, after => ∃ total, after = { before with created := total }
  | .countResolved, before, after => ∃ total, after = { before with resolved := total }
  | .setSchedule _, before, after => ∃ schedule, after = { before with schedule := schedule }
  | .checkDeposit _, before, after => after = before
  | .checkSettlement _ _, before, after => after = before

namespace Pool

/-- The pool after a call, unless the call is refused. -/
def attempt (pool : Pool) : PoolCall → Answer Pool
  | .deposit amount => pool.addDeposit amount
  | .withdraw amount => pool.addWithdrawal amount
  | .keepFee amount => pool.addFee amount
  | .countCreated => pool.addCreated
  | .countResolved => pool.addResolved
  | .setSchedule schedule => .ok { pool with schedule := schedule }
  | .checkDeposit amount => (pool.checkDeposit amount).map fun _ => pool
  | .checkSettlement amount fee => (pool.checkSettlement amount fee).map fun _ => pool

/-- Serve a call.  A refused call leaves the pool as it is. -/
def perform (pool : Pool) (call : PoolCall) : Pool × Answer Unit :=
  match pool.attempt call with
  | .ok next => (next, .ok ())
  | .error problem => (pool, .error problem)

/-- Serve calls one after another, up to the first that is refused. -/
def script (pool : Pool) : List PoolCall → Pool × Answer Unit
  | [] => (pool, .ok ())
  | call :: rest =>
    match pool.perform call with
    | (next, .ok ()) => next.script rest
    | (next, .error problem) => (next, .error problem)

/-- Serve calls one after another, whether or not the ones before were refused. -/
def run (pool : Pool) (calls : List PoolCall) : Pool :=
  calls.foldl (fun pool call => (pool.perform call).1) pool

private theorem perform_of_ok {pool next : Pool} {call : PoolCall}
    (served : pool.attempt call = .ok next) :
    pool.perform call = (next, .ok ()) := by
  rw [perform, served]

private theorem perform_of_error {pool : Pool} {call : PoolCall} {problem : Problem}
    (refused : pool.attempt call = .error problem) :
    pool.perform call = (pool, .error problem) := by
  rw [perform, refused]

/-- A check gives back the pool it runs on. -/
theorem perform_of_check {pool : Pool} {call : PoolCall} {result : Answer Unit}
    (checks : pool.attempt call = result.map fun _ => pool) :
    pool.perform call = (pool, result) := by
  cases result with
  | error problem => exact perform_of_error checks
  | ok _ => exact perform_of_ok checks

/-- A script answers like its calls one after another. -/
theorem script_cons (pool : Pool) (call : PoolCall) (rest : List PoolCall) :
    (pool.script (call :: rest)).2 = pool.attempt call >>= fun next => (next.script rest).2 := by
  rw [script]
  cases served : pool.attempt call with
  | error problem =>
      rw [perform_of_error served]
      rfl
  | ok next =>
      rw [perform_of_ok served]
      rfl

private theorem run_concat (pool : Pool) (calls : List PoolCall) (call : PoolCall) :
    pool.run (calls ++ [call]) = ((pool.run calls).perform call).1 := by
  simp [run, List.foldl_append]

end Pool

/-! ## Counters in order -/

/-- The collected fees are within what was withdrawn, that is within what was deposited, and every
number is in the range of amounts. -/
structure Tally.IsSound (tally : Tally) : Prop where
  feesCollected : 0 ≤ tally.feesCollected
  kept : tally.feesCollected ≤ tally.withdrawn
  released : tally.withdrawn ≤ tally.deposited
  deposited : tally.deposited ≤ greatestAmount
  created : IsAmount tally.created
  resolved : IsAmount tally.resolved

/-- No counter of the first tally is above that of the second. -/
structure Tally.AtMost (before after : Tally) : Prop where
  deposited : before.deposited ≤ after.deposited
  withdrawn : before.withdrawn ≤ after.withdrawn
  feesCollected : before.feesCollected ≤ after.feesCollected
  created : before.created ≤ after.created
  resolved : before.resolved ≤ after.resolved

namespace Tally

private theorem isSound_zero : IsSound {} := by
  constructor <;> decide

theorem AtMost.refl (tally : Tally) : tally.AtMost tally :=
  ⟨le_rfl, le_rfl, le_rfl, le_rfl, le_rfl⟩

/-- The two balances of a sound tally are in order, and within the deposits. -/
theorem IsSound.balances {tally : Tally} (sound : tally.IsSound) :
    0 ≤ tally.escrowed ∧ tally.escrowed ≤ tally.inCustody ∧
      tally.inCustody ≤ tally.deposited := by
  obtain ⟨feesCollected, kept, released, -, -, -⟩ := sound
  unfold inCustody escrowed
  omega

end Tally

/-! ## The checks -/

namespace Pool

variable {pool : Pool} {tally : Tally}

/-- The writer skips a fee of nothing.  The check does not, but passes it: the fees that were within
the withdrawals stay within them. -/
theorem nextFees_of_free (counts : pool.Counts tally) (sound : tally.IsSound) {fee : Whole}
    (free : fee.toValue.same (.int 0) = true) {withdrawn : Int}
    (grown : tally.withdrawn ≤ withdrawn) :
    pool.nextFees fee.toValue (.int withdrawn) = .ok (.int tally.feesCollected) := by
  have nothing : fee.toInt = 0 := (same_zero_iff fee).mp free
  obtain ⟨feesCollected, kept, released, deposited, -, -⟩ := sound
  refine counts.nextFees_eq_ok_iff.mpr ⟨by omega, by omega, by omega, ?_⟩
  rw [nothing, Int.add_zero]

/-- What the deposit check answers is what depositing and counting will. -/
theorem checkDeposit_eq_script (pool : Pool) (amount : Value) :
    pool.checkDeposit amount = (pool.script [.deposit amount, .countCreated]).2 := by
  simp only [script_cons, attempt, addDeposit, addCreated, checkDeposit]
  cases increased .deposited pool.deposited amount with
  | error problem => rfl
  | ok total =>
      simp only [bind, Except.bind, pure, Except.pure]
      cases increased .created pool.created (.int 1) <;> simp [script]

/-- What the settlement check answers is what withdrawing, keeping the fee and counting will. -/
theorem checkSettlement_eq_script (counts : pool.Counts tally) (sound : tally.IsSound)
    (amount fee : Whole) :
    pool.checkSettlement amount.toValue fee.toValue =
      (pool.script [.withdraw amount.toValue, .keepFee fee.toValue, .countResolved]).2 := by
  simp only [script_cons, attempt, addWithdrawal, addFee, addResolved, checkSettlement]
  cases withdrawal : pool.nextWithdrawn amount.toValue with
  | error problem => rfl
  | ok total =>
      obtain ⟨positive, -, -, rfl⟩ := (counts.nextWithdrawn_eq_ok_iff amount).mp withdrawal
      simp only [bind, Except.bind, pure, Except.pure]
      by_cases free : fee.toValue.same (.int 0) = true
      · rw [nextFees_of_free counts sound free (by omega), if_pos free]
        cases counted : increased .resolved pool.resolved (.int 1) <;> simp [counted, script]
      · rw [if_neg free]
        -- the fees of a pool are read off their own counter, which a withdrawal does not write
        have apart : nextFees { pool with withdrawn := .int (tally.withdrawn + amount.toInt) }
            fee.toValue (.int (tally.withdrawn + amount.toInt)) =
              pool.nextFees fee.toValue (.int (tally.withdrawn + amount.toInt)) := rfl
        rw [apart]
        cases pool.nextFees fee.toValue (.int (tally.withdrawn + amount.toInt)) with
        | error problem => rfl
        | ok fees =>
            cases counted : increased .resolved pool.resolved (.int 1) <;> simp [counted, script]

/-- A check before a settlement or a deposit answers what the writers after it will answer, with the
same words if they refuse, and leaves the pool as it is. -/
theorem perform_check_eq_script (counts : pool.Counts tally) (sound : tally.IsSound)
    (amount fee : Whole) :
    pool.perform (.checkSettlement amount.toValue fee.toValue) =
        (pool, (pool.script
          [.withdraw amount.toValue, .keepFee fee.toValue, .countResolved]).2) ∧
      pool.perform (.checkDeposit amount.toValue) =
        (pool, (pool.script [.deposit amount.toValue, .countCreated]).2) := by
  constructor
  · rw [perform_of_check rfl, checkSettlement_eq_script counts sound]
  · rw [perform_of_check rfl, checkDeposit_eq_script]

/-- A settlement whose fee is above what was released is foretold. -/
theorem perform_check_eq_script_sample :
    let tally : Tally :=
      { deposited := 10, withdrawn := 4, feesCollected := 1, created := 2, resolved := 1 }
    let pool := (Pool.make (.text "pool") (.text "operator") (.text "EUR") .null .null (.int 2)
      {}).withTally tally
    pool.perform (.checkSettlement (.int 6) (.int 10)) =
        (pool, (pool.script [.withdraw (.int 6), .keepFee (.int 10), .countResolved]).2) ∧
      pool.perform (.checkDeposit (.int 6)) =
        (pool, (pool.script [.deposit (.int 6), .countCreated]).2) :=
  perform_check_eq_script (counts_withTally _ _)
    { feesCollected := by decide
      kept := by decide
      released := by decide
      deposited := by decide
      created := by decide
      resolved := by decide } (.number 6) (.number 10)

/-! ## The writers -/

/-- Only whole numbers are counted. -/
theorem exists_whole_of_increased {counter : Counter} {current amount total : Value}
    (grown : increased counter current amount = .ok total) :
    ∃ whole : Whole, amount = whole.toValue := by
  cases amount with
  | int n => exact ⟨.number n, rfl⟩
  | bool b => exact ⟨.truth b, rfl⟩
  | _ => simp [increased, Value.toInt?, refuse] at grown

private theorem addDeposit_eq_ok {booked : Pool} {amount : Value} (counts : pool.Counts tally)
    (booking : pool.addDeposit amount = .ok booked) :
    ∃ n, 0 ≤ n ∧ tally.deposited + n ≤ greatestAmount ∧
      booked = { pool with deposited := .int (tally.deposited + n) } := by
  obtain ⟨total, grown, booking⟩ := bind_eq_ok_iff.mp booking
  obtain rfl := pure_eq_ok_iff.mp booking
  obtain ⟨whole, rfl⟩ := exists_whole_of_increased grown
  rw [counts.deposited] at grown
  obtain ⟨positive, bounded, rfl⟩ := increased_eq_ok_iff.mp grown
  exact ⟨whole.toInt, positive, bounded, rfl⟩

private theorem addWithdrawal_eq_ok {booked : Pool} {amount : Value} (counts : pool.Counts tally)
    (booking : pool.addWithdrawal amount = .ok booked) :
    ∃ n, 0 ≤ n ∧ tally.withdrawn + n ≤ tally.deposited ∧
      booked = { pool with withdrawn := .int (tally.withdrawn + n) } := by
  obtain ⟨total, released, booking⟩ := bind_eq_ok_iff.mp booking
  obtain rfl := pure_eq_ok_iff.mp booking
  obtain ⟨_, grown, -⟩ := bind_eq_ok_iff.mp released
  obtain ⟨whole, rfl⟩ := exists_whole_of_increased grown
  obtain ⟨positive, -, covered, rfl⟩ := (counts.nextWithdrawn_eq_ok_iff whole).mp released
  exact ⟨whole.toInt, positive, covered, rfl⟩

/-- A fee of nothing, in whatever form, adds nothing. -/
theorem addFee_eq_ok {booked : Pool} {amount : Value} (counts : pool.Counts tally)
    (sound : tally.IsSound) (booking : pool.addFee amount = .ok booked) :
    ∃ n, 0 ≤ n ∧ tally.feesCollected + n ≤ tally.withdrawn ∧
      booked = { pool with feesCollected := .int (tally.feesCollected + n) } := by
  unfold addFee at booking
  split at booking
  · obtain rfl := Except.ok.inj booking
    refine ⟨0, le_rfl, by have kept := sound.kept; omega, ?_⟩
    rw [Int.add_zero, ← counts.feesCollected]
  · obtain ⟨total, kept, booking⟩ := bind_eq_ok_iff.mp booking
    obtain rfl := pure_eq_ok_iff.mp booking
    obtain ⟨_, grown, -⟩ := bind_eq_ok_iff.mp kept
    obtain ⟨whole, rfl⟩ := exists_whole_of_increased grown
    rw [counts.withdrawn] at kept
    obtain ⟨positive, -, covered, rfl⟩ := counts.nextFees_eq_ok_iff.mp kept
    exact ⟨whole.toInt, positive, covered, rfl⟩

private theorem addCreated_eq_ok {booked : Pool} (counts : pool.Counts tally)
    (booking : pool.addCreated = .ok booked) :
    tally.created + 1 ≤ greatestAmount ∧
      booked = { pool with created := .int (tally.created + 1) } := by
  obtain ⟨total, grown, booking⟩ := bind_eq_ok_iff.mp booking
  obtain rfl := pure_eq_ok_iff.mp booking
  rw [counts.created] at grown
  obtain ⟨-, bounded, rfl⟩ := increased_int_eq_ok_iff.mp grown
  exact ⟨bounded, rfl⟩

private theorem addResolved_eq_ok {booked : Pool} (counts : pool.Counts tally)
    (booking : pool.addResolved = .ok booked) :
    tally.resolved + 1 ≤ greatestAmount ∧
      booked = { pool with resolved := .int (tally.resolved + 1) } := by
  obtain ⟨total, grown, booking⟩ := bind_eq_ok_iff.mp booking
  obtain rfl := pure_eq_ok_iff.mp booking
  rw [counts.resolved] at grown
  obtain ⟨-, bounded, rfl⟩ := increased_int_eq_ok_iff.mp grown
  exact ⟨bounded, rfl⟩

/-! ## Every run of calls -/

/-- A call that is served writes nothing but its own part, and keeps sound counters sound. -/
theorem sound_of_attempt {next : Pool} {call : PoolCall} (counts : pool.Counts tally)
    (sound : tally.IsSound) (served : pool.attempt call = .ok next) :
    ∃ after : Tally, next.Counts after ∧ after.IsSound ∧ tally.AtMost after ∧
      call.Writes pool next := by
  have unchanged : tally.AtMost tally := Tally.AtMost.refl tally
  cases call with
  | deposit amount =>
      obtain ⟨n, positive, bounded, rfl⟩ := addDeposit_eq_ok counts served
      have covered : tally.withdrawn ≤ tally.deposited + n := by
        have released := sound.released
        omega
      refine ⟨{ tally with deposited := tally.deposited + n }, { counts with deposited := rfl },
        { sound with released := covered, deposited := bounded }, ?_, _, rfl⟩
      exact { unchanged with deposited := Int.le_add_of_nonneg_right positive }
  | withdraw amount =>
      obtain ⟨n, positive, covered, rfl⟩ := addWithdrawal_eq_ok counts served
      have kept : tally.feesCollected ≤ tally.withdrawn + n := by
        have kept := sound.kept
        omega
      refine ⟨{ tally with withdrawn := tally.withdrawn + n }, { counts with withdrawn := rfl },
        { sound with kept := kept, released := covered }, ?_, _, rfl⟩
      exact { unchanged with withdrawn := Int.le_add_of_nonneg_right positive }
  | keepFee amount =>
      obtain ⟨n, positive, covered, rfl⟩ := addFee_eq_ok counts sound served
      have collected : 0 ≤ tally.feesCollected + n := Int.add_nonneg sound.feesCollected positive
      refine ⟨{ tally with feesCollected := tally.feesCollected + n },
        { counts with feesCollected := rfl },
        { sound with feesCollected := collected, kept := covered }, ?_, _, rfl⟩
      exact { unchanged with feesCollected := Int.le_add_of_nonneg_right positive }
  | countCreated =>
      obtain ⟨bounded, rfl⟩ := addCreated_eq_ok counts served
      refine ⟨{ tally with created := tally.created + 1 }, { counts with created := rfl },
        { sound with created := ⟨Int.add_nonneg sound.created.1 (by decide), bounded⟩ }, ?_, _,
        rfl⟩
      exact { unchanged with created := Int.le_add_of_nonneg_right (by decide) }
  | countResolved =>
      obtain ⟨bounded, rfl⟩ := addResolved_eq_ok counts served
      refine ⟨{ tally with resolved := tally.resolved + 1 }, { counts with resolved := rfl },
        { sound with resolved := ⟨Int.add_nonneg sound.resolved.1 (by decide), bounded⟩ }, ?_, _,
        rfl⟩
      exact { unchanged with resolved := Int.le_add_of_nonneg_right (by decide) }
  | setSchedule schedule =>
      obtain rfl := Except.ok.inj served
      exact ⟨tally, { counts with }, sound, unchanged, schedule, rfl⟩
  | checkDeposit amount =>
      obtain ⟨-, -, rfl⟩ := map_eq_ok_iff.mp served
      exact ⟨tally, counts, sound, unchanged, rfl⟩
  | checkSettlement amount fee =>
      obtain ⟨-, -, rfl⟩ := map_eq_ok_iff.mp served
      exact ⟨tally, counts, sound, unchanged, rfl⟩

/-- Nothing is within what any call may write. -/
theorem writes_self (pool : Pool) (call : PoolCall) : call.Writes pool pool := by
  cases call with
  | checkDeposit amount => rfl
  | checkSettlement amount fee => rfl
  | _ => exact ⟨_, rfl⟩

/-- The same of any call, served or refused. -/
theorem sound_of_perform (counts : pool.Counts tally) (sound : tally.IsSound) (call : PoolCall) :
    ∃ after : Tally, (pool.perform call).1.Counts after ∧ after.IsSound ∧ tally.AtMost after ∧
      call.Writes pool (pool.perform call).1 := by
  cases served : pool.attempt call with
  | error problem =>
      rw [perform_of_error served]
      exact ⟨tally, counts, sound, Tally.AtMost.refl tally, pool.writes_self call⟩
  | ok next =>
      rw [perform_of_ok served]
      exact sound_of_attempt counts sound served

private theorem sound_of_run (counts : pool.Counts tally) (sound : tally.IsSound)
    (calls : List PoolCall) :
    ∃ after : Tally, (pool.run calls).Counts after ∧ after.IsSound := by
  induction calls generalizing pool tally with
  | nil => exact ⟨tally, counts, sound⟩
  | cons call rest ih =>
      obtain ⟨after, counts', sound', -, -⟩ := sound_of_perform counts sound call
      exact ih counts' sound'

/-- Whatever is called on an unused pool: its counters are sound and its balances are in order, and
whatever is called next lowers no counter, writes nothing but its own part, and writes nothing at
all if it is refused. -/
theorem sound_of_calls (unused : pool.IsUnused) (calls : List PoolCall) :
    ∃ tally : Tally, (pool.run calls).Counts tally ∧ tally.IsSound ∧
      (pool.run calls).escrowed = .ok (.int tally.escrowed) ∧
      (pool.run calls).inCustody = .ok (.int tally.inCustody) ∧
      0 ≤ tally.escrowed ∧ tally.escrowed ≤ tally.inCustody ∧
      tally.inCustody ≤ tally.deposited ∧
      ∀ call : PoolCall,
        (∃ next : Tally, (pool.run (calls ++ [call])).Counts next ∧ tally.AtMost next) ∧
        call.Writes (pool.run calls) (pool.run (calls ++ [call])) ∧
        ∀ problem, ((pool.run calls).perform call).2 = .error problem →
          pool.run (calls ++ [call]) = pool.run calls := by
  obtain ⟨tally, counts, sound⟩ := sound_of_run unused Tally.isSound_zero calls
  obtain ⟨positive, within, covered⟩ := sound.balances
  refine ⟨tally, counts, sound, counts.escrowed_eq, counts.inCustody_eq, positive, within, covered,
    fun call => ?_⟩
  rw [run_concat]
  obtain ⟨next, counts', -, grown, writes⟩ := sound_of_perform counts sound call
  refine ⟨⟨next, counts', grown⟩, writes, fun problem refused => ?_⟩
  cases served : (pool.run calls).attempt call with
  | error problem => rw [perform_of_error served]
  | ok next =>
      rw [perform_of_ok served] at refused
      cases refused

/-- A double is no amount, a truth value is, and a withdrawal above the deposits is refused. -/
theorem sound_of_calls_sample :
    let pool := Pool.make (.text "pool") (.text "operator") (.text "EUR") .null .null (.int 2) {}
    let calls : List PoolCall :=
      [.deposit (.int 18446744073709551614), .deposit (.bool true), .deposit (.int 1),
        .withdraw (.int (-1)), .withdraw (.int 18446744073709551615), .withdraw (.int 1),
        .keepFee (.double (Double.ofInt 1)), .keepFee (.double (Double.ofInt 0)), .countResolved]
    pool.IsUnused ∧ ∃ tally : Tally, (pool.run calls).Counts tally ∧ tally.IsSound := by
  intro pool calls
  have unused : pool.IsUnused := ⟨rfl, rfl, rfl, rfl, rfl⟩
  obtain ⟨tally, counts, sound, -⟩ := sound_of_calls unused calls
  exact ⟨unused, tally, counts, sound⟩

end Pool
end Escrow
