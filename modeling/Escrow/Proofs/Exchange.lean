import Escrow.Ledger.Basic
import Escrow.Proofs.Value

/-!
# Moves of funds on an exchange

A move into the custody account claims a deposit that no move has claimed before, a move out of it
executes one withdrawal, and a move of nothing does neither.  After a withdrawal only the answer of
the exchange is read, so a move that fails has done nothing as long as this answer is a record.
-/

namespace Escrow

/-- The answer of the exchange to a withdrawal is a record. -/
def Exchange.AnswersRecords (exchange : Exchange) : Prop :=
  ∃ entries, exchange.withdrawalAnswer = .mapping entries

theorem Exchange.AnswersRecords.update {exchange : Exchange} (records : exchange.AnswersRecords)
    {changes : List (Value × Value)}
    (change : ∀ answer, Value.find? (.text "withdraw_result") changes = some answer →
      ∃ entries, answer = .mapping entries) : (exchange.update changes).AnswersRecords := by
  change ∃ entries, (Value.find? (.text "withdraw_result") changes).getD exchange.withdrawalAnswer =
    .mapping entries
  cases stated : Value.find? (.text "withdraw_result") changes with
  | none => exact records
  | some answer => exact change answer stated

private theorem Exchange.withdraw_eq_ok {exchange after : Exchange} {withdrawal : Withdrawal}
    {answer : Value} (done : exchange.withdraw withdrawal = .ok (after, answer)) :
    after = { exchange with withdrawals := exchange.withdrawals ++ [withdrawal] } ∧
      answer = exchange.withdrawalAnswer := by
  unfold withdraw at done
  split at done
  · cases done
  · cases done
    exact ⟨rfl, rfl⟩

namespace Custody

/-- Every address that withdrawals may go to is a text. -/
def HasTextAddresses (custody : Custody) : Prop :=
  ∀ identity address, lookUp custody.addresses identity = .ok address → address.isTruthy →
    ∃ text, address = .text text

/-- The withdrawal is the one by which the amount of the asset is paid out to the target. -/
structure Orders (custody : Custody) (target amount asset : Value) (withdrawal : Withdrawal) :
    Prop where
  code : withdrawal.code = asset
  amount : custody.exchangeAmount amount asset = .ok withdrawal.amount
  address : lookUp custody.addresses target = .ok withdrawal.address
  tag : lookUp custody.tags target = .ok withdrawal.tag
  params : withdrawal.params = custody.parameters withdrawal.tag

/-- The custody after one more claim. -/
def withClaim (custody : Custody) (key : Value) : Custody :=
  { custody with claimed := custody.claimed ++ [key] }

/-- The custody after one more withdrawal. -/
def withWithdrawal (custody : Custody) (withdrawal : Withdrawal) : Custody :=
  { custody with
    exchange :=
      { custody.exchange with withdrawals := custody.exchange.withdrawals ++ [withdrawal] } }

/-- How a move that ends well leaves the custody, and the reference that it gives. -/
inductive Moved (custody : Custody) (source target amount asset : Value) :
    Custody → Value → Prop where
  | nothing (involved : target.same custody.account ∨ source.same custody.account)
      (zero : amount.same (.int 0)) : Moved custody source target amount asset custody .null
  | claim {key : Value} (into : target.same custody.account) (nonzero : ¬amount.same (.int 0))
      (unclaimed : custody.isClaimed key = false) :
      Moved custody source target amount asset (custody.withClaim key) key
  | withdrawal {withdrawal : Withdrawal} {reference : Value} (out : source.same custody.account)
      (elsewhere : ¬target.same custody.account) (nonzero : ¬amount.same (.int 0))
      (orders : custody.Orders target amount asset withdrawal) :
      Moved custody source target amount asset (custody.withWithdrawal withdrawal) reference

variable {custody after : Custody} {source target amount asset : Value}

/-! ## Claims -/

theorem findDeposit_cons (entries : List (Value × Value)) (rest : List Value) (sender : Value)
    (expected : Decimal) :
    custody.findDeposit sender expected (.mapping entries :: rest) =
      if !(claimKey entries).isTruthy then custody.findDeposit sender expected rest
      else if !(claimKey entries).isKey then .error (.fault .wrongKind)
      else if custody.isClaimed (claimKey entries) then custody.findDeposit sender expected rest
      else (custody.backs entries sender expected).bind fun backed =>
        if backed then .ok (some (claimKey entries))
        else custody.findDeposit sender expected rest := by
  rw [findDeposit]
  generalize custody.findDeposit sender expected rest = others
  cases (claimKey entries).isTruthy <;> cases (claimKey entries).isKey <;>
    cases custody.isClaimed (claimKey entries) <;> cases others <;>
      simp [bind, Except.bind, pure, Except.pure, throw, throwThe, MonadExceptOf.throw]

private theorem isClaimed_of_findDeposit {sender key : Value} {expected : Decimal}
    {deposits : List Value}
    (found : custody.findDeposit sender expected deposits = .ok (some key)) :
    custody.isClaimed key = false := by
  induction deposits with
  | nil => cases found
  | cons deposit rest ih =>
      cases deposit with
      | mapping entries =>
          rw [findDeposit_cons] at found
          split at found
          · exact ih found
          · split at found
            · cases found
            · split at found
              · exact ih found
              · rename_i unclaimed
                obtain ⟨backed, -, found⟩ := bind_eq_ok_iff.mp found
                split at found
                · cases found
                  simpa using unclaimed
                · exact ih found
      | _ => cases found

theorem claim_eq_ok {sender key : Value}
    (claimed : custody.claim sender amount asset = .ok (after, key)) :
    after = custody.withClaim key ∧ custody.isClaimed key = false := by
  unfold claim at claimed
  obtain ⟨able, -, claimed⟩ := bind_eq_ok_iff.mp claimed
  dsimp only at claimed
  split at claimed
  · exact absurd claimed (throw_bind_ne_ok _ _ _)
  · obtain ⟨shown, -, claimed⟩ := bind_eq_ok_iff.mp claimed
    split at claimed
    · cases claimed
    · cases claimed
    · obtain ⟨found, search, claimed⟩ := bind_eq_ok_iff.mp claimed
      cases found with
      | none => cases claimed
      | some other =>
          obtain ⟨rfl, rfl⟩ := Prod.mk.inj (pure_eq_ok_iff.mp claimed)
          exact ⟨rfl, isClaimed_of_findDeposit search⟩

/-! ## Moves -/

/-- How a move may end. -/
inductive Ended (custody : Custody) (source target amount asset : Value) :
    Custody × Answer Value → Prop where
  | refused (problem : Problem) : Ended custody source target amount asset (custody, .error problem)
  | nothing (involved : target.same custody.account ∨ source.same custody.account)
      (zero : amount.same (.int 0)) : Ended custody source target amount asset (custody, .ok .null)
  | claim {key : Value} (into : target.same custody.account) (nonzero : ¬amount.same (.int 0))
      (unclaimed : custody.isClaimed key = false) :
      Ended custody source target amount asset (custody.withClaim key, .ok key)
  | withdrawal {withdrawal : Withdrawal} {answer : Answer Value}
      (out : source.same custody.account) (elsewhere : ¬target.same custody.account)
      (nonzero : ¬amount.same (.int 0)) (orders : custody.Orders target amount asset withdrawal)
      (addressed : withdrawal.address.isTruthy)
      (read : referenceOf custody.exchange.withdrawalAnswer withdrawal.address = answer) :
      Ended custody source target amount asset (custody.withWithdrawal withdrawal, answer)

private theorem move_ended (custody : Custody) (source target amount asset : Value) :
    custody.Ended source target amount asset (custody.move source target amount asset) := by
  unfold move
  dsimp only
  split
  · rename_i into
    split
    · rename_i zero
      exact .nothing (.inl into) zero
    · rename_i nonzero
      split
      · rename_i claimed
        obtain ⟨rfl, unclaimed⟩ := claim_eq_ok claimed
        exact .claim into nonzero unclaimed
      · exact .refused _
  · rename_i elsewhere
    split
    · exact .refused _
    · rename_i out
      have out : source.same custody.account := by simpa using out
      split
      · exact .refused _
      · rename_i address found
        split
        · exact .refused _
        · rename_i addressed
          have addressed : address.isTruthy := by simpa using addressed
          split
          · rename_i zero
            exact .nothing (.inr out) zero
          · rename_i nonzero
            split
            · exact .refused _
            · rename_i tag tagged
              split
              · exact .refused _
              · rename_i shown converted
                split
                · exact .refused _
                · -- The withdrawal is executed before its answer and its address are read.
                  rename_i exchange answer executed
                  obtain ⟨rfl, rfl⟩ := Exchange.withdraw_eq_ok executed
                  exact .withdrawal out elsewhere nonzero ⟨rfl, converted, found, tagged, rfl⟩
                    addressed rfl

private theorem move_eq_ok {reference : Value}
    (done : custody.move source target amount asset = (after, .ok reference)) :
    custody.Moved source target amount asset after reference := by
  have ended := custody.move_ended source target amount asset
  rw [done] at ended
  cases ended with
  | nothing involved zero => exact .nothing involved zero
  | claim into nonzero unclaimed => exact .claim into nonzero unclaimed
  | withdrawal out elsewhere nonzero orders => exact .withdrawal out elsewhere nonzero orders

private theorem referenceOf_mapping (entries : List (Value × Value)) (text : String) :
    ∃ reference, referenceOf (.mapping entries) (.text text) = .ok reference := ⟨_, rfl⟩

/-- A move that fails leaves custody as it was, as long as the exchange answers withdrawals with
records and sends them to addresses that are texts. -/
theorem move_eq_error {problem : Problem} (records : custody.exchange.AnswersRecords)
    (addresses : custody.HasTextAddresses)
    (failed : custody.move source target amount asset = (after, .error problem)) :
    after = custody := by
  have ended := custody.move_ended source target amount asset
  rw [failed] at ended
  cases ended with
  | refused => rfl
  | withdrawal out elsewhere nonzero orders addressed read =>
      obtain ⟨text, address_eq⟩ := addresses _ _ orders.address addressed
      obtain ⟨entries, answered⟩ := records
      obtain ⟨reference, read_eq⟩ := referenceOf_mapping entries text
      rw [answered, address_eq, read_eq] at read
      cases read

end Custody

namespace Ledger

/-- The withdrawals that the exchange of the ledger has executed, oldest first. -/
def withdrawals (ledger : Ledger) : List Withdrawal :=
  match ledger.backing with
  | .books _ => []
  | .custody custody => custody.exchange.withdrawals

/-- The deposits that moves into custody have claimed, oldest first. -/
def claimed (ledger : Ledger) : List Value :=
  match ledger.backing with
  | .books _ => []
  | .custody custody => custody.claimed

variable {custody : Custody} {after : Ledger} {move : Move} {now : Except Fault Instant}

theorem move_ofCustody_eq_ok {reference : Value}
    (done : (ofCustody custody).move move now = (after, .ok reference)) :
    ∃ next, after = .ofCustody next ∧
      custody.Moved move.source move.target move.amount move.asset next reference := by
  obtain ⟨rfl, paid⟩ := Prod.mk.inj done
  exact ⟨_, rfl, Custody.move_eq_ok (Prod.ext rfl paid)⟩

theorem move_ofCustody_eq_error {problem : Problem} (records : custody.exchange.AnswersRecords)
    (addresses : custody.HasTextAddresses)
    (failed : (ofCustody custody).move move now = (after, .error problem)) :
    after = .ofCustody custody := by
  obtain ⟨rfl, unpaid⟩ := Prod.mk.inj failed
  exact congrArg ofCustody (Custody.move_eq_error records addresses (Prod.ext rfl unpaid))

end Ledger
end Escrow
