import Escrow.Proofs.Archive
import Escrow.Proofs.Engine.Custody

/-!
# Legible data

When ids and names come in as texts that can be encoded, and fees as numbers, all that an engine
writes down is legible: messages are checked to be, the ids that it draws and the references of its
books are, and every fee is a number.
-/

namespace Escrow

/-- The bounds of the policy are written as numbers. -/
structure Policy.IsNumeric (policy : Policy) : Prop where
  minimum : ∃ n, policy.minimum = .number n
  maximum : ∀ top, policy.maximum = some top → ∃ n, top = .number n

/-- Whatever the outcome, the fee is bounded by numbers. -/
def Schedule.IsNumeric (schedule : Schedule) : Prop :=
  ∀ outcome, (schedule.policy outcome).IsNumeric

/-- With bounds that are numbers the fee is a number. -/
theorem Policy.IsNumeric.fee_eq {policy : Policy} (numeric : policy.IsNumeric) (amount : Int) :
    ∃ n, policy.fee (.number amount) = .number n := by
  obtain ⟨⟨least, minimum⟩, maximum⟩ := numeric
  have max_number (a b : Int) : ∃ n, (Whole.number a).max (.number b) = .number n := by
    unfold Whole.max
    split <;> exact ⟨_, rfl⟩
  have min_number (a b : Int) : ∃ n, (Whole.number a).min (.number b) = .number n := by
    unfold Whole.min
    split <;> exact ⟨_, rfl⟩
  unfold Policy.fee
  obtain ⟨raised, raised_eq⟩ := max_number (amount * policy.rate.toInt / basisPoints) least
  rw [minimum, Whole.toInt_number]
  cases top : policy.maximum with
  | none =>
      dsimp only
      rw [raised_eq]
      exact min_number raised amount
  | some most =>
      obtain ⟨greatest, rfl⟩ := maximum most top
      obtain ⟨capped, capped_eq⟩ := min_number raised greatest
      dsimp only
      rw [raised_eq, capped_eq]
      exact min_number capped amount

/-- What the call names are texts that can be encoded, and its fees are bounded by numbers. -/
structure Call.IsLegible (call : Call) : Prop where
  transfers : ∀ request, call = .create request → request.sender.IsLegible ∧
    request.recipient.IsLegible ∧ (request.id.isTruthy → request.id.IsLegible)
  pools : ∀ pool, call = .register pool → pool.id.IsLegible ∧ pool.schedule.IsNumeric
  fees : ∀ id caller schedule, call = .updateFees id caller schedule → schedule.IsNumeric

namespace Engine

/-- Everything that the engine may write down is legible. -/
structure IsLegible (engine : Engine) : Prop where
  pools : ∀ key pool, engine.pools.get? key = some pool →
    pool.id.IsLegible ∧ pool.schedule.IsNumeric
  transfers : ∀ key transfer, engine.transfers.get? key = some transfer → transfer.IsLegible

variable {origin before after engine : Engine} {call : Call} {news : List News}
  {transfer : Transfer} {pool : Pool}

/-! ## Transfers -/

private theorem clear_of_checkMessage {message id : Value} {kept : Option String}
    (checked : engine.checkMessage message id = .ok kept) :
    ∀ text, kept = some text → Text.hasHalf text = false := by
  rintro text rfl
  exact (checkMessage_eq_ok checked).1

private theorem isCode_of_checkReasonCode {code id : Value} {n : Int}
    (checked : checkReasonCode id code = .ok n) : (Value.int n).IsCode := by
  obtain ⟨least, most⟩ := bounds_of_checkReasonCode checked
  exact .inr ⟨n, rfl, least, most⟩

private theorem isSome_of_reading {shown : Option Instant} (timely : engine.TellsTime)
    (read : engine.reading = .ok shown) : shown.isSome := by
  obtain ⟨time, timely⟩ := timely
  unfold reading at read
  split at read
  · obtain ⟨now, -, rfl⟩ := map_eq_ok_iff.mp read
    rfl
  · obtain rfl := Except.ok.inj read
    cases clock : engine.clock with
    | none =>
        rw [now, clock] at timely
        cases timely
    | some instant => rfl

private theorem hasHalf_empty : Text.hasHalf "" = false := by decide +kernel

/-- The id of a registered pool is legible in the form in which a transfer names it, too. -/
theorem IsLegible.named {id : Value} (legible : engine.IsLegible) (orderly : engine.Orderly)
    (found : engine.pools.get? id.canonical = some pool) : id.IsLegible := by
  obtain ⟨text, id_eq, clear⟩ := (legible.pools _ _ found).1
  have same := (orderly.pools _ _ found).2
  rw [id_eq, Value.canonical_text] at same
  exact ⟨text, Value.canonical_eq_text_iff.mp same.symm, clear⟩

/-- The id of a new transfer is the one that was chosen, which is legible, or one that was drawn. -/
theorem Admits.id_legible {request : CreateRequest} (admits : engine.Admits request transfer pool)
    (chosen_legible : request.id.isTruthy → request.id.IsLegible) : transfer.id.IsLegible := by
  rcases admits.named with chosen | ⟨n, drawn⟩
  · rw [admits.asked.id_eq chosen]
    exact chosen_legible chosen
  · rw [drawn]
    exact Value.isLegible_text (hasHalf_drawnId n)

/-- A transfer that is taken for a legible request is legible. -/
theorem Admits.isLegible {request : CreateRequest} (admits : engine.Admits request transfer pool)
    (orderly : engine.Orderly) (legible : engine.IsLegible) (timely : engine.TellsTime)
    (names : (Call.create request).IsLegible) : transfer.IsLegible := by
  obtain ⟨sender, recipient, id⟩ := names.transfers request rfl
  have asked := admits.asked
  have drafted := admits.drafted
  simp only [draft, bind_eq_ok_iff, pure_eq_ok_iff] at drafted
  obtain ⟨_, -, amount, -, memo, checked, now, read, deadline, -, drafted⟩ := drafted
  have untouched := asked.untouched
  refine
    { id := admits.id_legible id
      pool := legible.named orderly admits.pool_found
      sender := asked.sender_eq ▸ sender
      recipient := asked.recipient_eq ▸ recipient
      amount := asked.amount
      memo := ?_
      createdAt := ?_
      reasonCode := .inl (by rw [untouched])
      reasonMessage := .inl (by rw [untouched]) }
  · rw [← drafted]
    cases kept : memo with
    | none => exact hasHalf_empty
    | some text => exact clear_of_checkMessage checked text kept
  · rw [← drafted]
    exact isSome_of_reading timely (mapError_eq_ok_iff.mp read)

/-- A settlement leaves a legible reason. -/
theorem Allows.isLegible {id : Value} {settling : SettlementCall} {settlement : Settlement}
    (allows : engine.Allows id settling transfer pool settlement) (legible : transfer.IsLegible)
    (time : Instant) : (transfer.settledBy settlement time).IsLegible := by
  have kept : (transfer.settledBy settlement time).reasonCode.IsCode ∧
      (transfer.settledBy settlement time).reasonMessage.IsNote := by
    have asked := allows.settlement_eq
    cases settling with
    | accept =>
        cases asked
        exact ⟨legible.reasonCode, legible.reasonMessage⟩
    | cancel =>
        cases asked
        exact ⟨legible.reasonCode, legible.reasonMessage⟩
    | expire =>
        simp only [settlementOf, bind_eq_ok_iff, pure_eq_ok_iff] at asked
        obtain ⟨_, -, _, -, rfl⟩ := asked
        exact ⟨.inr ⟨_, rfl, by decide, by decide⟩,
          .inr (Value.isLegible_text (by decide +kernel))⟩
    | reject caller code message =>
        simp only [settlementOf, bind_eq_ok_iff, pure_eq_ok_iff] at asked
        obtain ⟨message, checked, n, code, rfl⟩ := asked
        refine ⟨isCode_of_checkReasonCode code, ?_⟩
        cases kept : message with
        | none => exact .inl rfl
        | some text =>
            exact .inr (Value.isLegible_text (clear_of_checkMessage checked text kept))
  exact ⟨legible.id, legible.pool, legible.sender, legible.recipient, legible.amount,
    legible.memo, legible.createdAt, kept.1, kept.2⟩

theorem isLegible_asArchived (legible : transfer.IsLegible) : transfer.asArchived.IsLegible :=
  ⟨legible.id, legible.pool, legible.sender, legible.recipient, legible.amount, legible.memo,
    legible.createdAt, legible.reasonCode, legible.reasonMessage⟩

/-- Every step of a legible call leaves the engine legible. -/
theorem Step.isLegible (step : Step origin call before news after) (names : call.IsLegible)
    (timely : before.TellsTime) (orderly : before.Orderly) (legible : before.IsLegible) :
    after.IsLegible := by
  constructor
  · intro key pool found
    cases step.poolSource found with
    | kept registered continues schedule_eq =>
        rw [continues.id_eq, schedule_eq]
        exact legible.pools _ _ registered
    | repriced start registered continues asked place authorized =>
        rw [continues.id_eq]
        exact ⟨(legible.pools _ _ registered).1, names.fees _ _ _ asked⟩
    | new start asked place free => exact names.pools _ asked
  · intro key transfer found
    have written {place : Value} {record : Transfer} (fits : record.IsLegible)
        (found : (before.transfers.set place record).get? key = some transfer) :
        transfer.IsLegible := by
      rw [Table.get?_set] at found
      split at found
      · cases found
        exact fits
      · exact legible.transfers key transfer found
    cases step with
    | deposit asked drawn admits moved booking =>
        exact written (admits.isLegible orderly legible timely (asked ▸ names)) found
    | settlement allows moved booking settling =>
        exact written (allows.isLegible (legible.transfers _ _ allows.transfer_found) _) found
    | archive registered terminal =>
        exact written (isLegible_asArchived (legible.transfers _ _ registered)) found
    | prune =>
        rw [get?_transfers_prune, Option.filter_eq_some_iff] at found
        exact legible.transfers key transfer found.1
    | _ => exact legible.transfers key transfer found

theorem IsFresh.isLegible (fresh : engine.IsFresh) : engine.IsLegible := by
  constructor
  · intro key pool found
    rw [fresh.pools, Table.get?_empty] at found
    cases found
  · intro key transfer found
    rw [fresh.transfers, Table.get?_empty] at found
    cases found

/-! ## Events -/

/-- The fee of a legible pool is a number, and an amount. -/
theorem isAmount_feeOf (legible : transfer.IsLegible) (numeric : pool.schedule.IsNumeric)
    (settlement : Settlement) :
    ∃ n, feeOf transfer pool settlement = .number n ∧ IsAmount n := by
  obtain ⟨n, fee_eq⟩ := (numeric settlement.outcome).fee_eq transfer.amount
  have nonneg : 0 ≤ (feeOf transfer pool settlement).toInt :=
    pool.schedule.fee_nonneg settlement.outcome legible.amount.1
  have most := pool.schedule.fee_le settlement.outcome (.number transfer.amount)
  have same : feeOf transfer pool settlement = .number n := fee_eq
  change (feeOf transfer pool settlement).toInt ≤ transfer.amount at most
  have above := legible.amount.2
  rw [same, Whole.toInt_number] at nonneg most
  exact ⟨n, same, nonneg, most.trans above⟩

theorem isLegible_reference {ledger moved : Ledger} {move : Move} {now : Except Fault Instant}
    {reference : Value} (onBooks : ledger.OnBooks)
    (done : ledger.move move now = (moved, .ok reference)) : reference.IsLegible := by
  obtain ⟨books, text, paid, rfl, -⟩ := Ledger.move_eq_ok onBooks done
  obtain ⟨-, rfl, -⟩ := Books.move_eq_ok paid
  exact Value.isLegible_text (hasHalf_nextReference _)

/-- The news of the creation of a legible transfer is legible. -/
theorem isLegible_created {reference : Value} (legible : transfer.IsLegible)
    (noted : reference.IsLegible) : (Event.created transfer reference).IsLegible :=
  { transfer := legible.id
    pool := legible.pool
    amount := legible.amount
    fee := ⟨0, rfl, by decide⟩
    net := legible.amount
    occurredAt := legible.createdAt
    reasonCode := .inl rfl
    reasonMessage := .inl rfl
    reference := .inr noted }

/-- The news of the settlement of a legible transfer is legible. -/
theorem isLegible_settled {id : Value} {settling : SettlementCall} {settlement : Settlement}
    {reference : Value} (allows : engine.Allows id settling transfer pool settlement)
    (legible : engine.IsLegible) (noted : reference.IsLegible) (time : Instant) :
    (Event.settled (transfer.settledBy settlement time) pool.id (feeOf transfer pool settlement) time
      reference).IsLegible := by
  have known := legible.transfers _ _ allows.transfer_found
  obtain ⟨pool_id, numeric⟩ := legible.pools _ _ allows.pool_found
  have written := allows.isLegible known time
  exact
    { transfer := written.id
      pool := pool_id
      amount := written.amount
      fee := isAmount_feeOf known numeric settlement
      net := pool.schedule.isAmount_sub_fee settlement.outcome known.amount
      occurredAt := rfl
      reasonCode := written.reasonCode
      reasonMessage := written.reasonMessage
      reference := .inr noted }

end Engine
end Escrow
