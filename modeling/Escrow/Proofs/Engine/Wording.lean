import Escrow.Proofs.Engine.Legible

/-!
# The wording of failures

A sweep writes into the archive what a ledger says when it does not pay.  Books word a refusal
themselves, after the asset, its holder and two whole numbers, or pass on the words that they were
given.  As long as these names and words come in as texts that can be encoded, whatever a ledger says
is such a text.
-/

namespace Escrow

/-- What is kept as the message of the refusal is a text that can be encoded. -/
def Refusal.IsWorded (refusal : Refusal) : Prop := (refusal.cause.given Fault.describe).IsLegible

theorem Kind.hasHalf_code (kind : Kind) : Text.hasHalf kind.code = false := by
  cases kind <;> decide +kernel

private theorem isWorded_insufficient {asset holder : Value} (known : asset.IsLegible)
    (named : holder.IsLegible) (available amount : Int) (transfer : Value) :
    Refusal.IsWorded
      ⟨.ledger (.insufficientBalance asset holder (.int available) (.int amount)), transfer⟩ := by
  obtain ⟨asset, rfl, known⟩ := known
  obtain ⟨holder, rfl, named⟩ := named
  have opening : Text.hasHalf "Insufficient " = false := by decide +kernel
  have between : Text.hasHalf " balance in " = false := by decide +kernel
  have colon : Text.hasHalf ": " = false := by decide +kernel
  have less : Text.hasHalf " < " = false := by decide +kernel
  refine Value.isLegible_text ?_
  change Text.hasHalf ("Insufficient " ++ asset ++ " balance in " ++ holder ++ ": " ++
    (Value.int available).plain ++ " < " ++ (Value.int amount).plain) = false
  simp only [Text.hasHalf_append, hasHalf_int, known, named, opening, between, colon, less,
    Bool.or_false]

/-- A refusal that is attributed to a transfer keeps its cause. -/
theorem attributedTo_refused (id : Value) (refusal : Refusal) :
    ∃ named, (Problem.refused refusal).attributedTo id = .refused named ∧
      named.cause = refusal.cause := by
  unfold Problem.attributedTo
  dsimp only
  split <;> exact ⟨_, rfl, rfl⟩

/-! ## What a ledger says -/

namespace Ledger

variable {ledger after : Ledger} {move : Move} {now : Except Fault Instant}

/-- The failures that await the next move of the ledger are worded in texts that can be encoded. -/
structure IsWorded (ledger : Ledger) : Prop where
  refusal : ∀ refusal, ledger.refusal = some refusal → refusal.IsWorded
  armed : ∀ message, ledger.books.armed = some message → message.IsLegible

private theorem isWorded_of_unarmed (unarmed : ledger.isArmed = false) : ledger.IsWorded := by
  obtain ⟨unrefused, unarmed⟩ : ledger.refusal = none ∧ ledger.books.armed = none := by
    simpa [isArmed] using unarmed
  constructor
  · simp [unrefused]
  · simp [unarmed]

private theorem IsWorded.moved (worded : ledger.IsWorded) (onBooks : ledger.OnBooks) (move : Move)
    (now : Except Fault Instant) : (ledger.move move now).1.IsWorded := by
  unfold Ledger.move
  split
  · exact ⟨by simp, worded.armed⟩
  · rename_i unrefused
    rw [onBooks]
    constructor
    · simp [unrefused]
    · intro message armed
      have nothing := Books.armed_move ledger.books move now
      exact absurd (armed.symm.trans nothing) (by simp)

/-- Among whole numbers, a move of an amount between accounts that texts name is refused, if it
fails, and in words that can be encoded. -/
theorem IsWorded.move_eq_error {problem : Problem} (worded : ledger.IsWorded)
    (onBooks : ledger.OnBooks) (integers : ledger.books.HasIntegers)
    (failed : ledger.move move now = (after, .error problem)) {n : Int}
    (amount_eq : move.amount = .int n) (amount : IsAmount n) (source : move.source.IsLegible)
    (asset : move.asset.IsLegible) (targetKey : move.targetAccount.isKey) {movedAt : Instant}
    (timely : now = .ok movedAt) : ∃ refusal, problem = .refused refusal ∧ refusal.IsWorded := by
  rcases Ledger.move_eq_error onBooks failed with
    ⟨refusal, refused, rfl, -⟩ | ⟨-, moved, missed, -⟩
  · exact ⟨refusal, rfl, worded.refusal refusal refused⟩
  · obtain ⟨-, ⟨message, armed, rfl⟩ | remains⟩ :=
      Books.move_eq_error missed integers.hasNumbers amount_eq amount targetKey timely
    · exact ⟨_, rfl, worded.armed message armed⟩
    · obtain ⟨held, whole⟩ := integers move.sourceAccount
      have sourceKey : move.sourceAccount.isKey := by
        simp [Move.sourceAccount, Account.isKey, source.isKey, asset.isKey]
      rw [Books.remainder_eq_error amount_eq amount.1 whole sourceKey remains]
      exact ⟨_, rfl, isWorded_insufficient asset source held n .null⟩

end Ledger

/-- What a ledger is told by the call to say, and the names that the call brings in for it to say, are
texts that can be encoded; so are the ids that callers choose. -/
structure Call.IsWorded (call : Call) : Prop where
  ids : ∀ request, call = .create request → request.id.isTruthy → request.id.IsLegible
  accounts : ∀ pool, call = .register pool → pool.custody.IsLegible ∧ pool.asset.IsLegible
  armed : ∀ message, call = .arm message → message.isTruthy → message.IsLegible
  refused : ∀ message transfer, call = .refuseNext message transfer → message.IsLegible

private theorem Ledger.Told.isWorded {ledger after : Ledger} {call : Call}
    (told : ledger.Told call after)
    (speaks : call.IsWorded) (worded : ledger.IsWorded) : after.IsWorded := by
  cases told with
  | arm held message =>
      refine ⟨worded.refusal, ?_⟩
      intro kept armed
      change (if message.isTruthy then some message else none) = some kept at armed
      split at armed
      · rename_i truthy
        cases armed
        exact speaks.armed message rfl truthy
      · cases armed
  | credit held account amount =>
      refine ⟨worded.refusal, ?_⟩
      intro kept armed
      apply worded.armed kept
      rw [Ledger.books, held]
      exact (Books.armed_add _ account amount).symm.trans armed
  | refuseNext message transfer =>
      unfold Ledger.refuseNext
      split
      · refine ⟨?_, worded.armed⟩
        rintro refusal ⟨⟩
        exact speaks.refused message transfer rfl
      · exact worded
  | script held changes =>
      refine ⟨worded.refusal, ?_⟩
      intro kept armed
      cases armed

namespace Engine

variable {origin before after engine : Engine} {call : Call} {news : List News}

/-- Whatever the ledger may say about a transfer, and the id of the transfer, can be encoded. -/
structure IsWorded (engine : Engine) : Prop where
  ledger : engine.ledger.IsWorded
  pools : ∀ key pool, engine.pools.get? key = some pool →
    pool.custody.IsLegible ∧ pool.asset.IsLegible
  transfers : ∀ key transfer, engine.transfers.get? key = some transfer → transfer.id.IsLegible

theorem Step.isWorded (step : Step origin call before news after) (onBooks : before.ledger.OnBooks)
    (speaks : call.IsWorded) (worded : before.IsWorded) : after.IsWorded := by
  constructor
  · have moved {move : Move} {ledger : Ledger} {answer : Answer Value}
        (move_eq : before.ledger.move move before.now = (ledger, answer)) : ledger.IsWorded := by
      have kept := worded.ledger.moved onBooks move before.now
      rwa [move_eq] at kept
    cases step with
    | unpaidDeposit asked drawn admits failed => exact moved failed
    | deposit asked drawn admits paid booking => exact moved paid
    | unpaidSettlement allows failed => exact moved failed
    | settlement allows paid booking timely => exact moved paid
    | told told => exact told.isWorded speaks worded.ledger
    | _ => exact worded.ledger
  · intro key pool found
    rcases step.pool_cases found with ⟨old, registered, continues⟩ | ⟨asked, -, -⟩
    · rw [continues.custody_eq, continues.asset_eq]
      exact worded.pools key old registered
    · exact speaks.accounts pool asked
  · intro key transfer found
    rcases step.transfer_cases found with
      ⟨old, registered, continues⟩ | ⟨-, -, request, pool, asked, admits⟩
    · rw [continues.id_eq]
      exact worded.transfers key old registered
    · exact admits.id_legible (speaks.ids request asked)

/-- Whatever a fresh engine goes through, its ledger goes on speaking in texts that can be encoded. -/
theorem IsFresh.isWorded_run (fresh : engine.IsFresh) (unarmed : engine.ledger.isArmed = false)
    {calls : List Call} (speaks : ∀ call ∈ calls, call.IsWorded) : (engine.run calls).IsWorded := by
  have along : Along (fun _ call => call.IsWorded) engine calls := along_of_forall speaks engine
  have start : engine.IsWorded := by
    refine ⟨Ledger.isWorded_of_unarmed unarmed, ?_, ?_⟩
    · intro key pool found
      rw [fresh.pools, Table.get?_empty] at found
      cases found
    · intro key transfer found
      rw [fresh.transfers, Table.get?_empty] at found
      cases found
  exact run_keeps
    (fun origin call speaks before news after step orderly worded =>
      step.isWorded orderly.onBooks speaks worded)
    fresh.orderly along start

end Engine
end Escrow
