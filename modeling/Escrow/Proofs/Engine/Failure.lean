import Escrow.Proofs.Engine.Terms
import Escrow.Proofs.Fee

/-!
# Calls that fail

A call that fails changes nothing, although an operation writes to the ledger, to counters and to
records one after another without ever going back: all that could fail is checked before the funds
move, and a move that fails leaves the books alone.  At most a failure that was waiting in the ledger
is used up, so that the same call succeeds when it is made again.
-/

namespace Escrow
namespace Engine

/-- The clock can be read in universal time.  That of a system always can; the one of an engine may
show nothing, or a time at the edge of the calendar. -/
def TellsTime (engine : Engine) : Prop := ∃ time, engine.now = .ok time

theorem TellsTime.of_clock {engine other : Engine} (timely : other.TellsTime)
    (same : engine.clock = other.clock) : engine.TellsTime := by
  obtain ⟨time, timely⟩ := timely
  exact ⟨time, by rwa [now, same]⟩

variable {origin before after engine : Engine} {call : Call} {news : List News}

/-- Balances stay numbers, whatever is credited. -/
theorem Step.hasNumbers (step : Step origin call before news after) (orderly : before.Orderly)
    (numbers : before.ledger.books.HasNumbers) : after.ledger.books.HasNumbers := by
  have moved {move : Move} {ledger : Ledger} {answer : Answer Value}
      (move_eq : before.ledger.move move before.now = (ledger, answer)) :
      ledger.books.HasNumbers := by
    have kept := Ledger.hasNumbers_moved orderly.onBooks numbers move before.now
    rwa [move_eq] at kept
  cases step with
  | aside => exact numbers
  | unpaidDeposit asked drawn admits failed => exact moved failed
  | deposit asked drawn admits paid booking => exact moved paid
  | unpaidSettlement allows failed => exact moved failed
  | settlement allows paid booking timely => exact moved paid
  | fees => exact numbers
  | register => exact numbers
  | archive => exact numbers
  | prune => exact numbers
  | told told => exact told.hasNumbers numbers
  | clock => exact numbers

/-! ## Moves that fail -/

/-- The engine is on books of numbers, whose accounts it can name. -/
structure Solid (engine : Engine) : Prop where
  orderly : engine.Orderly
  numbers : engine.ledger.books.HasNumbers
  keys : engine.HasKeys

theorem Solid.unpaidDeposit {request : CreateRequest} {transfer : Transfer} {pool : Pool}
    {ledger : Ledger} {problem : Problem} (solid : engine.Solid) (timely : engine.TellsTime)
    (admits : engine.Admits request transfer pool)
    (failed : engine.ledger.move (depositMove transfer pool) engine.now =
      (ledger, .error problem)) : ledger = engine.ledger.disarmed := by
  obtain ⟨time, timely⟩ := timely
  obtain ⟨custodyKey, assetKey⟩ := solid.keys.pools _ _ admits.pool_found
  have targetKey : (depositMove transfer pool).targetAccount.isKey := by
    simp [depositMove, Move.targetAccount, Account.isKey, custodyKey, assetKey]
  exact Ledger.move_of_error solid.orderly.onBooks failed solid.numbers rfl admits.asked.amount
    targetKey timely

/-- The accounts between which a settlement pays can be keys. -/
theorem Solid.keys_payout {id : Value} {settling : SettlementCall} {transfer : Transfer}
    {pool : Pool} {settlement : Settlement} (solid : engine.Solid)
    (allows : engine.Allows id settling transfer pool settlement) :
    (payoutMove transfer pool settlement).sourceAccount.isKey ∧
      (payoutMove transfer pool settlement).targetAccount.isKey := by
  obtain ⟨custodyKey, assetKey⟩ := solid.keys.pools _ _ allows.pool_found
  obtain ⟨senderKey, recipientKey⟩ := solid.keys.transfers _ _ allows.transfer_found
  have payeeKey : (payee transfer settlement).isKey := by
    cases settlement with
    | accept => exact recipientKey
    | _ => exact senderKey
  constructor
  · simp [payoutMove, Move.sourceAccount, Account.isKey, custodyKey, assetKey]
  · simp [payoutMove, Move.targetAccount, Account.isKey, payeeKey, assetKey]

theorem Solid.unpaidSettlement {id : Value} {settling : SettlementCall} {transfer : Transfer}
    {pool : Pool} {settlement : Settlement} {ledger : Ledger} {problem : Problem}
    (solid : engine.Solid) (timely : engine.TellsTime)
    (allows : engine.Allows id settling transfer pool settlement)
    (failed : engine.ledger.move (payoutMove transfer pool settlement) engine.now =
      (ledger, .error problem)) : ledger = engine.ledger.disarmed := by
  obtain ⟨time, timely⟩ := timely
  have registers := solid.orderly.transfers _ _ allows.transfer_found
  have net := pool.schedule.isAmount_sub_fee settlement.outcome registers.amount
  exact Ledger.move_of_error solid.orderly.onBooks failed solid.numbers rfl net
    (solid.keys_payout allows).2 timely

theorem Step.solid (step : Step origin call before news after) (names : call.NamesKeys)
    (solid : before.Solid) : after.Solid :=
  ⟨step.orderly solid.orderly, step.hasNumbers solid.orderly solid.numbers,
    step.hasKeys names solid.keys⟩

theorem IsFresh.solid (fresh : engine.IsFresh) (numbers : engine.ledger.books.HasNumbers) :
    engine.Solid := ⟨fresh.orderly, numbers, fresh.hasKeys⟩

theorem Solid.run (solid : engine.Solid) {calls : List Call}
    (names : ∀ call ∈ calls, call.NamesKeys) : (engine.run calls).Solid := by
  have along : Along (fun _ call => call.NamesKeys) engine calls := along_of_forall names engine
  exact run_keeps
    (fun origin call names before news after step _ solid => step.solid names solid)
    solid.orderly along solid

/-! ## Requests that fail -/

/-- The later engine is the earlier one, but for ids that were drawn and for a failure of the ledger
that was used up. -/
structure Untouched (before after : Engine) : Prop where
  same : after =
    { before with
      ledger := after.ledger
      drawn := after.drawn }
  ledger : after.ledger = before.ledger ∨ after.ledger = before.ledger.disarmed
  balances : after.ledger.books.balances = before.ledger.books.balances
  journal : after.ledger.books.journal = before.ledger.books.journal

theorem Untouched.refl (engine : Engine) (drawn : Nat) :
    engine.Untouched { engine with drawn := drawn } := ⟨rfl, .inl rfl, rfl, rfl⟩

private theorem Untouched.of_disarmed (onBooks : engine.ledger.OnBooks) (drawn : Nat) :
    engine.Untouched
      { engine with
        ledger := engine.ledger.disarmed
        drawn := drawn } := by
  obtain ⟨balances, journal⟩ := Ledger.books_disarmed onBooks
  exact ⟨rfl, .inr rfl, balances, journal⟩

/-- The engine with the failure that awaits the next move of its ledger used up. -/
def disarmed (engine : Engine) : Engine := { engine with ledger := engine.ledger.disarmed }

private theorem Solid.deposit_error {request : CreateRequest} {next : Engine} {problem : Problem}
    (solid : engine.Solid) (timely : engine.TellsTime)
    (failed : engine.deposit request = (next, .error problem)) : engine.Untouched next := by
  have ended := deposited engine request
  rw [failed] at ended
  cases ended with
  | refused drawn => exact .refl engine drawn
  | unpaid drawn problem admits missed =>
      rw [solid.unpaidDeposit timely admits missed]
      exact .of_disarmed solid.orderly.onBooks drawn

private theorem Solid.settle_error {id : Value} {settling : SettlementCall} {next : Engine}
    {problem : Problem} (solid : engine.Solid) (timely : engine.TellsTime)
    (failed : engine.settle id settling = (next, .error problem)) :
    next = engine ∨ next = engine.disarmed := by
  have ended := settled solid.orderly.steady id settling
  rw [failed] at ended
  cases ended with
  | refused => exact .inl rfl
  | unpaid allows missed =>
      rw [solid.unpaidSettlement timely allows missed]
      exact .inr rfl

private theorem serve_error {id : Value} {settling : SettlementCall} {next : Engine}
    {problem : Problem} (failed : engine.serve id settling = (next, .error problem)) :
    engine.settle id settling = (next, .error problem) := by
  unfold serve at failed
  split at failed
  · cases failed
  · exact failed

end Engine

/-- Is the call one that users make of single pools and transfers? -/
def Call.isRequest : Call → Bool
  | .create _ => true
  | .settle _ _ => true
  | .updateFees _ _ _ => true
  | .register _ => true
  | .archive _ => true
  | _ => false

namespace Engine

private theorem Solid.perform_error {engine next : Engine} {call : Call} {problem : Problem}
    (solid : engine.Solid) (timely : engine.TellsTime) (request : call.isRequest)
    (failed : engine.perform call = (next, .error problem)) : engine.Untouched next := by
  cases call with
  | create asked =>
      unfold perform create at failed
      dsimp only at failed
      split at failed
      · rename_i refused problem missed
        cases failed
        exact solid.deposit_error timely missed
      · cases failed
  | settle id settling =>
      unfold perform at failed
      dsimp only at failed
      rcases served : engine.serve id settling with ⟨ended, problem | event⟩ <;>
        rw [served] at failed
      · cases failed
        rcases solid.settle_error timely (serve_error served) with rfl | rfl
        · exact .refl _ _
        · exact .of_disarmed solid.orderly.onBooks _
      · cases failed
  | updateFees id caller schedule =>
      unfold perform changed at failed
      dsimp only at failed
      split at failed <;> cases failed
      exact .refl _ _
  | register pool =>
      unfold perform at failed
      dsimp only at failed
      split at failed <;> cases failed
      exact .refl _ _
  | archive id =>
      unfold perform at failed
      dsimp only at failed
      split at failed <;> cases failed
      exact .refl _ _
  | _ => cases request

/-! ## Failures that are used up -/

/-- What a settlement is checked for does not depend on the ledger. -/
theorem prepared_disarmed (engine : Engine) (id : Value) (settling : SettlementCall) :
    (do engine.disarmed.checkCaller id settling; engine.disarmed.prepare id settling) =
      (do engine.checkCaller id settling; engine.prepare id settling) := rfl

/-- A settlement that an armed ledger keeps from succeeding uses the failure up and nothing else. -/
theorem perform_settle_of_isArmed {engine : Engine} (onBooks : engine.ledger.OnBooks)
    (armed : engine.ledger.isArmed) {id : Value} {settling : SettlementCall} {reply : Reply}
    (succeeds : (engine.disarmed.perform (.settle id settling)).2 = .ok reply) :
    ∃ problem, engine.perform (.settle id settling) = (engine.disarmed, .error problem) := by
  have failed : ∃ problem, engine.settle id settling = (engine.disarmed, .error problem) := by
    cases prepared : (do engine.checkCaller id settling; engine.prepare id settling) with
    | error problem =>
        -- A call that is refused is refused without the failure, too.
        have refused : engine.disarmed.settle id settling = (engine.disarmed, .error problem) := by
          unfold settle
          rw [prepared_disarmed, prepared]
        simp [perform, serve, refused, Except.map] at succeeds
    | ok payout =>
        obtain ⟨problem, moved⟩ := Ledger.move_of_isArmed onBooks armed payout.move engine.now
        refine ⟨problem.attributedTo payout.transfer, ?_⟩
        unfold settle
        rw [prepared]
        dsimp only
        rw [moved]
        rfl
  obtain ⟨problem, failed⟩ := failed
  refine ⟨problem, ?_⟩
  simp [perform, serve, failed, Except.map]

/-- Whatever an engine has been through, a request that fails leaves everything as it was, but for a
failure that was armed in the ledger and is used up; and a settlement that nothing but such a failure
kept from succeeding ends, when it is called again, exactly as it would have without the failure. -/
theorem untouched_of_error {engine : Engine} (fresh : engine.IsFresh)
    (numbers : engine.ledger.books.HasNumbers) {calls : List Call}
    (names : ∀ call ∈ calls, call.NamesKeys) (timely : (engine.run calls).TellsTime) :
    (∀ call next problem, call.isRequest →
        (engine.run calls).perform call = (next, .error problem) →
          (engine.run calls).Untouched next) ∧
      ∀ id settling reply, (engine.run calls).ledger.isArmed →
        ((engine.run calls).disarmed.perform (.settle id settling)).2 = .ok reply →
          ∃ next problem, (engine.run calls).perform (.settle id settling) =
              (next, .error problem) ∧
            next.perform (.settle id settling) =
              (engine.run calls).disarmed.perform (.settle id settling) := by
  have solid := (fresh.solid numbers).run names
  constructor
  · intro call next problem request failed
    exact solid.perform_error timely request failed
  · intro id settling reply armed succeeds
    obtain ⟨problem, failed⟩ := perform_settle_of_isArmed solid.orderly.onBooks armed succeeds
    exact ⟨_, problem, failed, rfl⟩

theorem hasNumbers_sample : sampleEngine.ledger.books.HasNumbers :=
  Books.hasNumbers_ofBalances (by simp [Value.isNumber])

theorem namesKeys_register_sample : (Call.register samplePool).NamesKeys := by
  constructor
  · simp
  · rintro pool ⟨⟩
    exact ⟨rfl, rfl⟩

theorem namesKeys_create_sample (id : String) (amount : Int) :
    (Call.create (sampleRequest id amount)).NamesKeys := by
  constructor
  · rintro request ⟨⟩
    exact ⟨rfl, rfl⟩
  · simp

private theorem namesKeys_sample : ∀ call ∈ sampleCalls ++
    [.arm (.text "down")], call.NamesKeys := by
  simp only [sampleCalls, List.cons_append, List.nil_append, List.forall_mem_cons]
  simp only [namesKeys_register_sample, namesKeys_create_sample, true_and, List.not_mem_nil,
    false_implies, implies_true, and_true]
  refine ⟨?_, ?_, ?_, ?_, ?_, ?_, ?_⟩ <;> constructor <;> simp

theorem tellsTime_sample : sampleEngine.TellsTime :=
  ⟨⟨⟨2026, 1, 1⟩, 12, 0, 0, 0, some 0⟩, by decide +kernel⟩

/-- In the small market a transfer is accepted at the second attempt when the ledger fails once. -/
theorem untouched_sample :
    (sampleEngine.run (sampleCalls ++ [.arm (.text "down")])).Untouched
        ((sampleEngine.run (sampleCalls ++ [.arm (.text "down")])).perform
          (.settle (.text "t2") (.accept (.text "olga")))).1 ∧
      ∃ next problem reply,
        (sampleEngine.run (sampleCalls ++ [.arm (.text "down")])).perform
            (.settle (.text "t2") (.accept (.text "olga"))) = (next, .error problem) ∧
          (next.perform (.settle (.text "t2") (.accept (.text "olga")))).2 = .ok reply := by
  have timely : (sampleEngine.run (sampleCalls ++ [.arm (.text "down")])).TellsTime :=
    ⟨⟨⟨2026, 1, 1⟩, 12, 0, 0, 0, some 0⟩, by decide +kernel⟩
  obtain ⟨failed, retried⟩ :=
    untouched_of_error isFresh_sample hasNumbers_sample namesKeys_sample timely
  have armed : (sampleEngine.run (sampleCalls ++ [.arm (.text "down")])).ledger.isArmed := by
    decide +kernel
  have unhindered : ((sampleEngine.run (sampleCalls ++ [.arm (.text "down")])).disarmed.perform
      (.settle (.text "t2") (.accept (.text "olga")))).2.isOk := by
    decide +kernel
  obtain ⟨reply, succeeds⟩ := exists_eq_ok unhindered
  obtain ⟨next, problem, missed, again⟩ := retried _ _ reply armed succeeds
  refine ⟨?_, next, problem, reply, missed, again ▸ succeeds⟩
  rw [missed]
  exact failed _ next problem rfl missed

end Engine
end Escrow
