import Escrow.Proofs.Engine.Once
import Escrow.Proofs.Fee

/-!
# The journal of a run

The journal of the books is the image of the news: one entry for every creation, which moves the
amount from the sender into custody, and one for every settlement, which moves what is left after the
fee out of custody.  Nothing else writes into it, and every event names its entry.
-/

namespace Escrow

/-- The move that the news is about: a deposit by the terms of the pool, or a payout of the transfer
by the fees of the pool at that moment. -/
def News.move? (item : News) : Option Move := do
  let pool ← item.before.pools.get? item.event.pool.canonical
  match item.event.status with
  | .pending => some ⟨item.event.sender, pool.custody, .int item.event.amount, pool.asset⟩
  | .settled outcome =>
    let transfer ← item.before.transfers.get? item.key
    let target := if outcome = .accepted then transfer.recipient else transfer.sender
    let fee ← (pool.schedule.feeFor (.int transfer.amount) (.text outcome.name)).toOption
    some ⟨pool.custody, target, .int (transfer.amount - fee.toInt), pool.asset⟩

namespace Engine

/-- The entries are those of the news, one for each and in their order: they make the moves that the
news are about, the events name them, and their names are their positions in the journal. -/
structure EntriesOf (opening : List JournalEntry) (news : List News)
    (entries : List JournalEntry) : Prop where
  moves : entries.map (fun entry => some entry.move) = news.map News.move?
  named : entries.map (fun entry => Value.text entry.reference) = news.map (·.event.reference)
  numbered : entries.map JournalEntry.reference =
    (List.range' (opening.length + 1) entries.length).map Books.referenceAt

/-- The journal is the one at the opening, continued by the entries of the news. -/
def Journaled (opening : List JournalEntry) (news : List News) (engine : Engine) : Prop :=
  ∃ entries, engine.ledger.books.journal = opening ++ entries ∧ EntriesOf opening news entries

variable {origin before after engine : Engine} {call : Call} {news later : List News}
  {opening : List JournalEntry}

/-- The journal of a ledger after a move that ends well. -/
theorem journal_of_moved {ledger moved : Ledger} {move : Move} {now : Except Fault Instant}
    {reference : Value} (onBooks : ledger.OnBooks)
    (done : ledger.move move now = (moved, .ok reference)) :
    ∃ time, reference = .text ledger.books.nextReference ∧
      moved.books.journal =
        ledger.books.journal ++ [⟨move, ledger.books.nextReference, time⟩] := by
  obtain ⟨books, text, books_moved, rfl, rfl⟩ := Ledger.move_eq_ok onBooks done
  obtain ⟨-, rfl, -, rest, total, time, -, -, -, rfl⟩ := Books.move_eq_ok books_moved
  exact ⟨time, rfl, rfl⟩

theorem Journaled.of_same (journaled : Journaled opening news before)
    (journal : after.ledger.books.journal = before.ledger.books.journal) :
    Journaled opening (news ++ []) after := by
  obtain ⟨entries, journal_eq, entriesOf⟩ := journaled
  rw [List.append_nil]
  exact ⟨entries, journal.trans journal_eq, entriesOf⟩

/-- A move that ends well brings one entry, which has to be that of the news that comes with it. -/
theorem Journaled.of_moved {moved : Ledger} {move : Move} {reference : Value} {item : News}
    (journaled : Journaled opening news before) (orderly : before.Orderly)
    (done : before.ledger.move move before.now = (moved, .ok reference))
    (ledger : after.ledger = moved) (item_move : item.move? = some move)
    (item_reference : item.event.reference = reference) :
    Journaled opening (news ++ [item]) after := by
  obtain ⟨entries, journal_eq, moves, named, numbered⟩ := journaled
  obtain ⟨time, rfl, added⟩ := journal_of_moved orderly.onBooks done
  refine ⟨entries ++ [⟨move, before.ledger.books.nextReference, time⟩], ?_, ?_, ?_, ?_⟩
  · rw [ledger, added, journal_eq, List.append_assoc]
  · rw [List.map_append, List.map_append, moves, List.map_singleton, List.map_singleton, item_move]
  · rw [List.map_append, List.map_append, named, List.map_singleton, List.map_singleton,
      item_reference]
  · have next : before.ledger.books.nextReference =
        Books.referenceAt (opening.length + 1 + entries.length) := by
      have position : opening.length + entries.length + 1 =
          opening.length + 1 + entries.length := by omega
      rw [Books.nextReference, journal_eq, List.length_append, position, Books.referenceAt]
    rw [List.map_append, numbered, List.length_append, List.length_singleton, List.range'_concat,
      List.map_append, List.map_singleton, List.map_singleton, next, Nat.one_mul]

private theorem move?_created {request : CreateRequest} {transfer : Transfer} {pool : Pool}
    (admits : before.Admits request transfer pool) (reference : Value) :
    News.move? ⟨before, .created transfer reference⟩ = some (depositMove transfer pool) := by
  simp [News.move?, Event.created, admits.pool_found, depositMove]

private theorem move?_of_settled {item : News} {transfer : Transfer} {pool : Pool}
    {outcome : Outcome}
    {fee : Whole} (transfer_found : item.before.transfers.get? item.key = some transfer)
    (pool_found : item.before.pools.get? item.event.pool.canonical = some pool)
    (status_eq : item.event.status = .settled outcome)
    (fee_eq : pool.schedule.feeFor (.int transfer.amount) (.text outcome.name) = .ok fee) :
    item.move? =
      some ⟨pool.custody, if outcome = .accepted then transfer.recipient else transfer.sender,
        .int (transfer.amount - fee.toInt), pool.asset⟩ := by
  unfold News.move?
  rw [pool_found, status_eq, transfer_found]
  simp [fee_eq, Except.toOption]

private theorem move?_settled {id : Value} {settling : SettlementCall} {transfer : Transfer}
    {pool : Pool} {settlement : Settlement} (orderly : before.Orderly)
    (allows : before.Allows id settling transfer pool settlement) (time : Instant)
    (reference : Value) :
    News.move? ⟨before, .settled (transfer.settledBy settlement time) pool.id
      (feeOf transfer pool settlement) time reference⟩ =
        some (payoutMove transfer pool settlement) := by
  have registers := orderly.transfers _ _ allows.transfer_found
  have transfer_found := allows.transfer_found
  rw [← registers.id_eq] at transfer_found
  obtain ⟨-, pool_id⟩ := orderly.pools _ _ allows.pool_found
  have pool_found := allows.pool_found
  rw [← pool_id] at pool_found
  have payee_eq : (if settlement.outcome = .accepted then transfer.recipient
      else transfer.sender) = payee transfer settlement := by
    cases settlement <;> rfl
  generalize item_eq : (⟨before, .settled (transfer.settledBy settlement time) pool.id
    (feeOf transfer pool settlement) time reference⟩ : News) = item
  have known : item.before.transfers.get? item.key = some transfer := by
    rw [← item_eq]
    exact transfer_found
  have pooled : item.before.pools.get? item.event.pool.canonical = some pool := by
    rw [← item_eq]
    exact pool_found
  have status_eq : item.event.status = .settled settlement.outcome := by
    rw [← item_eq]
    exact transfer.status_settledBy settlement time
  rw [move?_of_settled known pooled status_eq
    (pool.schedule.feeFor_name settlement.outcome registers.amount), payee_eq]
  rfl

private theorem Step.journaled (step : Step origin call before later after)
    (orderly : before.Orderly)
    (journaled : Journaled opening news before) : Journaled opening (news ++ later) after := by
  cases step with
  | aside => exact journaled.of_same rfl
  | unpaidDeposit asked drawn admits failed =>
      exact journaled.of_same (Ledger.journal_move_of_error orderly.onBooks failed)
  | deposit asked drawn admits moved booking =>
      exact journaled.of_moved orderly moved rfl (move?_created admits _) rfl
  | unpaidSettlement allows failed =>
      exact journaled.of_same (Ledger.journal_move_of_error orderly.onBooks failed)
  | settlement allows moved booking timely =>
      exact journaled.of_moved orderly moved rfl (move?_settled orderly allows _ _) rfl
  | fees => exact journaled.of_same rfl
  | register => exact journaled.of_same rfl
  | archive => exact journaled.of_same rfl
  | prune => exact journaled.of_same rfl
  | told told => exact journaled.of_same told.journal_eq
  | clock => exact journaled.of_same rfl

/-- From a fresh engine on, every id is created once and settled once at most; the journal is the
image of the news; what a settlement wrote stays; and once a transfer is pruned, settlement calls for
it are refused as inactive and its id is never used again. -/
theorem settled_once_of_run {engine : Engine} (fresh : engine.IsFresh) (calls : List Call) :
    (engine.run calls).TellsSuccess ∧
      (createdKeys (engine.newsOf calls)).Nodup ∧ (settledKeys (engine.newsOf calls)).Nodup ∧
      Journaled engine.ledger.books.journal (engine.newsOf calls) (engine.run calls) ∧
      (∀ id record later, (engine.run calls).lastRecord? id = some record →
        record.status.isTerminal →
          ∃ kept, ((engine.run calls).run later).lastRecord? id = some kept ∧
            kept.SettledLike record) ∧
      ∀ id later, id.isKey → (engine.run calls).pruned.contains id.canonical →
        (∀ settling, ∃ refusal,
          ((engine.run calls).run later).perform (.settle id settling) =
              ((engine.run calls).run later, .error (.refused refusal)) ∧
            refusal.cause.kind = .inactiveTransfer) ∧
        (∀ request, request.id = id → id.isTruthy → ∃ problem,
          (((engine.run calls).run later).perform (.create request)).2 = .error problem) ∧
        ∀ item ∈ (engine.run calls).newsOf later, item.key ≠ id.canonical := by
  have orderly := fresh.orderly.run calls
  have always : Along (fun _ _ => True) engine calls := along_of_forall (fun _ _ => trivial) engine
  have start : Journaled engine.ledger.books.journal [] engine :=
    ⟨[], (List.append_nil _).symm, rfl, rfl, rfl⟩
  obtain ⟨once, journaled⟩ := @run_preserves (fun _ _ => True)
    (fun news engine' => SettledOnce news engine' ∧
      Journaled engine.ledger.books.journal news engine')
    (fun origin call _ before later after news step orderly ⟨once, journaled⟩ =>
      ⟨step.settledOnce orderly.tidy once, step.journaled orderly journaled⟩)
    engine fresh.orderly calls always [] ⟨settledOnce_nil engine, start⟩
  refine ⟨orderly.tellsSuccess, once.created, once.settled, journaled, ?_, ?_⟩
  · intro id record later found terminal
    exact orderly.lastRecord_run found terminal later
  · intro id later usable gone
    obtain ⟨stillGone, unheard⟩ := orderly.pruned_run gone later
    have still := orderly.run later
    refine ⟨?_, ?_, unheard⟩
    · intro settling
      exact ⟨_, still.perform_settle_of_pruned usable stillGone settling, rfl⟩
    · intro request same chosen
      exact perform_create_of_pruned (same ▸ chosen) (same ▸ stillGone)

/-- The transfer of the small market that was pruned can neither be settled nor created again. -/
theorem pruned_sample :
    (createdKeys (sampleEngine.newsOf sampleCalls)).Nodup ∧
      (settledKeys (sampleEngine.newsOf sampleCalls)).Nodup ∧
      (∃ refusal,
        (sampleEngine.run sampleCalls).perform (.settle (.text "t1") (.cancel (.text "alice"))) =
            (sampleEngine.run sampleCalls, .error (.refused refusal)) ∧
          refusal.cause.kind = .inactiveTransfer) ∧
      ∃ problem,
        ((sampleEngine.run sampleCalls).perform (.create (sampleRequest "t1" 5))).2 =
          .error problem := by
  obtain ⟨-, created, settled, -, -, afterwards⟩ :=
    settled_once_of_run isFresh_sample sampleCalls
  have gone : (sampleEngine.run sampleCalls).pruned.contains (.text "t1") := by decide +kernel
  obtain ⟨refused, unused, -⟩ := afterwards (.text "t1") [] rfl gone
  exact ⟨created, settled, refused _, unused (sampleRequest "t1" 5) rfl rfl⟩

end Engine
end Escrow
