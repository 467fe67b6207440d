import Escrow.Proofs.Engine.Forgetting

/-!
# Pruning changes nothing but the register

Two runs that differ only in when they prune.  The engine that has pruned more is always the other
one without some archived records, whatever is called, so no caller can tell the two apart by what
becomes of a transfer.
-/

namespace Escrow
namespace Engine

variable {full : Engine} {pruned : Table Value Transfer} {call : Call}

/-- The second engine is the first one after further prunes. -/
structure Forgets (full thin : Engine) : Prop where
  may : full.MayForget thin.pruned
  thin_eq : thin = full.without thin.pruned

/-! ## Prunes -/

/-- Is there an archived record under the key? -/
def isFinished (engine : Engine) (key : Value) : Bool :=
  (engine.transfers.get? key).any fun transfer => transfer.isArchived

private theorem isFinished_iff {engine : Engine} {key : Value} :
    engine.isFinished key ↔
      ∃ transfer, engine.transfers.get? key = some transfer ∧ transfer.isArchived := by
  unfold isFinished
  cases engine.transfers.get? key <;> simp

private theorem contains_pruned_prune (engine : Engine) (key : Value) :
    engine.prune.pruned.contains key = (engine.pruned.contains key || engine.isFinished key) := by
  unfold Table.contains isFinished
  rw [get?_pruned_prune]
  cases engine.transfers.get? key with
  | none => simp
  | some transfer => cases archived : transfer.isArchived <;> simp [archived]

/-- What is pruned when records have been dropped: their ids, and those of the archived ones. -/
theorem contains_pruned_prune_without (engine : Engine) (key : Value) :
    (engine.without pruned).prune.pruned.contains key =
      (pruned.contains key || engine.isFinished key) := by
  rw [contains_pruned_prune]
  change (pruned.contains key || _) = _
  cases gone : pruned.contains key with
  | false => simp only [isFinished, engine.get?_without_of_kept gone]
  | true => rfl

private theorem transfers_prune_without (engine : Engine) :
    (engine.without pruned).prune.transfers =
      engine.transfers.filter fun key transfer =>
        !pruned.contains key && !transfer.isArchived :=
  engine.transfers.filter_filter (fun key _ => !pruned.contains key)
    fun _ transfer => !transfer.isArchived

private theorem eq_without {thin : Engine}
    (rest : thin = { full with transfers := thin.transfers, pruned := thin.pruned })
    (transfers : thin.transfers =
      full.transfers.filter fun key _ => !thin.pruned.contains key) :
    thin = full.without thin.pruned := by
  rw [without, ← transfers]
  exact rest

/-- A prune may be made in the one engine and not in the other. -/
theorem MayForget.prune (forget : full.MayForget pruned) :
    Forgets full (full.without pruned).prune := by
  refine ⟨⟨?_, ?_⟩, ?_⟩
  · intro key gone
    rw [contains_pruned_prune_without, forget.keeps key gone, Bool.true_or]
  · intro key gone
    rw [contains_pruned_prune_without, Bool.or_eq_true] at gone
    rcases gone with before | finished
    · exact forget.archived key before
    · exact .inr (isFinished_iff.mp finished)
  · apply eq_without rfl
    rw [transfers_prune_without]
    apply Table.filter_congr
    intro key transfer found
    rw [contains_pruned_prune_without, isFinished, found, Option.any_some, Bool.not_or]

/-- A prune may be made in both engines. -/
theorem MayForget.prune_both (forget : full.MayForget pruned) :
    Forgets full.prune (full.without pruned).prune := by
  have same_keys (key : Value) : (full.without pruned).prune.pruned.contains key =
      full.prune.pruned.contains key := by
    rw [contains_pruned_prune_without, contains_pruned_prune]
    cases gone : pruned.contains key with
    | false => rw [forget.unpruned gone]
    | true =>
        rcases forget.archived key gone with before | archived
        · rw [before, Bool.true_or]
        · rw [isFinished_iff.mpr archived, Bool.or_true, Bool.or_true]
  refine ⟨⟨?_, ?_⟩, ?_⟩
  · intro key gone
    rw [same_keys, gone]
  · intro key gone
    rw [same_keys] at gone
    exact .inl gone
  · apply eq_without rfl
    have kept := full.transfers.filter_filter (fun _ transfer => !transfer.isArchived)
      fun key _ => !(full.without pruned).prune.pruned.contains key
    rw [transfers_prune_without]
    refine Eq.trans (Table.filter_congr ?_) kept.symm
    intro key transfer found
    rw [contains_pruned_prune_without, isFinished, found, Option.any_some]
    cases pruned.contains key <;> cases transfer.isArchived <;> rfl

/-! ## Calls -/

/-- How the answers to a call compare when the second engine has dropped the records of some ids: a
dropped transfer is settled by neither and archived no more by the second, and all else is answered
alike. -/
def AnswersAlike (pruned : Table Value Transfer) (call : Call) (full thin : Answer Reply) : Prop :=
  match call with
  | .settle id _ =>
    if pruned.contains id.canonical then full.isOk = false ∧ thin.isOk = false else thin = full
  | .archive id => if pruned.contains id.canonical then thin.isOk = false else thin = full
  | .prune => True
  | _ => thin = full

/-- What a call leads to when records have been dropped. -/
structure Echoes (pruned : Table Value Transfer) (call : Call) (full thin : Engine × Answer Reply) :
    Prop where
  engines : thin.1 = full.1.without pruned
  answers : AnswersAlike pruned call full.2 thin.2

private theorem changed_without (engine : Engine) (pruned : Table Value Transfer)
    (change : Answer Engine) :
    (engine.without pruned).changed (change.map fun next => next.without pruned) =
      ((engine.changed change).1.without pruned, (engine.changed change).2) := by
  cases change <;> rfl

private theorem updateFees_without (engine : Engine) (pruned : Table Value Transfer)
    (id caller : Value) (schedule : Schedule) :
    (engine.without pruned).updateFees id caller schedule =
      (engine.updateFees id caller schedule).map fun next => next.without pruned := by
  have pool_eq : (engine.without pruned).pool id = engine.pool id := rfl
  unfold updateFees
  rw [pool_eq]
  cases engine.pool id with
  | error problem => rfl
  | ok pool =>
      change (if (!caller.same pool.authority) = true then _ else _) =
        Except.map _ (if (!caller.same pool.authority) = true then _ else _)
      split <;> rfl

private theorem register_without (engine : Engine) (pruned : Table Value Transfer) (pool : Pool) :
    (engine.without pruned).register pool =
      (engine.register pool).map fun next => next.without pruned := by
  have pools_eq : (engine.without pruned).pools = engine.pools := rfl
  unfold register
  rw [pools_eq]
  rcases find? engine.pools pool.id with fault | found | found <;> rfl

private theorem onBooks_without (engine : Engine) (pruned : Table Value Transfer)
    (change : Books → Books × Answer Unit) :
    (engine.without pruned).onBooks change =
      ((engine.onBooks change).1.without pruned, (engine.onBooks change).2) := by
  have backing_eq : (engine.without pruned).ledger.backing = engine.ledger.backing := rfl
  unfold onBooks
  rw [backing_eq]
  cases engine.ledger.backing <;> rfl

/-- The writing of a dropped record is not seen. -/
theorem without_setTransfer_of_dropped (engine : Engine) {key : Value}
    (dropped : pruned.contains key = true) (transfer : Transfer) :
    ({ engine with transfers := engine.transfers.set key transfer } : Engine).without pruned =
      engine.without pruned := by
  have drops : (fun key => !pruned.contains key) key = false := by simp [dropped]
  unfold without
  dsimp only
  rw [@Table.filter_set_of_drop _ _ _ (fun key => !pruned.contains key) _ drops]

private theorem MayForget.perform_archive (forget : full.MayForget pruned) (id : Value) :
    Echoes pruned (.archive id) (full.perform (.archive id))
      ((full.without pruned).perform (.archive id)) := by
  unfold Engine.perform
  dsimp only
  cases dropped : pruned.contains id.canonical with
  | false =>
      rw [forget.archiveTransfer dropped]
      cases full.archiveTransfer id <;> exact ⟨rfl, by simp [AnswersAlike, dropped, Except.map]⟩
  | true =>
      have missed : ∃ problem, (full.without pruned).archiveTransfer id = .error problem := by
        cases archiving : (full.without pruned).archiveTransfer id with
        | error problem => exact ⟨problem, rfl⟩
        | ok done =>
            obtain ⟨transfer, found, -⟩ := archiveTransfer_eq_ok archiving
            rw [full.get?_without_of_dropped dropped] at found
            cases found
      obtain ⟨problem, missed⟩ := missed
      rw [missed]
      refine ⟨?_, by simp [AnswersAlike, dropped, Except.isOk, Except.toBool]⟩
      cases archiving : full.archiveTransfer id with
      | error problem => rfl
      | ok done =>
          obtain ⟨transfer, -, -, -, next_eq⟩ := archiveTransfer_eq_ok archiving
          dsimp only
          rw [next_eq, without_setTransfer_of_dropped full dropped]

private theorem MayForget.perform_settle (forget : full.MayForget pruned) (steady : full.Steady)
    (id : Value) (settling : SettlementCall) :
    Echoes pruned (.settle id settling) (full.perform (.settle id settling))
      ((full.without pruned).perform (.settle id settling)) := by
  unfold Engine.perform
  dsimp only
  cases dropped : pruned.contains id.canonical with
  | false =>
      rw [forget.serve steady dropped]
      exact ⟨rfl, by simp [AnswersAlike, dropped]⟩
  | true =>
      obtain ⟨⟨problem, failed⟩, other, missed⟩ :=
        forget.serve_of_dropped steady.toTidy dropped settling
      rw [failed, missed]
      exact ⟨rfl, by simp [AnswersAlike, dropped, Except.map, Except.isOk, Except.toBool]⟩

/-- A call leads from an engine without some records to where it leads from the whole one, without
those records. -/
theorem MayForget.perform (forget : full.MayForget pruned) (steady : full.Steady) (call : Call)
    (unpruning : call ≠ .prune) :
    Echoes pruned call (full.perform call) ((full.without pruned).perform call) := by
  cases call with
  | create request =>
      unfold Engine.perform
      dsimp only
      rw [forget.create steady]
      exact ⟨rfl, rfl⟩
  | settle id settling => exact forget.perform_settle steady id settling
  | updateFees id caller schedule =>
      unfold Engine.perform
      dsimp only
      rw [updateFees_without, changed_without]
      exact ⟨rfl, rfl⟩
  | register pool =>
      unfold Engine.perform
      dsimp only
      rw [register_without]
      cases full.register pool <;> exact ⟨rfl, rfl⟩
  | archive id => exact forget.perform_archive id
  | prune => exact absurd rfl unpruning
  | sweep pool caller =>
      unfold Engine.perform
      dsimp only
      rw [forget.sweep steady]
      exact ⟨rfl, rfl⟩
  | listen listener => exact ⟨rfl, rfl⟩
  | setClock clock => exact ⟨rfl, rfl⟩
  | advance micros =>
      have clock_eq : (full.without pruned).clock = full.clock := rfl
      unfold Engine.perform
      dsimp only
      rw [clock_eq]
      generalize full.clock.map (·.after? micros) = later
      rcases later with _ | _ | clock <;> exact ⟨rfl, rfl⟩
  | arm message =>
      unfold Engine.perform
      dsimp only
      rw [onBooks_without]
      exact ⟨rfl, rfl⟩
  | credit account amount =>
      unfold Engine.perform
      dsimp only
      rw [onBooks_without]
      exact ⟨rfl, rfl⟩
  | refuseNext message transfer => exact ⟨rfl, rfl⟩
  | script changes =>
      have backing_eq : (full.without pruned).ledger.backing = full.ledger.backing := rfl
      unfold Engine.perform onExchange
      dsimp only
      rw [backing_eq]
      cases full.ledger.backing <;> exact ⟨rfl, rfl⟩
  | closeArchive =>
      have archive_eq : (full.without pruned).archive = full.archive := rfl
      unfold Engine.perform closeArchive
      dsimp only
      rw [archive_eq]
      cases full.archive <;> exact ⟨rfl, rfl⟩

/-! ## Runs -/

/-- The second list of calls is the first one with prunes put in. -/
inductive PutsPrunes : List Call → List Call → Prop where
  | nil : PutsPrunes [] []
  | call (call : Call) {calls others : List Call} (rest : PutsPrunes calls others) :
      PutsPrunes (call :: calls) (call :: others)
  | prune {calls others : List Call} (rest : PutsPrunes calls others) :
      PutsPrunes calls (.prune :: others)

theorem Forgets.refl (tidy : full.Tidy) : Forgets full full := by
  refine ⟨⟨fun _ gone => gone, fun _ gone => .inl gone⟩, eq_without rfl ?_⟩
  have all : full.transfers.filter (fun _ _ => true) = full.transfers := by
    unfold Table.filter
    simp
  refine all.symm.trans (Table.filter_congr ?_)
  intro key transfer found
  simp [Table.contains, (tidy.transfers key transfer found).unpruned]

private theorem Forgets.perform {thin : Engine} (forgets : Forgets full thin) (steady : full.Steady)
    (call : Call) : Forgets (full.perform call).1 (thin.perform call).1 := by
  by_cases pruning : call = .prune
  · rw [pruning, forgets.thin_eq]
    exact forgets.may.prune_both
  · have echoes := forgets.may.perform steady call pruning
    rw [forgets.thin_eq, echoes.engines]
    exact ⟨(perform_passage steady call).mayForget pruning steady.toTidy forgets.may, rfl⟩

private theorem Forgets.run {thin : Engine} {calls others : List Call}
    (puts : PutsPrunes calls others) (forgets : Forgets full thin) (orderly : full.Orderly) :
    Forgets (full.run calls) (thin.run others) := by
  induction puts generalizing full thin with
  | nil => exact forgets
  | call call rest ih =>
      exact ih (forgets.perform orderly.steady call)
        ((perform_passage orderly.steady call).orderly orderly)
  | prune rest ih =>
      refine ih ?_ orderly
      rw [forgets.thin_eq]
      exact forgets.may.prune

private theorem settle_alike {thin : Engine} (forgets : Forgets full thin) (steady : full.Steady)
    (id : Value) (settling : SettlementCall) (reply : Reply) :
    (thin.perform (.settle id settling)).2 = .ok reply ↔
      (full.perform (.settle id settling)).2 = .ok reply := by
  have echoes := forgets.may.perform_settle steady id settling
  rw [← forgets.thin_eq] at echoes
  have answers := echoes.answers
  unfold AnswersAlike at answers
  dsimp only at answers
  split at answers
  · obtain ⟨failed, missed⟩ := answers
    constructor <;> intro succeeds
    · rw [succeeds] at missed
      cases missed
    · rw [succeeds] at failed
      cases failed
  · rw [answers]

/-- Prunes that are put into a run, at whatever points, are seen in the register only: creations,
settlements and changes of fees are answered as in the run without them, and the pools, the ledger
and the pending transfers are the same; the register has lost the records of the pruned ids. -/
theorem pruning_unseen_of_run {engine : Engine} (fresh : engine.IsFresh) {calls others : List Call}
    (puts : PutsPrunes calls others) :
    (∀ request, ((engine.run others).perform (.create request)).2 =
        ((engine.run calls).perform (.create request)).2) ∧
      (∀ id settling reply, ((engine.run others).perform (.settle id settling)).2 = .ok reply ↔
        ((engine.run calls).perform (.settle id settling)).2 = .ok reply) ∧
      (∀ id caller schedule, ((engine.run others).perform (.updateFees id caller schedule)).2 =
        ((engine.run calls).perform (.updateFees id caller schedule)).2) ∧
      (engine.run others).pools = (engine.run calls).pools ∧
      (engine.run others).ledger = (engine.run calls).ledger ∧
      (∀ pool, (engine.run others).pending pool = (engine.run calls).pending pool) ∧
      (engine.run others).transfers = (engine.run calls).transfers.filter fun key _ =>
        !(engine.run others).pruned.contains key := by
  have steady := (fresh.orderly.run calls).steady
  have forgets := (Forgets.refl fresh.orderly.tidy).run puts fresh.orderly
  have alike (call : Call) (unpruning : call ≠ .prune) : Echoes (engine.run others).pruned call
      ((engine.run calls).perform call) ((engine.run others).perform call) := by
    have echoes := forgets.may.perform steady call unpruning
    rwa [← forgets.thin_eq] at echoes
  refine ⟨?_, ?_, ?_, ?_, ?_, ?_, ?_⟩
  · intro request
    exact (alike (.create request) (by simp)).answers
  · intro id settling reply
    exact settle_alike forgets steady id settling reply
  · intro id caller schedule
    exact (alike (.updateFees id caller schedule) (by simp)).answers
  · exact (congrArg pools forgets.thin_eq).trans rfl
  · exact (congrArg ledger forgets.thin_eq).trans rfl
  · intro pool
    rw [← forgets.may.pending steady.toTidy pool, ← forgets.thin_eq]
  · exact (congrArg transfers forgets.thin_eq).trans rfl

/-- A transfer is accepted and archived before another one is created. -/
def sampleUnpruned : List Call :=
  [.register samplePool,
    .create (sampleRequest "t1" 300),
    .settle (.text "t1") (.accept (.text "olga")),
    .archive (.text "t1"),
    .create (sampleRequest "t2" 200)]

/-- The same with two prunes, the second of which has something to drop. -/
def samplePruned : List Call :=
  [.register samplePool,
    .prune,
    .create (sampleRequest "t1" 300),
    .settle (.text "t1") (.accept (.text "olga")),
    .archive (.text "t1"),
    .prune,
    .create (sampleRequest "t2" 200)]

/-- An id is refused after its transfer is pruned as it is before, and the settlement of the pending
transfer is the same. -/
theorem pruning_unseen_sample :
    PutsPrunes sampleUnpruned samplePruned ∧
      ((sampleEngine.run samplePruned).perform (.create (sampleRequest "t1" 300))).2 =
        ((sampleEngine.run sampleUnpruned).perform (.create (sampleRequest "t1" 300))).2 ∧
      (∀ reply, ((sampleEngine.run samplePruned).perform
          (.settle (.text "t2") (.accept (.text "olga")))).2 = .ok reply ↔
        ((sampleEngine.run sampleUnpruned).perform
          (.settle (.text "t2") (.accept (.text "olga")))).2 = .ok reply) ∧
      (sampleEngine.run sampleUnpruned).transfers.keys = [.text "t1", .text "t2"] ∧
      (sampleEngine.run samplePruned).transfers.keys = [.text "t2"] := by
  have puts : PutsPrunes sampleUnpruned samplePruned :=
    .call _ (.prune (.call _ (.call _ (.call _ (.prune (.call _ .nil))))))
  obtain ⟨creates, settles, -⟩ := pruning_unseen_of_run isFresh_sample puts
  refine ⟨puts, creates _, settles _ _, ?_, ?_⟩
  · decide +kernel
  · decide +kernel

end Engine
end Escrow
