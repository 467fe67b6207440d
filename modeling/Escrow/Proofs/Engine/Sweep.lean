import Escrow.Proofs.Engine.Expiry
import Escrow.Proofs.Engine.Reconciliation

/-!
# Sweeps

A sweep attempts every overdue transfer once, in the order of creation.  No attempt gets in the way of
the ones that follow, because it leaves an engine that can be swept further, in which the other
transfers are overdue as before; so what single attempts do adds up to what the sweep does, and when
nothing had to be noted, nothing is overdue any more.
-/

namespace Escrow
namespace Engine

variable {origin before between after engine : Engine} {call : Call} {news later : List News}
  {pool caller : Value} {transfer : Transfer} {time : Instant} {errors : List ErrorRow}
  {expiry : Expiry} {due : List Transfer} {expiries : List Expiry}

/-! ## One attempt after another -/

/-- What becomes of a transfer may be told from an earlier engine, of which the pools kept the
terms. -/
theorem Ends.earlier (ends : Ends time between after transfer expiry)
    (pools : ∀ key pool, between.pools.get? key = some pool →
      ∃ old, before.pools.get? key = some old ∧ pool.Continues old ∧
        pool.schedule = old.schedule) :
    Ends time before after transfer expiry := by
  cases ends with
  | expired pool_found event_eq refunded found continues settled =>
      obtain ⟨old, registered, terms, schedule_eq⟩ := pools _ _ pool_found
      rw [terms.id_eq, schedule_eq] at event_eq
      rw [terms.custody_eq, terms.asset_eq, schedule_eq] at refunded
      exact .expired registered event_eq refunded found continues settled
  | kept row found => exact .kept row found

/-- What has become of a transfer stays, as long as its record does. -/
theorem Ends.lasts (ends : Ends time before between transfer expiry)
    (same : after.transfers.get? transfer.id.canonical =
      between.transfers.get? transfer.id.canonical) : Ends time before after transfer expiry := by
  cases ends with
  | expired pool_found event_eq refunded found continues settled =>
      exact .expired pool_found event_eq refunded (same.trans found) continues settled
  | kept row found => exact .kept row (same.trans found)

theorem Brought.nil (holds : engine.HoldsErrors errors) : Brought time errors engine engine [] [] := by
  refine ⟨.nil, fun _ _ => rfl, ?_, (List.append_nil _).symm, ?_, ?_⟩
  · exact fun key pool there => ⟨pool, there, .refl pool, rfl⟩
  · intro account held whole
    have nothing : gainOf account (([] : List Expiry).filterMap Expiry.refund?) = 0 := rfl
    rw [nothing, Int.add_zero]
    exact whole
  · exact (List.append_nil errors).symm ▸ holds

/-- An attempt and the attempts that follow it, on other transfers. -/
theorem Brought.cons (first : Brought time errors before between [transfer] [expiry])
    (rest : Brought time (errors ++ [expiry].filterMap Expiry.row?) between after due expiries)
    (apart : ∀ other ∈ due, other.id.canonical ≠ transfer.id.canonical) :
    Brought time errors before after (transfer :: due) (expiry :: expiries) := by
  have rows : (expiry :: expiries).filterMap Expiry.row? =
      [expiry].filterMap Expiry.row? ++ expiries.filterMap Expiry.row? :=
    List.filterMap_append (l := [expiry])
  have refunds : (expiry :: expiries).filterMap Expiry.refund? =
      [expiry].filterMap Expiry.refund? ++ expiries.filterMap Expiry.refund? :=
    List.filterMap_append (l := [expiry])
  constructor
  · obtain ⟨own, -⟩ := List.forall₂_cons.mp first.ends
    exact .cons (own.lasts (rest.others _ apart)) (rest.ends.imp fun _ _ ends =>
      ends.earlier first.pools)
  · intro key others
    rw [List.forall_mem_cons] at others
    rw [rest.others key others.2]
    exact first.others key (by simpa using others.1)
  · intro key pool there
    obtain ⟨kept, between_there, terms, schedule_eq⟩ := rest.pools key pool there
    obtain ⟨old, before_there, older, same⟩ := first.pools key kept between_there
    exact ⟨old, before_there, terms.trans older, schedule_eq.trans same⟩
  · rw [rest.journal, first.journal, refunds, List.append_assoc]
  · intro account held whole
    rw [rest.balances account _ (first.balances account held whole), refunds, gainOf_append,
      Int.add_assoc]
  · rw [rows, ← List.append_assoc]
    exact rest.holds

private theorem isDue_of_reading (same : after.reading = before.reading)
    (due : before.isDue transfer) :
    after.isDue transfer := by
  unfold isDue at due ⊢
  rwa [same]

/-- An overdue transfer is still overdue when another one was attempted. -/
theorem Brought.isOverdue {other : Transfer}
    (brought : Brought time errors before after [transfer] [expiry])
    (same : after.reading = before.reading) (overdue : before.IsOverdue other)
    (apart : other.id.canonical ≠ transfer.id.canonical) : after.IsOverdue other := by
  refine ⟨?_, overdue.pending, isDue_of_reading same overdue.due⟩
  rw [brought.others _ (by simpa using apart.symm)]
  exact overdue.found

/-- The first of the transfers is attempted, and the sweep goes on with the others. -/
structure GoesOn (engine : Engine) (caller : Value) (transfer : Transfer) (expiry : Expiry)
    (next : Engine) : Prop where
  brings : Attempt.Brings ⟨engine, transfer.id, .expire caller⟩ expiry
  attempts : ∀ rest, engine.sweepAttempts caller (transfer.id :: rest) =
    ⟨engine, transfer.id, .expire caller⟩ :: next.sweepAttempts caller rest
  sweeps : ∀ rest after events, next.sweepEach caller rest = (after, .ok events) →
    engine.sweepEach caller (transfer.id :: rest) =
      (after, .ok (expiry.event?.toList ++ events))

private theorem goesOn_of_expired {event : Event}
    (served : engine.serve transfer.id (.expire caller) = (between, .ok event))
    (refund : JournalEntry) : GoesOn engine caller transfer (.expired event refund) between := by
  refine ⟨.expired refund (congrArg Prod.snd served), ?_, ?_⟩
  · intro rest
    rw [sweepAttempts, served]
  · intro rest after events swept
    rw [Engine.sweepEach, served]
    dsimp only
    rw [swept]
    rfl

private theorem goesOn_of_kept {refusal : Refusal} {row : ErrorRow}
    (served : engine.serve transfer.id (.expire caller) = (between, .error (.refused refusal)))
    (recorded : between.recordRefusal transfer.id refusal = (after, .ok true))
    (notes : row.Notes transfer.id refusal) : GoesOn engine caller transfer (.kept row) after := by
  refine ⟨.kept (congrArg Prod.snd served) notes, ?_, ?_⟩
  · intro rest
    rw [sweepAttempts, served]
    dsimp only
    rw [recorded]
  · intro rest last events swept
    rw [Engine.sweepEach, served]
    dsimp only
    rw [recorded]
    exact swept

/-- An attempt on an overdue transfer comes to one of its two ends, and leaves an engine that can be
swept further. -/
theorem Sweepable.attempt (sweepable : engine.Sweepable time) (holds : engine.HoldsErrors errors)
    (overdue : engine.IsOverdue transfer) (caller : Value) :
    ∃ expiry next, GoesOn engine caller transfer expiry next ∧
      Brought time errors engine next [transfer] [expiry] ∧ next.Sweepable time := by
  obtain ⟨pool, allows⟩ := sweepable.allows overdue caller
  have passage := serve_passage engine (.sweep .null caller) sweepable.solid.orderly.steady
    transfer.id (.expire caller)
  rcases moved : engine.ledger.move (payoutMove transfer pool expiration) engine.now with
    ⟨ledger, problem | reference⟩
  · obtain ⟨refusal, archive, row, served, recorded, notes, held⟩ :=
      sweepable.stays holds allows moved
    rw [served] at passage
    have noted := writeArchive_passage engine (.sweep .null caller) engine.disarmed
      fun archive => archive.writeError transfer.id (.text refusal.cause.kind.code)
        (refusal.cause.given Fault.describe) engine.disarmed.now
    have written : (engine.disarmed.recordRefusal transfer.id refusal).1 =
        { engine.disarmed with archive := some archive } := congrArg Prod.fst recorded
    exact ⟨_, _, goesOn_of_kept served recorded notes,
      brought_kept sweepable.solid.orderly.onBooks overdue.found held,
      written ▸ (passage.trans noted).sweepable sweepable⟩
  · obtain ⟨next, event, refund, served, brought⟩ := sweepable.expires holds allows moved
    rw [served] at passage
    exact ⟨_, next, goesOn_of_expired served refund, brought, passage.sweepable sweepable⟩

/-- Transfers that are overdue are attempted one after another, each of them once. -/
theorem Sweepable.sweepEach (sweepable : engine.Sweepable time) (holds : engine.HoldsErrors errors)
    (distinct : (due.map (·.id.canonical)).Nodup)
    (overdue : ∀ transfer ∈ due, engine.IsOverdue transfer) (caller : Value) :
    ∃ after expiries,
      engine.sweepEach caller (due.map (·.id)) = (after, .ok (expiries.filterMap Expiry.event?)) ∧
        (engine.sweepAttempts caller (due.map (·.id))).map
            (fun attempt => (attempt.id, attempt.call)) =
          due.map (fun transfer => (transfer.id, .expire caller)) ∧
        List.Forall₂ Attempt.Brings (engine.sweepAttempts caller (due.map (·.id))) expiries ∧
        Brought time errors engine after due expiries ∧ after.Sweepable time := by
  induction due generalizing engine errors with
  | nil => exact ⟨engine, [], rfl, rfl, .nil, .nil holds, sweepable⟩
  | cons transfer due ih =>
      rw [List.map_cons, List.nodup_cons] at distinct
      rw [List.forall_mem_cons] at overdue
      have apart : ∀ other ∈ due, other.id.canonical ≠ transfer.id.canonical := by
        intro other member same
        exact distinct.1 (List.mem_map.mpr ⟨other, member, same⟩)
      obtain ⟨expiry, next, goesOn, first, stands⟩ := sweepable.attempt holds overdue.1 caller
      have same : next.reading = engine.reading := stands.shows.trans sweepable.shows.symm
      obtain ⟨after, expiries, swept, asked, brings, rest, stands⟩ :=
        ih stands first.holds distinct.2 fun other member =>
          first.isOverdue same (overdue.2 other member) (apart other member)
      refine ⟨after, expiry :: expiries, ?_, ?_, ?_, first.cons rest apart, stands⟩
      · rw [List.map_cons, goesOn.sweeps _ _ _ swept]
        cases expiry <;> rfl
      · rw [List.map_cons, goesOn.attempts, List.map_cons, asked, List.map_cons]
      · rw [List.map_cons, goesOn.attempts]
        exact .cons goesOn.brings brings

/-! ## What is overdue -/

private theorem mem_pending : transfer ∈ engine.pending pool ↔
    transfer ∈ engine.transfers.values ∧ transfer.isActive ∧
      (pool = .null ∨ transfer.pool.same pool) := by
  simp [pending]

private theorem Orderly.found_of_mem (orderly : engine.Orderly)
    (member : transfer ∈ engine.transfers.values) :
    engine.transfers.get? transfer.id.canonical = some transfer := by
  obtain ⟨key, found⟩ := Table.mem_values_iff.mp member
  rwa [(orderly.transfers key transfer found).id_eq]

/-- The overdue transfers of a pool, or of all. -/
def dueIn (engine : Engine) (pool : Value) : List Transfer :=
  (engine.pending pool).filter engine.isDue

private theorem Orderly.isOverdue (orderly : engine.Orderly)
    (member : transfer ∈ engine.dueIn pool) :
    engine.IsOverdue transfer := by
  obtain ⟨pends, due⟩ := List.mem_filter.mp member
  obtain ⟨there, pending, -⟩ := mem_pending.mp pends
  exact ⟨orderly.found_of_mem there, pending, due⟩

/-- The registered transfers are listed in the order of their keys. -/
theorem Orderly.map_values (orderly : engine.Orderly) :
    engine.transfers.values.map (·.id.canonical) = engine.transfers.keys := by
  unfold Table.values Table.keys
  rw [List.map_map]
  apply List.map_congr_left
  rintro ⟨key, transfer⟩ member
  exact (orderly.transfers key transfer (Table.mem_entries_iff.mp member)).id_eq

private theorem Orderly.dueIn_sublist (orderly : engine.Orderly) (pool : Value) :
    ((engine.dueIn pool).map (·.id.canonical)).Sublist engine.transfers.keys := by
  rw [← orderly.map_values]
  exact (List.filter_sublist.trans List.filter_sublist).map _

/-- Where every deadline and the clock have a zone, the deadlines can be compared. -/
theorem Sweepable.overdue_eq (sweepable : engine.Sweepable time) (pool : Value) :
    engine.overdue pool = .ok (engine.dueIn pool) := by
  have passes : ∀ transfer ∈ engine.pending pool,
      transfer.isExpired (some time) = .ok (engine.isDue transfer) := by
    intro transfer member
    have found := sweepable.solid.orderly.found_of_mem (mem_pending.mp member).1
    unfold Transfer.isExpired deadlinePassed isDue
    rw [sweepable.shows]
    cases expires : transfer.expiresAt with
    | none => rfl
    | some deadline =>
        have zoned := sweepable.zones _ transfer deadline found expires
        simp [Instant.atOrBefore?, zoned, sweepable.zoned]
  unfold overdue
  rw [sweepable.shows]
  exact filterM_eq passes

private theorem Sweepable.sweep (sweepable : engine.Sweepable time)
    (holds : engine.HoldsErrors errors) (pool caller : Value) :
    ∃ after expiries,
      engine.sweep pool caller = (after, .ok (expiries.filterMap Expiry.event?)) ∧
        (engine.attemptsOf (.sweep pool caller)).map (fun attempt => (attempt.id, attempt.call)) =
          (engine.dueIn pool).map (fun transfer => (transfer.id, .expire caller)) ∧
        List.Forall₂ Attempt.Brings (engine.attemptsOf (.sweep pool caller)) expiries ∧
        Brought time errors engine after (engine.dueIn pool) expiries ∧ after.Sweepable time := by
  have orderly := sweepable.solid.orderly
  have distinct := (orderly.dueIn_sublist pool).nodup engine.transfers.nodup
  obtain ⟨after, expiries, swept, rest⟩ :=
    sweepable.sweepEach holds distinct (fun _ => orderly.isOverdue) caller
  obtain ⟨archive, there, -⟩ := holds
  refine ⟨after, expiries, ?_, ?_⟩
  · unfold Engine.sweep
    rw [there, sweepable.overdue_eq pool]
    exact swept
  · have attempts_eq : engine.attemptsOf (.sweep pool caller) =
        engine.sweepAttempts caller ((engine.dueIn pool).map (·.id)) := by
      simp only [attemptsOf, there, sweepable.overdue_eq pool]
    rw [attempts_eq]
    exact rest

private theorem exists_of_forall₂ {α β : Type} {relates : α → β → Prop} {left : List α}
    {right : List β} (related : List.Forall₂ relates left right) {item : α} (member : item ∈ left) :
    ∃ other ∈ right, relates item other := by
  induction related with
  | nil => cases member
  | cons first rest ih =>
      rcases List.mem_cons.mp member with rfl | later
      · exact ⟨_, List.mem_cons_self, first⟩
      · obtain ⟨other, among, relates⟩ := ih later
        exact ⟨other, List.mem_cons_of_mem _ among, relates⟩

/-- A transfer that was attempted without a row to show for it is no longer pending. -/
theorem Brought.not_active (brought : Brought time errors before after due expiries)
    (unhindered : expiries.filterMap Expiry.row? = []) {other record : Transfer}
    (member : other ∈ due) (found : after.transfers.get? other.id.canonical = some record) :
    record.isActive = false := by
  obtain ⟨expiry, among, ends⟩ := exists_of_forall₂ brought.ends member
  cases ends with
  | expired pool_found event_eq refunded there continues settled =>
      obtain rfl := Option.some.inj (there.symm.trans found)
      have terminal := other.isTerminal_settledBy expiration time
      rw [← settled.status_eq] at terminal
      exact Progress.isActive_of_isTerminal terminal
  | kept row there =>
      have noted : row ∈ expiries.filterMap Expiry.row? :=
        List.mem_filterMap.mpr ⟨_, among, rfl⟩
      rw [unhindered] at noted
      cases noted

/-- When nothing stood in the way of a sweep, nothing is overdue at the same time. -/
theorem Brought.dueIn_eq_nil (brought : Brought time errors before after (before.dueIn pool) expiries)
    (unhindered : expiries.filterMap Expiry.row? = []) (orderly : after.Orderly)
    (same : before.reading = after.reading) : after.dueIn pool = [] := by
  rw [List.eq_nil_iff_forall_not_mem]
  intro transfer member
  obtain ⟨found, pending, due⟩ := orderly.isOverdue member
  by_cases attempted : ∃ other ∈ before.dueIn pool, other.id.canonical = transfer.id.canonical
  · obtain ⟨other, among, key_eq⟩ := attempted
    have settled := brought.not_active unhindered among (key_eq ▸ found)
    rw [pending] at settled
    cases settled
  · have untouched : ∀ other ∈ before.dueIn pool, other.id.canonical ≠ transfer.id.canonical := by
      intro other among key_eq
      exact attempted ⟨other, among, key_eq⟩
    rw [brought.others _ untouched] at found
    obtain ⟨-, -, ofPool⟩ := mem_pending.mp (List.mem_filter.mp member).1
    have pends := mem_pending.mpr ⟨Table.mem_values_iff.mpr ⟨_, found⟩, pending, ofPool⟩
    exact untouched transfer (List.mem_filter.mpr ⟨pends, isDue_of_reading same due⟩) rfl

/-- A sweep that finds nothing overdue does nothing. -/
theorem Sweepable.sweep_of_nil (sweepable : engine.Sweepable time)
    (holds : engine.HoldsErrors errors) (nothing : engine.dueIn pool = []) (caller : Value) :
    engine.sweep pool caller = (engine, .ok []) := by
  obtain ⟨archive, there, -⟩ := holds
  unfold Engine.sweep
  rw [there, sweepable.overdue_eq pool, nothing]
  rfl

/-! ## The order of creation -/

/-- Transfers are registered in the order of their creation. -/
theorem Step.keys_sublist (step : Step origin call before later after)
    (ordered : before.transfers.keys.Sublist (createdKeys news)) :
    after.transfers.keys.Sublist (createdKeys (news ++ later)) := by
  rw [createdKeys_append]
  have wider := List.sublist_append_left (createdKeys news) (createdKeys later)
  cases step with
  | deposit asked drawn admits moved booking =>
      rw [Table.keys_set_of_absent admits.unused]
      exact ordered.append (.refl _)
  | settlement allows moved booking timely =>
      rw [Table.keys_set_of_get? allows.transfer_found]
      exact ordered.trans wider
  | archive found terminal =>
      rw [Table.keys_set_of_get? found]
      exact ordered.trans wider
  | prune asked =>
      have kept := (List.filter_sublist (l := origin.transfers.entries)
        (p := fun pair => !pair.2.isArchived)).map Prod.fst
      exact (kept.trans ordered).trans wider
  | _ => exact ordered.trans wider

private theorem IsFresh.keys_sublist_run (fresh : engine.IsFresh) (calls : List Call) :
    (engine.run calls).transfers.keys.Sublist (createdKeys (engine.newsOf calls)) := by
  have always : Along (fun _ _ => True) engine calls := along_of_forall (fun _ _ => trivial) engine
  have start : engine.transfers.keys.Sublist (createdKeys []) := by
    rw [fresh.transfers]
    exact .refl []
  exact @run_preserves (fun _ _ => True)
    (fun news engine => engine.transfers.keys.Sublist (createdKeys news))
    (fun origin call _ before news after past step _ ordered => step.keys_sublist ordered)
    engine fresh.orderly calls always [] start

/-- What a fresh engine goes through, the clock apart, leaves it ready to be swept. -/
theorem IsFresh.sweepable_run (fresh : engine.IsFresh) (unarmed : engine.ledger.isArmed = false)
    (integers : engine.ledger.books.HasIntegers) {calls : List Call}
    (names : ∀ call ∈ calls, call.NamesKeys) (whole : ∀ call ∈ calls, CreditsWhole call)
    (speaks : ∀ call ∈ calls, call.IsWorded)
    (unused : ∀ pool, .register pool ∈ calls → pool.IsUnused)
    (timely : (engine.run calls).TellsTime) (shows : (engine.run calls).reading = .ok (some time))
    (zoned : time.offset.isSome) : (engine.run calls).Sweepable time :=
  { solid := (fresh.solid integers.hasNumbers).run names
    integers := fresh.orderly.hasIntegers_run whole integers
    accounts := ⟨_, fresh.accounts_run unused⟩
    zones := fresh.hasZones_run calls
    worded := fresh.isWorded_run unarmed speaks
    timely := timely
    shows := shows
    zoned := zoned }

/-- From a fresh engine on, as long as what the ledger says can be encoded, a sweep of an engine with
an open archive returns.  It attempts every overdue transfer of the pool, or of all, once, in the order
of creation; each of them expires, is refunded and is told of in its place, or stays as it is and is
noted with the id and the refusal, and nothing else happens to records, journal, balances and errors.
If nothing had to be noted, a second sweep at the same time does nothing. -/
theorem swept_of_run (fresh : engine.IsFresh) (unarmed : engine.ledger.isArmed = false)
    (integers : engine.ledger.books.HasIntegers) {calls : List Call}
    (names : ∀ call ∈ calls, call.NamesKeys) (whole : ∀ call ∈ calls, CreditsWhole call)
    (speaks : ∀ call ∈ calls, call.IsWorded)
    (unused : ∀ pool, .register pool ∈ calls → pool.IsUnused)
    (timely : (engine.run calls).TellsTime) (shows : (engine.run calls).reading = .ok (some time))
    (zoned : time.offset.isSome) (holds : (engine.run calls).HoldsErrors errors)
    (pool caller : Value) :
    (((engine.run calls).dueIn pool).map (·.id.canonical)).Nodup ∧
      (((engine.run calls).dueIn pool).map (·.id.canonical)).Sublist
        (createdKeys (engine.newsOf calls)) ∧
      ∃ after expiries,
        (engine.run calls).sweep pool caller = (after, .ok (expiries.filterMap Expiry.event?)) ∧
        ((engine.run calls).attemptsOf (.sweep pool caller)).map
            (fun attempt => (attempt.id, attempt.call)) =
          ((engine.run calls).dueIn pool).map (fun transfer => (transfer.id, .expire caller)) ∧
        List.Forall₂ Attempt.Brings ((engine.run calls).attemptsOf (.sweep pool caller)) expiries ∧
        Brought time errors (engine.run calls) after ((engine.run calls).dueIn pool) expiries ∧
        (expiries.filterMap Expiry.row? = [] →
          ∀ caller, after.sweep pool caller = (after, .ok [])) := by
  have sweepable :=
    fresh.sweepable_run unarmed integers names whole speaks unused timely shows zoned
  have listed := sweepable.solid.orderly.dueIn_sublist pool
  obtain ⟨after, expiries, swept, asked, brings, brought, stands⟩ :=
    sweepable.sweep holds pool caller
  refine ⟨listed.nodup (engine.run calls).transfers.nodup,
    listed.trans (fresh.keys_sublist_run calls), after, expiries, swept, asked, brings, brought, ?_⟩
  intro unhindered caller
  have same : (engine.run calls).reading = after.reading := shows.trans stands.shows.symm
  have nothing := brought.dueIn_eq_nil unhindered stands.solid.orderly same
  exact stands.sweep_of_nil brought.holds nothing caller

/-- At one o'clock two transfers of Alice can be expired, and the ledger is told to fail once, with a
message. -/
def sampleLapse (message : String) : List Call :=
  [.register samplePool,
    .create { sampleRequest "t1" 100 with expiresAt := .moment sampleDeadline },
    .create { sampleRequest "t2" 200 with expiresAt := .moment sampleDeadline },
    .setClock (some sampleDeadline),
    .arm (.text message)]

/-- Half of a surrogate pair, as a message. -/
def sampleHalf : String := String.singleton (Text.ofCode 0xd800)

/-- What cannot be encoded cannot be noted: when the ledger says half of a surrogate pair about the
first of two overdue transfers, the sweep ends there, nothing is noted, and both stay pending. -/
theorem unswept_sample :
    ((sampleOffice.run (sampleLapse sampleHalf)).dueIn .null).map (·.id) =
        [.text "t1", .text "t2"] ∧
      ((sampleOffice.run (sampleLapse sampleHalf)).sweep .null (.text sweeperName)).2 =
        .error (.fault .unencodable) ∧
      (((sampleOffice.run (sampleLapse sampleHalf)).sweep .null (.text sweeperName)).1.pending
        .null).map (·.id) = [.text "t1", .text "t2"] ∧
      ((sampleOffice.run (sampleLapse sampleHalf)).sweep .null
        (.text sweeperName)).1.archive.map (·.store.errors) = some [] := by
  decide +kernel

private theorem isWorded_create_sample {id : String} (clear : Text.hasHalf id = false)
    (amount : Int) :
    (Call.create { sampleRequest id amount with expiresAt := .moment sampleDeadline }).IsWorded := by
  refine ⟨?_, by simp, by simp, by simp⟩
  rintro request ⟨⟩ -
  exact Value.isLegible_text clear

private theorem isWorded_sample : ∀ call ∈ sampleLapse "down", call.IsWorded := by
  simp only [sampleLapse, List.forall_mem_cons, List.not_mem_nil, false_implies, implies_true,
    and_true]
  refine ⟨⟨by simp, ?_, by simp, by simp⟩, isWorded_create_sample (by decide +kernel) _,
    isWorded_create_sample (by decide +kernel) _, ⟨by simp, by simp, by simp, by simp⟩,
    ⟨by simp, by simp, ?_, by simp⟩⟩
  · rintro pool ⟨⟩
    exact ⟨Value.isLegible_text (by decide +kernel), Value.isLegible_text (by decide +kernel)⟩
  · rintro message ⟨⟩ -
    exact Value.isLegible_text (by decide +kernel)

private theorem namesKeys_lapse : ∀ call ∈ sampleLapse "down", call.NamesKeys := by
  have offered (id : String) (amount : Int) : (Call.create
      { sampleRequest id amount with expiresAt := .moment sampleDeadline }).NamesKeys := by
    refine ⟨?_, by simp⟩
    rintro request ⟨⟩
    exact ⟨rfl, rfl⟩
  simp only [sampleLapse, List.forall_mem_cons, List.not_mem_nil, false_implies, implies_true,
    and_true]
  exact ⟨namesKeys_register_sample, offered _ _, offered _ _, ⟨by simp, by simp⟩,
    ⟨by simp, by simp⟩⟩

/-- When the ledger is down for the first of the two transfers, the second one expires all the same:
Alice gets 198 dollars back, and one row notes the failure. -/
theorem swept_sample :
    ∃ after expiries,
      (sampleOffice.run (sampleLapse "down")).sweep .null (.text sweeperName) =
          (after, .ok (expiries.filterMap Expiry.event?)) ∧
        Brought sampleDeadline [] (sampleOffice.run (sampleLapse "down")) after
          ((sampleOffice.run (sampleLapse "down")).dueIn .null) expiries ∧
        ((sampleOffice.run (sampleLapse "down")).dueIn .null).map (·.id) =
          [.text "t1", .text "t2"] ∧
        (expiries.filterMap Expiry.event?).map (fun event => (event.transfer, event.net)) =
          [(.text "t2", 198)] := by
  have fresh : sampleOffice.IsFresh := ⟨rfl, rfl, rfl, rfl⟩
  have whole : ∀ call ∈ sampleLapse "down", CreditsWhole call := by
    simp [sampleLapse, CreditsWhole]
  have unused : ∀ pool, .register pool ∈ sampleLapse "down" → pool.IsUnused := by
    intro pool member
    simp only [sampleLapse, List.mem_cons, Call.register.injEq, List.not_mem_nil, reduceCtorEq,
      or_false] at member
    rw [member]
    exact isUnused_sample
  have timely : (sampleOffice.run (sampleLapse "down")).TellsTime :=
    ⟨sampleDeadline, by decide +kernel⟩
  have kept : (sampleOffice.run (sampleLapse "down")).archive.any (fun archive =>
      archive.isOpen && decide (archive.store.errors = [])) = true := by
    decide +kernel
  obtain ⟨archive, there, holds⟩ := (Option.any_eq_true _ _).mp kept
  simp only [Bool.and_eq_true, decide_eq_true_eq] at holds
  have shows : (sampleOffice.run (sampleLapse "down")).reading = .ok (some sampleDeadline) := by
    decide +kernel
  obtain ⟨-, -, after, expiries, swept, -, -, brought, -⟩ :=
    swept_of_run fresh (by decide +kernel) hasIntegers_sample namesKeys_lapse whole isWorded_sample
      unused timely shows rfl ⟨archive, there, holds.1, holds.2⟩ .null (.text sweeperName)
  have told : ((sampleOffice.run (sampleLapse "down")).sweep .null (.text sweeperName)).2.map
      (fun events => events.map fun event => (event.transfer, event.net)) =
        .ok [(.text "t2", 198)] := by
    decide +kernel
  rw [swept] at told
  exact ⟨after, expiries, swept, brought, by decide +kernel, Except.ok.inj told⟩

end Engine
end Escrow
