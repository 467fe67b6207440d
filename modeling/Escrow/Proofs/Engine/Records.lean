import Escrow.Proofs.Engine.Authority

/-!
# Records whose data fit together

The data of a transfer are written at different times: most of them as it is created, its status with
the time and the reason as it is settled, and a mark as it is archived.  Whatever an engine goes
through, they fit together in every record that it keeps, and the record is in its place.

The clock may show any instant at a call, also one that universal time cannot tell.  Then a settlement
that is paid is counted by its pool, but it is not booked, and the transfer stays as it is.
-/

namespace Escrow
namespace Transfer

/-- The deadline has a zone and is later than the creation of the transfer. -/
structure HasAhead (transfer : Transfer) (deadline : Instant) : Prop where
  zoned : deadline.offset.isSome
  later : ∃ created, transfer.createdAt = some created ∧ created.offset.isSome ∧
    created.ticks < deadline.ticks

/-- The transfer keeps the reason of a rejection: a code of one byte, and a message that is left out or
not longer than the limit. -/
structure HasRejection (limit : Int) (transfer : Transfer) : Prop where
  code : ∃ code : Int, transfer.reasonCode = .int code ∧ 0 ≤ code ∧ code ≤ 255
  message : transfer.reasonMessage = .null ∨
    ∃ message, transfer.reasonMessage = .text message ∧ (message.utf8ByteSize : Int) ≤ limit

/-- The transfer keeps the reason of an expiry, which did not come before the deadline. -/
structure HasExpiry (transfer : Transfer) : Prop where
  code : transfer.reasonCode = .int 255
  message : transfer.reasonMessage = .text "expired"
  reached : ∃ deadline time, transfer.expiresAt = some deadline ∧ transfer.resolvedAt = some time ∧
    time.offset.isSome ∧ deadline.ticks ≤ time.ticks

/-- The data of the transfer fit together. -/
structure IsWellFormed (limit : Int) (transfer : Transfer) : Prop where
  memo : transfer.memo = "" ∨ (transfer.memo.utf8ByteSize : Int) ≤ limit
  deadline : ∀ deadline, transfer.expiresAt = some deadline → transfer.HasAhead deadline
  resolved : transfer.resolvedAt.isSome ↔ transfer.status.isTerminal
  reasoned : transfer.reasonCode ≠ .null ↔
    transfer.status = .settled .rejected ∨ transfer.status = .settled .expired
  rejection : transfer.status = .settled .rejected → transfer.HasRejection limit
  expiry : transfer.status = .settled .expired → transfer.HasExpiry

private theorem resolvedAt_settledBy (transfer : Transfer) (settlement : Settlement)
    (time : Instant) :
    (transfer.settledBy settlement time).resolvedAt = some time := by
  cases settlement <;> rfl

end Transfer

namespace Engine

/-- An engine with everything in its place, of which every transfer is well formed. -/
structure KeepsRecords (limit : Int) (engine : Engine) : Prop extends engine.Tidy where
  memoLimit : engine.memoLimit = .int limit
  wellFormed : ∀ key transfer, engine.transfers.get? key = some transfer →
    transfer.IsWellFormed limit

variable {limit : Int} {origin before after engine : Engine} {call : Call} {news : List News}
  {transfer : Transfer} {pool : Pool}

/-! ## What is written -/

private theorem short_of_checkMessage {message id : Value} {kept : Option String}
    (limit_eq : engine.memoLimit = .int limit)
    (checked : engine.checkMessage message id = .ok kept) :
    ∀ text, kept = some text → (text.utf8ByteSize : Int) ≤ limit := by
  rintro text rfl
  obtain ⟨-, short⟩ := checkMessage_eq_ok checked
  simpa [limit_eq] using short

/-- A transfer is well formed as it is created. -/
theorem Admits.isWellFormed {request : CreateRequest} (admits : engine.Admits request transfer pool)
    (limit_eq : engine.memoLimit = .int limit) : transfer.IsWellFormed limit := by
  have untouched := admits.asked.untouched
  have drafted := admits.drafted
  simp only [draft, bind_eq_ok_iff, pure_eq_ok_iff] at drafted
  obtain ⟨_, -, amount, -, memo, checked, now, -, deadline, ahead, drafted⟩ := drafted
  have pending : transfer.status = .pending := by rw [untouched]
  refine
    { memo := ?_
      deadline := ?_
      resolved := by simp [untouched, Status.isTerminal]
      reasoned := by simp [untouched]
      rejection := by simp [pending]
      expiry := by simp [pending] }
  · rw [← drafted]
    cases kept : memo with
    | none => exact .inl rfl
    | some text => exact .inr (short_of_checkMessage limit_eq checked text kept)
  · intro expiry expires
    rw [← drafted] at expires ⊢
    obtain rfl : deadline = some expiry := expires
    obtain ⟨zoned, time, now_eq, shows_zone, later⟩ := ahead_of_readExpiry ahead
    exact ⟨zoned, time, now_eq, shows_zone, later⟩

/-- The settlements that a call may get for a transfer. -/
inductive Grants (limit : Int) (engine : Engine) (transfer : Transfer) : Settlement → Prop where
  | accept : Grants limit engine transfer .accept
  | cancel : Grants limit engine transfer .cancel
  | reject {code : Int} {message : Option String} (least : 0 ≤ code) (most : code ≤ 255)
      (short : ∀ text, message = some text → (text.utf8ByteSize : Int) ≤ limit) :
      Grants limit engine transfer (.reject (.int code) ((message.map Value.text).getD .null))
  | expire {deadline time : Instant} (expires : transfer.expiresAt = some deadline)
      (read : engine.reading = .ok (some time)) (reached : deadline.atOrBefore? time = some true) :
      Grants limit engine transfer (.expire (.int 255))

private theorem Allows.grants {id : Value} {settling : SettlementCall} {settlement : Settlement}
    (allows : engine.Allows id settling transfer pool settlement)
    (limit_eq : engine.memoLimit = .int limit) : Grants limit engine transfer settlement := by
  have asked := allows.settlement_eq
  cases settling with
  | accept =>
      cases asked
      exact .accept
  | cancel =>
      cases asked
      exact .cancel
  | reject caller code message =>
      simp only [settlementOf, bind_eq_ok_iff, pure_eq_ok_iff] at asked
      obtain ⟨message, checked, n, code, rfl⟩ := asked
      obtain ⟨least, most⟩ := bounds_of_checkReasonCode code
      exact .reject least most (short_of_checkMessage limit_eq checked)
  | expire =>
      simp only [settlementOf, bind_eq_ok_iff, mapError_eq_ok_iff, pure_eq_ok_iff] at asked
      obtain ⟨now, read, _, due, rfl⟩ := asked
      obtain ⟨deadline, time, expires, rfl, reached⟩ := reached_of_checkDue due
      exact .expire expires read reached

/-- The time of a settlement is what the clock shows. -/
theorem settlingTime_eq {shown time : Instant} (read : engine.reading = .ok (some shown))
    (timely : engine.settlingTime = .ok time) : shown = time := by
  rw [settlingTime, read] at timely
  exact Except.ok.inj timely

/-- A settlement leaves a well-formed transfer. -/
theorem Allows.isWellFormed {id : Value} {settling : SettlementCall} {settlement : Settlement}
    {time : Instant} (allows : engine.Allows id settling transfer pool settlement)
    (limit_eq : engine.memoLimit = .int limit) (timely : engine.settlingTime = .ok time)
    (wellFormed : transfer.IsWellFormed limit) :
    (transfer.settledBy settlement time).IsWellFormed limit := by
  have pending : transfer.status = .pending := of_decide_eq_true allows.pending
  have unreasoned : transfer.reasonCode = .null := by
    by_contra reasoned
    simpa [pending] using wellFormed.reasoned.mp reasoned
  have resolved : (transfer.settledBy settlement time).resolvedAt.isSome ↔
      (transfer.settledBy settlement time).status.isTerminal := by
    rw [transfer.resolvedAt_settledBy, transfer.isTerminal_settledBy, Option.isSome_some]
  have ahead : ∀ deadline, (transfer.settledBy settlement time).expiresAt = some deadline →
      (transfer.settledBy settlement time).HasAhead deadline := by
    intro deadline expires
    obtain ⟨zoned, later⟩ := wellFormed.deadline deadline expires
    exact ⟨zoned, later⟩
  have plain (other : settlement.outcome ≠ .rejected ∧ settlement.outcome ≠ .expired)
      (kept : (transfer.settledBy settlement time).reasonCode = .null) :
      (transfer.settledBy settlement time).IsWellFormed limit :=
    ⟨wellFormed.memo, ahead, resolved, by simp [kept, other], by simp [other], by simp [other]⟩
  cases allows.grants limit_eq with
  | accept => exact plain (by decide) unreasoned
  | cancel => exact plain (by decide) unreasoned
  | @reject code message least most short =>
      refine ⟨wellFormed.memo, ahead, resolved, ?_, fun _ => ⟨⟨code, rfl, least, most⟩, ?_⟩, ?_⟩
      · exact iff_of_true (by rintro ⟨⟩) (.inl rfl)
      · cases kept : message with
        | none => exact .inl rfl
        | some text => exact .inr ⟨text, rfl, short text kept⟩
      · rintro ⟨⟩
  | @expire deadline shown expires read reached =>
      obtain ⟨same, reached⟩ := atOrBefore?_eq_some reached
      obtain rfl := settlingTime_eq read timely
      have zoned := (wellFormed.deadline deadline expires).zoned
      refine ⟨wellFormed.memo, ahead, resolved, ?_, ?_, fun _ => ⟨rfl, rfl, ?_⟩⟩
      · exact iff_of_true (by rintro ⟨⟩) (.inr rfl)
      · rintro ⟨⟩
      · exact ⟨deadline, shown, expires, rfl, same ▸ zoned, of_decide_eq_true reached⟩

private theorem isWellFormed_asArchived (wellFormed : transfer.IsWellFormed limit) :
    transfer.asArchived.IsWellFormed limit where
  memo := wellFormed.memo
  deadline deadline expires :=
    have ahead := wellFormed.deadline deadline expires
    ⟨ahead.zoned, ahead.later⟩
  resolved := wellFormed.resolved
  reasoned := wellFormed.reasoned
  rejection rejected :=
    have kept := wellFormed.rejection rejected
    ⟨kept.code, kept.message⟩
  expiry expired :=
    have kept := wellFormed.expiry expired
    ⟨kept.code, kept.message, kept.reached⟩

/-! ## Every step keeps the records well formed -/

private theorem Step.keepsRecords (step : Step origin call before news after)
    (keeps : before.KeepsRecords limit) : after.KeepsRecords limit := by
  refine ⟨step.tidy keeps.toTidy, ?_, ?_⟩
  · cases step <;> exact keeps.memoLimit
  · intro key transfer found
    have written {place : Value} {record : Transfer} (fits : record.IsWellFormed limit)
        (found : (before.transfers.set place record).get? key = some transfer) :
        transfer.IsWellFormed limit := by
      rw [Table.get?_set] at found
      split at found
      · cases found
        exact fits
      · exact keeps.wellFormed key transfer found
    cases step with
    | deposit asked drawn admits moved booking =>
        exact written (admits.isWellFormed keeps.memoLimit) found
    | settlement allows moved booking timely =>
        have fits := keeps.wellFormed _ _ allows.transfer_found
        exact written (allows.isWellFormed keeps.memoLimit timely fits) found
    | archive registered terminal =>
        exact written (isWellFormed_asArchived (keeps.wellFormed _ _ registered)) found
    | prune =>
        rw [get?_transfers_prune, Option.filter_eq_some_iff] at found
        exact keeps.wellFormed key transfer found.1
    | _ => exact keeps.wellFormed key transfer found

private theorem Passage.keepsRecords (passage : Passage origin call before news after)
    (keeps : before.KeepsRecords limit) : after.KeepsRecords limit :=
  passage.keeps (fun _ _ _ step => step.keepsRecords) keeps

/-! ## Settlements over any clock -/

/-- An engine that keeps its records, over a clock that shows an instant. -/
structure KeepsTimed (limit : Int) (engine : Engine) : Prop extends engine.KeepsRecords limit where
  shows : engine.clock.isSome

private theorem Passage.keepsTimed (passage : Passage origin call before news after)
    (busy : call.isQuiet = false) (keeps : before.KeepsTimed limit) : after.KeepsTimed limit :=
  passage.keeps (fun _ _ _ step keeps =>
    ⟨step.keepsRecords keeps.toKeepsRecords, by rw [(step.clock_eq busy).1]; exact keeps.shows⟩) keeps

/-- A clock that shows an instant cannot be read, or tells the time. -/
theorem reading_cases (shows : engine.clock.isSome) :
    (∃ fault, engine.reading = .error fault) ∨ ∃ time, engine.settlingTime = .ok time := by
  obtain ⟨time, clock_eq⟩ := Option.isSome_iff_exists.mp shows
  unfold settlingTime
  unfold reading
  split
  · cases engine.now with
    | error fault => exact .inl ⟨fault, rfl⟩
    | ok now => exact .inr ⟨now, rfl⟩
  · rw [clock_eq]
    exact .inr ⟨time, rfl⟩

private theorem KeepsTimed.counted {key : Value} {booked : Pool} {fee : Whole} {amount : Int}
    (keeps : engine.KeepsTimed limit) (found : engine.pools.get? key = some pool)
    (booking : pool.bookSettlement amount fee = .ok booked) (ledger : Ledger) :
    ({ engine with
        ledger := ledger
        pools := engine.pools.set key booked } : Engine).KeepsTimed limit := by
  obtain ⟨withdrawn, fees, resolved, booked_eq⟩ := Pool.bookSettlement_eq_ok booking
  have keyed : booked.id.isKey ∧ booked.id.canonical = key := by
    have kept := keeps.pools _ _ found
    rwa [booked_eq]
  have tidy := keeps.toTidy.setPool keyed
  exact ⟨⟨tidy.of_same rfl rfl rfl, keeps.memoLimit, keeps.wellFormed⟩, keeps.shows⟩

private theorem KeepsTimed.settle (keeps : engine.KeepsTimed limit) (id : Value)
    (settling : SettlementCall) : (engine.settle id settling).1.KeepsTimed limit := by
  rcases reading_cases keeps.shows with ⟨fault, unread⟩ | ⟨time, timely⟩
  · unfold Engine.settle
    split
    · exact keeps
    · rename_i payout prepared
      obtain ⟨transfer, pool, settlement, allows, rfl⟩ := prepared_eq_ok prepared
      dsimp only
      split
      · exact ⟨⟨keeps.toTidy.of_same rfl rfl rfl, keeps.memoLimit, keeps.wellFormed⟩, keeps.shows⟩
      · obtain ⟨_, _, _, -, -, -, booking⟩ := Pool.bookSettlement_of_check allows.checked
        rw [book_of_unread keeps.toTidy allows.transfer_found allows.pool_found booking unread]
        exact keeps.counted allows.pool_found booking _
  · have steady : engine.Steady := ⟨keeps.toTidy, .inr ⟨time, timely⟩⟩
    exact (settle_passage engine (.settle id settling) steady id settling).keepsTimed rfl keeps

private theorem KeepsTimed.serve (keeps : engine.KeepsTimed limit) (id : Value)
    (settling : SettlementCall) : (engine.serve id settling).1.KeepsTimed limit := by
  have settled := keeps.settle id settling
  unfold Engine.serve
  split
  · rename_i next event done
    rw [done] at settled
    exact (announceSettled_passage engine (.settle id settling) next event).keepsTimed rfl settled
  · exact settled

/-! ## Runs over any clock -/

/-- That an engine goes on keeping its records can be followed through a call. -/
theorem follows_keepsTimed (limit : Int) :
    Follows (KeepsTimed limit)
      (fun before _ after => before.KeepsTimed limit → after.KeepsTimed limit) :=
  ⟨fun _ => id, fun first rest keeps => rest (first keeps), fun related => related⟩

private theorem KeepsTimed.tellCreated (keeps : engine.KeepsTimed limit) (request : CreateRequest)
    (event : Event) (listener : Listener) :
    (tellCreated event engine listener).KeepsTimed limit := by
  have heard (listener : Listener) : (engine.hear listener event).KeepsTimed limit :=
    (hear_passage engine (.create request) engine listener event).keepsTimed rfl keeps
  cases listener with
  | archivist =>
      exact (archiveEvent_passage engine (.create request) engine event).keepsTimed rfl keeps
  | acceptor tag caller => exact (heard (.acceptor tag caller)).serve _ _
  | observer tag => exact heard (.observer tag)
  | deferred tag => exact heard (.deferred tag)
  | broken tag => exact heard (.broken tag)

private theorem KeepsTimed.create (keeps : engine.KeepsTimed limit) (request : CreateRequest) :
    (engine.create request).1.KeepsTimed limit := by
  have booked := (deposit_passage engine request).keepsTimed rfl keeps
  unfold Engine.create
  rcases ended : engine.deposit request with ⟨created, problem | ⟨transfer, event⟩⟩ <;>
    rw [ended] at booked
  · exact booked
  · exact (follows_keepsTimed limit).tellCreated
      (fun listener _ engine _ keeps => keeps.tellCreated request event listener) booked booked

private theorem KeepsTimed.sweep (keeps : engine.KeepsTimed limit) (pool caller : Value) :
    (engine.sweep pool caller).1.KeepsTimed limit :=
  (follows_keepsTimed limit).sweep (fun _ id _ keeps => keeps.serve id (.expire caller))
    (fun next _ _ keeps =>
      (writeArchive_passage engine (.sweep pool caller) next _).keepsTimed rfl keeps)
    pool keeps keeps

theorem KeepsRecords.of_same (keeps : before.KeepsRecords limit)
    (pools : after.pools = before.pools) (transfers : after.transfers = before.transfers)
    (pruned : after.pruned = before.pruned) (memoLimit : after.memoLimit = before.memoLimit) :
    after.KeepsRecords limit := by
  refine ⟨keeps.toTidy.of_same pools transfers pruned, memoLimit.trans keeps.memoLimit, ?_⟩
  rw [transfers]
  exact keeps.wellFormed

private theorem KeepsTimed.perform (keeps : engine.KeepsTimed limit) (call : Call) :
    (engine.perform call).1.KeepsRecords limit := by
  cases call with
  | create request => exact (keeps.create request).toKeepsRecords
  | settle id settling => exact (keeps.serve id settling).toKeepsRecords
  | sweep pool caller => exact (keeps.sweep pool caller).toKeepsRecords
  | listen listener => exact keeps.toKeepsRecords.of_same rfl rfl rfl rfl
  | closeArchive =>
      unfold Engine.perform changed closeArchive
      cases engine.archive <;> exact keeps.toKeepsRecords.of_same rfl rfl rfl rfl
  | _ => exact (perform_quiet engine rfl).passage.keepsRecords keeps.toKeepsRecords

private theorem KeepsRecords.run (keeps : engine.KeepsRecords limit) {calls : List Call}
    (shows : Along (fun engine _ => engine.clock.isSome) engine calls) :
    (engine.run calls).KeepsRecords limit := by
  induction calls generalizing engine with
  | nil => exact keeps
  | cons call rest ih => exact ih (KeepsTimed.perform ⟨keeps, shows.1⟩ call) shows.2

/-- From a blank engine on, over any ledger and as long as the clock shows an instant at every call,
every transfer is properly registered under its id and its data fit together. -/
theorem well_formed_of_run {engine : Engine} (blank : engine.IsBlank) {limit : Int}
    (limited : engine.memoLimit = .int limit) {calls : List Call}
    (shows : Along (fun engine _ => engine.clock.isSome) engine calls) :
    ∀ key transfer, (engine.run calls).transfers.get? key = some transfer →
      (engine.run calls).Registers key transfer ∧ transfer.IsWellFormed limit := by
  have start : engine.KeepsRecords limit := by
    refine ⟨blank.tidy, limited, ?_⟩
    intro key transfer found
    rw [blank.transfers, Table.get?_empty] at found
    cases found
  have keeps := start.run shows
  intro key transfer found
  exact ⟨keeps.transfers key transfer found, keeps.wellFormed key transfer found⟩

/-- A transfer expires at its deadline, one o'clock; the clock goes back to noon, and another one is
rejected. -/
def sampleJumps : List Call :=
  let deadline : Instant := ⟨⟨2026, 1, 1⟩, 13, 0, 0, 0, some 0⟩
  [.register samplePool,
    .create { sampleRequest "t1" 300 with expiresAt := .moment deadline },
    .setClock (some deadline),
    .settle (.text "t1") (.expire (.text "zoe")),
    .setClock sampleEngine.clock,
    .create { sampleRequest "t2" 200 with memo := .text "rent" },
    .settle (.text "t2") (.reject (.text "olga") (.int 7) (.text "no")),
    .archive (.text "t1")]

/-- Both records are well formed. -/
theorem well_formed_sample :
    sampleEngine.IsBlank ∧ sampleEngine.memoLimit = .int 200 ∧
      Along (fun engine _ => engine.clock.isSome) sampleEngine sampleJumps ∧
      ∃ first second,
        (sampleEngine.run sampleJumps).transfers.get? (.text "t1") = some first ∧
        (sampleEngine.run sampleJumps).transfers.get? (.text "t2") = some second ∧
        first.HasExpiry ∧ second.HasRejection 200 := by
  have limited : sampleEngine.memoLimit = .int 200 := rfl
  have shows : Along (fun engine _ => engine.clock.isSome) sampleEngine sampleJumps := by
    refine ⟨?_, ?_, ?_, ?_, ?_, ?_, ?_, ?_, trivial⟩ <;> decide +kernel
  have fits := well_formed_of_run isFresh_sample.isBlank limited shows
  have expired : ((sampleEngine.run sampleJumps).transfers.get? (.text "t1")).any
      (fun transfer => decide (transfer.status = .settled .expired)) = true := by
    decide +kernel
  have rejected : ((sampleEngine.run sampleJumps).transfers.get? (.text "t2")).any
      (fun transfer => decide (transfer.status = .settled .rejected)) = true := by
    decide +kernel
  obtain ⟨first, first_found, expired⟩ := (Option.any_eq_true _ _).mp expired
  obtain ⟨second, second_found, rejected⟩ := (Option.any_eq_true _ _).mp rejected
  exact ⟨isFresh_sample.isBlank, limited, shows, first, second, first_found, second_found,
    (fits _ _ first_found).2.expiry (of_decide_eq_true expired),
    (fits _ _ second_found).2.rejection (of_decide_eq_true rejected)⟩

/-- A memo that is left out is empty, but its length is not compared with the limit: no memo at all
exceeds a limit below zero. -/
theorem overlong_memo_sample :
    let unlimited : Engine := { sampleEngine with memoLimit := .int (-1) }
    let calls : List Call :=
      [.register samplePool, .create { sampleRequest "t1" 300 with memo := .null }]
    unlimited.IsBlank ∧ Along (fun engine _ => engine.clock.isSome) unlimited calls ∧
      ∃ transfer, (unlimited.run calls).transfers.get? (.text "t1") = some transfer ∧
        ¬(transfer.memo.utf8ByteSize : Int) ≤ -1 := by
  intro unlimited calls
  have shows : Along (fun engine _ => engine.clock.isSome) unlimited calls := by
    refine ⟨?_, ?_, trivial⟩ <;> decide +kernel
  have overlong : ((unlimited.run calls).transfers.get? (.text "t1")).any
      (fun transfer => decide (¬(transfer.memo.utf8ByteSize : Int) ≤ -1)) = true := by
    decide +kernel
  obtain ⟨transfer, found, overlong⟩ := (Option.any_eq_true _ _).mp overlong
  exact ⟨⟨rfl, rfl, rfl⟩, shows, transfer, found, of_decide_eq_true overlong⟩

end Engine
end Escrow
