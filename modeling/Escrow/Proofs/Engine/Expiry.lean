import Escrow.Proofs.Bookkeeping
import Escrow.Proofs.Engine.Journal
import Escrow.Proofs.Engine.Permutation
import Escrow.Proofs.Engine.Wording

/-!
# Expiring a transfer

An attempt to expire an overdue transfer ends in one of two ways: the transfer expires and its sender
is refunded, or the ledger does not pay, and a row of the archive notes why while the transfer stays as
it was.  There is no third way, because everything else that an attempt needs is there before it: the
accounts of the pools are in balance, the clock can be read, and whatever the ledger says can be
written down.  And it is there again after it.
-/

namespace Escrow

/-- What comes of an attempt to expire a transfer. -/
inductive Expiry where
  /-- The transfer expires: the event, and the entry of the refund in the journal. -/
  | expired (event : Event) (refund : JournalEntry)
  /-- The transfer is kept: the row that notes why. -/
  | kept (row : ErrorRow)

namespace Expiry

/-- The event of the expiry. -/
def event? : Expiry → Option Event
  | .expired event _ => some event
  | .kept _ => none

/-- The entry of the refund. -/
def refund? : Expiry → Option JournalEntry
  | .expired _ refund => some refund
  | .kept _ => none

/-- The row of what stood in the way. -/
def row? : Expiry → Option ErrorRow
  | .expired _ _ => none
  | .kept row => some row

end Expiry

/-- The row notes that the refusal stood in the way of the transfer with the id. -/
structure ErrorRow.Notes (row : ErrorRow) (id : Value) (refusal : Refusal) : Prop where
  transfer_eq : row.transfer = some id.plain
  kind_eq : row.kind = refusal.cause.kind.code
  message_eq : .text row.message = refusal.cause.given Fault.describe

/-- The attempt is answered by the event of an expiry, or by the refusal that a row notes. -/
inductive Attempt.Brings (attempt : Attempt) : Expiry → Prop where
  | expired {event : Event} (refund : JournalEntry)
      (answer : (attempt.before.serve attempt.id attempt.call).2 = .ok event) :
      Brings attempt (.expired event refund)
  | kept {refusal : Refusal} {row : ErrorRow}
      (answer : (attempt.before.serve attempt.id attempt.call).2 = .error (.refused refusal))
      (notes : row.Notes attempt.id refusal) : Brings attempt (.kept row)

/-- What the moves of journal entries add to the balance of an account. -/
def gainOf (account : Account) (entries : List JournalEntry) : Int :=
  (entries.map fun entry =>
    (if account.canonical = entry.move.targetAccount.canonical then entry.amount else 0) -
      (if account.canonical = entry.move.sourceAccount.canonical then entry.amount else 0)).sum

theorem gainOf_append (account : Account) (entries later : List JournalEntry) :
    gainOf account (entries ++ later) = gainOf account entries + gainOf account later := by
  simp [gainOf]

namespace Engine

variable {origin before between after engine : Engine} {call : Call} {news : List News}
  {key id pool caller : Value} {transfer : Transfer} {time : Instant} {errors : List ErrorRow}

/-! ## Listeners that hear of a settlement -/

/-- The engine has an open archive that holds these errors. -/
def HoldsErrors (engine : Engine) (errors : List ErrorRow) : Prop :=
  ∃ archive, engine.archive = some archive ∧ archive.Holds errors

/-- Between the two engines listeners hear of the settlement of the transfer with this key: funds,
pools and the other transfers stay as they are, and so do the errors; the record of the transfer goes
on telling the same of the settlement. -/
structure ToldOf (key : Value) (before after : Engine) : Prop where
  ledger_eq : after.ledger = before.ledger
  pools_eq : after.pools = before.pools
  others : ∀ other, other ≠ key → after.transfers.get? other = before.transfers.get? other
  record : ∀ record, before.transfers.get? key = some record →
    ∃ kept, after.transfers.get? key = some kept ∧ kept.Continues record ∧ kept.SettledLike record
  holds : ∀ errors, before.HoldsErrors errors → after.HoldsErrors errors

theorem ToldOf.refl (key : Value) (engine : Engine) : ToldOf key engine engine :=
  ⟨rfl, rfl, fun _ _ => rfl, fun record found => ⟨record, found, .refl record, .refl record⟩,
    fun _ holds => holds⟩

theorem ToldOf.trans (left : ToldOf key before between) (right : ToldOf key between after) :
    ToldOf key before after := by
  refine ⟨right.ledger_eq.trans left.ledger_eq, right.pools_eq.trans left.pools_eq, ?_, ?_, ?_⟩
  · intro other apart
    exact (right.others other apart).trans (left.others other apart)
  · intro record found
    obtain ⟨kept, there, continues, like⟩ := left.record record found
    obtain ⟨last, found, later, alike⟩ := right.record kept there
    exact ⟨last, found, later.trans continues, alike.trans like⟩
  · intro errors holds
    exact right.holds errors (left.holds errors holds)

private theorem follows_toldOf (key : Value) :
    Follows (fun _ => True) fun before _ after => ToldOf key before after :=
  ⟨.refl key, .trans, fun _ _ => trivial⟩

private theorem hear_toldOf (key : Value) (engine : Engine) (listener : Listener) (event : Event) :
    ToldOf key engine (engine.hear listener event) := by
  unfold hear
  split
  · exact ⟨rfl, rfl, fun _ _ => rfl, (ToldOf.refl key engine).record, fun _ holds => holds⟩
  · exact .refl key engine

private theorem writeArchive_toldOf (key : Value) (engine : Engine)
    {attempt : Archive → Archive × Except Fault Bool}
    (keeps : ∀ archive errors, archive.Holds errors → (attempt archive).1.Holds errors) :
    ToldOf key engine (engine.writeArchive attempt).1 := by
  unfold writeArchive
  split
  · exact .refl key engine
  · rename_i archive there
    refine ⟨rfl, rfl, fun _ _ => rfl, (ToldOf.refl key engine).record, ?_⟩
    rintro errors ⟨other, same, holds⟩
    obtain rfl := Option.some.inj (there.symm.trans same)
    exact ⟨_, rfl, keeps archive errors holds⟩

private theorem archiveTransfer_toldOf {archived : Transfer}
    (done : engine.archiveTransfer id = .ok (after, archived)) :
    ToldOf id.canonical engine after := by
  obtain ⟨transfer, found, -, rfl, rfl⟩ := archiveTransfer_eq_ok done
  refine ⟨rfl, rfl, ?_, ?_, fun _ holds => holds⟩
  · intro other apart
    exact Table.get?_set_of_ne _ (Ne.symm apart) _
  · intro record there
    obtain rfl := Option.some.inj (found.symm.trans there)
    exact ⟨_, Table.get?_set_self _ _ _, ⟨rfl, rfl, rfl, rfl, rfl, rfl, rfl, rfl⟩,
      ⟨rfl, rfl, rfl, rfl⟩⟩

private theorem archiveEvent_toldOf (engine : Engine) (event : Event) :
    ToldOf event.transfer.canonical engine (engine.archiveEvent event) := by
  have recorded := writeArchive_toldOf event.transfer.canonical engine
    fun archive errors holds => holds.writeEvent event.toEntry
  have written (next : Engine) (transfer : Transfer) (fee net : Value) :
      ToldOf event.transfer.canonical next (next.writeTransfer transfer fee net) :=
    writeArchive_toldOf _ next fun archive errors holds => holds.writeTransfer _ fee net _
  unfold archiveEvent
  split
  · rename_i wrote
    rwa [wrote] at recorded
  · rename_i wrote
    rw [wrote] at recorded
    split
    · split
      · rename_i archiving
        exact (recorded.trans (archiveTransfer_toldOf archiving)).trans (written _ _ _ _)
      · exact recorded
    · split
      · exact recorded.trans (written _ _ _ _)
      · exact recorded

private theorem announceSettled_toldOf (engine : Engine) (event : Event) :
    ToldOf event.transfer.canonical engine (engine.announceSettled event) := by
  apply (follows_toldOf event.transfer.canonical).tellSettled
  intro listener member engine
  unfold Engine.tellSettled
  split
  · exact archiveEvent_toldOf engine event
  · exact hear_toldOf _ engine _ event

/-! ## Engines that can be swept -/

/-- An attempt to expire an overdue transfer can fail for nothing but what the ledger says, which can
be written down; and the clock shows this time. -/
structure Sweepable (engine : Engine) (time : Instant) : Prop where
  solid : engine.Solid
  integers : engine.ledger.books.HasIntegers
  accounts : ∃ news, Accounts news engine
  zones : engine.HasZones
  worded : engine.IsWorded
  timely : engine.TellsTime
  shows : engine.reading = .ok (some time)
  zoned : time.offset.isSome

/-- Every step of a sweep leaves an engine that can be swept at the same time. -/
theorem Step.sweepable (step : Step origin (.sweep pool caller) before news after)
    (sweepable : before.Sweepable time) : after.Sweepable time := by
  have orderly := sweepable.solid.orderly
  obtain ⟨past, accounts⟩ := sweepable.accounts
  obtain ⟨clock_eq, universal_eq⟩ := step.clock_eq rfl
  have names : (Call.sweep pool caller).NamesKeys := ⟨by simp, by simp⟩
  have speaks : (Call.sweep pool caller).IsWorded := ⟨by simp, by simp, by simp, by simp⟩
  have reading_eq : after.reading = before.reading := by
    rw [reading, now, clock_eq, universal_eq, reading, now]
  exact
    { solid := step.solid names sweepable.solid
      integers := step.hasIntegers orderly (by simp [CreditsWhole]) sweepable.integers
      accounts := ⟨_, step.accounts (by simp) orderly accounts⟩
      zones := step.hasZones sweepable.zones
      worded := step.isWorded orderly.onBooks speaks sweepable.worded
      timely := sweepable.timely.of_clock clock_eq
      shows := reading_eq.trans sweepable.shows
      zoned := sweepable.zoned }

theorem Passage.sweepable (passage : Passage origin (.sweep pool caller) before news after)
    (sweepable : before.Sweepable time) : after.Sweepable time :=
  passage.keeps (fun _ _ _ step => step.sweepable) sweepable

/-- The transfer is pending under its id, and its deadline has passed. -/
structure IsOverdue (engine : Engine) (transfer : Transfer) : Prop where
  found : engine.transfers.get? transfer.id.canonical = some transfer
  pending : transfer.isActive
  due : engine.isDue transfer

/-- The settlement of a transfer that expires. -/
def expiration : Settlement := .expire (.int expiredCode)

private theorem Sweepable.settlingTime (sweepable : engine.Sweepable time) :
    engine.settlingTime = .ok time := by
  rw [Engine.settlingTime, sweepable.shows]
  rfl

/-- Anyone may expire what is overdue. -/
theorem Sweepable.allows (sweepable : engine.Sweepable time) (overdue : engine.IsOverdue transfer)
    (caller : Value) :
    ∃ pool, engine.Allows transfer.id (.expire caller) transfer pool expiration := by
  obtain ⟨news, accounts⟩ := sweepable.accounts
  have orderly := sweepable.solid.orderly
  obtain ⟨pool, pool_found⟩ := (orderly.transfers _ _ overdue.found).pooled
  have due := checkDue_of_isDue sweepable.shows overdue.due transfer.id
  have asked : engine.settlementOf transfer transfer.id (.expire caller) = .ok expiration := by
    simp [settlementOf, sweepable.shows, due, expiration, Except.mapError, bind, Except.bind, pure,
      Except.pure]
  exact ⟨pool, overdue.found, orderly.tidy.isKey_pool pool_found, pool_found, rfl, overdue.pending,
    asked, accounts.checked orderly pool_found overdue.found overdue.pending _ _⟩

/-! ## One attempt -/

/-- What becomes of an overdue transfer: it expires with what is left of it after the fee of its pool
refunded to the sender, or it stays as it was. -/
inductive Ends (time : Instant) (before after : Engine) (transfer : Transfer) : Expiry → Prop where
  | expired {pool : Pool} {record : Transfer} {event : Event} {refund : JournalEntry}
      (pool_found : before.pools.get? transfer.pool.canonical = some pool)
      (event_eq : event = .settled (transfer.settledBy expiration time) pool.id
        (pool.schedule.fee .expired (.number transfer.amount)) time (.text refund.reference))
      (refunded : refund.move = ⟨pool.custody, transfer.sender,
        .int (transfer.amount - (pool.schedule.fee .expired (.number transfer.amount)).toInt),
        pool.asset⟩)
      (found : after.transfers.get? transfer.id.canonical = some record)
      (continues : record.Continues transfer)
      (settled : record.SettledLike (transfer.settledBy expiration time)) :
      Ends time before after transfer (.expired event refund)
  | kept (row : ErrorRow) (found : after.transfers.get? transfer.id.canonical = some transfer) :
      Ends time before after transfer (.kept row)

/-- What attempts to expire transfers have done, each of them what came of it: nothing but their
records is written, pools keep their terms and fees, the journal and the balances show the refunds,
and the errors, which were these before, show the rows. -/
structure Brought (time : Instant) (errors : List ErrorRow) (before after : Engine)
    (due : List Transfer) (expiries : List Expiry) : Prop where
  ends : List.Forall₂ (Ends time before after) due expiries
  others : ∀ key, (∀ transfer ∈ due, transfer.id.canonical ≠ key) →
    after.transfers.get? key = before.transfers.get? key
  pools : ∀ key pool, after.pools.get? key = some pool →
    ∃ old, before.pools.get? key = some old ∧ pool.Continues old ∧ pool.schedule = old.schedule
  journal : after.ledger.books.journal =
    before.ledger.books.journal ++ expiries.filterMap Expiry.refund?
  balances : ∀ account held, before.ledger.books.balance account = .int held →
    after.ledger.books.balance account =
      .int (held + gainOf account (expiries.filterMap Expiry.refund?))
  holds : after.HoldsErrors (errors ++ expiries.filterMap Expiry.row?)

/-- A move that ends well leaves its entry in the journal, and the balances follow the entry. -/
theorem refund_of_moved {ledger moved : Ledger} {move : Move} {now : Except Fault Instant}
    {reference : Value} {n : Int} (onBooks : ledger.OnBooks) (amount_eq : move.amount = .int n)
    (done : ledger.move move now = (moved, .ok reference)) :
    ∃ refund : JournalEntry, refund.move = move ∧ reference = .text refund.reference ∧
      moved.books.journal = ledger.books.journal ++ [refund] ∧
      ∀ account held, ledger.books.balance account = .int held →
        moved.books.balance account = .int (held + gainOf account [refund]) := by
  obtain ⟨time, reference_eq, journal_eq⟩ := journal_of_moved onBooks done
  refine ⟨⟨move, ledger.books.nextReference, time⟩, rfl, reference_eq, journal_eq, ?_⟩
  intro account held whole
  have amount : JournalEntry.amount ⟨move, ledger.books.nextReference, time⟩ = n := by
    simp [JournalEntry.amount, amount_eq, Value.toInt?]
  rw [Ledger.balance_of_move_eq_ok onBooks done amount_eq whole]
  congr 1
  simp only [gainOf, amount, List.map_singleton, List.sum_singleton]
  omega

/-- What it comes to that a transfer was settled as expired, for the refund, and that listeners were
told of it. -/
theorem brought_expired {next : Engine} {ledger : Ledger} {pool booked : Pool} {event : Event}
    {refund : JournalEntry} (holds : engine.HoldsErrors errors)
    (allows : engine.Allows transfer.id (.expire caller) transfer pool expiration)
    (booking : pool.bookSettlement transfer.amount (feeOf transfer pool expiration) = .ok booked)
    (next_eq : next = { engine with
      ledger := ledger
      pools := engine.pools.set transfer.pool.canonical booked
      transfers := engine.transfers.set transfer.id.canonical
        (transfer.settledBy expiration time) })
    (event_eq : event = .settled (transfer.settledBy expiration time) pool.id
      (feeOf transfer pool expiration) time (.text refund.reference))
    (refunded : refund.move = payoutMove transfer pool expiration)
    (journal : ledger.books.journal = engine.ledger.books.journal ++ [refund])
    (balances : ∀ account held, engine.ledger.books.balance account = .int held →
      ledger.books.balance account = .int (held + gainOf account [refund]))
    (told : ToldOf transfer.id.canonical next after) :
    Brought time errors engine after [transfer] [.expired event refund] := by
  have written : next.transfers.get? transfer.id.canonical =
      some (transfer.settledBy expiration time) := by
    rw [next_eq]
    exact Table.get?_set_self _ _ _
  obtain ⟨record, found, continues, like⟩ := told.record _ written
  refine ⟨.cons ?_ .nil, ?_, ?_, ?_, ?_, ?_⟩
  · exact .expired allows.pool_found event_eq refunded found
      (continues.trans ⟨rfl, rfl, rfl, rfl, rfl, rfl, rfl, rfl⟩) like
  · intro key apart
    rw [List.forall_mem_singleton] at apart
    rw [told.others key (Ne.symm apart), next_eq]
    exact Table.get?_set_of_ne _ apart _
  · intro key other there
    rw [told.pools_eq, next_eq, Table.get?_set] at there
    split at there
    · rename_i same
      cases there
      rw [same]
      obtain ⟨withdrawn, fees, resolved, rfl⟩ := Pool.bookSettlement_eq_ok booking
      exact ⟨pool, allows.pool_found, Pool.continues_of_settlement booking, rfl⟩
    · exact ⟨other, there, .refl other, rfl⟩
  · rw [told.ledger_eq, next_eq]
    exact journal
  · rw [told.ledger_eq, next_eq]
    exact balances
  · have nothing : [Expiry.expired event refund].filterMap Expiry.row? = [] := rfl
    rw [nothing, List.append_nil]
    apply told.holds
    rw [next_eq]
    exact holds

/-- An overdue transfer that is paid expires, and whoever listens is told. -/
theorem Sweepable.expires {ledger : Ledger} {pool : Pool} {reference : Value}
    (sweepable : engine.Sweepable time) (holds : engine.HoldsErrors errors)
    (allows : engine.Allows transfer.id (.expire caller) transfer pool expiration)
    (paid : engine.ledger.move (payoutMove transfer pool expiration) engine.now =
      (ledger, .ok reference)) :
    ∃ after event refund,
      engine.serve transfer.id (.expire caller) = (after, .ok event) ∧
        Brought time errors engine after [transfer] [.expired event refund] := by
  have orderly := sweepable.solid.orderly
  have id_key := (orderly.transfers _ _ allows.transfer_found).id_key
  obtain ⟨booked, booking, settled⟩ :=
    settle_of_paid orderly.tidy id_key allows paid sweepable.settlingTime
  obtain ⟨refund, refunded, rfl, journal, balances⟩ :=
    refund_of_moved orderly.onBooks rfl paid
  generalize event_eq : Event.settled (transfer.settledBy expiration time) pool.id
    (feeOf transfer pool expiration) time (.text refund.reference) = event at settled
  rcases settling : engine.settle transfer.id (.expire caller) with ⟨next, answer⟩
  obtain ⟨next_eq, rfl⟩ := Prod.mk.inj (settling.symm.trans settled)
  have told := announceSettled_toldOf next event
  have about : event.transfer = transfer.id := by
    rw [← event_eq]
    rfl
  rw [about] at told
  refine ⟨_, event, refund, ?_, brought_expired holds allows booking next_eq event_eq.symm refunded
    journal balances told⟩
  unfold serve
  rw [settling]

/-- What stands in the way of a transfer is noted, if it can be written down. -/
theorem HoldsErrors.recordRefusal {refusal : Refusal} (holds : engine.HoldsErrors errors)
    (timely : engine.TellsTime) (named : id.IsLegible) (worded : refusal.IsWorded) :
    ∃ archive row,
      engine.recordRefusal id refusal = ({ engine with archive := some archive }, .ok true) ∧
        row.Notes id refusal ∧ archive.Holds (errors ++ [row]) := by
  obtain ⟨archive, there, holds⟩ := holds
  obtain ⟨now, timely⟩ := timely
  obtain ⟨later, wrote, held⟩ := holds.writeError named refusal.cause.kind.hasHalf_code worded timely
  refine ⟨later, _, ?_, ⟨rfl, rfl, worded.eq_text.symm⟩, held⟩
  unfold Engine.recordRefusal writeArchive
  rw [there]
  dsimp only
  rw [wrote]

/-- An overdue transfer that is not paid is kept, and a row notes why. -/
theorem Sweepable.stays {ledger : Ledger} {pool : Pool} {problem : Problem}
    (sweepable : engine.Sweepable time) (holds : engine.HoldsErrors errors)
    (allows : engine.Allows transfer.id (.expire caller) transfer pool expiration)
    (unpaid : engine.ledger.move (payoutMove transfer pool expiration) engine.now =
      (ledger, .error problem)) :
    ∃ refusal archive row,
      engine.serve transfer.id (.expire caller) =
          (engine.disarmed, .error (.refused refusal)) ∧
        engine.disarmed.recordRefusal transfer.id refusal =
          ({ engine.disarmed with archive := some archive }, .ok true) ∧
        row.Notes transfer.id refusal ∧ archive.Holds (errors ++ [row]) := by
  have orderly := sweepable.solid.orderly
  have registers := orderly.transfers _ _ allows.transfer_found
  have net := pool.schedule.isAmount_sub_fee expiration.outcome registers.amount
  obtain ⟨custody, asset⟩ := sweepable.worded.pools _ _ allows.pool_found
  have named := sweepable.worded.transfers _ _ allows.transfer_found
  obtain ⟨now, timely⟩ := sweepable.timely
  obtain ⟨refusal, rfl, worded⟩ :=
    sweepable.worded.ledger.move_eq_error orderly.onBooks sweepable.integers unpaid rfl net custody
      asset (sweepable.solid.keys_payout allows).2 timely
  obtain rfl := sweepable.solid.unpaidSettlement sweepable.timely allows unpaid
  have settled := settle_of_unpaid registers.id_key allows unpaid
  obtain ⟨noted, attributed, cause_eq⟩ := attributedTo_refused transfer.id refusal
  rw [attributed] at settled
  have served : engine.serve transfer.id (.expire caller) =
      (engine.disarmed, .error (.refused noted)) := by
    unfold serve
    rw [settled]
    rfl
  have worded : noted.IsWorded := by
    rwa [Refusal.IsWorded, cause_eq]
  have holds : engine.disarmed.HoldsErrors errors := holds
  obtain ⟨archive, row, recorded, notes, held⟩ :=
    holds.recordRefusal sweepable.timely named worded
  exact ⟨noted, archive, row, served, recorded, notes, held⟩

theorem brought_kept {row : ErrorRow} {archive : Archive} (onBooks : engine.ledger.OnBooks)
    (found : engine.transfers.get? transfer.id.canonical = some transfer)
    (held : archive.Holds (errors ++ [row])) :
    Brought time errors engine { engine.disarmed with archive := some archive } [transfer]
      [.kept row] := by
  obtain ⟨balances, journal⟩ := Ledger.books_disarmed onBooks
  refine ⟨.cons (.kept row found) .nil, fun _ _ => rfl, ?_, ?_, ?_, archive, rfl, held⟩
  · exact fun key pool there => ⟨pool, there, .refl pool, rfl⟩
  · exact journal.trans (List.append_nil _).symm
  · intro account held whole
    have nothing : gainOf account ([Expiry.kept row].filterMap Expiry.refund?) = 0 := rfl
    rw [nothing, Int.add_zero]
    exact (balance_of_same balances account).trans whole

end Engine
end Escrow
