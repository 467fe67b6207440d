import Escrow.Proofs.Engine.Accounts
import Escrow.Proofs.Engine.Payout
import Escrow.Proofs.Engine.Traffic

/-!
# Nothing is lost in traffic

However the turns of calls follow each other, no transfer is lost: every creation that succeeds has
an id of its own and stays in the register, no transfer is settled twice, and what a pool holds is
what its pending transfers amount to.  The locks of the pools carry the argument: what a call has
checked still holds when it books, because nobody else writes its pool and its transfer in between.
The ids of new transfers belong to no pool, so that a creation is only safe as long as no other one
of the same id has passed its check in another pool.
-/

namespace Escrow

/-- The key of the transfer that is booked. -/
def Business.place : Business → Value
  | .deposit transfer => transfer.id.canonical
  | .payout due => due.transfer.canonical

namespace Engine

variable {engine before after : Engine} {key : Value} {business : Business}

/-- What a call with the lock of the pool with this key has checked holds on. -/
inductive Awaits (engine : Engine) (key : Value) : Business → Prop where
  | deposit {transfer : Transfer} {pool : Pool} (pool_key : transfer.pool.isKey)
      (pooled : transfer.pool.canonical = key) (id_key : transfer.id.isKey)
      (amount : IsAmount transfer.amount) (untouched : transfer.toProgress = {})
      (pool_found : engine.pools.get? key = some pool)
      (unused : engine.transfers.get? transfer.id.canonical = none)
      (unpruned : engine.pruned.get? transfer.id.canonical = none)
      (checked : pool.checkDeposit (.int transfer.amount) = .ok ()) :
      Awaits engine key (.deposit transfer)
  | payout {transfer : Transfer} {pool : Pool} {settlement : Settlement} {fee : Whole}
      {move : Move} (pooled : transfer.pool.canonical = key)
      (pool_found : engine.pools.get? key = some pool)
      (found : engine.transfers.get? transfer.id.canonical = some transfer)
      (pending : transfer.isActive)
      (checked : pool.checkSettlement (.int transfer.amount) fee.toValue = .ok ()) :
      Awaits engine key (.payout ⟨transfer.id, pool.id, settlement, fee, move⟩)

theorem Awaits.of_same (awaits : before.Awaits key business)
    (pools : after.pools.get? key = before.pools.get? key)
    (transfers : after.transfers.get? business.place = before.transfers.get? business.place)
    (pruned : after.pruned = before.pruned) : after.Awaits key business := by
  cases awaits with
  | deposit pool_key pooled id_key amount untouched pool_found unused unpruned checked =>
      exact .deposit pool_key pooled id_key amount untouched (pools.trans pool_found)
        (transfers.trans unused) (by rwa [pruned]) checked
  | payout pooled pool_found found pending checked =>
      exact .payout pooled (pools.trans pool_found) (transfers.trans found) pending checked

private theorem Awaits.exists_pool (awaits : engine.Awaits key business) :
    ∃ pool, engine.pools.get? key = some pool := by
  cases awaits with
  | deposit _ _ _ _ _ pool_found => exact ⟨_, pool_found⟩
  | payout _ pool_found => exact ⟨_, pool_found⟩

/-- Calls with the locks of different pools are about different transfers, unless both create one of
the same id. -/
theorem Awaits.place_ne {other : Value} {rival : Business} (awaits : engine.Awaits key business)
    (against : engine.Awaits other rival) (different : key ≠ other)
    (apart : ∀ first second, business = .deposit first → rival = .deposit second →
      first.id.canonical ≠ second.id.canonical) : business.place ≠ rival.place := by
  intro same
  cases awaits with
  | deposit _ _ _ _ _ _ unused =>
      cases against with
      | deposit => exact apart _ _ rfl rfl same
      | payout _ _ found =>
          rw [Business.place, Business.place] at same
          rw [same, found] at unused
          cases unused
  | payout pooled _ found =>
      cases against with
      | deposit _ _ _ _ _ _ unused =>
          rw [Business.place, Business.place] at same
          rw [same, unused] at found
          cases found
      | payout elsewhere _ found_too =>
          -- One record is in one pool.
          rw [Business.place, Business.place] at same
          rw [same] at found
          obtain rfl := Option.some.inj (found.symm.trans found_too)
          exact different (pooled.symm.trans elsewhere)

/-- What is known of a call that waits for its lock: a draft is one of an amount, and the record of
a settlement is in the register. -/
inductive Knows (engine : Engine) : Errand → Prop where
  | create {transfer : Transfer} (amount : IsAmount transfer.amount)
      (untouched : transfer.toProgress = {}) : Knows engine (.create transfer)
  | settle {id : Value} {record : Transfer} {call : SettlementCall}
      (found : engine.transfers.get? id.canonical = some record) :
      Knows engine (.settle id record.pool call)
  | updateFees (pool : Value) (schedule : Schedule) : Knows engine (.updateFees pool schedule)

private theorem Knows.of_kept {errand : Errand} (knows : before.Knows errand)
    (kept : ∀ place record, before.transfers.get? place = some record →
      ∃ later, after.transfers.get? place = some later ∧ later.pool = record.pool) :
    after.Knows errand := by
  cases knows with
  | create amount untouched => exact .create amount untouched
  | settle found =>
      obtain ⟨later, found, pool_eq⟩ := kept _ _ found
      rw [← pool_eq]
      exact .settle found
  | updateFees pool schedule => exact .updateFees pool schedule

end Engine

/-! ## What is on record -/

/-- The register of transfers agrees with what has been answered: every creation has its own id and
is still in the register, and exactly the transfers with an answered settlement are settled. -/
structure Recorded (created : List Transfer) (settled : List Event)
    (transfers : Table Value Transfer) : Prop where
  created_once : (created.map (·.id.canonical)).Nodup
  kept : ∀ transfer ∈ created, ∃ progress,
    transfers.get? transfer.id.canonical = some { transfer with toProgress := progress }
  settled_once : (settled.map (·.transfer.canonical)).Nodup
  settled_iff : ∀ key, key ∈ settled.map (·.transfer.canonical) ↔
    ∃ record, transfers.get? key = some record ∧ record.isActive = false

namespace Recorded

variable {created : List Transfer} {settled : List Event} {transfers : Table Value Transfer}
  {transfer : Transfer}

private theorem deposit (recorded : Recorded created settled transfers)
    (pending : transfer.isActive) (unused : transfers.get? transfer.id.canonical = none) :
    Recorded (created ++ [transfer]) settled
      (transfers.set transfer.id.canonical transfer) := by
  have other {key : Value} {record : Transfer} (found : transfers.get? key = some record) :
      key ≠ transfer.id.canonical := by
    rintro rfl
    rw [unused] at found
    cases found
  refine ⟨?_, ?_, recorded.settled_once, ?_⟩
  · have fresh : transfer.id.canonical ∉ created.map (·.id.canonical) := by
      intro member
      obtain ⟨earlier, listed, same⟩ := List.mem_map.mp member
      obtain ⟨progress, found⟩ := recorded.kept earlier listed
      exact other found same
    rw [List.map_append, List.map_singleton, ← List.concat_eq_append]
    exact recorded.created_once.concat fresh
  · intro created_transfer member
    rcases List.mem_append.mp member with listed | new
    · obtain ⟨progress, found⟩ := recorded.kept created_transfer listed
      exact ⟨progress, by rw [Table.get?_set_of_ne _ (other found).symm, found]⟩
    · rw [List.mem_singleton.mp new]
      exact ⟨transfer.toProgress, Table.get?_set_self _ _ _⟩
  · intro key
    rw [recorded.settled_iff, Table.get?_set]
    by_cases same : key = transfer.id.canonical
    · rw [if_pos same, same, unused]
      simp [pending]
    · rw [if_neg same]

private theorem settle {key : Value} {settlement : Settlement} {time : Instant} {event : Event}
    (recorded : Recorded created settled transfers)
    (found : transfers.get? key = some transfer) (pending : transfer.isActive)
    (about : event.transfer.canonical = key) :
    Recorded created (settled ++ [event])
      (transfers.set key (transfer.settledBy settlement time)) := by
  have unsettled : key ∉ settled.map (·.transfer.canonical) := by
    intro member
    obtain ⟨record, found_too, inactive⟩ := (recorded.settled_iff key).mp member
    obtain rfl := Option.some.inj (found.symm.trans found_too)
    rw [pending] at inactive
    cases inactive
  refine ⟨recorded.created_once, ?_, ?_, ?_⟩
  · intro created_transfer member
    obtain ⟨progress, kept⟩ := recorded.kept created_transfer member
    rw [Table.get?_set]
    split
    · rename_i same
      rw [same, found] at kept
      obtain rfl := Option.some.inj kept
      exact ⟨_, rfl⟩
    · exact ⟨progress, kept⟩
  · rw [List.map_append, List.map_singleton, about, ← List.concat_eq_append]
    exact recorded.settled_once.concat unsettled
  · intro place
    rw [List.map_append, List.mem_append, recorded.settled_iff, List.map_singleton,
      List.mem_singleton, about, Table.get?_set]
    by_cases same : place = key
    · simp [same]
    · simp [same]

end Recorded

/-- The transfer that an answer tells of as created. -/
def Reply.created? : Answer Reply → Option Transfer
  | .ok (.transfer made) => some made
  | _ => none

/-- The settlement that an answer tells of. -/
def Reply.settled? : Answer Reply → Option Event
  | .ok (.event news) => some news
  | _ => none

/-- The id that a call creates a transfer under. -/
def Flight.creates? (flight : Flight) : Option Value :=
  match flight.business with
  | .deposit transfer => some transfer.id.canonical
  | .payout _ => none

private theorem Flight.creates?_eq {flight : Flight} {transfer : Transfer}
    (creates : flight.business = .deposit transfer) :
    flight.creates? = some transfer.id.canonical := by
  rw [Flight.creates?, creates]

namespace Traffic

variable {traffic before after : Traffic} {key : Value} {flight : Flight} {business : Business}

/-- The transfers of the creations that have succeeded. -/
def created (traffic : Traffic) : List Transfer := traffic.replies.filterMap Reply.created?

/-- The events of the settlements that have succeeded. -/
def settled (traffic : Traffic) : List Event := traffic.replies.filterMap Reply.settled?

/-- No transfer is lost. -/
structure Intact (traffic : Traffic) : Prop where
  recorded : Recorded traffic.created traffic.settled traffic.engine.transfers
  none_replaced : traffic.replaced = .empty
  escrowed : ∀ key pool, traffic.engine.pools.get? key = some pool →
    pool.escrowed = .ok (.int ((traffic.engine.pendingIn key).map (·.amount)).sum)

/-- The ids of the creations that have passed their checks and are not over. -/
def creating (traffic : Traffic) : List Value := traffic.holders.values.filterMap Flight.creates?

/-- No two creations that have passed their checks are about the same id, and the time of a
settlement is known. -/
structure Smooth (traffic : Traffic) : Prop where
  apart : traffic.creating.Nodup
  timely : traffic.engine.settlingTime.isOk

instance (traffic : Traffic) : Decidable traffic.Smooth :=
  decidable_of_iff (traffic.creating.Nodup ∧ traffic.engine.settlingTime.isOk)
    ⟨fun smooth => ⟨smooth.1, smooth.2⟩, fun smooth => ⟨smooth.apart, smooth.timely⟩⟩

private theorem Smooth.eq_of_creates (smooth : traffic.Smooth) {other id : Value} {rival : Flight}
    (held : traffic.holders.get? key = some flight) (creates : flight.creates? = some id)
    (held_too : traffic.holders.get? other = some rival) (creates_too : rival.creates? = some id) :
    key = other := by
  have apart := smooth.apart
  unfold creating Table.values at apart
  rw [List.filterMap_map, List.Nodup, List.pairwise_filterMap] at apart
  have symmetric : Std.Symm fun first second : Value × Flight =>
      ∀ id, (Flight.creates? ∘ Prod.snd) first = some id →
        ∀ other, (Flight.creates? ∘ Prod.snd) second = some other → id ≠ other :=
    ⟨fun _ _ apart id found other found_too => (apart other found_too id found).symm⟩
  by_contra different
  have entries_ne : (key, flight) ≠ (other, rival) := fun same => different (Prod.mk.inj same).1
  exact apart.forall (Table.mem_entries_iff.mpr held) (Table.mem_entries_iff.mpr held_too)
    entries_ne id creates id creates_too rfl

/-! ## What every turn keeps -/

/-- Nothing is lost, and whatever is under way finds what it has been promised. -/
structure Sound (traffic : Traffic) : Prop where
  tidy : traffic.engine.Tidy
  accounts : ∃ news, Engine.Accounts news traffic.engine
  recorded : Recorded traffic.created traffic.settled traffic.engine.transfers
  none_replaced : traffic.replaced = .empty
  known : ∀ errand ∈ traffic.waiting, traffic.engine.Knows errand
  awaited : ∀ key flight, traffic.holders.get? key = some flight →
    traffic.engine.Awaits key flight.business

private theorem Sound.intact (sound : traffic.Sound) : traffic.Intact := by
  refine ⟨sound.recorded, sound.none_replaced, ?_⟩
  intro key pool found
  obtain ⟨news, accounts⟩ := sound.accounts
  obtain ⟨tally, counts, balanced⟩ := accounts.pools key pool found
  rw [counts.escrowed_eq, Tally.escrowed, balanced.escrowed]

/-- What touches neither the pools nor the transfers keeps the traffic sound. -/
theorem Sound.aside (sound : before.Sound) (pools : after.engine.pools = before.engine.pools)
    (transfers : after.engine.transfers = before.engine.transfers)
    (pruned : after.engine.pruned = before.engine.pruned)
    (replaced : after.replaced = before.replaced) (created : after.created = before.created)
    (settled : after.settled = before.settled)
    (known : ∀ errand ∈ after.waiting, before.engine.Knows errand)
    (awaited : ∀ key flight, after.holders.get? key = some flight →
      before.engine.Awaits key flight.business) : after.Sound where
  tidy := sound.tidy.of_same pools transfers pruned
  accounts := by
    obtain ⟨news, accounts⟩ := sound.accounts
    refine ⟨news, accounts.of_same pools fun measure key => ?_⟩
    rw [Engine.pendingSum, transfers, Engine.pendingSum]
  recorded := by
    rw [created, settled, transfers]
    exact sound.recorded
  none_replaced := replaced.trans sound.none_replaced
  known := by
    intro errand member
    apply (known errand member).of_kept
    rw [transfers]
    exact fun place record found => ⟨record, found, rfl⟩
  awaited := by
    intro key flight held
    exact (awaited key flight held).of_same (by rw [pools]) (by rw [transfers]) pruned

private theorem engine_reply (traffic : Traffic) (answer : Answer Reply) :
    (traffic.reply answer).engine = traffic.engine := rfl

private theorem created_reply (traffic : Traffic) (answer : Answer Reply) :
    (traffic.reply answer).created = traffic.created ++ (Reply.created? answer).toList := by
  unfold created reply
  rw [List.filterMap_append]
  cases told : Reply.created? answer <;> simp [told]

private theorem settled_reply (traffic : Traffic) (answer : Answer Reply) :
    (traffic.reply answer).settled = traffic.settled ++ (Reply.settled? answer).toList := by
  unfold settled reply
  rw [List.filterMap_append]
  cases told : Reply.settled? answer <;> simp [told]

/-- An answer that tells of no creation and no settlement keeps the traffic sound. -/
theorem Sound.reply (sound : traffic.Sound) {answer : Answer Reply}
    (no_creation : Reply.created? answer = none) (no_settlement : Reply.settled? answer = none) :
    (traffic.reply answer).Sound := by
  refine sound.aside rfl rfl rfl rfl ?_ ?_ sound.known sound.awaited
  · rw [created_reply, no_creation, Option.toList_none, List.append_nil]
  · rw [settled_reply, no_settlement, Option.toList_none, List.append_nil]

private theorem Sound.refuse (sound : traffic.Sound) (problem : Problem) :
    (traffic.reply (.error problem)).Sound :=
  sound.reply rfl rfl

private theorem Sound.wait (sound : traffic.Sound) {errand : Answer Errand}
    (known : ∀ admitted, errand = .ok admitted → traffic.engine.Knows admitted) :
    (traffic.wait errand).Sound := by
  cases errand with
  | error problem => exact sound.refuse problem
  | ok admitted =>
      refine sound.aside rfl rfl rfl rfl rfl rfl ?_ sound.awaited
      intro other member
      rcases List.mem_append.mp member with waiting | new
      · exact sound.known other waiting
      · rw [List.mem_singleton.mp new]
        exact known admitted rfl

private theorem Sound.create (sound : traffic.Sound) (request : CreateRequest) :
    (traffic.create request).Sound := by
  obtain ⟨drawn, drawn_eq, asks⟩ := Engine.drafted_eq traffic.engine request
  unfold Traffic.create
  have still : ({ traffic with engine := (traffic.engine.drafted request).1 } : Traffic).Sound := by
    rw [drawn_eq]
    exact sound.aside rfl rfl rfl rfl rfl rfl sound.known sound.awaited
  apply still.wait
  intro errand admitted
  obtain ⟨transfer, drafted, rfl⟩ := map_eq_ok_iff.mp admitted
  obtain ⟨asked, -, -⟩ := asks transfer drafted
  exact .create asked.amount asked.untouched

private theorem Sound.settle (sound : traffic.Sound) (id : Value) (call : SettlementCall) :
    (traffic.settle id call).Sound := by
  apply sound.wait
  intro errand admitted
  simp only [bind_eq_ok_iff, pure_eq_ok_iff] at admitted
  obtain ⟨_, -, record, found, rfl⟩ := admitted
  exact .settle (Engine.transfer_eq_ok_iff.mp found).2

private theorem Sound.updateFees (sound : traffic.Sound) (id caller : Value) (schedule : Schedule) :
    (traffic.updateFees id caller schedule).Sound := by
  apply sound.wait
  intro errand admitted
  obtain ⟨_, -, rfl⟩ := map_eq_ok_iff.mp admitted
  exact .updateFees id schedule

/-- A pool whose lock is free may be written, if its accounts stay right. -/
theorem Sound.setPool (sound : traffic.Sound) {pool : Pool}
    (keyed : pool.id.isKey ∧ pool.id.canonical = key) (free : traffic.holders.get? key = none)
    (accounts : ∃ news, Engine.Accounts news
      { traffic.engine with pools := traffic.engine.pools.set key pool }) :
    ({ traffic with engine :=
        { traffic.engine with pools := traffic.engine.pools.set key pool } } : Traffic).Sound where
  tidy := sound.tidy.setPool keyed
  accounts := accounts
  recorded := sound.recorded
  none_replaced := sound.none_replaced
  known := by
    intro errand member
    exact (sound.known errand member).of_kept fun place record found => ⟨record, found, rfl⟩
  awaited := by
    intro other flight held
    have different : key ≠ other := by
      rintro rfl
      rw [free] at held
      cases held
    exact (sound.awaited other flight held).of_same (Table.get?_set_of_ne _ different _) rfl rfl

private theorem Sound.hold (sound : traffic.Sound) {pool : Value}
    (awaits : traffic.engine.Awaits pool.canonical flight.business) :
    (traffic.hold pool flight).Sound := by
  refine sound.aside rfl rfl rfl rfl rfl rfl sound.known ?_
  intro key held_flight held
  rw [Traffic.hold, Table.get?_set] at held
  split at held
  · rename_i same
    obtain rfl := Option.some.inj held
    rwa [same]
  · exact sound.awaited key held_flight held

private theorem Sound.proceed (sound : traffic.Sound) {errand : Errand}
    (knows : traffic.engine.Knows errand)
    (free : traffic.holders.get? errand.pool.canonical = none) :
    (traffic.proceed errand).Sound := by
  cases knows with
  | @create transfer amount untouched =>
      unfold Traffic.proceed
      dsimp only
      split
      · rename_i move prepared
        obtain ⟨pool_key, id_key, unused, unpruned, pool, pool_found, checked, rfl⟩ :=
          Engine.prepareDeposit_eq_ok prepared
        exact sound.hold
          (.deposit pool_key rfl id_key amount untouched pool_found unused unpruned checked)
      · exact sound.refuse _
  | @settle id record call found =>
      unfold Traffic.proceed
      dsimp only
      rw [seenFrom_eq sound.none_replaced]
      split
      · rename_i payout prepared
        obtain ⟨transfer, pool, settlement, again, pool_found, pending, -, checked, rfl⟩ :=
          Engine.prepare_eq_ok prepared
        obtain ⟨-, again⟩ := Engine.transfer_eq_ok_iff.mp again
        obtain ⟨-, pool_found⟩ := Engine.pool_eq_ok_iff.mp pool_found
        obtain rfl := Option.some.inj (found.symm.trans again)
        have registers := sound.tidy.transfers _ _ found
        rw [← registers.id_eq] at found
        exact sound.hold (.payout rfl pool_found found pending checked)
      · exact sound.refuse _
  | updateFees id schedule =>
      unfold Traffic.proceed
      dsimp only
      split
      · rename_i pool pool_found
        obtain ⟨-, pool_found⟩ := Engine.pool_eq_ok_iff.mp pool_found
        obtain ⟨news, accounts⟩ := sound.accounts
        have keyed := sound.tidy.pools _ _ pool_found
        have written : ({ traffic with engine := { traffic.engine with
            pools := traffic.engine.pools.set id.canonical
              { pool with schedule := schedule } } } : Traffic).Sound :=
          sound.setPool keyed free ⟨_, accounts.fees pool_found schedule rfl rfl⟩
        exact written.reply rfl rfl
      · exact sound.refuse _

private theorem Sound.enter (sound : traffic.Sound) (number : Nat) :
    (traffic.enter number).Sound := by
  unfold Traffic.enter
  split
  · exact sound
  · rename_i errand waits
    split
    · exact sound
    · rename_i free
      have left : ({ traffic with
          waiting := traffic.waiting.eraseIdx number } : Traffic).Sound := by
        refine sound.aside rfl rfl rfl rfl rfl rfl ?_ sound.awaited
        exact fun other member => sound.known other (List.mem_of_mem_eraseIdx member)
      apply left.proceed
      · exact sound.known errand (List.mem_of_getElem? waits)
      · simpa [Table.contains] using free

private theorem Sound.move (sound : traffic.Sound) (key : Value) : (traffic.move key).Sound := by
  unfold Traffic.move
  split
  · rename_i business move held
    have awaits := sound.awaited key _ held
    refine sound.aside rfl rfl rfl rfl rfl rfl sound.known ?_
    intro other flight held_flight
    dsimp only at held_flight
    rw [Table.get?_set] at held_flight
    split at held_flight
    · rename_i same
      obtain rfl := Option.some.inj held_flight
      rwa [same]
    · exact sound.awaited other flight held_flight
  · exact sound

private theorem Sound.register (sound : traffic.Sound) {pool : Pool} (unused : pool.IsUnused) :
    (traffic.register pool).Sound := by
  unfold Traffic.register
  split
  · rename_i engine registered
    obtain ⟨id_key, vacant, rfl⟩ := Engine.register_eq_ok registered
    obtain ⟨news, accounts⟩ := sound.accounts
    -- Nobody has the lock of a pool that is not registered yet.
    have free : traffic.holders.get? pool.id.canonical = none := by
      apply Option.eq_none_iff_forall_ne_some.mpr
      intro flight held
      obtain ⟨other, found⟩ := (sound.awaited _ flight held).exists_pool
      rw [vacant] at found
      cases found
    have written := sound.setPool ⟨id_key, rfl⟩ free
      ⟨_, accounts.register sound.tidy unused vacant rfl rfl⟩
    exact written.reply rfl rfl
  · exact sound.refuse _

/-! ## Bookings -/

/-- A booking in a pool, which writes one transfer, keeps the traffic sound: the other calls under
way are about other pools and about other transfers. -/
theorem Sound.booked (sound : traffic.Sound) {engine : Engine} {place : Value} {booked : Pool}
    {written : Transfer} {answer : Answer Reply}
    (apart : ∀ other flight, traffic.holders.get? other = some flight →
      key ≠ other ∧ place ≠ flight.business.place)
    (pools : engine.pools = traffic.engine.pools.set key booked)
    (transfers : engine.transfers = traffic.engine.transfers.set place written)
    (pruned : engine.pruned = traffic.engine.pruned)
    (pool_eq : ∀ record, traffic.engine.transfers.get? place = some record →
      written.pool = record.pool)
    (tidy : engine.Tidy) (accounts : ∃ news, Engine.Accounts news engine)
    (recorded : Recorded (traffic.created ++ (Reply.created? answer).toList)
      (traffic.settled ++ (Reply.settled? answer).toList) engine.transfers) :
    ({ traffic with engine := engine }.reply answer).Sound where
  tidy := tidy
  accounts := accounts
  recorded := by
    rw [created_reply, settled_reply]
    exact recorded
  none_replaced := sound.none_replaced
  known := by
    intro errand member
    apply (sound.known errand member).of_kept
    intro other record found
    rw [engine_reply, transfers, Table.get?_set]
    split
    · rename_i same
      rw [same] at found
      exact ⟨written, rfl, pool_eq record found⟩
    · exact ⟨record, found, rfl⟩
  awaited := by
    intro other flight held
    obtain ⟨different, elsewhere⟩ := apart other flight held
    apply (sound.awaited other flight held).of_same
    · rw [engine_reply, pools, Table.get?_set_of_ne _ different]
    · rw [engine_reply, transfers, Table.get?_set_of_ne _ elsewhere]
    · exact pruned

private theorem Sound.bookDeposit (sound : traffic.Sound) {transfer : Transfer}
    (awaits : traffic.engine.Awaits key (.deposit transfer))
    (apart : ∀ other flight, traffic.holders.get? other = some flight →
      key ≠ other ∧ transfer.id.canonical ≠ flight.business.place) (reference : Value) :
    (traffic.book (.deposit transfer) (.ok reference)).Sound := by
  obtain ⟨news, accounts⟩ := sound.accounts
  cases awaits with
  | @deposit _ pool pool_key pooled id_key amount untouched pool_found unused unpruned checked =>
      subst pooled
      obtain ⟨_, _, -, -, booking⟩ := Pool.bookDeposit_of_check checked
      have written := Engine.bookDeposit_eq traffic.engine.drawn traffic.engine.ledger pool_key
        pool_found booking
      have pending : transfer.isActive := by
        rw [untouched]
        rfl
      have unreplaced : traffic.replacedBy transfer = traffic.replaced := by
        rw [replacedBy, unused]
      unfold book
      dsimp only at written ⊢
      rw [written, unreplaced]
      refine sound.booked apart rfl rfl rfl ?_ ?_ ?_ ?_
      · intro record found
        rw [unused] at found
        cases found
      · exact sound.tidy.deposit pool_found booking id_key amount untouched unpruned rfl rfl rfl
      · exact ⟨_, accounts.deposit pool_found unused pending checked booking rfl rfl reference⟩
      · have unsettled : Reply.settled? (.ok (.transfer transfer)) = none := rfl
        rw [unsettled, Option.toList_none, List.append_nil]
        exact sound.recorded.deposit pending unused

private theorem Sound.bookPayout (sound : traffic.Sound) {payout : Payout}
    (awaits : traffic.engine.Awaits key (.payout payout))
    (apart : ∀ other flight, traffic.holders.get? other = some flight →
      key ≠ other ∧ payout.transfer.canonical ≠ flight.business.place)
    (timely : ∃ time, traffic.engine.settlingTime = .ok time) (reference : Value) :
    (traffic.book (.payout payout) (.ok reference)).Sound := by
  obtain ⟨news, accounts⟩ := sound.accounts
  obtain ⟨time, timely⟩ := timely
  cases awaits with
  | @payout transfer pool settlement fee move pooled pool_found found pending checked =>
      subst pooled
      obtain ⟨_, _, _, -, -, -, booking⟩ := Pool.bookSettlement_of_check checked
      have written : traffic.engine.book ⟨transfer.id, pool.id, settlement, fee, move⟩ reference =
          _ :=
        Engine.book_eq sound.tidy found pool_found pending booking timely traffic.engine.ledger
          move reference
      unfold book
      dsimp only
      rw [seenFrom_eq sound.none_replaced, written]
      dsimp only
      rw [changedFrom_eq sound.none_replaced]
      refine sound.booked apart rfl rfl rfl ?_ ?_ ?_ ?_
      · intro record found_too
        obtain rfl := Option.some.inj (found.symm.trans found_too)
        rfl
      · exact sound.tidy.settle found pool_found booking rfl rfl rfl
      · exact ⟨_, accounts.settle sound.tidy found pool_found pending checked booking time rfl rfl
          reference⟩
      · have uncreated (event : Event) : Reply.created? (.ok (.event event)) = none := rfl
        rw [Except.map, uncreated, Option.toList_none, List.append_nil]
        exact sound.recorded.settle found pending rfl

/-- A call that the ledger has answered books what it has promised, or nothing. -/
theorem Sound.book (sound : traffic.Sound) (awaits : traffic.engine.Awaits key business)
    (apart : ∀ other flight, traffic.holders.get? other = some flight →
      key ≠ other ∧ business.place ≠ flight.business.place)
    (timely : ∃ time, traffic.engine.settlingTime = .ok time) (answer : Answer Value) :
    (traffic.book business answer).Sound := by
  cases answer with
  | error problem => cases business <;> exact sound.refuse _
  | ok reference =>
      cases business with
      | deposit transfer => exact sound.bookDeposit awaits apart reference
      | payout payout => exact sound.bookPayout awaits apart timely reference

private theorem Sound.finish (sound : traffic.Sound) (smooth : traffic.Smooth) (key : Value) :
    (traffic.finish key).Sound := by
  unfold Traffic.finish
  split
  · rename_i business move answer held
    have awaits := sound.awaited key _ held
    have released : ({ traffic with holders := traffic.holders.erase key } : Traffic).Sound := by
      refine sound.aside rfl rfl rfl rfl rfl rfl sound.known ?_
      intro other flight held_too
      rw [Table.get?_erase] at held_too
      split at held_too
      · cases held_too
      · exact sound.awaited other flight held_too
    apply released.book awaits
    -- Whoever else has a lock has that of another pool, so that only two creations could clash.
    · intro other flight held_too
      rw [Table.get?_erase] at held_too
      split at held_too
      · cases held_too
      · rename_i different
        refine ⟨Ne.symm different,
          awaits.place_ne (sound.awaited other flight held_too) (Ne.symm different) ?_⟩
        intro first second creates creates_too same
        apply different
        refine smooth.eq_of_creates held_too ?_ held (Flight.creates?_eq creates)
        rw [same]
        exact Flight.creates?_eq creates_too
    · exact exists_eq_ok smooth.timely
  · exact sound

private theorem Sound.turn (sound : traffic.Sound) (smooth : traffic.Smooth) {turn : Turn}
    (unused : ∀ pool, turn = .register pool → pool.IsUnused) : (traffic.turn turn).Sound := by
  cases turn with
  | create request => exact sound.create request
  | settle id call => exact sound.settle id call
  | updateFees id caller schedule => exact sound.updateFees id caller schedule
  | enter number => exact sound.enter number
  | move key => exact sound.move key
  | finish key => exact sound.finish smooth key
  | register pool => exact sound.register (unused pool rfl)
  | setLedger => exact sound.aside rfl rfl rfl rfl rfl rfl sound.known sound.awaited
  | setClock => exact sound.aside rfl rfl rfl rfl rfl rfl sound.known sound.awaited

private theorem Sound.run (sound : traffic.Sound) {turns : List Turn}
    (unused : ∀ pool, .register pool ∈ turns → pool.IsUnused)
    (smooth : ∀ past, past <+: turns → (traffic.run past).Smooth) : (traffic.run turns).Sound := by
  induction turns generalizing traffic with
  | nil => exact sound
  | cons turn rest ih =>
      have next : (traffic.turn turn).Sound := by
        apply sound.turn (smooth [] List.nil_prefix)
        rintro pool rfl
        exact unused pool List.mem_cons_self
      apply ih next
      · exact fun pool member => unused pool (List.mem_cons_of_mem _ member)
      · intro past before
        exact smooth (turn :: past) ((List.prefix_cons_inj turn).mpr before)

private theorem sound_of_blank {engine : Engine} (blank : engine.IsBlank) :
    (ofEngine engine).Sound where
  tidy := blank.tidy
  accounts := ⟨[], blank.accounts⟩
  recorded := by
    refine ⟨List.nodup_nil, by simp [ofEngine, created], List.nodup_nil, ?_⟩
    simp [ofEngine, settled, blank.transfers]
  none_replaced := rfl
  known := by simp [ofEngine]
  awaited := by simp [ofEngine]

/-- From a blank engine on, however calls are interleaved, no transfer is lost, as long as pools
come unused, no two creations that have passed their checks are about the same id, and the clock can
be read. -/
theorem intact_of_run {engine : Engine} (blank : engine.IsBlank) {turns : List Turn}
    (unused : ∀ pool, .register pool ∈ turns → pool.IsUnused)
    (smooth : ∀ past, past <+: turns → ((ofEngine engine).run past).Smooth) :
    ((ofEngine engine).run turns).Intact :=
  ((sound_of_blank blank).run unused smooth).intact

/-! ## Two pools at once -/

/-- Another pool of dollars that Olga operates. -/
def sampleOtherPool : Pool :=
  { Engine.samplePool with
    id := .text "q"
    custody := .text "pool:q" }

/-- Alice asks to send dollars to Bob through the other pool. -/
def sampleOtherRequest (id : String) (amount : Int) : CreateRequest :=
  { Engine.sampleRequest id amount with pool := .text "q" }

/-- Two transfers are created at the same time, one in each pool; the first one is then accepted and
cancelled at the same time, and the cancellation gets the lock. -/
def sampleTurns : List Turn :=
  [.register Engine.samplePool, .register sampleOtherPool,
    .create (Engine.sampleRequest "t1" 300), .create (sampleOtherRequest "t2" 200),
    .enter 0, .enter 0, .move (.text "q"), .move (.text "p"), .finish (.text "q"),
    .finish (.text "p"),
    .settle (.text "t1") (.accept (.text "olga")), .settle (.text "t1") (.cancel (.text "alice")),
    .enter 1, .enter 0, .move (.text "p"), .finish (.text "p"), .enter 0]

private theorem isUnused_of_sampleTurns : ∀ pool, .register pool ∈ sampleTurns → pool.IsUnused := by
  intro pool member
  simp only [sampleTurns, List.mem_cons, Turn.register.injEq, List.not_mem_nil, reduceCtorEq,
    or_false] at member
  rcases member with rfl | rfl <;> exact ⟨rfl, rfl, rfl, rfl, rfl⟩

/-- Both transfers are created, and the first one is cancelled only. -/
theorem intact_sample :
    let served := (ofEngine Engine.sampleEngine).run sampleTurns
    served.Intact ∧ served.waiting.length = 0 ∧ served.holders.size = 0 ∧
      served.created.map (·.id) = [.text "t2", .text "t1"] ∧
      served.settled.map (·.status) = [.settled .cancelled] := by
  have smooth : ∀ past ∈ sampleTurns.inits,
      ((ofEngine Engine.sampleEngine).run past).Smooth := by
    decide +kernel
  refine ⟨?_, by decide +kernel, by decide +kernel, by decide +kernel, by decide +kernel⟩
  apply intact_of_run Engine.isFresh_sample.isBlank isUnused_of_sampleTurns
  exact fun past before => smooth past ((List.mem_inits past sampleTurns).mpr before)

/-- Two transfers of one id are created at the same time, one in each pool. -/
def sampleRace : List Turn :=
  [.register Engine.samplePool, .register sampleOtherPool,
    .create (Engine.sampleRequest "t1" 300), .create (sampleOtherRequest "t1" 200),
    .enter 0, .enter 0, .move (.text "p"), .move (.text "q"), .finish (.text "p"),
    .finish (.text "q")]

/-- The vault of an engine that reads its clock in universal time. -/
def sampleUniversalVault : Engine := { Engine.sampleVault with isUniversal := true }

/-- A transfer is accepted while the clock shows an instant that universal time cannot tell. -/
def sampleUntold : List Turn :=
  [.register Engine.sampleVaultPool, .create (Engine.sampleRequest "t1" 300),
    .enter 0, .move (.text "p"), .finish (.text "p"),
    .setClock (some ⟨⟨1, 1, 1⟩, 0, 0, 0, 0, some 18000⟩),
    .settle (.text "t1") (.accept (.text "olga")),
    .enter 0, .move (.text "p"), .finish (.text "p")]

/-- Neither condition can be left out.  Two creations of one id that have both passed their checks
both succeed, and the record of the second one takes the place of the first one's, whose amount
stays in its pool.  A payout whose time is not known is counted by its pool and leaves the transfer
pending. -/
theorem lost_sample :
    (let raced := (ofEngine Engine.sampleEngine).run sampleRace;
      raced.waiting.length = 0 ∧ raced.holders.size = 0 ∧
        raced.created.map (·.id) = [.text "t1", .text "t1"] ∧
        raced.replaced.keys = [(.text "t1", .text "p")] ∧
        (raced.engine.pools.get? (.text "p")).map (·.escrowed) = some (.ok (.int 300)) ∧
        raced.engine.pendingIn (.text "p") = []) ∧
      (let untold := (ofEngine sampleUniversalVault).run sampleUntold;
        untold.waiting.length = 0 ∧ untold.holders.size = 0 ∧ untold.settled = [] ∧
          (untold.engine.pools.get? (.text "p")).map (·.escrowed) = some (.ok (.int 0)) ∧
          (untold.engine.pendingIn (.text "p")).map (·.amount) = [300]) := by
  decide +kernel

end Traffic
end Escrow
