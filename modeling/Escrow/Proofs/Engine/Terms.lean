import Escrow.Proofs.Engine.Passage

/-!
# Terms and parties

A registered pool keeps its terms and a registered transfer its parties: steps write counters, fees
and progress only.  So what a caller promises of the pools and transfers that come in holds of all
that are registered.
-/

namespace Escrow

/-- The pool has the terms of an older one; counters and fees may differ. -/
structure Pool.Continues (pool old : Pool) : Prop where
  id_eq : pool.id = old.id
  operator_eq : pool.operator = old.operator
  asset_eq : pool.asset = old.asset
  authority_eq : pool.authority = old.authority
  custody_eq : pool.custody = old.custody
  decimals_eq : pool.decimals = old.decimals

theorem Pool.Continues.refl (pool : Pool) : pool.Continues pool :=
  ⟨rfl, rfl, rfl, rfl, rfl, rfl⟩

theorem Pool.Continues.trans {pool other old : Pool} (left : pool.Continues other)
    (right : other.Continues old) : pool.Continues old :=
  ⟨left.id_eq.trans right.id_eq, left.operator_eq.trans right.operator_eq,
    left.asset_eq.trans right.asset_eq, left.authority_eq.trans right.authority_eq,
    left.custody_eq.trans right.custody_eq, left.decimals_eq.trans right.decimals_eq⟩

theorem Pool.continues_of_deposit {pool booked : Pool} {amount : Int}
    (booking : pool.bookDeposit amount = .ok booked) : booked.Continues pool := by
  obtain ⟨deposited, created, rfl⟩ := bookDeposit_eq_ok booking
  exact ⟨rfl, rfl, rfl, rfl, rfl, rfl⟩

theorem Pool.continues_of_settlement {pool booked : Pool} {amount : Int} {fee : Whole}
    (booking : pool.bookSettlement amount fee = .ok booked) : booked.Continues pool := by
  obtain ⟨withdrawn, fees, resolved, rfl⟩ := bookSettlement_eq_ok booking
  exact ⟨rfl, rfl, rfl, rfl, rfl, rfl⟩

/-- The transfer is an older one whose progress may differ. -/
structure Transfer.Continues (transfer old : Transfer) : Prop where
  id_eq : transfer.id = old.id
  pool_eq : transfer.pool = old.pool
  sender_eq : transfer.sender = old.sender
  recipient_eq : transfer.recipient = old.recipient
  amount_eq : transfer.amount = old.amount
  createdAt_eq : transfer.createdAt = old.createdAt
  expiresAt_eq : transfer.expiresAt = old.expiresAt
  memo_eq : transfer.memo = old.memo

theorem Transfer.Continues.refl (transfer : Transfer) : transfer.Continues transfer :=
  ⟨rfl, rfl, rfl, rfl, rfl, rfl, rfl, rfl⟩

theorem Transfer.Continues.trans {transfer other old : Transfer}
    (left : transfer.Continues other) (right : other.Continues old) : transfer.Continues old :=
  ⟨left.id_eq.trans right.id_eq, left.pool_eq.trans right.pool_eq,
    left.sender_eq.trans right.sender_eq, left.recipient_eq.trans right.recipient_eq,
    left.amount_eq.trans right.amount_eq, left.createdAt_eq.trans right.createdAt_eq,
    left.expiresAt_eq.trans right.expiresAt_eq, left.memo_eq.trans right.memo_eq⟩

namespace Engine

variable {origin before after : Engine} {call : Call} {news : List News} {key : Value}

/-- Where a pool comes from that is registered after a step: it was there before, with the same terms,
and its fees are the same, or the call changes them in the name of the authority; or the call registers
it. -/
inductive PoolSource (origin : Engine) (call : Call) (before : Engine) (key : Value) (pool : Pool) :
    Prop where
  | kept {old : Pool} (registered : before.pools.get? key = some old)
      (continues : pool.Continues old) (schedule_eq : pool.schedule = old.schedule) :
      PoolSource origin call before key pool
  | repriced {old : Pool} {id caller : Value} (start : before = origin)
      (registered : before.pools.get? key = some old) (continues : pool.Continues old)
      (asked : call = .updateFees id caller pool.schedule) (place : id.canonical = key)
      (authorized : caller.same old.authority) : PoolSource origin call before key pool
  | new (start : before = origin) (asked : call = .register pool)
      (place : key = pool.id.canonical) (free : before.pools.get? key = none) :
      PoolSource origin call before key pool

theorem Step.poolSource (step : Step origin call before news after) {pool : Pool}
    (found : after.pools.get? key = some pool) : PoolSource origin call before key pool := by
  have same (found : before.pools.get? key = some pool) : PoolSource origin call before key pool :=
    .kept found (.refl pool) rfl
  have written {place : Value} {old booked : Pool}
      (found : (before.pools.set place booked).get? key = some pool)
      (registered : before.pools.get? place = some old) (continues : booked.Continues old)
      (schedule_eq : booked.schedule = old.schedule) : PoolSource origin call before key pool := by
    rw [Table.get?_set] at found
    split at found
    · rename_i place_eq
      cases found
      exact .kept (place_eq ▸ registered) continues schedule_eq
    · exact same found
  cases step with
  | aside => exact same found
  | unpaidDeposit => exact same found
  | deposit asked drawn admits moved booking =>
      have continues := Pool.continues_of_deposit booking
      obtain ⟨deposited, created, rfl⟩ := Pool.bookDeposit_eq_ok booking
      exact written found admits.pool_found continues rfl
  | unpaidSettlement => exact same found
  | settlement allows moved booking =>
      have continues := Pool.continues_of_settlement booking
      obtain ⟨withdrawn, fees, resolved, rfl⟩ := Pool.bookSettlement_eq_ok booking
      exact written found allows.pool_found continues rfl
  | fees asked registered authorized =>
      rw [Table.get?_set] at found
      split at found
      · rename_i place_eq
        cases found
        rw [← place_eq] at registered
        exact .repriced rfl registered ⟨rfl, rfl, rfl, rfl, rfl, rfl⟩ asked place_eq.symm authorized
      · exact same found
  | register asked usable free =>
      rw [Table.get?_set] at found
      split at found
      · rename_i place_eq
        cases found
        exact .new rfl asked place_eq (place_eq ▸ free)
      · exact same found
  | archive => exact same found
  | prune => exact same found
  | told => exact same found
  | clock => exact same found

/-- A pool that is registered after a step was registered before it with the same terms, or the step
registers it. -/
theorem Step.pool_cases (step : Step origin call before news after) {pool : Pool}
    (found : after.pools.get? key = some pool) :
    (∃ old, before.pools.get? key = some old ∧ pool.Continues old) ∨
      call = .register pool ∧ key = pool.id.canonical ∧ before.pools.get? key = none := by
  cases step.poolSource found with
  | kept registered continues => exact .inl ⟨_, registered, continues⟩
  | repriced start registered continues => exact .inl ⟨_, registered, continues⟩
  | new start asked place free => exact .inr ⟨asked, place, free⟩

/-- A transfer that is registered after a step was registered before it with the same parties, or the
step creates it. -/
theorem Step.transfer_cases (step : Step origin call before news after) {transfer : Transfer}
    (found : after.transfers.get? key = some transfer) :
    (∃ old, before.transfers.get? key = some old ∧ transfer.Continues old) ∨
      before = origin ∧ key = transfer.id.canonical ∧ ∃ request pool, call = .create request ∧
        before.Admits request transfer pool := by
  have written {place : Value} {old changed : Transfer}
      (found : (before.transfers.set place changed).get? key = some transfer)
      (registered : before.transfers.get? place = some old) (continues : changed.Continues old) :
      ∃ old, before.transfers.get? key = some old ∧ transfer.Continues old := by
    rw [Table.get?_set] at found
    split at found
    · rename_i same
      cases found
      exact ⟨old, same ▸ registered, continues⟩
    · exact ⟨transfer, found, .refl transfer⟩
  cases step with
  | aside => exact .inl ⟨transfer, found, .refl transfer⟩
  | unpaidDeposit => exact .inl ⟨transfer, found, .refl transfer⟩
  | deposit asked drawn admits moved booking =>
      rw [Table.get?_set] at found
      split at found
      · rename_i same
        cases found
        exact .inr ⟨rfl, same, _, _, asked, admits⟩
      · exact .inl ⟨transfer, found, .refl transfer⟩
  | unpaidSettlement => exact .inl ⟨transfer, found, .refl transfer⟩
  | settlement allows moved booking =>
      exact .inl (written found allows.transfer_found ⟨rfl, rfl, rfl, rfl, rfl, rfl, rfl, rfl⟩)
  | fees => exact .inl ⟨transfer, found, .refl transfer⟩
  | register => exact .inl ⟨transfer, found, .refl transfer⟩
  | archive registered terminal =>
      exact .inl (written found registered ⟨rfl, rfl, rfl, rfl, rfl, rfl, rfl, rfl⟩)
  | prune =>
      rw [get?_transfers_prune, Option.filter_eq_some_iff] at found
      exact .inl ⟨transfer, found.1, .refl transfer⟩
  | told => exact .inl ⟨transfer, found, .refl transfer⟩
  | clock => exact .inl ⟨transfer, found, .refl transfer⟩

end Engine

/-- The parties of a new transfer, and the custody and the asset of a new pool, can be keys. -/
structure Call.NamesKeys (call : Call) : Prop where
  parties : ∀ request, call = .create request → request.sender.isKey ∧ request.recipient.isKey
  accounts : ∀ pool, call = .register pool → pool.custody.isKey ∧ pool.asset.isKey

namespace Engine

/-- Every account that the engine may name to its ledger can be one of the books. -/
structure HasKeys (engine : Engine) : Prop where
  pools : ∀ key pool, engine.pools.get? key = some pool → pool.custody.isKey ∧ pool.asset.isKey
  transfers : ∀ key transfer, engine.transfers.get? key = some transfer →
    transfer.sender.isKey ∧ transfer.recipient.isKey

theorem Step.hasKeys (step : Step origin call before news after) (names : call.NamesKeys)
    (keys : before.HasKeys) : after.HasKeys := by
  constructor
  · intro key pool found
    rcases step.pool_cases found with ⟨old, registered, continues⟩ | ⟨asked, -, -⟩
    · rw [continues.custody_eq, continues.asset_eq]
      exact keys.pools key old registered
    · exact names.accounts pool asked
  · intro key transfer found
    rcases step.transfer_cases found with
      ⟨old, registered, continues⟩ | ⟨-, -, request, pool, asked, admits⟩
    · rw [continues.sender_eq, continues.recipient_eq]
      exact keys.transfers key old registered
    · rw [admits.asked.sender_eq, admits.asked.recipient_eq]
      exact names.parties request asked

theorem IsFresh.hasKeys {engine : Engine} (fresh : engine.IsFresh) : engine.HasKeys := by
  constructor
  · intro key pool found
    rw [fresh.pools, Table.get?_empty] at found
    cases found
  · intro key transfer found
    rw [fresh.transfers, Table.get?_empty] at found
    cases found

/-! ## Deadlines -/

/-- Instants are compared in universal time, and only if both of them have a zone or none has. -/
theorem atOrBefore?_eq_some {first second : Instant} {answer : Bool}
    (compared : first.atOrBefore? second = some answer) :
    first.offset.isSome = second.offset.isSome ∧ decide (first.ticks ≤ second.ticks) = answer := by
  unfold Instant.atOrBefore? at compared
  split at compared
  · rename_i same
    exact ⟨same, Option.some.inj compared⟩
  · cases compared

/-- A deadline that is accepted has a zone and lies ahead of the clock, which has one as well. -/
theorem ahead_of_readExpiry {expiresAt : Value} {now : Option Instant} {deadline : Instant}
    (read : readExpiry expiresAt now = .ok (some deadline)) :
    deadline.offset.isSome ∧
      ∃ time, now = some time ∧ time.offset.isSome ∧ time.ticks < deadline.ticks := by
  unfold readExpiry at read
  split at read
  · cases read
  · split at read
    · cases read
    · rename_i asked zoned
      split at read
      · cases read
      · cases read
      · rename_i ahead
        obtain rfl : asked = deadline := Option.some.inj (Except.ok.inj read)
        have zoned : asked.offset.isSome := by simpa [Option.isSome_iff_ne_none] using zoned
        obtain ⟨time, now_eq, ahead⟩ := Option.bind_eq_some_iff.mp ahead
        obtain ⟨same, later⟩ := atOrBefore?_eq_some ahead
        exact ⟨zoned, time, now_eq, same ▸ zoned, by simpa using later⟩
  · cases read

/-- Every deadline has a zone. -/
def HasZones (engine : Engine) : Prop :=
  ∀ key transfer deadline, engine.transfers.get? key = some transfer →
    transfer.expiresAt = some deadline → deadline.offset.isSome

theorem Step.hasZones (step : Step origin call before news after) (zones : before.HasZones) :
    after.HasZones := by
  intro key transfer deadline found expires
  rcases step.transfer_cases found with
    ⟨old, registered, continues⟩ | ⟨-, -, request, pool, asked, admits⟩
  · rw [continues.expiresAt_eq] at expires
    exact zones key old deadline registered expires
  · have drafted := admits.drafted
    simp only [draft, bind_eq_ok_iff, pure_eq_ok_iff] at drafted
    obtain ⟨_, -, amount, -, memo, -, now, -, read, checked, drafted⟩ := drafted
    rw [← drafted] at expires
    obtain rfl : read = some deadline := expires
    exact (ahead_of_readExpiry checked).1

/-- Whatever a fresh engine goes through, every deadline has a zone. -/
theorem IsFresh.hasZones_run {engine : Engine} (fresh : engine.IsFresh) (calls : List Call) :
    (engine.run calls).HasZones := by
  have always : Along (fun _ _ => True) engine calls := along_of_forall (fun _ _ => trivial) engine
  have start : engine.HasZones := by
    intro key transfer deadline found
    rw [fresh.transfers, Table.get?_empty] at found
    cases found
  exact run_keeps (fun origin call _ before news after step _ zones => step.hasZones zones)
    fresh.orderly always start

end Engine
end Escrow
