import Escrow.Proofs.Engine.Passage

/-!
# The accounts of a pool

At every point of a run the counters of a pool agree with the register of transfers and with the news:
what is deposited and not withdrawn is what its pending transfers hold, what is created and not
resolved is how many they are, and the fees collected are those of its settled events.  Pruning and
archiving leave the sums alone because only settled transfers are archived.
-/

namespace Escrow
namespace Engine

/-- The pending transfers of the pool with this key. -/
def pendingIn (engine : Engine) (key : Value) : List Transfer :=
  engine.transfers.values.filter fun transfer =>
    transfer.isActive && decide (transfer.pool.canonical = key)

/-- The fees in the news of the settled transfers of the pool with this key. -/
def feesIn (news : List News) (key : Value) : List Int :=
  (news.filter fun item =>
    item.event.status.isTerminal && decide (item.event.pool.canonical = key)).map
      (·.event.fee.toInt)

/-- The tally of the pool with this key agrees with the transfers and with the news so far. -/
structure Balanced (engine : Engine) (news : List News) (key : Value) (tally : Tally) : Prop where
  escrowed : tally.deposited - tally.withdrawn =
    ((engine.pendingIn key).map (·.amount)).sum
  pending : tally.created - tally.resolved = (engine.pendingIn key).length
  collected : tally.feesCollected = (feesIn news key).sum
  fees_nonneg : 0 ≤ tally.feesCollected
  fees_le : tally.feesCollected ≤ tally.withdrawn
  withdrawn_le : tally.withdrawn ≤ tally.deposited
  deposited_le : tally.deposited ≤ greatestAmount
  resolved_nonneg : 0 ≤ tally.resolved
  resolved_le : tally.resolved ≤ tally.created
  created_le : tally.created ≤ greatestAmount

/-- For pools with textual ids, the pending transfers are those that the engine lists. -/
theorem pending_text (engine : Engine) (id : String) :
    engine.pending (.text id) = engine.pendingIn (.text id) := by
  unfold pending pendingIn
  congr 1
  funext transfer
  rw [Value.same_text_right]
  simp [Value.canonical_eq_text_iff]

/-! ## Sums over the pending transfers -/

/-- What a transfer adds to a sum over the pending transfers of a pool. -/
def share (measure : Transfer → Int) (key : Value) (transfer : Transfer) : Int :=
  if transfer.isActive ∧ transfer.pool.canonical = key then measure transfer else 0

/-- A sum over the pending transfers of a pool. -/
def pendingSum (engine : Engine) (measure : Transfer → Int) (key : Value) : Int :=
  engine.transfers.total fun _ => share measure key

variable {engine : Engine} {measure : Transfer → Int} {key : Value} {transfer : Transfer}

theorem sum_pendingIn (engine : Engine) (measure : Transfer → Int) (key : Value) :
    ((engine.pendingIn key).map measure).sum = engine.pendingSum measure key := by
  unfold pendingIn pendingSum share
  rw [Table.sum_values_filter]
  simp only [Bool.and_eq_true, decide_eq_true_eq]

theorem length_pendingIn (engine : Engine) (key : Value) :
    ((engine.pendingIn key).length : Int) = engine.pendingSum (fun _ => 1) key := by
  rw [← sum_pendingIn]
  simp

private theorem share_of_settled (settled : transfer.isActive = false) :
    share measure key transfer = 0 := by
  simp [share, settled]

private theorem share_of_pending (pending : transfer.isActive)
    (pooled : transfer.pool.canonical = key) :
    share measure key transfer = measure transfer := by
  simp [share, pending, pooled]

private theorem share_elsewhere (pooled : transfer.pool.canonical ≠ key) :
    share measure key transfer = 0 := by
  simp [share, pooled]

private theorem pendingSum_of_added {before after : Engine} {place : Value}
    (absent : before.transfers.get? place = none)
    (added : after.transfers = before.transfers.set place transfer) (measure : Transfer → Int)
    (key : Value) :
    after.pendingSum measure key = before.pendingSum measure key + share measure key transfer := by
  unfold pendingSum
  rw [added, Table.total_set_of_absent absent]

private theorem pendingSum_of_changed {before after : Engine} {place : Value} {changed : Transfer}
    (found : before.transfers.get? place = some transfer)
    (written : after.transfers = before.transfers.set place changed) (measure : Transfer → Int)
    (key : Value) :
    after.pendingSum measure key =
      before.pendingSum measure key + share measure key changed - share measure key transfer := by
  unfold pendingSum
  rw [written, Table.total_set_of_get? found]

/-- Pruning drops settled transfers only. -/
theorem Orderly.pendingSum_prune (orderly : engine.Orderly) (measure : Transfer → Int)
    (key : Value) : engine.prune.pendingSum measure key = engine.pendingSum measure key := by
  unfold pendingSum Engine.prune
  rw [Table.total_filter]
  apply Table.total_congr
  intro place transfer found
  by_cases archived : transfer.isArchived
  · have terminal := (orderly.transfers place transfer found).archived archived
    simp [share_of_settled (Progress.isActive_of_isTerminal terminal)]
  · simp [archived]

/-- No pending transfer of a pool counts for more than all of them do. -/
theorem le_pendingSum {place : Value} (found : engine.transfers.get? place = some transfer)
    (pending : transfer.isActive) (pooled : transfer.pool.canonical = key)
    (nonneg : ∀ place other, engine.transfers.get? place = some other → 0 ≤ measure other) :
    measure transfer ≤ engine.pendingSum measure key := by
  have shares : ∀ place other, engine.transfers.get? place = some other →
      0 ≤ share measure key other := by
    intro place other found
    have positive := nonneg place other found
    unfold share
    split <;> omega
  have bound := Table.le_total shares found
  rwa [share_of_pending pending pooled] at bound

/-! ## What a step does to the accounts -/

private theorem feesIn_append (news later : List News) (key : Value) :
    feesIn (news ++ later) key = feesIn news key ++ feesIn later key := by
  simp [feesIn]

variable {before after : Engine} {news later : List News} {tally : Tally}

/-- A balance is kept by whatever changes no sum. -/
theorem Balanced.of_same (balanced : before.Balanced news key tally)
    (sums : ∀ measure, after.pendingSum measure key = before.pendingSum measure key)
    (fees : (feesIn later key).sum = (feesIn news key).sum) : after.Balanced later key tally := by
  refine
    { balanced with
      escrowed := ?_
      pending := ?_
      collected := balanced.collected.trans fees.symm }
  · rw [sum_pendingIn, sums, ← sum_pendingIn]
    exact balanced.escrowed
  · rw [length_pendingIn, sums, ← length_pendingIn]
    exact balanced.pending

private theorem Balanced.deposit {pool : Pool} (balanced : before.Balanced news key tally)
    (counts : pool.Counts tally) {amount : Int}
    (checked : pool.checkDeposit (.int amount) = .ok ())
    (amounts : after.pendingSum (·.amount) key = before.pendingSum (·.amount) key + amount)
    (number : after.pendingSum (fun _ => 1) key = before.pendingSum (fun _ => 1) key + 1)
    (fees : (feesIn later key).sum = (feesIn news key).sum) :
    after.Balanced later key (tally.deposit amount) := by
  obtain ⟨positive, deposited_le, created_le⟩ := counts.checkDeposit_iff.mp checked
  have escrowed := balanced.escrowed
  have pending := balanced.pending
  rw [sum_pendingIn] at escrowed
  rw [length_pendingIn] at pending
  refine
    { escrowed := ?_
      pending := ?_
      collected := balanced.collected.trans fees.symm
      fees_nonneg := balanced.fees_nonneg
      fees_le := balanced.fees_le
      withdrawn_le := ?_
      deposited_le := deposited_le
      resolved_nonneg := balanced.resolved_nonneg
      resolved_le := ?_
      created_le := created_le }
  · rw [sum_pendingIn, amounts, ← escrowed]
    dsimp only [Tally.deposit]
    omega
  · rw [length_pendingIn, number, ← pending]
    dsimp only [Tally.deposit]
    omega
  · have covered := balanced.withdrawn_le
    dsimp only [Tally.deposit]
    omega
  · have counted := balanced.resolved_le
    dsimp only [Tally.deposit]
    omega

private theorem Balanced.settle {pool : Pool} (balanced : before.Balanced news key tally)
    (counts : pool.Counts tally) {amount : Int} {fee : Whole}
    (checked : pool.checkSettlement (.int amount) fee.toValue = .ok ())
    (amounts : after.pendingSum (·.amount) key = before.pendingSum (·.amount) key - amount)
    (number : after.pendingSum (fun _ => 1) key = before.pendingSum (fun _ => 1) key - 1)
    (some_pending : 1 ≤ before.pendingSum (fun _ => 1) key)
    (fees : (feesIn later key).sum = (feesIn news key).sum + fee.toInt) :
    after.Balanced later key (tally.settle amount fee.toInt) := by
  obtain ⟨positive, fee_positive, covered, fee_covered, -, -, -⟩ :=
    counts.checkSettlement_iff.mp checked
  have escrowed := balanced.escrowed
  have pending := balanced.pending
  have collected := balanced.collected
  rw [sum_pendingIn] at escrowed
  rw [length_pendingIn] at pending
  refine
    { escrowed := ?_
      pending := ?_
      collected := ?_
      fees_nonneg := ?_
      fees_le := fee_covered
      withdrawn_le := covered
      deposited_le := balanced.deposited_le
      resolved_nonneg := ?_
      resolved_le := ?_
      created_le := balanced.created_le }
  · rw [sum_pendingIn, amounts, ← escrowed]
    dsimp only [Tally.settle]
    omega
  · rw [length_pendingIn, number, ← pending]
    dsimp only [Tally.settle]
    omega
  · rw [fees, ← collected]
    rfl
  · have nonneg := balanced.fees_nonneg
    dsimp only [Tally.settle]
    omega
  · have nonneg := balanced.resolved_nonneg
    dsimp only [Tally.settle]
    omega
  · dsimp only [Tally.settle]
    omega

/-- The counters of every pool agree with the transfers and the news, and there is no news of a pool
that is not registered. -/
structure Accounts (news : List News) (engine : Engine) : Prop where
  pools : ∀ key pool, engine.pools.get? key = some pool →
    ∃ tally, pool.Counts tally ∧ engine.Balanced news key tally
  news : ∀ item ∈ news, engine.pools.contains item.event.pool.canonical

theorem Accounts.of_same (accounts : Accounts news before) (pools : after.pools = before.pools)
    (sums : ∀ measure key, after.pendingSum measure key = before.pendingSum measure key) :
    Accounts news after := by
  refine ⟨?_, ?_⟩
  · rw [pools]
    intro key pool found
    obtain ⟨tally, counts, balanced⟩ := accounts.pools key pool found
    exact ⟨tally, counts, balanced.of_same (fun measure => sums measure key) rfl⟩
  · rw [pools]
    exact accounts.news

/-- A step that writes one pool keeps the accounts if it keeps those of this pool and changes no sum
of another one. -/
theorem Accounts.of_written {place : Value} {written : Pool} (accounts : Accounts news before)
    (pools : after.pools = before.pools.set place written)
    (own : ∃ tally, written.Counts tally ∧ after.Balanced (news ++ later) place tally)
    (sums : ∀ measure key, key ≠ place →
      after.pendingSum measure key = before.pendingSum measure key)
    (there : ∀ item ∈ later, item.event.pool.canonical = place) :
    Accounts (news ++ later) after := by
  refine ⟨?_, ?_⟩
  · rw [pools]
    intro key pool found
    rw [Table.get?_set] at found
    split at found
    · rename_i same
      cases found
      rwa [same]
    · rename_i other
      obtain ⟨tally, counts, balanced⟩ := accounts.pools key pool found
      refine ⟨tally, counts, balanced.of_same (fun measure => sums measure key other) ?_⟩
      have nothing : feesIn later key = [] := by
        unfold feesIn
        rw [List.map_eq_nil_iff, List.filter_eq_nil_iff]
        intro item member
        simp [there item member, Ne.symm other]
      rw [feesIn_append, nothing, List.append_nil]
  · rw [pools]
    intro item member
    rw [Table.contains_set]
    rcases List.mem_append.mp member with old | new
    · rw [accounts.news item old, Bool.or_true]
    · rw [there item new]
      simp

/-- Nothing is pending and no fee is known under a key that is not registered. -/
theorem Accounts.balanced_of_free (accounts : Accounts news before) (tidy : before.Tidy)
    (free : before.pools.get? key = none) : before.Balanced news key {} := by
  have nothing (measure : Transfer → Int) : before.pendingSum measure key = 0 := by
    apply Table.total_eq_zero
    intro place transfer found
    obtain ⟨pool, pooled⟩ := (tidy.transfers place transfer found).pooled
    apply share_elsewhere
    rintro rfl
    rw [free] at pooled
    cases pooled
  have unknown : feesIn news key = [] := by
    unfold feesIn
    rw [List.map_eq_nil_iff, List.filter_eq_nil_iff]
    intro item member known
    simp only [Bool.and_eq_true, decide_eq_true_eq] at known
    have registered := accounts.news item member
    rw [known.2, Table.contains, free] at registered
    cases registered
  exact
    { escrowed := by rw [sum_pendingIn, nothing]; rfl
      pending := by rw [length_pendingIn, nothing]; rfl
      collected := by rw [unknown]; rfl
      fees_nonneg := le_rfl
      fees_le := le_rfl
      withdrawn_le := le_rfl
      deposited_le := by decide
      resolved_nonneg := le_rfl
      resolved_le := le_rfl
      created_le := by decide }

theorem Accounts.deposit {pool booked : Pool} (accounts : Accounts news before)
    (pool_found : before.pools.get? transfer.pool.canonical = some pool)
    (unused : before.transfers.get? transfer.id.canonical = none) (pending : transfer.isActive)
    (checked : pool.checkDeposit (.int transfer.amount) = .ok ())
    (booking : pool.bookDeposit transfer.amount = .ok booked)
    (pools : after.pools = before.pools.set transfer.pool.canonical booked)
    (transfers : after.transfers = before.transfers.set transfer.id.canonical transfer)
    (reference : Value) :
    Accounts (news ++ [⟨before, .created transfer reference⟩]) after := by
  obtain ⟨tally, counts, balanced⟩ := accounts.pools _ _ pool_found
  have sums := pendingSum_of_added unused transfers
  apply accounts.of_written pools
  · refine ⟨_, counts.deposit checked booking, ?_⟩
    apply balanced.deposit counts checked
    · rw [sums, share_of_pending pending rfl]
    · rw [sums, share_of_pending pending rfl]
    · rw [feesIn_append]
      simp [feesIn, Event.created, Status.isTerminal]
  · intro measure key other
    rw [sums, share_elsewhere (Ne.symm other), Int.add_zero]
  · intro item member
    rw [List.mem_singleton.mp member]
    rfl

theorem Accounts.settle {place : Value} {pool booked : Pool} {fee : Whole}
    {settlement : Settlement} (accounts : Accounts news before) (tidy : before.Tidy)
    (found : before.transfers.get? place = some transfer)
    (pool_found : before.pools.get? transfer.pool.canonical = some pool)
    (pending : transfer.isActive)
    (checked : pool.checkSettlement (.int transfer.amount) fee.toValue = .ok ())
    (booking : pool.bookSettlement transfer.amount fee = .ok booked) (time : Instant)
    (pools : after.pools = before.pools.set transfer.pool.canonical booked)
    (transfers : after.transfers =
      before.transfers.set place (transfer.settledBy settlement time)) (reference : Value) :
    Accounts
      (news ++
        [⟨before, .settled (transfer.settledBy settlement time) pool.id fee time reference⟩])
      after := by
  obtain ⟨tally, counts, balanced⟩ := accounts.pools _ _ pool_found
  obtain ⟨-, pool_id⟩ := tidy.pools _ _ pool_found
  have settled := transfer.isActive_settledBy settlement time
  have sums (measure : Transfer → Int) (key : Value) :
      after.pendingSum measure key =
        before.pendingSum measure key - share measure key transfer := by
    rw [pendingSum_of_changed found transfers, share_of_settled settled]
    omega
  apply accounts.of_written pools
  · refine ⟨_, counts.settle checked booking, ?_⟩
    apply balanced.settle counts checked
    · rw [sums, share_of_pending pending rfl]
    · rw [sums, share_of_pending pending rfl]
    · exact le_pendingSum found pending rfl (by simp)
    · rw [feesIn_append]
      simp [feesIn, Event.settled, Status.isTerminal, pool_id]
  · intro measure key other
    rw [sums, share_elsewhere (Ne.symm other), Int.sub_zero]
  · intro item member
    rw [List.mem_singleton.mp member]
    exact pool_id

theorem Accounts.fees {place : Value} {pool : Pool} (accounts : Accounts news before)
    (found : before.pools.get? place = some pool) (schedule : Schedule)
    (pools : after.pools = before.pools.set place { pool with schedule := schedule })
    (transfers : after.transfers = before.transfers) : Accounts (news ++ []) after := by
  have sums (measure : Transfer → Int) (key : Value) :
      after.pendingSum measure key = before.pendingSum measure key := by
    rw [pendingSum, transfers, pendingSum]
  obtain ⟨tally, counts, balanced⟩ := accounts.pools _ _ found
  apply accounts.of_written pools
  · refine ⟨tally, ?_, balanced.of_same (fun measure => sums measure place) ?_⟩
    · exact ⟨counts.deposited, counts.withdrawn, counts.feesCollected, counts.created,
        counts.resolved⟩
    · rw [List.append_nil]
  · exact fun measure key _ => sums measure key
  · simp

theorem Accounts.register {place : Value} {pool : Pool} (accounts : Accounts news before)
    (tidy : before.Tidy) (unused : pool.IsUnused) (free : before.pools.get? place = none)
    (pools : after.pools = before.pools.set place pool)
    (transfers : after.transfers = before.transfers) : Accounts (news ++ []) after := by
  have sums (measure : Transfer → Int) (key : Value) :
      after.pendingSum measure key = before.pendingSum measure key := by
    rw [pendingSum, transfers, pendingSum]
  apply accounts.of_written pools
  · have balanced := accounts.balanced_of_free tidy free
    refine ⟨{}, unused, balanced.of_same (fun measure => sums measure place) ?_⟩
    rw [List.append_nil]
  · exact fun measure key _ => sums measure key
  · simp

private theorem Accounts.archive {place : Value} (accounts : Accounts news before)
    (found : before.transfers.get? place = some transfer) (terminal : transfer.status.isTerminal)
    (pools : after.pools = before.pools)
    (transfers : after.transfers = before.transfers.set place transfer.asArchived) :
    Accounts news after := by
  have settled : transfer.isActive = false := Progress.isActive_of_isTerminal terminal
  have stillSettled : transfer.asArchived.isActive = false := settled
  apply accounts.of_same pools
  intro measure key
  rw [pendingSum_of_changed found transfers, share_of_settled settled,
    share_of_settled stillSettled]
  omega

/-- The accounts are kept by every step of a call that registers unused pools only. -/
theorem Step.accounts {origin : Engine} {call : Call}
    (unused : ∀ pool, call = .register pool → pool.IsUnused)
    (step : Step origin call before later after) (orderly : before.Orderly)
    (accounts : Accounts news before) : Accounts (news ++ later) after := by
  have idle (same : Accounts news after) : Accounts (news ++ []) after := by
    rwa [List.append_nil]
  cases step with
  | aside => exact idle (accounts.of_same rfl fun _ _ => rfl)
  | unpaidDeposit => exact idle (accounts.of_same rfl fun _ _ => rfl)
  | deposit asked drawn admits moved booking =>
      exact accounts.deposit admits.pool_found admits.unused admits.asked.isActive admits.checked
        booking rfl rfl _
  | unpaidSettlement => exact idle (accounts.of_same rfl fun _ _ => rfl)
  | settlement allows moved booking timely =>
      exact accounts.settle orderly.tidy allows.transfer_found allows.pool_found allows.pending
        allows.checked booking _ rfl rfl _
  | fees asked found authorized => exact accounts.fees found _ rfl rfl
  | register asked key free =>
      exact accounts.register orderly.tidy (unused _ asked) free rfl rfl
  | archive found terminal => exact idle (accounts.archive found terminal rfl rfl)
  | prune => exact idle (accounts.of_same rfl orderly.pendingSum_prune)
  | told told => exact idle (accounts.of_same rfl fun _ _ => rfl)
  | clock => exact idle (accounts.of_same rfl fun _ _ => rfl)

theorem IsBlank.accounts {engine : Engine} (blank : engine.IsBlank) : Accounts [] engine := by
  refine ⟨?_, by simp⟩
  intro key pool found
  rw [blank.pools, Table.get?_empty] at found
  cases found

theorem IsFresh.accounts_run {engine : Engine} (fresh : engine.IsFresh) {calls : List Call}
    (unused : ∀ pool, .register pool ∈ calls → pool.IsUnused) :
    Accounts (engine.newsOf calls) (engine.run calls) := by
  have along : Along (fun _ call => ∀ pool, call = .register pool → pool.IsUnused) engine
      calls := by
    apply along_of_forall
    rintro call member pool rfl
    exact unused pool member
  exact run_preserves
    (fun origin call meets before news after past step orderly accounts =>
      step.accounts meets orderly accounts)
    fresh.orderly along fresh.isBlank.accounts

/-- From a fresh engine on, whatever happens to it, the counters of every pool agree with the pending
transfers and with the events of its settlements, as long as pools come unused. -/
theorem balanced_of_run {engine : Engine} (fresh : engine.IsFresh) {calls : List Call}
    (unused : ∀ pool, .register pool ∈ calls → pool.IsUnused) {key : Value} {pool : Pool}
    (registered : (engine.run calls).pools.get? key = some pool) :
    ∃ tally, pool.Counts tally ∧
      (engine.run calls).Balanced (engine.newsOf calls) key tally :=
  (fresh.accounts_run unused).pools key pool registered

theorem isUnused_sample : samplePool.IsUnused := ⟨rfl, rfl, rfl, rfl, rfl⟩

/-- The small market ends with one pending transfer of 200. -/
theorem balanced_sample :
    ∃ pool tally, (sampleEngine.run sampleCalls).pools.get? (.text "p") = some pool ∧
      pool.deposited = .int 1000 ∧ pool.withdrawn = .int 800 ∧ pool.Counts tally ∧
        (sampleEngine.run sampleCalls).Balanced (sampleEngine.newsOf sampleCalls) (.text "p")
          tally := by
  have registered : (sampleEngine.run sampleCalls).pools.get? (.text "p") =
      some
        { samplePool with
          deposited := .int 1000
          withdrawn := .int 800
          feesCollected := .int 8
          created := .int 3
          resolved := .int 2 } := by
    decide +kernel
  have unused : ∀ pool, .register pool ∈ sampleCalls → pool.IsUnused := by
    intro pool member
    simp only [sampleCalls, List.mem_cons, Call.register.injEq, List.not_mem_nil, reduceCtorEq,
      or_false] at member
    rw [member]
    exact isUnused_sample
  obtain ⟨tally, counts, balanced⟩ := balanced_of_run isFresh_sample unused registered
  exact ⟨_, tally, registered, rfl, rfl, counts, balanced⟩

end Engine
end Escrow
