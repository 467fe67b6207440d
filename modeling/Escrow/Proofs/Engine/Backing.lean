import Escrow.Proofs.Decimal
import Escrow.Proofs.Engine.Custody
import Escrow.Proofs.Engine.Payout

/-!
# Custody backed by an exchange

What came into the pools of an asset on the exchange and was not withdrawn again is what these pools
say that they have in custody.  The withdrawals are texts in whole units, and each of them stands for
exactly the base units that the engine has booked.  Every deposit that is claimed backs one transfer.
-/

namespace Escrow

/-- Does the pool keep the asset in the custody account? -/
def Pool.isAt (account asset : Value) (pool : Pool) : Bool :=
  pool.custody.same account && decide (pool.asset = asset)

private theorem Pool.Continues.isAt_eq {pool old : Pool} (continues : pool.Continues old)
    (account asset : Value) : pool.isAt account asset = old.isAt account asset := by
  rw [isAt, continues.custody_eq, continues.asset_eq, isAt]

/-- Is the news about a pool that keeps the asset in the custody account? -/
def News.isAt (account asset : Value) (item : News) : Bool :=
  item.pool?.any (Pool.isAt account asset)

/-- The call spares the custody account, and pools come unused. -/
structure Call.FeedsCustody (account : Value) (call : Call) : Prop
    extends call.SparesCustody account where
  unused : ∀ pool, call = .register pool → pool.IsUnused

namespace Custody

/-- The places of every asset that has some are a whole number within the range of exponents. -/
def HasPlaces (custody : Custody) : Prop :=
  ∀ asset decimals, custody.decimalsOf asset = .ok (some decimals) →
    ∃ places, placesOf decimals = .ok places ∧ 0 ≤ places ∧ places ≤ 999999

/-- The base units of a withdrawal, by the decimals of its asset. -/
def unitsOf? (custody : Custody) (withdrawal : Withdrawal) : Option ℚ :=
  match custody.decimalsOf withdrawal.code with
  | .ok (some decimals) =>
    (placesOf decimals).toOption.bind fun places => baseUnits? places withdrawal.amount
  | _ => none

variable {custody : Custody} {asset : Value}

private theorem decimalsOf_of_exchangeAmount {amount : Value} {shown : String}
    (converted : custody.exchangeAmount amount asset = .ok shown) :
    ∃ decimals, custody.decimalsOf asset = .ok (some decimals) := by
  unfold exchangeAmount at converted
  obtain ⟨found, listed, converted⟩ := bind_eq_ok_iff.mp converted
  cases found with
  | none => cases converted
  | some decimals => exact ⟨decimals, mapError_eq_ok_iff.mp listed⟩

/-- A withdrawal stands for exactly the amount that it pays out. -/
theorem unitsOf?_of_orders {withdrawal : Withdrawal} {target : Value} {n : Int}
    (places : custody.HasPlaces) (amount : IsAmount n)
    (orders : custody.Orders target (.int n) asset withdrawal) :
    custody.unitsOf? withdrawal = some (n : ℚ) := by
  obtain ⟨decimals, listed⟩ := decimalsOf_of_exchangeAmount orders.amount
  obtain ⟨count, read, least, most⟩ := places asset decimals listed
  unfold unitsOf?
  rw [orders.code, listed]
  dsimp only
  rw [read]
  exact baseUnits?_exchangeAmount listed read least most amount orders.amount

/-- The withdrawals of an asset stand for what the news pay out of the pools of the asset. -/
theorem unitsOf?_of_paidBy {news : List News} {executed : List Withdrawal}
    (places : custody.HasPlaces) (paid : List.Forall₂ (News.PaidBy custody) news executed)
    (asset : Value) :
    ∃ units : List ℚ,
      (executed.filter fun withdrawal => decide (withdrawal.code = asset)).mapM custody.unitsOf? =
          some units ∧
        units.sum = ((news.filter (News.isAt custody.account asset)).map (·.event.net)).sum := by
  induction paid with
  | nil => exact ⟨[], rfl, rfl⟩
  | @cons item withdrawal rest others first later ih =>
      obtain ⟨units, converted, sum_eq⟩ := ih
      obtain ⟨amount, pool, pooled, kept, orders⟩ := first
      have place : item.isAt custody.account asset = decide (pool.asset = asset) := by
        simp [News.isAt, pooled, Pool.isAt, kept]
      by_cases own : pool.asset = asset
      · refine ⟨item.event.net :: units, ?_, ?_⟩
        · rw [List.filter_cons_of_pos (by simpa [orders.code] using own), List.mapM_cons,
            unitsOf?_of_orders places amount orders, converted]
          rfl
        · rw [List.filter_cons_of_pos (by simpa [place] using own), List.map_cons, List.sum_cons,
            List.sum_cons, sum_eq]
          push_cast
          rfl
      · refine ⟨units, ?_, ?_⟩
        · rw [List.filter_cons_of_neg (by simpa [orders.code] using own), converted]
        · rw [List.filter_cons_of_neg (by simpa [place] using own), sum_eq]

end Custody

namespace Engine

/-- What the deposits in the news bring into the pools of the asset in the custody account. -/
def depositedAt (news : List News) (account asset : Value) : Int :=
  ((news.filter fun item => !item.isSettlement && item.isAt account asset).map
    (·.event.amount)).sum

/-- What the settlements in the news pay out of the pools of the asset in the custody account. -/
def releasedAt (news : List News) (account asset : Value) : Int :=
  (((news.filter News.pays).filter (News.isAt account asset)).map (·.event.net)).sum

/-- The pools of an asset in the custody account hold what came in and was not paid out. -/
structure Backed (account : Value) (news : List News) (engine : Engine) : Prop where
  counted : ∀ key pool, engine.pools.get? key = some pool → ∃ tally, pool.Counts tally
  held : ∀ asset, engine.heldIf (Pool.isAt account asset) =
    depositedAt news account asset - releasedAt news account asset

variable {origin before after engine : Engine} {call : Call} {news later : List News}
  {account : Value}

/-! ## What a step does to the pools -/

private theorem depositedAt_append (news later : List News) (account asset : Value) :
    depositedAt (news ++ later) account asset =
      depositedAt news account asset + depositedAt later account asset := by
  simp [depositedAt]

private theorem releasedAt_append (news later : List News) (account asset : Value) :
    releasedAt (news ++ later) account asset =
      releasedAt news account asset + releasedAt later account asset := by
  simp [releasedAt]

variable {item : News} {pool : Pool}

private theorem isAt_of_pool? (pooled : item.pool? = some pool) (account asset : Value) :
    item.isAt account asset = pool.isAt account asset := by
  rw [News.isAt, pooled]
  rfl

private theorem depositedAt_deposit (pending : item.isSettlement = false)
    (pooled : item.pool? = some pool) (account asset : Value) :
    depositedAt [item] account asset = if pool.isAt account asset then item.event.amount else 0 := by
  unfold depositedAt
  cases here : pool.isAt account asset <;>
    simp [pending, isAt_of_pool? pooled, here]

private theorem releasedAt_deposit (pending : item.isSettlement = false) (account asset : Value) :
    releasedAt [item] account asset = 0 := by
  simp [releasedAt, News.pays, pending]

private theorem depositedAt_settlement (settles : item.isSettlement = true)
    (account asset : Value) :
    depositedAt [item] account asset = 0 := by
  simp [depositedAt, settles]

private theorem releasedAt_settlement (settles : item.isSettlement = true)
    (pooled : item.pool? = some pool) (account asset : Value) :
    releasedAt [item] account asset = if pool.isAt account asset then item.event.net else 0 := by
  unfold releasedAt
  by_cases nothing : item.event.net = 0
  · simp [News.pays, nothing]
  · cases here : pool.isAt account asset <;>
      simp [News.pays, settles, nothing, isAt_of_pool? pooled, here]

/-- Whatever leaves the pools as they were leaves them backed. -/
theorem Backed.of_same (backed : Backed account news before) (pools : after.pools = before.pools) :
    Backed account (news ++ []) after := by
  rw [List.append_nil]
  exact ⟨pools ▸ backed.counted, fun asset => by rw [heldIf, pools]; exact backed.held asset⟩

private theorem counted_of_written {place : Value} {booked : Pool} {tally : Tally}
    (counted : ∀ key pool, before.pools.get? key = some pool → ∃ tally, pool.Counts tally)
    (counts : booked.Counts tally) (pools : after.pools = before.pools.set place booked)
    (key : Value) (pool : Pool) (found : after.pools.get? key = some pool) :
    ∃ tally, pool.Counts tally := by
  rw [pools, Table.get?_set] at found
  split at found
  · cases found
    exact ⟨tally, counts⟩
  · exact counted key pool found

private theorem Backed.deposit {request : CreateRequest} {transfer : Transfer} {booked : Pool}
    (backed : Backed account news before) (admits : before.Admits request transfer pool)
    (booking : pool.bookDeposit transfer.amount = .ok booked)
    (pools : after.pools = before.pools.set transfer.pool.canonical booked)
    (pending : item.isSettlement = false) (pooled : item.pool? = some pool)
    (amount : item.event.amount = transfer.amount) : Backed account (news ++ [item]) after := by
  obtain ⟨tally, counts⟩ := backed.counted _ _ admits.pool_found
  refine ⟨counted_of_written backed.counted (counts.deposit admits.checked booking) pools, ?_⟩
  intro asset
  have same := (Pool.continues_of_deposit booking).isAt_eq account asset
  rw [heldIf_of_written admits.pool_found pools, holdingIf_of_deposit counts admits booking same,
    backed.held, depositedAt_append, releasedAt_append, depositedAt_deposit pending pooled,
    releasedAt_deposit pending, amount]
  omega

private theorem Backed.settle {id : Value} {settling : SettlementCall} {transfer : Transfer}
    {booked : Pool} {settlement : Settlement} (backed : Backed account news before)
    (allows : before.Allows id settling transfer pool settlement)
    (booking : pool.bookSettlement transfer.amount (feeOf transfer pool settlement) = .ok booked)
    (pools : after.pools = before.pools.set transfer.pool.canonical booked)
    (settles : item.isSettlement = true) (pooled : item.pool? = some pool)
    (net : item.event.net = transfer.amount - (feeOf transfer pool settlement).toInt) :
    Backed account (news ++ [item]) after := by
  obtain ⟨tally, counts⟩ := backed.counted _ _ allows.pool_found
  refine ⟨counted_of_written backed.counted (counts.settle allows.checked booking) pools, ?_⟩
  intro asset
  have same := (Pool.continues_of_settlement booking).isAt_eq account asset
  rw [heldIf_of_written allows.pool_found pools,
    holdingIf_of_settlement counts allows booking same, backed.held, depositedAt_append,
    releasedAt_append, depositedAt_settlement settles, releasedAt_settlement settles pooled, net]
  omega

/-- Every step of a call that registers unused pools only keeps the pools backed. -/
theorem Step.backed (step : Step origin call before later after) (tidy : before.Tidy)
    (unused : ∀ pool, call = .register pool → pool.IsUnused)
    (backed : Backed account news before) : Backed account (news ++ later) after := by
  cases step with
  | deposit asked drawn admits moved booking =>
      exact backed.deposit admits booking rfl rfl admits.pool_found rfl
  | settlement allows moved booking timely =>
      obtain ⟨-, pool_id⟩ := tidy.pools _ _ allows.pool_found
      refine backed.settle allows booking rfl ?_ ?_ rfl
      · exact Transfer.isTerminal_settledBy _ _ _
      · exact (congrArg before.pools.get? pool_id).trans allows.pool_found
  | @fees id caller schedule pool asked found authorized =>
      rw [List.append_nil]
      obtain ⟨tally, counts⟩ := backed.counted _ _ found
      have counts : ({ pool with schedule := schedule } : Pool).Counts tally :=
        ⟨counts.deposited, counts.withdrawn, counts.feesCollected, counts.created, counts.resolved⟩
      refine ⟨counted_of_written backed.counted counts rfl, ?_⟩
      intro asset
      exact (heldIf_of_schedule found schedule rfl).trans (backed.held asset)
  | register asked key free =>
      rw [List.append_nil]
      refine ⟨counted_of_written backed.counted (unused _ asked) rfl, ?_⟩
      intro asset
      rw [heldIf_of_registered free (unused _ asked) rfl]
      exact backed.held asset
  | aside => exact backed.of_same rfl
  | unpaidDeposit => exact backed.of_same rfl
  | unpaidSettlement => exact backed.of_same rfl
  | archive => exact backed.of_same rfl
  | prune => exact backed.of_same rfl
  | told => exact backed.of_same rfl
  | clock => exact backed.of_same rfl

private theorem IsBlank.backed (blank : engine.IsBlank) (account : Value) : Backed account
    [] engine := by
  constructor
  · intro key pool found
    rw [blank.pools, Table.get?_empty] at found
    cases found
  · intro asset
    rw [heldIf, blank.pools]
    rfl

/-! ## Runs -/

/-- The exchange is in line with the news, and so are the pools that keep their assets there. -/
structure InBalance (opening : Custody) (news : List News) (engine : Engine) : Prop where
  banked : Banked opening news engine
  backed : Backed opening.account news engine

private theorem Step.inBalance {opening : Custody} (step : Step origin call before later after)
    (tidy : before.Tidy) (feeds : call.FeedsCustody opening.account)
    (addresses : opening.HasTextAddresses) (balance : InBalance opening news before) :
    InBalance opening (news ++ later) after :=
  ⟨step.banked tidy feeds.toSparesCustody addresses balance.banked,
    step.backed tidy feeds.unused balance.backed⟩

private theorem IsBlank.inBalance {opening : Custody} (blank : engine.IsBlank)
    (held : engine.ledger = .ofCustody opening) (records : opening.exchange.AnswersRecords) :
    InBalance opening [] engine :=
  ⟨blank.banked held records, blank.backed opening.account⟩

private theorem Backed.holdings (backed : Backed account news engine) (asset : Value) :
    ∃ holdings : List Int,
      (engine.pools.values.filter (Pool.isAt account asset)).mapM Pool.inCustody =
          .ok (holdings.map Value.int) ∧
        holdings.sum = depositedAt news account asset - releasedAt news account asset := by
  refine ⟨_, Engine.holdings_eq _ ?_, ?_⟩
  · intro pool member
    obtain ⟨key, found⟩ := Table.mem_values_iff.mp (List.mem_filter.mp member).1
    exact backed.counted key pool found
  · rw [sum_heldIf, backed.held]

private theorem perform_create_error {request : CreateRequest} {next : Engine} {problem : Problem}
    (failed : engine.perform (.create request) = (next, .error problem)) :
    engine.deposit request = (next, .error problem) := by
  unfold perform create at failed
  dsimp only at failed
  split at failed
  · rename_i refused missed
    cases failed
    exact missed
  · cases failed

/-- A creation that fails leaves the ledger as it was. -/
theorem Banked.create_error {custody : Custody} {request : CreateRequest} {next : Engine}
    {problem : Problem} (banked : Banked custody news engine)
    (addresses : custody.HasTextAddresses)
    (failed : engine.perform (.create request) = (next, .error problem)) :
    next.ledger = engine.ledger := by
  have ended := deposited engine request
  rw [perform_create_error failed] at ended
  cases ended with
  | refused => rfl
  | unpaid drawn problem admits missed => exact banked.move_error addresses missed

/-- From a blank engine on, with custody on an exchange that answers every withdrawal with a record,
what a run has brought into the pools of an asset in the custody account, less what the withdrawals of
the asset stand for, is what these pools have in custody.  The deposits have claimed one reference
each and nothing else has been claimed; a creation that fails claims nothing. -/
theorem backed_of_run {engine : Engine} {custody : Custody} (blank : engine.IsBlank)
    (held : engine.ledger = .ofCustody custody) (records : custody.exchange.AnswersRecords)
    (addresses : custody.HasTextAddresses) (places : custody.HasPlaces) {calls : List Call}
    (learns : Along (fun engine _ => engine.LearnsTime) engine calls)
    (feeds : ∀ call ∈ calls, call.FeedsCustody custody.account) :
    (∃ executed,
      (engine.run calls).ledger.withdrawals = custody.exchange.withdrawals ++ executed ∧
        ∀ asset, ∃ (units : List ℚ) (holdings : List Int),
          (executed.filter fun withdrawal => decide (withdrawal.code = asset)).mapM
              custody.unitsOf? = some units ∧
            ((engine.run calls).pools.values.filter (Pool.isAt custody.account asset)).mapM
              Pool.inCustody = .ok (holdings.map Value.int) ∧
            (depositedAt (engine.newsOf calls) custody.account asset : ℚ) - units.sum =
              holdings.sum) ∧
      (engine.run calls).ledger.claimed = custody.claimed ++ claimsIn (engine.newsOf calls) ∧
      (claimsIn (engine.newsOf calls)).Pairwise (fun first second => first.same second = false) ∧
      (∀ first ∈ custody.claimed, ∀ second ∈ claimsIn (engine.newsOf calls),
        first.same second = false) ∧
      ∀ served ∈ engine.served calls, ∀ request next problem, served.call = .create request →
        served.before.perform served.call = (next, .error problem) →
          next.ledger.claimed = served.before.ledger.claimed := by
  have steps : ∀ origin call, call.FeedsCustody custody.account → ∀ before news after past,
      Step origin call before news after → before.Tidy → InBalance custody past before →
        InBalance custody (past ++ news) after :=
    fun origin call feeds before news after past step tidy balance =>
      step.inBalance tidy feeds addresses balance
  have along := along_of_forall feeds engine
  have start := blank.inBalance held records
  have balance := blank.tidy.run_preserves steps learns along start
  rw [List.nil_append] at balance
  obtain ⟨exchange, executed, ledger_eq, -, withdrawals, paid⟩ := balance.banked.ledger
  refine ⟨⟨executed, ?_, ?_⟩, ?_, balance.banked.claims, balance.banked.unclaimed, ?_⟩
  · rw [ledger_eq]
    exact withdrawals
  · intro asset
    obtain ⟨units, converted, units_sum⟩ := Custody.unitsOf?_of_paidBy places paid asset
    obtain ⟨holdings, counted, holdings_sum⟩ := balance.backed.holdings asset
    refine ⟨units, holdings, converted, counted, ?_⟩
    rw [units_sum, holdings_sum, releasedAt]
    push_cast
    rfl
  · rw [ledger_eq]
    rfl
  · rintro served member request next problem asked failed
    obtain ⟨-, -, past, balance⟩ :=
      blank.tidy.served_sustain steps learns along start served member
    rw [asked] at failed
    rw [balance.banked.create_error addresses failed]

/-! ## The vault again -/

private theorem hasPlaces_sample : sampleCustody.HasPlaces := by
  intro asset decimals listed
  unfold Custody.decimalsOf sampleCustody at listed
  dsimp only at listed
  split at listed
  · simp only [Value.find?] at listed
    split at listed
    · cases listed
      exact ⟨2, rfl, by decide, by decide⟩
    · cases listed
  · cases listed

private theorem feedsCustody_sample :
    ∀ call ∈ samplePayouts, call.FeedsCustody sampleCustody.account := by
  intro call member
  refine ⟨sparesCustody_sample call member, ?_⟩
  rintro pool rfl
  simp only [samplePayouts, List.mem_cons, Call.register.injEq, reduceCtorEq, List.not_mem_nil,
    or_false] at member
  rw [member]
  exact ⟨rfl, rfl, rfl, rfl, rfl⟩

/-- Both deposits of the vault are claimed, and what was not withdrawn of them is a fee. -/
theorem backed_sample :
    (sampleVault.run samplePayouts).ledger.claimed = [.text "d1", .text "d2"] ∧
      ∃ units : List ℚ,
        (sampleVault.run samplePayouts).ledger.withdrawals.mapM sampleCustody.unitsOf? =
            some units ∧ 550 - units.sum = 3 := by
  have blank : sampleVault.IsBlank := ⟨rfl, rfl, rfl⟩
  have records : sampleCustody.exchange.AnswersRecords := ⟨_, rfl⟩
  obtain ⟨⟨executed, withdrawals, balance⟩, claimed, -⟩ :=
    backed_of_run blank rfl records hasTextAddresses_sample hasPlaces_sample learnsTime_sample
      feedsCustody_sample
  obtain ⟨units, holdings, converted, counted, equation⟩ := balance (.text "USD")
  have references : claimsIn (sampleVault.newsOf samplePayouts) = [.text "d1", .text "d2"] := by
    decide +kernel
  have deposits : depositedAt (sampleVault.newsOf samplePayouts) sampleCustody.account
      (.text "USD") = 550 := by decide +kernel
  have fee : ((sampleVault.run samplePayouts).pools.values.filter
      (Pool.isAt sampleCustody.account (.text "USD"))).mapM Pool.inCustody = .ok [.int 3] := by
    decide +kernel
  have dollars : ((sampleVault.run samplePayouts).ledger.withdrawals.filter fun withdrawal =>
      decide (withdrawal.code = .text "USD")) =
        (sampleVault.run samplePayouts).ledger.withdrawals := by
    decide +kernel
  have holdings_eq : holdings = [3] := by
    rw [fee, Except.ok.injEq, eq_comm, List.map_eq_singleton_iff] at counted
    obtain ⟨n, rfl, same⟩ := counted
    rw [Value.int.inj same]
  have executed_eq : (sampleVault.run samplePayouts).ledger.withdrawals = executed := withdrawals
  refine ⟨claimed.trans references, units, ?_, ?_⟩
  · rw [← dollars, executed_eq]
    exact converted
  · rw [deposits, holdings_eq] at equation
    exact equation

end Engine
end Escrow
