import Escrow.Proofs.Engine.Authority
import Escrow.Proofs.Exchange
import Escrow.Proofs.Fee

/-!
# Payouts on an exchange

With custody on an exchange, a deposit claims what the exchange lists and a settlement withdraws what
it pays.  Over a run the withdrawals are those of the settlements, one for each that pays something,
and the claims are those of the deposits; whatever fails has left both alone.  All of this rests on
answers that can be read: one that is no record is met only after the funds have left.
-/

namespace Escrow

/-- Who is paid by a settlement. -/
def Event.payee (event : Event) : Value :=
  if event.status = .settled .accepted then event.recipient else event.sender

namespace News

/-- Is it the news of a deposit of something? -/
def funds (item : News) : Bool := !item.isSettlement && decide (item.event.amount ≠ 0)

/-- Is it the news of a settlement that pays something out? -/
def pays (item : News) : Bool := item.isSettlement && decide (item.event.net ≠ 0)

/-- The pool that the news is about, as it was before. -/
def pool? (item : News) : Option Pool := item.before.pools.get? item.event.pool.canonical

/-- The withdrawal pays out of custody what the news tells. -/
structure PaidBy (custody : Custody) (item : News) (withdrawal : Withdrawal) : Prop where
  amount : IsAmount item.event.net
  orders : ∃ pool, item.pool? = some pool ∧ pool.custody.same custody.account ∧
    custody.Orders item.event.payee (.int item.event.net) pool.asset withdrawal

end News

/-- The call does not name the custody account as a party, and lets the exchange answer withdrawals
with records. -/
structure Call.SparesCustody (account : Value) (call : Call) : Prop where
  parties : ∀ request, call = .create request →
    request.sender.same account = false ∧ request.recipient.same account = false
  records : ∀ changes answer, call = .script changes →
    Value.find? (.text "withdraw_result") changes = some answer →
      ∃ entries, answer = .mapping entries

/-- What custody that starts like this has become after some withdrawals and claims. -/
def Custody.after (opening : Custody) (exchange : Exchange) (claims : List Value) : Custody :=
  { opening with
    exchange := exchange
    claimed := opening.claimed ++ claims }

namespace Engine

/-- The references of the deposits in the news. -/
def claimsIn (news : List News) : List Value :=
  (news.filter News.funds).map (·.event.reference)

/-- No registered transfer has the account as a party. -/
def TradesApart (engine : Engine) (account : Value) : Prop :=
  ∀ key transfer, engine.transfers.get? key = some transfer →
    transfer.sender.same account = false ∧ transfer.recipient.same account = false

/-- The exchange has executed the withdrawals in the news and nothing else, and the ledger has claimed
the deposits in the news and nothing else. -/
structure Banked (opening : Custody) (news : List News) (engine : Engine) : Prop where
  ledger : ∃ exchange executed,
    engine.ledger = .ofCustody (opening.after exchange (claimsIn news)) ∧
      exchange.AnswersRecords ∧
      exchange.withdrawals = opening.exchange.withdrawals ++ executed ∧
      List.Forall₂ (News.PaidBy opening) (news.filter News.pays) executed
  claims : (claimsIn news).Pairwise fun first second => first.same second = false
  unclaimed : ∀ first ∈ opening.claimed, ∀ second ∈ claimsIn news, first.same second = false
  parties : engine.TradesApart opening.account

variable {origin before after engine : Engine} {call : Call} {news later : List News}
  {opening : Custody}

/-! ## What a step does on the exchange -/

private theorem payee_settled (transfer : Transfer) (settlement : Settlement) (time : Instant)
    (pool : Value) (fee : Whole) (reference : Value) :
    (Event.settled (transfer.settledBy settlement time) pool fee time reference).payee =
      payee transfer settlement := by
  unfold Event.payee
  cases settlement <;> rfl

private theorem Step.tradesApart {account : Value} (step : Step origin call before later after)
    (spares : call.SparesCustody account) (parties : before.TradesApart account) :
    after.TradesApart account := by
  intro key transfer found
  rcases step.transfer_cases found with
    ⟨old, registered, continues⟩ | ⟨-, -, request, pool, asked, admits⟩
  · rw [continues.sender_eq, continues.recipient_eq]
    exact parties key old registered
  · rw [admits.asked.sender_eq, admits.asked.recipient_eq]
    exact spares.parties request asked

/-- Whatever leaves the ledger as it was leaves the exchange as it was. -/
theorem Banked.of_same (banked : Banked opening news before)
    (ledger : after.ledger = before.ledger)
    (parties : after.TradesApart opening.account) :
    Banked opening (news ++ []) after := by
  rw [List.append_nil]
  exact ⟨ledger ▸ banked.ledger, banked.claims, banked.unclaimed, parties⟩

/-- A move that fails leaves the ledger as it was. -/
theorem Banked.move_error {move : Move} {ledger : Ledger} {problem : Problem}
    (banked : Banked opening news engine) (addresses : opening.HasTextAddresses)
    (failed : engine.ledger.move move engine.now = (ledger, .error problem)) :
    ledger = engine.ledger := by
  obtain ⟨exchange, executed, held, records, -⟩ := banked.ledger
  rw [held] at failed ⊢
  exact Ledger.move_ofCustody_eq_error records addresses failed

/-- A deposit of something claims what backs it, and no deposit withdraws anything. -/
theorem Banked.deposit {item : News} {transfer : Transfer} {pool : Pool} {ledger : Ledger}
    {reference : Value} (banked : Banked opening news before)
    (apart : transfer.sender.same opening.account = false)
    (moved : before.ledger.move (depositMove transfer pool) before.now = (ledger, .ok reference))
    (told : item.event = .created transfer reference) (paid_out : after.ledger = ledger)
    (parties : after.TradesApart opening.account) :
    Banked opening (news ++ [item]) after := by
  obtain ⟨⟨exchange, executed, held, records, withdrawals, paid⟩, claims, unclaimed, -⟩ := banked
  rw [held] at moved
  obtain ⟨next, rfl, done⟩ := Ledger.move_ofCustody_eq_ok moved
  have pending : item.isSettlement = false := by rw [News.isSettlement, told]; rfl
  have amount_eq : item.event.amount = transfer.amount := by rw [told]; rfl
  have reference_eq : item.event.reference = reference := by rw [told]; rfl
  have pays : (news ++ [item]).filter News.pays = news.filter News.pays := by
    simp [News.pays, pending]
  cases done with
  | nothing involved zero =>
      have amount : item.event.amount = 0 := by
        rw [amount_eq]
        simpa [depositMove] using zero
      have same : claimsIn (news ++ [item]) = claimsIn news := by
        simp [claimsIn, News.funds, amount]
      refine ⟨⟨exchange, executed, ?_, records, withdrawals, ?_⟩, ?_, ?_, parties⟩
      · rw [paid_out, same]
      · rwa [pays]
      · rwa [same]
      · rwa [same]
  | claim into nonzero fresh =>
      have amount : item.event.amount ≠ 0 := by
        rw [amount_eq]
        simpa [depositMove] using nonzero
      have claimed : claimsIn (news ++ [item]) = claimsIn news ++ [reference] := by
        simp [claimsIn, News.funds, pending, amount, reference_eq]
      obtain ⟨unclaimed_before, unclaimed_since⟩ :
          (∀ first ∈ opening.claimed, first.same reference = false) ∧
            ∀ first ∈ claimsIn news, first.same reference = false := by
        simpa [Custody.isClaimed, Custody.after] using fresh
      refine ⟨⟨exchange, executed, ?_, records, withdrawals, ?_⟩, ?_, ?_, parties⟩
      · rw [paid_out, claimed]
        simp [Custody.after, Custody.withClaim]
      · rwa [pays]
      · rw [claimed, List.pairwise_append]
        refine ⟨claims, List.pairwise_singleton _ _, ?_⟩
        intro first member second last
        rw [List.mem_singleton.mp last]
        exact unclaimed_since first member
      · rw [claimed]
        intro first member second later
        rcases List.mem_append.mp later with old | new
        · exact unclaimed first member second old
        · rw [List.mem_singleton.mp new]
          exact unclaimed_before first member
  | withdrawal out =>
      change transfer.sender.same opening.account = true at out
      rw [apart] at out
      cases out

/-- A settlement that pays something withdraws it, and no settlement claims anything. -/
theorem Banked.settle {id : Value} {settling : SettlementCall} {item : News} {transfer : Transfer}
    {pool : Pool} {settlement : Settlement} {ledger : Ledger} {reference : Value} {time : Instant}
    (banked : Banked opening news before) (tidy : before.Tidy)
    (allows : before.Allows id settling transfer pool settlement)
    (moved : before.ledger.move (payoutMove transfer pool settlement) before.now =
      (ledger, .ok reference))
    (source : item.before = before)
    (told : item.event = .settled (transfer.settledBy settlement time) pool.id
      (feeOf transfer pool settlement) time reference)
    (paid_out : after.ledger = ledger)
    (parties : after.TradesApart opening.account) :
    Banked opening (news ++ [item]) after := by
  obtain ⟨⟨exchange, executed, held, records, withdrawals, paid⟩, claims, unclaimed, known⟩ := banked
  rw [held] at moved
  obtain ⟨next, rfl, done⟩ := Ledger.move_ofCustody_eq_ok moved
  have settles : item.isSettlement = true := by
    rw [News.isSettlement, told]
    exact transfer.isTerminal_settledBy settlement time
  have net_eq : item.event.net = transfer.amount - (feeOf transfer pool settlement).toInt := by
    rw [told]
    rfl
  have same : claimsIn (news ++ [item]) = claimsIn news := by
    simp [claimsIn, News.funds, settles]
  cases done with
  | nothing involved zero =>
      have net : item.event.net = 0 := by
        rw [net_eq]
        simpa [payoutMove] using zero
      have pays : (news ++ [item]).filter News.pays = news.filter News.pays := by
        simp [News.pays, net]
      refine ⟨⟨exchange, executed, ?_, records, withdrawals, ?_⟩, ?_, ?_, parties⟩
      · rw [paid_out, same]
      · rwa [pays]
      · rwa [same]
      · rwa [same]
  | claim into =>
      obtain ⟨sender, recipient⟩ := known _ _ allows.transfer_found
      change (payee transfer settlement).same opening.account = true at into
      cases settlement <;> simp [payee, sender, recipient] at into
  | @withdrawal withdrawal _ out elsewhere nonzero orders =>
      have net : item.event.net ≠ 0 := by
        rw [net_eq]
        simpa [payoutMove] using nonzero
      have pays : (news ++ [item]).filter News.pays = news.filter News.pays ++ [item] := by
        simp [News.pays, settles, net]
      have ordered : item.PaidBy opening withdrawal := by
        refine ⟨?_, pool, ?_, out, ?_⟩
        · rw [net_eq]
          have amount := (tidy.transfers _ _ allows.transfer_found).amount
          exact pool.schedule.isAmount_sub_fee settlement.outcome amount
        · obtain ⟨-, pool_id⟩ := tidy.pools _ _ allows.pool_found
          rw [News.pool?, source, told]
          exact (congrArg before.pools.get? pool_id).trans allows.pool_found
        · rw [net_eq, told, payee_settled]
          exact ⟨orders.code, orders.amount, orders.address, orders.tag, orders.params⟩
      refine ⟨⟨{ exchange with withdrawals := exchange.withdrawals ++ [withdrawal] },
        executed ++ [withdrawal], ?_, records, ?_, ?_⟩, ?_, ?_, parties⟩
      · rw [paid_out, same]
        rfl
      · rw [withdrawals, List.append_assoc]
      · rw [pays]
        exact List.rel_append paid (.cons ordered .nil)
      · rwa [same]
      · rwa [same]

/-- What custody on an exchange is told of is how the exchange will answer. -/
theorem Told.ofCustody {custody : Custody} {ledger : Ledger}
    (told : (Ledger.ofCustody custody).Told call ledger) :
    ledger = .ofCustody custody ∨
      ∃ changes, call = .script changes ∧
        ledger = .ofCustody { custody with exchange := custody.exchange.update changes } := by
  cases told with
  | arm held => cases held
  | credit held => cases held
  | refuseNext => exact .inl rfl
  | script held changes =>
      cases held
      exact .inr ⟨changes, rfl, rfl⟩

/-- Every step of a call that spares the custody account keeps the exchange in line with the news. -/
theorem Step.banked (step : Step origin call before later after) (tidy : before.Tidy)
    (spares : call.SparesCustody opening.account) (addresses : opening.HasTextAddresses)
    (banked : Banked opening news before) : Banked opening (news ++ later) after := by
  have parties := step.tradesApart spares banked.parties
  cases step with
  | unpaidDeposit asked drawn admits failed =>
      exact banked.of_same (banked.move_error addresses failed) parties
  | deposit asked drawn admits moved booking =>
      have apart := (spares.parties _ asked).1
      rw [← admits.asked.sender_eq] at apart
      exact banked.deposit apart moved rfl rfl parties
  | unpaidSettlement allows failed =>
      exact banked.of_same (banked.move_error addresses failed) parties
  | settlement allows moved booking timely =>
      exact banked.settle tidy allows moved rfl rfl rfl parties
  | told told =>
      obtain ⟨exchange, executed, held, records, withdrawals, paid⟩ := banked.ledger
      rw [held] at told
      rcases Told.ofCustody told with rfl | ⟨changes, asked, rfl⟩
      · exact banked.of_same held.symm parties
      · rw [List.append_nil]
        exact ⟨⟨exchange.update changes, executed, rfl,
          records.update fun answer => spares.records changes answer asked, withdrawals, paid⟩,
          banked.claims, banked.unclaimed, parties⟩
  | aside => exact banked.of_same rfl parties
  | fees => exact banked.of_same rfl parties
  | register => exact banked.of_same rfl parties
  | archive => exact banked.of_same rfl parties
  | prune => exact banked.of_same rfl parties
  | clock => exact banked.of_same rfl parties

/-! ## Runs -/

/-- Before anything has happened, nothing has been withdrawn or claimed. -/
theorem IsBlank.banked (blank : engine.IsBlank) (held : engine.ledger = .ofCustody opening)
    (records : opening.exchange.AnswersRecords) : Banked opening [] engine := by
  have ledger : engine.ledger = .ofCustody (opening.after opening.exchange []) := by
    rw [held, Custody.after, List.append_nil]
  have parties : engine.TradesApart opening.account := by
    intro key transfer found
    rw [blank.transfers, Table.get?_empty] at found
    cases found
  exact ⟨⟨opening.exchange, [], ledger, records, (List.append_nil _).symm, .nil⟩, .nil,
    fun first _ second member => absurd member List.not_mem_nil, parties⟩

/-- An attempt that fails leaves the ledger as it was. -/
theorem Banked.settle_error {id : Value} {settling : SettlementCall} {problem : Problem}
    (banked : Banked opening news engine) (steady : engine.Steady)
    (addresses : opening.HasTextAddresses)
    (failed : (engine.settle id settling).2 = .error problem) :
    (engine.settle id settling).1.ledger = engine.ledger := by
  have ended := settled steady id settling
  generalize engine.settle id settling = result at ended failed
  cases ended with
  | refused => rfl
  | unpaid allows missed => exact banked.move_error addresses missed
  | done => cases failed

/-- From a blank engine on, with custody on an exchange that answers every withdrawal with a record,
the withdrawals of a run are those of its settlements, one for each that pays something.  No transfer
is settled twice, and an attempt to settle one that fails, whoever makes it, has withdrawn nothing. -/
theorem paid_once_of_run {engine : Engine} {custody : Custody} (blank : engine.IsBlank)
    (held : engine.ledger = .ofCustody custody) (records : custody.exchange.AnswersRecords)
    (addresses : custody.HasTextAddresses) {calls : List Call}
    (learns : Along (fun engine _ => engine.LearnsTime) engine calls)
    (spares : ∀ call ∈ calls, call.SparesCustody custody.account) :
    (∃ executed,
      (engine.run calls).ledger.withdrawals = custody.exchange.withdrawals ++ executed ∧
        List.Forall₂ (News.PaidBy custody) ((engine.newsOf calls).filter News.pays) executed) ∧
      (((engine.newsOf calls).filter News.pays).map News.key).Nodup ∧
      ∀ served ∈ engine.served calls, ∀ attempt ∈ served.before.attemptsOf served.call,
        ∀ problem, (attempt.before.settle attempt.id attempt.call).2 = .error problem →
          (attempt.before.settle attempt.id attempt.call).1.ledger.withdrawals =
            attempt.before.ledger.withdrawals := by
  have steps : ∀ origin call, call.SparesCustody custody.account → ∀ before news after past,
      Step origin call before news after → before.Tidy →
        SettledOnce past before ∧ Banked custody past before →
          SettledOnce (past ++ news) after ∧ Banked custody (past ++ news) after := by
    rintro origin call spares before news after past step tidy ⟨once, banked⟩
    exact ⟨step.settledOnce tidy once, step.banked tidy spares addresses banked⟩
  have along := along_of_forall spares engine
  have start := And.intro (settledOnce_nil engine) (blank.banked held records)
  obtain ⟨once, banked⟩ := @Tidy.run_preserves (fun _ call => call.SparesCustody custody.account)
    (fun news engine => SettledOnce news engine ∧ Banked custody news engine) steps engine
    blank.tidy calls learns along [] start
  rw [List.nil_append] at once banked
  obtain ⟨exchange, executed, ledger_eq, -, withdrawals, paid⟩ := banked.ledger
  refine ⟨⟨executed, ?_, paid⟩, ?_, ?_⟩
  · rw [ledger_eq]
    exact withdrawals
  · refine List.Nodup.sublist (List.Sublist.map _ (List.monotone_filter_right _ ?_)) once.settled
    intro item pays
    exact (Bool.and_eq_true_iff.mp pays).1
  · intro served member attempt attempted problem failed
    obtain ⟨steady, past, -, banked⟩ :=
      @Tidy.attempts_sustain (fun _ call => call.SparesCustody custody.account)
        (fun news engine => SettledOnce news engine ∧ Banked custody news engine) steps engine
        blank.tidy calls learns along [] start served member attempt attempted
    rw [banked.settle_error steady addresses failed]

/-! ## A vault -/

/-- A completed deposit of dollars. -/
def sampleDeposit (id amount : String) : Value :=
  .mapping [(.text "id", .text id), (.text "status", .text "ok"), (.text "amount", .text amount)]

/-- Custody of dollars, which have two decimals, on an exchange that lists two deposits. -/
def sampleCustody : Custody where
  exchange :=
    { abilities := .mapping [(.text "fetchDeposits", .bool true)]
      deposits := .list [sampleDeposit "d1" "3", sampleDeposit "d2" "2.5"]
      withdrawalAnswer := .mapping [(.text "id", .text "w-1"), (.text "txid", .text "0xabc")] }
  account := .text "vault"
  addresses := .mapping [(.text "alice", .text "0xa11ce"), (.text "bob", .text "0xb0b")]
  decimals := .mapping [(.text "USD", .int 2)]

/-- The small market with its funds in the vault. -/
def sampleVault : Engine := { sampleEngine with ledger := .ofCustody sampleCustody }

/-- The pool of dollars in the vault. -/
def sampleVaultPool : Pool := { samplePool with custody := .text "vault" }

/-- A first transfer is accepted after a failure of the exchange, a second one is cancelled. -/
def samplePayouts : List Call :=
  [.register sampleVaultPool,
    .create (sampleRequest "t1" 300),
    .script [(.text "withdraw_error", .text "down")],
    .settle (.text "t1") (.accept (.text "olga")),
    .script [(.text "withdraw_error", .text "")],
    .settle (.text "t1") (.accept (.text "olga")),
    .settle (.text "t1") (.accept (.text "olga")),
    .create (sampleRequest "t2" 250),
    .settle (.text "t2") (.cancel (.text "alice"))]

theorem hasTextAddresses_sample : sampleCustody.HasTextAddresses := by
  intro identity address found truthy
  unfold Custody.lookUp sampleCustody at found
  dsimp only at found
  split at found
  · obtain rfl := Except.ok.inj found
    simp only [Value.find?] at truthy ⊢
    split
    · exact ⟨_, rfl⟩
    · split
      · exact ⟨_, rfl⟩
      · rename_i other another
        simp [other, another, Value.isTruthy] at truthy
  · cases found

theorem learnsTime_sample :
    Along (fun engine _ => engine.LearnsTime) sampleVault samplePayouts := by
  have noon {engine : Engine}
      (same : engine.clock = sampleVault.clock ∧ engine.isUniversal = false) :
      engine.LearnsTime := learnsTime_of_clock same.1 same.2
  exact ⟨noon (by decide +kernel), noon (by decide +kernel), noon (by decide +kernel),
    noon (by decide +kernel), noon (by decide +kernel), noon (by decide +kernel),
    noon (by decide +kernel), noon (by decide +kernel), noon (by decide +kernel), trivial⟩

theorem sparesCustody_sample :
    ∀ call ∈ samplePayouts, call.SparesCustody sampleCustody.account := by
  have created (id : String) (amount : Int) :
      (Call.create (sampleRequest id amount)).SparesCustody sampleCustody.account := by
    refine ⟨?_, by simp⟩
    rintro request ⟨⟩
    simp [sampleRequest, sampleCustody]
  have scripted (message : String) :
      (Call.script [(.text "withdraw_error", .text message)]).SparesCustody
        sampleCustody.account := by
    refine ⟨by simp, ?_⟩
    rintro changes answer ⟨⟩ stated
    simp [Value.find?] at stated
  have others (call : Call) (noCreate : ∀ request, call ≠ .create request)
      (noScript : ∀ changes, call ≠ .script changes) : call.SparesCustody sampleCustody.account :=
    ⟨fun request asked => absurd asked (noCreate request),
      fun changes _ asked => absurd asked (noScript changes)⟩
  simp only [samplePayouts, List.forall_mem_cons]
  exact ⟨others _ (by simp) (by simp), created _ _, scripted _, others _ (by simp) (by simp),
    scripted _, others _ (by simp) (by simp), others _ (by simp) (by simp), created _ _,
    others _ (by simp) (by simp), by simp⟩

/-- The withdrawals of the vault are those of its two settlements. -/
theorem paid_once_sample :
    ∃ executed, (sampleVault.run samplePayouts).ledger.withdrawals = executed ∧
      List.Forall₂ (News.PaidBy sampleCustody)
        ((sampleVault.newsOf samplePayouts).filter News.pays) executed ∧
      executed.map (·.amount) = ["2.97", "2.5"] := by
  have blank : sampleVault.IsBlank := ⟨rfl, rfl, rfl⟩
  have records : sampleCustody.exchange.AnswersRecords := ⟨_, rfl⟩
  have amounts : (sampleVault.run samplePayouts).ledger.withdrawals.map (·.amount) =
      ["2.97", "2.5"] := by
    decide +kernel
  obtain ⟨⟨executed, withdrawals, paid⟩, -⟩ :=
    paid_once_of_run blank rfl records hasTextAddresses_sample learnsTime_sample sparesCustody_sample
  rw [withdrawals] at amounts
  exact ⟨executed, withdrawals, paid, amounts⟩

/-- The first transfer of the vault is accepted, by an exchange that answers with no record. -/
def sampleMute : List Call :=
  [.register sampleVaultPool, .create (sampleRequest "t1" 300),
    .script [(.text "withdraw_result", .null)]]

/-- An answer that is no record is met after the funds have left: the call fails and the transfer
stays pending, and the next attempt pays it again. -/
theorem paid_twice_sample :
    let accept : Call := .settle (.text "t1") (.accept (.text "olga"))
    let first := (sampleVault.run sampleMute).perform accept
    let second := first.1.perform accept
    (sampleVault.run sampleMute).ledger.withdrawals = [] ∧
      first.2 = .error (.fault .missingMember) ∧ first.1.ledger.withdrawals.length = 1 ∧
      second.2 = .error (.fault .missingMember) ∧ second.1.ledger.withdrawals.length = 2 := by
  decide +kernel

end Engine
end Escrow
