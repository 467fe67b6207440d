import Escrow.Proofs.Exchange
import Escrow.Proofs.Quotation

/-!
# Claiming deposits

A confirmation claims the first listed deposit that backs its amount and that no earlier confirmation
has claimed, and is refused if there is none.  What is claimed is added to the claims and never taken
away, so that over any number of confirmations, each facing whatever the exchange lists by then, no
deposit is claimed twice.
-/

namespace Escrow

/-- A field of a record that is left out, or empty, or a text. -/
def Value.IsTextOrNull (value : Value) : Prop := value = .null ∨ ∃ text, value = .text text

/-- What an exchange lists as a deposit: a record whose names are texts, and whose amount is left out
or a finite number. -/
structure IsDeposit (entries : List (Value × Value)) : Prop where
  id : (Value.field "id" entries).IsTextOrNull
  txid : (Value.field "txid" entries).IsTextOrNull
  amount : Value.field "amount" entries = .null ∨ ∃ number value,
    Decimal.ofText? (Value.field "amount" entries).plain = some number ∧
      Decimal.toRat? number = some value

/-- A request to confirm that a deposit backs an amount of base units, and the exchange as it answers
by then. -/
structure Confirmation where
  exchange : Exchange
  sender : String
  amount : Int
  asset : String

namespace Custody

/-- The deposit is one of this amount of base units by the sender, as far as the exchange tells. -/
structure IsBackedBy (custody : Custody) (sender : Value) (places amount : Int)
    (deposit : List (Value × Value)) : Prop where
  completed : Value.field "status" deposit = .text "ok"
  exact : baseUnits? places (Value.field "amount" deposit).plain = some (amount : ℚ)
  address : custody.depositAddress.isTruthy →
    (Value.field "address" deposit).same custody.depositAddress
  source : ∀ known, lookUp custody.addresses sender = .ok known → known.isTruthy →
    (Value.field "addressFrom" deposit).isTruthy → (Value.field "addressFrom" deposit).same known

/-- The deposit can be claimed for the amount: it has a name under which nothing was claimed yet. -/
structure CanClaim (custody : Custody) (sender : Value) (places amount : Int)
    (deposit : List (Value × Value)) : Prop
    extends custody.IsBackedBy sender places amount deposit where
  named : (claimKey deposit).isTruthy
  unclaimed : claimKey deposit ∉ custody.claimed

/-- The deposit is the first one of the list that can be claimed. -/
def IsFirst (custody : Custody) (sender : Value) (places amount : Int)
    (deposits : List (List (Value × Value))) (deposit : List (Value × Value)) : Prop :=
  ∃ before after, deposits = before ++ deposit :: after ∧
    (∀ other ∈ before, ¬custody.CanClaim sender places amount other) ∧
    custody.CanClaim sender places amount deposit

/-- The custody with the exchange as it answers now. -/
def facing (custody : Custody) (exchange : Exchange) : Custody :=
  { custody with exchange := exchange }

/-- Serve a confirmation: the custody afterwards, and what the deposit was claimed by. -/
def confirm (custody : Custody) (call : Confirmation) : Custody × Answer Value :=
  let facing := custody.facing call.exchange
  match facing.claim (.text call.sender) (.int call.amount) (.text call.asset) with
  | .ok (claiming, key) => (claiming, .ok key)
  | .error problem => (facing, .error problem)

/-- Serve confirmations one after the other: the custody afterwards, and the answers. -/
def confirmAll (custody : Custody) : List Confirmation → Custody × List (Answer Value)
  | [] => (custody, [])
  | call :: rest =>
    let (next, answer) := custody.confirm call
    let (last, answers) := next.confirmAll rest
    (last, answer :: answers)

/-- The confirmation is about an amount of a known asset, and the exchange lists these deposits for
it. -/
structure Faces (custody : Custody) (call : Confirmation) (places : Int)
    (deposits : List (List (Value × Value))) : Prop where
  amount : IsAmount call.amount
  known : ∃ decimals, custody.decimalsOf (.text call.asset) = .ok (some decimals) ∧
    placesOf decimals = .ok places
  least : 0 ≤ places
  most : places ≤ 999999
  able : (custody.facing call.exchange).listsDeposits = .ok true
  fetched : call.exchange.listDeposits (.text call.asset) = .ok (some (deposits.map .mapping))
  listed : ∀ deposit ∈ deposits, IsDeposit deposit

variable {custody : Custody} {sender key known : Value} {places amount : Int}
  {deposit : List (Value × Value)} {deposits : List (List (Value × Value))} {expected : Decimal}
  {call : Confirmation}

/-! ## One deposit -/

private theorem exists_text_of_claimKey (listed : IsDeposit deposit)
    (named : (claimKey deposit).isTruthy) : ∃ text, claimKey deposit = .text text := by
  have named_text (name : String) (shape : (Value.field name deposit).IsTextOrNull)
      (truthy : (Value.field name deposit).isTruthy) :
      ∃ text, Value.field name deposit = .text text := by
    rcases shape with absent | there
    · rw [absent] at truthy
      cases truthy
    · exact there
  unfold claimKey Value.orElse at named ⊢
  split at named
  · rename_i chosen
    rw [if_pos chosen]
    exact named_text "id" listed.id chosen
  · rename_i unchosen
    rw [if_neg unchosen]
    exact named_text "txid" listed.txid named

private theorem isClaimed_text (custody : Custody) (text : String) :
    custody.isClaimed (.text text) = decide (.text text ∈ custody.claimed) := by
  unfold isClaimed
  simp only [Value.same_text_right]
  rw [List.any_eq, decide_eq_decide]
  simp

/-- The text of nothing is no number. -/
theorem ofText?_null : Decimal.ofText? Value.null.plain = none := by decide +kernel

/-- Where a deposit comes from is always told, and told rightly. -/
theorem comesFrom_eq (deposit : List (Value × Value))
    (found : lookUp custody.addresses sender = .ok known) :
    ∃ told, custody.comesFrom deposit sender = .ok told ∧
      (told = true ↔ (custody.depositAddress.isTruthy →
          (Value.field "address" deposit).same custody.depositAddress) ∧
        (known.isTruthy → (Value.field "addressFrom" deposit).isTruthy →
          (Value.field "addressFrom" deposit).same known)) := by
  unfold comesFrom
  rw [found]
  cases custody.depositAddress.isTruthy <;>
    cases (Value.field "address" deposit).same custody.depositAddress <;>
    simp [bind, Except.bind, pure, Except.pure, imp_iff_not_or, or_assoc]

/-- An amount in whole units counts as many base units as it stands for. -/
theorem baseUnits?_eq_iff {text : String} {number : Decimal} {value : ℚ}
    (read : Decimal.ofText? text = some number) (finite : number.toRat? = some value) :
    baseUnits? places text = some (amount : ℚ) ↔ value = amount * 10 ^ (-places) := by
  have power : (10 : ℚ) ^ places ≠ 0 := by positivity
  rw [baseUnits?, read, Option.bind_some, finite, Option.map_some, Option.some_inj, zpow_neg,
    ← div_eq_mul_inv, eq_div_iff power]

/-- Whether a deposit backs an amount is always told, and told rightly. -/
theorem backs_eq (listed : IsDeposit deposit)
    (number : expected.toRat? = some (amount * 10 ^ (-places) : ℚ))
    (found : lookUp custody.addresses sender = .ok known) :
    ∃ backed, custody.backs deposit sender expected = .ok backed ∧
      (backed = true ↔ custody.IsBackedBy sender places amount deposit) := by
  by_cases completed : Value.field "status" deposit = .text "ok"
  swap
  · exact ⟨false, by simp [backs, Value.same_text_right, completed]; rfl,
      by simp, fun backed => absurd backed.completed completed⟩
  rcases listed.amount with absent | ⟨quoted, value, read, finite⟩
  · refine ⟨false, by simp [backs, absent]; rfl, by simp, fun backed => ?_⟩
    have exact := backed.exact
    rw [absent, baseUnits?, ofText?_null] at exact
    cases exact
  have stated : Value.field "amount" deposit ≠ .null := by
    intro absent
    rw [absent, ofText?_null] at read
    cases read
  rw [backs_of_completed completed stated, amountMatches, read]
  dsimp only
  rw [Decimal.equals_of_toRat? finite number]
  by_cases exact : value = amount * 10 ^ (-places)
  · obtain ⟨told, answered, rightly⟩ := comesFrom_eq deposit found
    rw [decide_eq_true exact]
    refine ⟨told, answered, ?_⟩
    rw [rightly]
    constructor
    · rintro ⟨address, source⟩
      refine ⟨completed, (baseUnits?_eq_iff read finite).mpr exact, address, ?_⟩
      intro other found' truthy stated
      rw [found] at found'
      obtain rfl := Except.ok.inj found'
      exact source truthy stated
    · intro backed
      exact ⟨backed.address, backed.source known found⟩
  · rw [decide_eq_false exact]
    exact ⟨false, rfl, by simp,
      fun backed => absurd ((baseUnits?_eq_iff read finite).mp backed.exact) exact⟩

/-! ## The search for a deposit -/

/-- The search ends at a deposit that can be claimed, and passes over every other one. -/
theorem findDeposit_cons_eq (listed : IsDeposit deposit)
    (number : expected.toRat? = some (amount * 10 ^ (-places) : ℚ))
    (found : lookUp custody.addresses sender = .ok known) (rest : List Value) :
    (custody.CanClaim sender places amount deposit ∧
        custody.findDeposit sender expected (.mapping deposit :: rest) =
          .ok (some (claimKey deposit))) ∨
      (¬custody.CanClaim sender places amount deposit ∧
        custody.findDeposit sender expected (.mapping deposit :: rest) =
          custody.findDeposit sender expected rest) := by
  rw [findDeposit_cons]
  by_cases named : (claimKey deposit).isTruthy
  swap
  · exact .inr ⟨fun claimable => named claimable.named, by simp [named]⟩
  obtain ⟨text, key_eq⟩ := exists_text_of_claimKey listed named
  have isKey : (claimKey deposit).isKey := by
    rw [key_eq]
    simp [Value.isKey]
  rw [if_neg (by simp [named]), if_neg (by simp [isKey])]
  have told : custody.isClaimed (claimKey deposit) =
      decide (claimKey deposit ∈ custody.claimed) := by
    rw [key_eq, isClaimed_text]
  by_cases claimed : claimKey deposit ∈ custody.claimed
  · exact .inr ⟨fun claimable => claimable.unclaimed claimed, by simp [told, claimed]⟩
  rw [if_neg (by simp [told, claimed])]
  obtain ⟨backed, answered, rightly⟩ := backs_eq listed number found
  rw [answered]
  cases backed with
  | true => exact .inl ⟨⟨rightly.mp rfl, named, claimed⟩, rfl⟩
  | false =>
      refine .inr ⟨fun claimable => ?_, rfl⟩
      cases rightly.mpr claimable.toIsBackedBy

/-- The search finds the first deposit that can be claimed, if there is one. -/
theorem findDeposit_eq (listed : ∀ deposit ∈ deposits, IsDeposit deposit)
    (number : expected.toRat? = some (amount * 10 ^ (-places) : ℚ))
    (found : lookUp custody.addresses sender = .ok known) :
    (∃ deposit, custody.IsFirst sender places amount deposits deposit ∧
        custody.findDeposit sender expected (deposits.map .mapping) =
          .ok (some (claimKey deposit))) ∨
      ((∀ deposit ∈ deposits, ¬custody.CanClaim sender places amount deposit) ∧
        custody.findDeposit sender expected (deposits.map .mapping) = .ok none) := by
  induction deposits with
  | nil => exact .inr ⟨by simp, rfl⟩
  | cons deposit rest ih =>
      rw [List.forall_mem_cons] at listed
      rw [List.map_cons]
      rcases findDeposit_cons_eq listed.1 number found (rest.map .mapping) with
        ⟨claimable, ends⟩ | ⟨not_claimable, passes⟩
      · exact .inl ⟨deposit, ⟨[], rest, rfl, by simp, claimable⟩, ends⟩
      · rw [passes]
        rcases ih listed.2 with ⟨first, ⟨before, after, rfl, none_before, claimable⟩, ends⟩ |
          ⟨none_claimable, ends⟩
        · refine .inl ⟨first, ⟨deposit :: before, after, rfl, ?_, claimable⟩, ends⟩
          exact List.forall_mem_cons.mpr ⟨not_claimable, none_before⟩
        · exact .inr ⟨List.forall_mem_cons.mpr ⟨not_claimable, none_claimable⟩, ends⟩

/-! ## One confirmation -/

/-- With an exchange that lists deposits, a claim is as good as the search among them. -/
theorem claim_eq_search {units asset : Value} {shown : String} {items : List Value}
    (able : custody.listsDeposits = .ok true)
    (converted : custody.exchangeAmount units asset = .ok shown)
    (number : Decimal.ofText? shown = some expected)
    (fetched : custody.exchange.listDeposits asset = .ok (some items)) :
    custody.claim sender units asset =
      (custody.findDeposit sender expected items).bind fun
        | some key => .ok (custody.withClaim key, key)
        | none => .error (.ofCause (.ledger (.noDeposit expected.text asset sender))) := by
  unfold claim
  simp only [able, converted, fetched, number, Option.getD_some, bind, Except.bind]
  cases custody.findDeposit sender expected items with
  | error problem => rfl
  | ok found => cases found <;> rfl

private theorem canClaim_facing (exchange : Exchange) :
    (custody.facing exchange).CanClaim sender places amount deposit ↔
      custody.CanClaim sender places amount deposit :=
  ⟨fun ⟨⟨completed, exact, address, source⟩, named, unclaimed⟩ =>
      ⟨⟨completed, exact, address, source⟩, named, unclaimed⟩,
    fun ⟨⟨completed, exact, address, source⟩, named, unclaimed⟩ =>
      ⟨⟨completed, exact, address, source⟩, named, unclaimed⟩⟩

private theorem isFirst_facing (exchange : Exchange) :
    (custody.facing exchange).IsFirst sender places amount deposits deposit ↔
      custody.IsFirst sender places amount deposits deposit := by
  simp only [IsFirst, canClaim_facing]

/-- How a confirmation ends: the first deposit that can be claimed is claimed, and without one it is
refused. -/
inductive Confirmed (custody : Custody) (call : Confirmation) (places : Int)
    (deposits : List (List (Value × Value))) : Custody × Answer Value → Prop where
  | claimed {deposit : List (Value × Value)}
      (first : custody.IsFirst (.text call.sender) places call.amount deposits deposit) :
      Confirmed custody call places deposits
        ((custody.facing call.exchange).withClaim (claimKey deposit), .ok (claimKey deposit))
  | refused {refusal : Refusal} (ledger : refusal.cause.kind = .ledger)
      (none_claimable : ∀ deposit ∈ deposits,
        ¬custody.CanClaim (.text call.sender) places call.amount deposit) :
      Confirmed custody call places deposits
        (custody.facing call.exchange, .error (.refused refusal))

private theorem confirm_confirmed (accounts : ∃ entries, custody.addresses = .mapping entries)
    (faces : custody.Faces call places deposits) :
    custody.Confirmed call places deposits (custody.confirm call) := by
  obtain ⟨decimals, listed, read⟩ := faces.known
  obtain ⟨whole, fraction, converted, numeral, short, value⟩ :=
    exists_exchangeAmount listed read faces.least faces.most faces.amount
  have converted : (custody.facing call.exchange).exchangeAmount (.int call.amount)
      (.text call.asset) = .ok (String.ofList (Text.withPoint whole fraction)) := converted
  have number := Decimal.ofText?_withPoint numeral.some_digits numeral.whole_digits
    numeral.fraction_digits short
  have finite := Decimal.toRat?_finite (Text.digitsValue (whole ++ fraction))
    (-(fraction.length : Int))
  rw [value] at finite
  have found : ∃ known,
      lookUp (custody.facing call.exchange).addresses (.text call.sender) = .ok known := by
    obtain ⟨entries, addresses_eq⟩ := accounts
    exact ⟨_, by simp [facing, addresses_eq, lookUp, Value.isKey]; rfl⟩
  obtain ⟨known, found⟩ := found
  have fetched : (custody.facing call.exchange).exchange.listDeposits (.text call.asset) =
      .ok (some (deposits.map .mapping)) := faces.fetched
  unfold confirm
  dsimp only
  rw [claim_eq_search faces.able converted number fetched]
  rcases findDeposit_eq faces.listed finite found with
    ⟨deposit, first, search⟩ | ⟨none_claimable, search⟩
  · rw [search]
    exact .claimed ((isFirst_facing call.exchange).mp first)
  · rw [search]
    refine .refused rfl fun deposit member claimable => ?_
    exact none_claimable deposit member ((canClaim_facing call.exchange).mpr claimable)

/-! ## Many confirmations -/

/-- A confirmation leaves the custody as it was, but for the exchange and for one claim. -/
theorem confirm_fst (custody : Custody) (call : Confirmation) :
    (custody.confirm call).1 = custody.facing call.exchange ∨
      ∃ key, (custody.confirm call).1 = (custody.facing call.exchange).withClaim key := by
  unfold confirm
  dsimp only
  split
  · rename_i claimed
    exact .inr ⟨_, (claim_eq_ok claimed).1⟩
  · exact .inl rfl

private theorem addresses_confirm (custody : Custody) (call : Confirmation) :
    (custody.confirm call).1.addresses = custody.addresses := by
  rcases custody.confirm_fst call with left | ⟨key, left⟩ <;> rw [left] <;> rfl

/-- What the exchange lists for a confirmation does not depend on the earlier ones. -/
theorem Faces.confirm (faces : custody.Faces call places deposits) (other : Confirmation) :
    (custody.confirm other).1.Faces call places deposits := by
  obtain ⟨amount, known, least, most, able, fetched, listed⟩ := faces
  rcases custody.confirm_fst other with left | ⟨key, left⟩ <;> rw [left] <;>
    exact ⟨amount, known, least, most, able, fetched, listed⟩

/-- What deposits were claimed by, as the answers tell. -/
def keysOf (answers : List (Answer Value)) : List Value := answers.filterMap Except.toOption

private theorem nodup_keysOf_singleton (answer : Answer Value) : (keysOf [answer]).Nodup := by
  cases answer with
  | error problem => exact List.nodup_nil
  | ok key => exact List.nodup_singleton key

/-- A confirmation claims what it answers. -/
theorem Confirmed.claimed_eq {outcome : Custody × Answer Value}
    (confirmed : custody.Confirmed call places deposits outcome) :
    outcome.1.claimed = custody.claimed ++ keysOf [outcome.2] := by
  cases confirmed with
  | claimed first => rfl
  | refused ledger none_claimable => exact (List.append_nil _).symm

/-- What a confirmation answers was not claimed before. -/
theorem Confirmed.notMem {outcome : Custody × Answer Value} {key : Value}
    (confirmed : custody.Confirmed call places deposits outcome) (member : key ∈ keysOf [outcome.2]) :
    key ∉ custody.claimed := by
  cases confirmed with
  | claimed first =>
      obtain ⟨before, after, -, -, claimable⟩ := first
      obtain rfl := List.mem_singleton.mp member
      exact claimable.unclaimed
  | refused ledger none_claimable => cases member

/-- Confirmations claim what they answer, none of it twice and none of it claimed before. -/
theorem claimed_confirmAll (accounts : ∃ entries, custody.addresses = .mapping entries)
    (calls : List Confirmation)
    (faced : ∀ call ∈ calls, ∃ places deposits, custody.Faces call places deposits) :
    (custody.confirmAll calls).1.claimed =
        custody.claimed ++ keysOf (custody.confirmAll calls).2 ∧
      (keysOf (custody.confirmAll calls).2).Nodup ∧
      ∀ key ∈ keysOf (custody.confirmAll calls).2, key ∉ custody.claimed := by
  induction calls generalizing custody with
  | nil => exact ⟨(List.append_nil _).symm, List.nodup_nil, by simp [confirmAll, keysOf]⟩
  | cons call rest ih =>
      rw [List.forall_mem_cons] at faced
      obtain ⟨⟨places, deposits, faces⟩, faced⟩ := faced
      have confirmed := confirm_confirmed accounts faces
      have grown := confirmed.claimed_eq
      have accounts_next : ∃ entries, (custody.confirm call).1.addresses = .mapping entries := by
        rwa [addresses_confirm]
      have faced_next : ∀ other ∈ rest, ∃ places deposits,
          (custody.confirm call).1.Faces other places deposits := by
        intro other member
        obtain ⟨places, deposits, faces⟩ := faced other member
        exact ⟨places, deposits, faces.confirm call⟩
      obtain ⟨claimed, nodup, unclaimed⟩ := ih accounts_next faced_next
      have answered : keysOf (custody.confirmAll (call :: rest)).2 =
          keysOf [(custody.confirm call).2] ++
            keysOf ((custody.confirm call).1.confirmAll rest).2 :=
        List.filterMap_append (l := [(custody.confirm call).2])
      have last : (custody.confirmAll (call :: rest)).1 =
          ((custody.confirm call).1.confirmAll rest).1 := rfl
      rw [grown] at claimed unclaimed
      rw [answered, last, claimed, List.append_assoc]
      refine ⟨rfl, List.nodup_append.mpr ⟨nodup_keysOf_singleton _, nodup, ?_⟩, ?_⟩
      · rintro key now _ later rfl
        exact unclaimed key later (List.mem_append_right _ now)
      · intro key member
        rcases List.mem_append.mp member with now | later
        · exact confirmed.notMem now
        · exact fun earlier => unclaimed key later (List.mem_append_left _ earlier)

private theorem faces_confirmAll (faces : custody.Faces call places deposits)
    (calls : List Confirmation) : (custody.confirmAll calls).1.Faces call places deposits := by
  induction calls generalizing custody with
  | nil => exact faces
  | cons other rest ih => exact ih (faces.confirm other)

private theorem addresses_confirmAll (custody : Custody) (calls : List Confirmation) :
    (custody.confirmAll calls).1.addresses = custody.addresses := by
  induction calls generalizing custody with
  | nil => rfl
  | cons other rest ih => exact (ih _).trans (custody.addresses_confirm other)

/-- However many confirmations are served, and whatever the exchange lists at each of them: a
confirmation succeeds exactly if the list has a deposit that can be claimed for its amount.  It then
claims the first such deposit, and nothing else; otherwise the ledger refuses it and nothing is
claimed.  No deposit is claimed twice. -/
theorem confirmed_of_calls (accounts : ∃ entries, custody.addresses = .mapping entries)
    (calls : List Confirmation)
    (faced : ∀ call ∈ calls, ∃ places deposits, custody.Faces call places deposits) :
    (∀ before call after, calls = before ++ call :: after →
      ∀ places deposits, custody.Faces call places deposits →
      let reached := (custody.confirmAll before).1
      let (next, answer) := reached.confirm call
      ((∃ key, answer = .ok key) ↔ ∃ deposit ∈ deposits,
        reached.CanClaim (.text call.sender) places call.amount deposit) ∧
      (∀ key, answer = .ok key → ∃ deposit,
        reached.IsFirst (.text call.sender) places call.amount deposits deposit ∧
        key = claimKey deposit ∧ next.claimed = reached.claimed ++ [key]) ∧
      (∀ problem, answer = .error problem → next.claimed = reached.claimed ∧
        ∃ refusal, problem = .refused refusal ∧ refusal.cause.kind = .ledger)) ∧
    let (last, answers) := custody.confirmAll calls
    last.claimed = custody.claimed ++ keysOf answers ∧ (keysOf answers).Nodup ∧
      ∀ key ∈ keysOf answers, key ∉ custody.claimed := by
  refine ⟨?_, claimed_confirmAll accounts calls faced⟩
  intro before call after calls_eq places deposits faces
  dsimp only
  have confirmed := confirm_confirmed
    (by rwa [addresses_confirmAll custody before]) (faces_confirmAll faces before)
  generalize (custody.confirmAll before).1 = reached at confirmed ⊢
  generalize reached.confirm call = outcome at confirmed ⊢
  cases confirmed with
  | @claimed deposit first =>
      refine ⟨⟨fun _ => ?_, fun _ => ⟨_, rfl⟩⟩, fun key answered => ?_, by simp⟩
      · obtain ⟨front, back, rfl, -, claimable⟩ := first
        exact ⟨deposit, by simp, claimable⟩
      · obtain rfl := Except.ok.inj answered
        exact ⟨deposit, first, rfl, rfl⟩
  | @refused refusal ledger none_claimable =>
      refine ⟨⟨by simp, ?_⟩, by simp, fun problem answered => ?_⟩
      · rintro ⟨deposit, member, claimable⟩
        exact absurd claimable (none_claimable deposit member)
      · obtain rfl := Except.error.inj answered
        exact ⟨rfl, refusal, rfl, ledger⟩

/-- A custody that has claimed nothing. -/
def unclaimedSample : Custody where
  exchange := {}
  account := .text "hot"
  addresses := .mapping [(.text "alice", .text "0xa11ce")]
  decimals := .mapping [(.text "EUR", .int 2)]

/-- Ten cents that are on their way, and ten cents that have come. -/
def listedSample : List (List (Value × Value)) :=
  [[(.text "id", .text "d1"), (.text "status", .text "pending"), (.text "amount", .text "0.10")],
    [(.text "txid", .text "0xd2"), (.text "status", .text "ok"), (.text "amount", .text "0.10")]]

/-- Ten cents by an exchange that lists deposits. -/
def confirmationSample : Confirmation where
  exchange := {
    abilities := .mapping [(.text "fetchDeposits", .bool true)]
    deposits := .list (listedSample.map .mapping) }
  sender := "alice"
  amount := 10
  asset := "EUR"

/-- Of two confirmations of the same amount the first one succeeds, and nothing is claimed twice. -/
theorem confirmed_of_calls_sample :
    let calls := [confirmationSample, confirmationSample]
    (∃ entries, unclaimedSample.addresses = .mapping entries) ∧
      (∀ call ∈ calls, ∃ places deposits, unclaimedSample.Faces call places deposits) ∧
      (∃ key, (unclaimedSample.confirm confirmationSample).2 = .ok key) ∧
      (keysOf (unclaimedSample.confirmAll calls).2).Nodup := by
  intro calls
  have read : Decimal.ofText? "0.10" = some (.finite false 10 (-2)) := by decide +kernel
  have finite : Decimal.toRat? (.finite false 10 (-2)) = some (10 * 10 ^ (-2 : Int) : ℚ) :=
    Decimal.toRat?_finite 10 (-2)
  have accounts : ∃ entries, unclaimedSample.addresses = .mapping entries := ⟨_, rfl⟩
  have listed : ∀ deposit ∈ listedSample, IsDeposit deposit := by
    simp only [listedSample, List.forall_mem_cons]
    refine ⟨⟨?_, ?_, .inr ⟨_, _, ?_, finite⟩⟩, ⟨?_, ?_, .inr ⟨_, _, ?_, finite⟩⟩, by simp⟩ <;>
      simp [Value.IsTextOrNull, Value.field, Value.find?, read]
  have known : unclaimedSample.decimalsOf (.text "EUR") = .ok (some (.int 2)) := by
    simp [unclaimedSample, decimalsOf, Value.isKey, Value.find?]
  have faces : unclaimedSample.Faces confirmationSample 2 listedSample :=
    ⟨by decide, ⟨_, known, rfl⟩, by decide, by decide, by decide +kernel, by decide +kernel, listed⟩
  have faced : ∀ call ∈ calls, ∃ places deposits, unclaimedSample.Faces call places deposits := by
    simp only [calls, List.forall_mem_cons, List.not_mem_nil, false_imp_iff, implies_true, and_true,
      and_self]
    exact ⟨2, listedSample, faces⟩
  obtain ⟨each, -, nodup, -⟩ := confirmed_of_calls accounts calls faced
  have succeeds := (each [] confirmationSample _ rfl 2 listedSample faces).1
  refine ⟨accounts, faced, succeeds.mpr ⟨_, List.mem_cons_of_mem _ List.mem_cons_self, ?_⟩, nodup⟩
  refine ⟨⟨by simp [Value.field, Value.find?], ?_, ?_, ?_⟩, ?_, ?_⟩
  · refine (baseUnits?_eq_iff ?_ finite).mpr rfl
    simp [Value.field, Value.find?, read]
  · intro configured
    cases configured
  · intro known _ _ source
    simp [Value.field, Value.find?, Value.isTruthy] at source
  · decide +kernel
  · exact List.not_mem_nil

end Custody
end Escrow
