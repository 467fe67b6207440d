import Escrow.Roster.Basic
import Escrow.Proofs.Config
import Escrow.Proofs.Fee

/-!
# From the rows of a roster to pools

A roster that can be read is written as a configuration from which the pools are built: one for each
row with an id, in their order.  Every pool has what its row sets and the usual values for the rest,
and charges for an outcome by the rate of its own if the row sets one, else by the rule for the
outcome.
-/

namespace Escrow

namespace Policy

/-- The terms of the policy are these numbers. -/
structure HasTerms (policy : Policy) (rate minimum : Int) (maximum : Option Int) : Prop where
  rate_eq : policy.rate = .number rate
  minimum_eq : policy.minimum = .number minimum
  maximum_eq : policy.maximum = maximum.map .number

variable {policy : Policy} {rate minimum : Int} {maximum : Option Int}

theorem hasTerms_of_make
    (made : make (.int rate) (.int minimum) ((maximum.map Value.int).getD .null) = .ok policy) :
    policy.HasTerms rate minimum maximum := by
  unfold make at made
  cases maximum <;>
    simp only [Value.whole?, Option.map_none, Option.map_some, Option.getD_none,
      Option.getD_some] at made <;>
    split at made <;> try cases made
  all_goals split at made <;> try cases made
  · exact ⟨rfl, rfl, rfl⟩
  · split at made <;> try cases made
    split at made <;> cases made
    exact ⟨rfl, rfl, rfl⟩

/-- The table of a policy, where what is not given is left out. -/
def table (rate : Int) (minimum maximum : Option Int) : List (Value × Value) :=
  [(.text "rate_bps", .int rate)] ++ Definition.optional "min_fee" .int minimum ++
    Definition.optional "max_fee" .int maximum

theorem ofConfig_table (rate : Int) (minimum maximum : Option Int) :
    ofConfig (.mapping (table rate minimum maximum)) =
      ofCause (make (.int rate) (.int (minimum.getD 0)) ((maximum.map Value.int).getD .null)) := by
  cases minimum <;> cases maximum <;>
    simp [ofConfig, table, Definition.optional, Value.isTruthy, Value.fields, Value.fieldOr,
      Value.field, Value.find?, Value.readInt, bind, Except.bind, pure, Except.pure,
      Except.mapError, Functor.map, Except.map]

private theorem hasTerms_of_table {minimum : Option Int}
    (made : ofConfig (.mapping (table rate minimum maximum)) = .ok policy) :
    policy.HasTerms rate (minimum.getD 0) maximum := by
  rw [ofConfig_table, ofCause, mapError_eq_ok_iff] at made
  exact hasTerms_of_make made

end Policy

namespace Schedule

/-- The policies of the outcomes with a rate of their own. -/
def rateTable (rates : List (Outcome × Int)) : List (Value × Value) :=
  rates.map fun (outcome, rate) => (.text outcome.name, .mapping (Policy.table rate none none))

/-- A policy under the name of an outcome, with the rate of the outcome and no bounds. -/
def IsRate (entry : Outcome × Int) (read : Value × Policy) : Prop :=
  read.1 = .text entry.1.name ∧ read.2.HasTerms entry.2 0 none

theorem rates_of_readPolicies {rates : List (Outcome × Int)} {policies : List (Value × Policy)}
    (made : readPolicies Policy.ofConfig (rateTable rates) = .ok policies) :
    List.Forall₂ IsRate rates policies := by
  induction rates generalizing policies with
  | nil =>
      cases made
      exact .nil
  | cons entry rest ih =>
      obtain ⟨policy, first, made⟩ := bind_eq_ok_iff.mp made
      obtain ⟨others, later, made⟩ := bind_eq_ok_iff.mp made
      cases made
      exact .cons ⟨rfl, Policy.hasTerms_of_table first⟩ (ih later)

/-- The schedule with a policy written at the outcome that a key names. -/
def enter (schedule : Schedule) (entry : Value × Policy) : Schedule :=
  match outcomeOfKey? entry.1 with
  | some outcome => schedule.withOverride outcome entry.2
  | none => schedule

private theorem override_withOverride (schedule : Schedule) (outcome other : Outcome)
    (policy : Policy) :
    (schedule.withOverride outcome policy).override other =
      if other = outcome then some policy else schedule.override other := by
  cases outcome <;> cases other <;> rfl

private theorem default_withOverride (schedule : Schedule) (outcome : Outcome) (policy : Policy) :
    (schedule.withOverride outcome policy).default = schedule.default := by
  cases outcome <;> rfl

private theorem enter_of_isRate {entry : Outcome × Int} {read : Value × Policy}
    (rate : IsRate entry read)
    (schedule : Schedule) : schedule.enter read = schedule.withOverride entry.1 read.2 := by
  unfold enter outcomeOfKey?
  rw [rate.1]
  simp

/-- Policies that are written for different outcomes stand there, and the other outcomes keep
theirs. -/
theorem override_foldl {rates : List (Outcome × Int)} {policies : List (Value × Policy)}
    (entries : List.Forall₂ IsRate rates policies) (distinct : (rates.map Prod.fst).Nodup)
    (schedule : Schedule) :
    (policies.foldl enter schedule).default = schedule.default ∧
      (∀ outcome rate, (outcome, rate) ∈ rates → ∃ policy,
        (policies.foldl enter schedule).override outcome = some policy ∧
          policy.HasTerms rate 0 none) ∧
      ∀ outcome, outcome ∉ rates.map Prod.fst →
        (policies.foldl enter schedule).override outcome = schedule.override outcome := by
  induction entries generalizing schedule with
  | nil => exact ⟨rfl, by simp, fun _ _ => rfl⟩
  | @cons entry read rates policies first _ ih =>
      rw [List.map_cons, List.nodup_cons] at distinct
      obtain ⟨default_eq, written, kept⟩ := ih distinct.2 (schedule.enter read)
      rw [List.foldl_cons]
      rw [enter_of_isRate first] at default_eq written kept ⊢
      refine ⟨default_eq.trans (default_withOverride ..), ?_, ?_⟩
      · intro outcome rate member
        rcases List.mem_cons.mp member with rfl | later
        · refine ⟨read.2, ?_, first.2⟩
          rw [kept _ distinct.1, override_withOverride, if_pos rfl]
        · exact written outcome rate later
      · intro outcome absent
        rw [List.map_cons, List.mem_cons, not_or] at absent
        rw [kept outcome absent.2, override_withOverride, if_neg absent.1]

/-- What a schedule takes from a table with a default policy and rates of outcomes. -/
structure Follows (schedule : Schedule) (definition : Definition) : Prop where
  default : schedule.default.HasTerms definition.rate (definition.minimum.getD 0) definition.maximum
  own : ∀ outcome rate, (outcome, rate) ∈ definition.overrides →
    ∃ policy, schedule.override outcome = some policy ∧ policy.HasTerms rate 0 none
  unset : ∀ outcome, outcome ∉ definition.overrides.map Prod.fst → schedule.override outcome = none

private theorem filter_rateTable (rates : List (Outcome × Int)) :
    (rateTable rates).filter (fun entry => !decide (entry.1 = .text "default")) =
      rateTable rates := by
  rw [List.filter_eq_self]
  intro entry member
  obtain ⟨⟨outcome, rate⟩, -, rfl⟩ := List.mem_map.mp member
  cases outcome <;> simp [Outcome.name]

/-- The schedule of a definition is made of the table of its default policy and the rates of outcomes. -/
theorem ofConfig_fees (definition : Definition) :
    ofConfig definition.fees = (do
      let default ← Policy.ofConfig (.mapping (Policy.table definition.rate definition.minimum
        definition.maximum))
      make default (← readPolicies Policy.ofConfig (rateTable definition.overrides))) := by
  have default_found : Value.field "default"
      ((.text "default", .mapping (Policy.table definition.rate definition.minimum
        definition.maximum)) :: rateTable definition.overrides) =
      .mapping (Policy.table definition.rate definition.minimum definition.maximum) := by
    simp [Value.field, Value.find?]
  change ofConfig (.mapping ((.text "default", .mapping (Policy.table definition.rate
    definition.minimum definition.maximum)) :: rateTable definition.overrides)) = _
  unfold ofConfig
  simp only [Value.isTruthy, List.isEmpty_cons, Bool.not_false, if_true, Value.readEntries]
  change (do
    let default ← Policy.ofConfig (Value.field "default" _)
    make default (← readPolicies Policy.ofConfig (List.filter _ _))) = _
  rw [default_found, List.filter_cons_of_neg (by simp), filter_rateTable]

private theorem follows_of_fees {definition : Definition} {schedule : Schedule}
    (made : ofConfig definition.fees = .ok schedule)
    (distinct : (definition.overrides.map Prod.fst).Nodup) : schedule.Follows definition := by
  rw [ofConfig_fees] at made
  obtain ⟨default, default_made, made⟩ := bind_eq_ok_iff.mp made
  obtain ⟨policies, policies_made, made⟩ := bind_eq_ok_iff.mp made
  obtain ⟨default_eq, own, unset⟩ :=
    override_foldl (rates_of_readPolicies policies_made) distinct { default := default }
  have schedule_eq : schedule = policies.foldl enter { default := default } := by
    unfold make at made
    split at made
    · exact (Except.ok.inj made).symm
    · split at made <;> cases made
  rw [← schedule_eq] at default_eq own unset
  refine ⟨?_, own, fun outcome absent => (unset outcome absent).trans (by cases outcome <;> rfl)⟩
  rw [default_eq]
  exact Policy.hasTerms_of_table default_made

end Schedule
namespace Definition

variable {row : SheetRow} {definition : Definition} {outcomes : List Outcome}
  {overrides : List (Outcome × Int)}

/-- What a row sets is what its definition has, with the usual values for the rest; the fees of the
definition make a schedule. -/
structure Defines (row : SheetRow) (definition : Definition) : Prop where
  pool : textCell row "pool_id" = .ok (some definition.pool)
  operator : textCell row "operator" = .ok (some definition.operator)
  asset : ∃ asset, textCell row "asset" = .ok (some asset) ∧ definition.asset = Text.upper asset
  rate : ∃ rate, numberCell row "fee_bps" = .ok rate ∧ definition.rate = rate.getD 0
  minimum : numberCell row "min_fee" = .ok definition.minimum
  maximum : numberCell row "max_fee" = .ok definition.maximum
  overrides : overridesOf row Outcome.all = .ok definition.overrides
  decimals : ∃ decimals, numberCell row "decimals" = .ok decimals ∧
    definition.decimals = decimals.getD defaultDecimals
  authority : textCell row "authority" = .ok definition.authority
  custody : textCell row "custody" = .ok definition.custody
  fees : definition.checkFees = .ok ()

/-- Does the row define no pool, for want of an id? -/
def isBlank (row : SheetRow) : Bool :=
  match textCell row "pool_id" with
  | .ok none => true
  | _ => false

/-- A row that can be read is blank or sets what its definition has. -/
theorem ofRow_eq_ok {result : Option Definition} (made : ofRow row = .ok result) :
    result = none ∧ isBlank row = true ∨
      ∃ definition, result = some definition ∧ Defines row definition := by
  unfold ofRow at made
  obtain ⟨pool, pool_cell, made⟩ := bind_eq_ok_iff.mp made
  cases pool with
  | none =>
      cases made
      exact .inl ⟨rfl, by rw [isBlank, pool_cell]⟩
  | some pool =>
      obtain ⟨operator, operator_cell, made⟩ := bind_eq_ok_iff.mp made
      obtain ⟨asset, asset_cell, made⟩ := bind_eq_ok_iff.mp made
      cases operator with
      | none => cases made
      | some operator =>
          cases asset with
          | none => cases made
          | some asset =>
              obtain ⟨rate, rate_cell, made⟩ := bind_eq_ok_iff.mp made
              obtain ⟨minimum, minimum_cell, made⟩ := bind_eq_ok_iff.mp made
              obtain ⟨maximum, maximum_cell, made⟩ := bind_eq_ok_iff.mp made
              obtain ⟨overrides, overrides_read, made⟩ := bind_eq_ok_iff.mp made
              obtain ⟨checked, fees_checked, made⟩ := bind_eq_ok_iff.mp made
              obtain ⟨decimals, decimals_cell, made⟩ := bind_eq_ok_iff.mp made
              obtain ⟨authority, authority_cell, made⟩ := bind_eq_ok_iff.mp made
              obtain ⟨custody, custody_cell, made⟩ := bind_eq_ok_iff.mp made
              cases made
              exact .inr ⟨_, rfl, pool_cell, operator_cell, ⟨asset, asset_cell, rfl⟩,
                ⟨rate, rate_cell, rfl⟩, minimum_cell, maximum_cell, overrides_read,
                ⟨decimals, decimals_cell, rfl⟩, authority_cell, custody_cell, fees_checked⟩

/-- The rows with an id are defined one after another, with ids that differ. -/
theorem defines_of_ofRows {rows : List SheetRow} {taken : List String}
    {definitions : List Definition} (made : ofRows taken rows = .ok definitions) :
    List.Forall₂ Defines (rows.filter fun row => !isBlank row) definitions ∧
      (definitions.map Definition.pool).Nodup ∧
      ∀ definition ∈ definitions, definition.pool ∉ taken := by
  induction rows generalizing taken definitions with
  | nil =>
      cases made
      exact ⟨.nil, .nil, by simp⟩
  | cons row rest ih =>
      unfold ofRows at made
      obtain ⟨result, row_made, made⟩ := bind_eq_ok_iff.mp made
      rcases ofRow_eq_ok row_made with ⟨rfl, blank⟩ | ⟨definition, rfl, defines⟩
      · rw [List.filter_cons_of_neg (by simp [blank])]
        exact ih made
      · have shown : isBlank row = false := by rw [isBlank, defines.pool]
        dsimp only at made
        split at made
        · exact absurd made (throw_bind_ne_ok _ _ _)
        · rename_i free
          obtain ⟨others, rest_made, made⟩ := bind_eq_ok_iff.mp made
          cases made
          obtain ⟨each, distinct, fresh⟩ := ih rest_made
          rw [List.filter_cons_of_pos (by simp [shown])]
          refine ⟨.cons defines each, ?_, ?_⟩
          · rw [List.map_cons, List.nodup_cons]
            refine ⟨fun again => ?_, distinct⟩
            obtain ⟨other, member, same⟩ := List.mem_map.mp again
            exact fresh other member (same ▸ List.mem_cons_self)
          · rw [List.forall_mem_cons]
            exact ⟨free, fun other member again =>
              fresh other member (List.mem_cons_of_mem _ again)⟩

/-- The outcomes with a rate of their own are those whose cell is set. -/
theorem rates_of_overridesOf (distinct : outcomes.Nodup)
    (read : overridesOf row outcomes = .ok overrides) :
    (overrides.map Prod.fst).Sublist outcomes ∧ ∀ outcome ∈ outcomes,
      (∃ rate, numberCell row (rateColumn outcome) = .ok (some rate) ∧
        (outcome, rate) ∈ overrides) ∨
      numberCell row (rateColumn outcome) = .ok none ∧ outcome ∉ overrides.map Prod.fst := by
  induction outcomes generalizing overrides with
  | nil =>
      cases read
      exact ⟨.slnil, by simp⟩
  | cons outcome rest ih =>
      obtain ⟨absent, distinct⟩ := List.nodup_cons.mp distinct
      unfold overridesOf at read
      obtain ⟨rate, cell, read⟩ := bind_eq_ok_iff.mp read
      cases rate with
      | none =>
          obtain ⟨sublist, each⟩ := ih distinct read
          refine ⟨sublist.cons outcome, ?_⟩
          rw [List.forall_mem_cons]
          exact ⟨.inr ⟨cell, fun member => absent (sublist.subset member)⟩, each⟩
      | some rate =>
          obtain ⟨others, rest_read, made⟩ := bind_eq_ok_iff.mp read
          cases made
          obtain ⟨sublist, each⟩ := ih distinct rest_read
          refine ⟨sublist.cons_cons outcome, ?_⟩
          rw [List.forall_mem_cons]
          refine ⟨.inl ⟨rate, cell, List.mem_cons_self⟩, fun other member => ?_⟩
          refine (each other member).imp ?_ ?_
          · rintro ⟨own, set, listed⟩
            exact ⟨own, set, List.mem_cons_of_mem _ listed⟩
          · rintro ⟨unset, unlisted⟩
            refine ⟨unset, ?_⟩
            rw [List.map_cons, List.mem_cons, not_or]
            refine ⟨?_, unlisted⟩
            rintro rfl
            exact absent member

theorem nodup_outcomes : Outcome.all.Nodup := by decide

/-! ## Pools -/

/-- The policy by which a row charges for an outcome. -/
inductive Charges (row : SheetRow) : Outcome → Policy → Prop where
  /-- A rate of the outcome's own has no bounds. -/
  | own {outcome : Outcome} {policy : Policy} {rate : Int}
      (set : numberCell row (rateColumn outcome) = .ok (some rate))
      (terms : policy.HasTerms rate 0 none) : Charges row outcome policy
  | usual {outcome : Outcome} {policy : Policy} {rate minimum maximum : Option Int}
      (charged : outcome = .accepted ∨ outcome = .rejected)
      (unset : numberCell row (rateColumn outcome) = .ok none)
      (rate_cell : numberCell row "fee_bps" = .ok rate)
      (minimum_cell : numberCell row "min_fee" = .ok minimum)
      (maximum_cell : numberCell row "max_fee" = .ok maximum)
      (terms : policy.HasTerms (rate.getD 0) (minimum.getD 0) maximum) : Charges row outcome policy
  | expired {policy : Policy} (unset : numberCell row (rateColumn .expired) = .ok none)
      (rejected : Charges row .rejected policy) : Charges row .expired policy
  | cancelled (unset : numberCell row (rateColumn .cancelled) = .ok none) :
      Charges row .cancelled Policy.free

/-- The pool has what the row sets: its id, operator and asset, six decimal places unless it sets
others, the operator as the authority and an account named after the pool unless it sets them, and
the fees of the policies by which it charges. -/
structure Describes (row : SheetRow) (pool : Pool) : Prop where
  names : ∃ id operator asset, textCell row "pool_id" = .ok (some id) ∧
    textCell row "operator" = .ok (some operator) ∧ textCell row "asset" = .ok (some asset) ∧
    pool.id = .text id ∧ pool.operator = .text operator ∧ pool.asset = .text (Text.upper asset) ∧
    (∃ authority, textCell row "authority" = .ok authority ∧
      pool.authority = .text (authority.getD operator)) ∧
    ∃ custody, textCell row "custody" = .ok custody ∧
      pool.custody = .text (custody.getD ("pool:" ++ id))
  decimals : ∃ decimals, numberCell row "decimals" = .ok decimals ∧
    pool.decimals = .int (decimals.getD 6)
  fees : ∀ outcome, ∃ policy, Charges row outcome policy ∧ ∀ amount, IsAmount amount →
    pool.schedule.feeFor (.int amount) (.text outcome.name) = .ok (policy.fee (.number amount))

variable {schedule : Schedule}

/-- A schedule that follows the definition of a row charges as the row does. -/
theorem Defines.charges (defines : Defines row definition) (follows : schedule.Follows definition)
    (outcome : Outcome) : Charges row outcome (schedule.policy outcome) := by
  obtain ⟨-, each⟩ := rates_of_overridesOf nodup_outcomes defines.overrides
  have cell (outcome : Outcome) :
      (∃ rate policy, numberCell row (rateColumn outcome) = .ok (some rate) ∧
        schedule.override outcome = some policy ∧ policy.HasTerms rate 0 none) ∨
      numberCell row (rateColumn outcome) = .ok none ∧ schedule.override outcome = none := by
    rcases each outcome outcome.mem_all with ⟨rate, set, listed⟩ | ⟨unset, unlisted⟩
    · obtain ⟨policy, written, terms⟩ := follows.own outcome rate listed
      exact .inl ⟨rate, policy, set, written, terms⟩
    · exact .inr ⟨unset, follows.unset outcome unlisted⟩
  obtain ⟨rate, rate_cell, rate_eq⟩ := defines.rate
  have default_terms := follows.default
  rw [rate_eq] at default_terms
  have usual (outcome : Outcome) (charged : outcome = .accepted ∨ outcome = .rejected) :
      Charges row outcome ((schedule.override outcome).getD schedule.default) := by
    rcases cell outcome with ⟨own, policy, set, written, terms⟩ | ⟨unset, nothing⟩
    · rw [written]
      exact .own set terms
    · rw [nothing]
      exact .usual charged unset rate_cell defines.minimum defines.maximum default_terms
  cases outcome with
  | accepted => exact usual .accepted (.inl rfl)
  | rejected => exact usual .rejected (.inr rfl)
  | expired =>
      unfold Schedule.policy
      rcases cell .expired with ⟨own, policy, set, written, terms⟩ | ⟨unset, nothing⟩
      · rw [show schedule.expired = some policy from written]
        exact .own set terms
      · rw [show schedule.expired = none from nothing]
        exact .expired unset (usual .rejected (.inr rfl))
  | cancelled =>
      unfold Schedule.policy
      rcases cell .cancelled with ⟨own, policy, set, written, terms⟩ | ⟨unset, nothing⟩
      · rw [show schedule.cancelled = some policy from written]
        exact .own set terms
      · rw [show schedule.cancelled = none from nothing]
        exact .cancelled unset

private theorem exists_schedule (checked : definition.checkFees = .ok ()) :
    ∃ schedule, Schedule.ofConfig definition.fees = .ok schedule := by
  unfold checkFees at checked
  split at checked
  · rename_i schedule made
    exact ⟨schedule, made⟩
  · cases checked
  · cases checked

/-- The pool of a definition with the given schedule. -/
def toPool (definition : Definition) (schedule : Schedule) : Pool :=
  .make (.text definition.pool) (.text definition.operator) (.text definition.asset)
    ((definition.authority.map Value.text).getD .null)
    ((definition.custody.map Value.text).getD .null) (.int definition.decimals) schedule

/-- A definition whose fees make a schedule builds its pool if its id is free. -/
theorem poolOf_toValue (made : Schedule.ofConfig definition.fees = .ok schedule) (index : Nat)
    {taken : List String} (free : definition.pool ∉ taken) :
    Config.poolOf index taken definition.toValue =
      .ok (definition.pool, definition.toPool schedule) := by
  obtain ⟨pool, operator, asset, decimals, rate, minimum, maximum, overrides, authority, custody⟩ :=
    definition
  simp only [] at free
  generalize fees_eq : fees _ = table at made
  unfold toValue toPool
  rw [fees_eq]
  cases authority <;> cases custody <;>
    simp [Config.poolOf, Config.identityOf, Config.required, Config.scheduleOf, made, free,
      optional, Value.find?, Value.field, Value.fieldOr, Value.readInt, bind, Except.bind, pure,
      Except.pure, Except.mapError]

/-- The pool that is built from the definition of a row is the one that the row describes. -/
theorem Defines.describes (defines : Defines row definition)
    (follows : schedule.Follows definition) : Describes row (definition.toPool schedule) where
  names := by
    obtain ⟨asset, asset_cell, asset_eq⟩ := defines.asset
    refine ⟨definition.pool, definition.operator, asset, defines.pool, defines.operator,
      asset_cell, rfl, rfl, congrArg Value.text asset_eq,
      ⟨definition.authority, defines.authority, ?_⟩, definition.custody, defines.custody, ?_⟩
    · cases authority_eq : definition.authority <;> simp [toPool, Pool.make, authority_eq]
    · cases custody_eq : definition.custody with
      | none =>
          simp only [toPool, Pool.make, custody_eq, Option.map_none, Option.getD_none, if_true]
          rfl
      | some custody => simp [toPool, Pool.make, custody_eq]
  decimals := by
    obtain ⟨decimals, decimals_cell, decimals_eq⟩ := defines.decimals
    exact ⟨decimals, decimals_cell, congrArg Value.int decimals_eq⟩
  fees := by
    intro outcome
    exact ⟨schedule.policy outcome, defines.charges follows outcome,
      fun amount bounded => schedule.feeFor_name outcome bounded⟩

/-- From definitions of rows with different ids a pool is built for each. -/
theorem exists_poolsOf {rows : List SheetRow} {definitions : List Definition}
    (each : List.Forall₂ Defines rows definitions)
    (distinct : (definitions.map Definition.pool).Nodup) (index : Nat) {taken : List String}
    (fresh : ∀ definition ∈ definitions, definition.pool ∉ taken) :
    ∃ pools, Config.poolsOf index taken (definitions.map toValue) = .ok pools ∧
      List.Forall₂ Describes rows pools ∧
        pools.map Pool.id = (definitions.map Definition.pool).map Value.text := by
  induction each generalizing index taken with
  | nil => exact ⟨[], rfl, .nil, rfl⟩
  | @cons row definition rows definitions first _ ih =>
      rw [List.map_cons, List.nodup_cons] at distinct
      obtain ⟨free, fresh⟩ := List.forall_mem_cons.mp fresh
      obtain ⟨schedule, made⟩ := exists_schedule first.fees
      obtain ⟨sublist, -⟩ := rates_of_overridesOf nodup_outcomes first.overrides
      have follows := Schedule.follows_of_fees made (sublist.nodup nodup_outcomes)
      have later : ∀ other ∈ definitions, other.pool ∉ definition.pool :: taken := by
        intro other member again
        rcases List.mem_cons.mp again with same | again
        · exact distinct.1 (same ▸ List.mem_map_of_mem member)
        · exact fresh other member again
      obtain ⟨pools, rest_made, describes, ids⟩ := ih distinct.2 (index + 1) later
      refine ⟨definition.toPool schedule :: pools, ?_, .cons (first.describes follows) describes,
        ?_⟩
      · rw [List.map_cons, Config.poolsOf, poolOf_toValue made index free]
        simp [rest_made, bind, Except.bind, pure, Except.pure]
      · rw [List.map_cons, ids]
        rfl

end Definition

namespace Roster

variable {roster parsed : Roster} {file : Option RosterContent}

private theorem parse_eq_ok (parses : roster.parse file = .ok parsed) :
    ∃ sheet definitions, roster.readSheet file = .ok sheet ∧ checkColumns sheet = .ok () ∧
      Definition.ofRows [] sheet.rows = .ok definitions ∧
        parsed = { roster with definitions := definitions } := by
  obtain ⟨sheet, sheet_read, parses⟩ := bind_eq_ok_iff.mp parses
  obtain ⟨checked, columns, parses⟩ := bind_eq_ok_iff.mp parses
  obtain ⟨definitions, rows_read, parses⟩ := bind_eq_ok_iff.mp parses
  exact ⟨sheet, definitions, sheet_read, mapError_eq_ok_iff.mp columns, rows_read,
    (pure_eq_ok_iff.mp parses).symm⟩

/-- Reading a roster again gives the same definitions. -/
theorem parse_parsed (parses : roster.parse file = .ok parsed) :
    parsed.parse file = .ok parsed := by
  obtain ⟨sheet, definitions, sheet_read, columns, rows_read, rfl⟩ := parse_eq_ok parses
  have name_eq : ({ roster with definitions := definitions } : Roster).fileName =
      roster.fileName := rfl
  have suffix_eq : ({ roster with definitions := definitions } : Roster).suffix =
      roster.suffix := by
    unfold suffix
    rw [name_eq]
  have same : ({ roster with definitions := definitions } : Roster).readSheet file =
      roster.readSheet file := by
    unfold readSheet
    rw [suffix_eq]
  unfold parse
  simp [same, sheet_read, columns, rows_read, bind, Except.bind, Except.mapError, pure, Except.pure]

/-- What is written for a roster that has been read, even if it has no definitions, is also written
for one that has not been read before. -/
theorem generate_of_parse (parses : roster.parse file = .ok parsed) {writer : Roster}
    (writes : writer = parsed ∨ writer = roster ∧ roster.definitions = []) (memoLimit : Value)
    (madeAt : String) :
    writer.generate file memoLimit (.ok madeAt) =
      .ok (parsed, Yaml.write (parsed.configValue memoLimit madeAt)) := by
  have again : writer.definitions.isEmpty = true → writer.parse file = .ok parsed := by
    rcases writes with rfl | ⟨rfl, -⟩
    · exact fun _ => parse_parsed parses
    · exact fun _ => parses
  have kept : ¬writer.definitions.isEmpty = true → writer = parsed := by
    rcases writes with rfl | ⟨rfl, unread⟩
    · exact fun _ => rfl
    · simp [unread]
  unfold generate
  dsimp only
  split
  · rename_i empty
    rw [again empty]
    rfl
  · rename_i full
    rw [kept full]
    rfl

/-- A roster that can be read is written as a configuration from which, if it is read back, the
pools are built that its rows with an id describe, in their order and with different ids. -/
theorem pools_of_roster (parses : roster.parse file = .ok parsed) {memoLimit : Int}
    (nonneg : 0 ≤ memoLimit) (madeAt path : String)
    (back : Yaml.ReadsBack (parsed.configValue (.int memoLimit) madeAt)) :
    ∃ sheet text config pools, roster.readSheet file = .ok sheet ∧
      (∀ writer, writer = parsed ∨ writer = roster ∧ roster.definitions = [] →
        writer.generate file (.int memoLimit) (.ok madeAt) = .ok (parsed, text)) ∧
      Config.load path (some text.toUTF8) = .ok config ∧ config.pools = .ok pools ∧
      (pools.map Pool.id).Nodup ∧
      List.Forall₂ Definition.Describes
        (sheet.rows.filter fun row => !Definition.isBlank row) pools := by
  obtain ⟨sheet, definitions, sheet_read, -, rows_read, parsed_eq⟩ := parse_eq_ok parses
  obtain ⟨config, loaded, -, -, definitions_eq⟩ := Config.load_of_readsBack nonneg back path
  obtain ⟨each, distinct, fresh⟩ := Definition.defines_of_ofRows rows_read
  obtain ⟨pools, built, describes, ids⟩ := Definition.exists_poolsOf each distinct 0 fresh
  refine ⟨sheet, _, config, pools, sheet_read,
    fun writer writes => generate_of_parse parses writes _ madeAt, loaded, ?_, ?_, describes⟩
  · rw [Config.pools, definitions_eq, parsed_eq]
    exact built
  · rw [ids]
    exact distinct.map fun _ _ same => Value.text.inj same

/-- A roster in a file. -/
def sampleRoster : Roster where
  path := "pools.csv"

/-- A pool that charges expired transfers nothing, and a blank row. -/
def sampleRows : RosterContent :=
  .bytes "pool_id,operator,asset,fee_bps,expired_fee_bps\np,o,usd,50,0\n,,,,\n".toUTF8

/-- The row with the pool. -/
def sampleRow : SheetRow :=
  [("pool_id", some "p"), ("operator", some "o"), ("asset", some "usd"), ("fee_bps", some "50"),
    ("expired_fee_bps", some "0")]

/-- The cells of the roster. -/
def sampleSheet : Sheet where
  headings := sampleRow.map Prod.fst
  rows := [sampleRow, sampleRow.map fun (heading, _) => (heading, some "")]

/-- What the first row defines. -/
def sampleDefinition : Definition where
  pool := "p"
  operator := "o"
  asset := "USD"
  rate := 50
  overrides := [(.expired, 0)]

/-- The roster after it has been read. -/
def sampleParsed : Roster := { sampleRoster with definitions := [sampleDefinition] }

/-- The configuration that is written for it. -/
def sampleText : String :=
  "metadata:\n  generated_at: noon\n  source: pools.csv\nengine:\n  max_memo_length: 200\n" ++
    "  history_db: settlement_history.db\npools:\n- pool_id: p\n  operator: o\n  asset: USD\n" ++
    "  decimals: 6\n  fees:\n    default:\n      rate_bps: 50\n    expired:\n      rate_bps: 0\n"

private theorem readSheet_sample : sampleRoster.readSheet (some sampleRows) = .ok sampleSheet := by
  have cells : (sampleRoster.readSheet (some sampleRows)).toOption.map
      (fun sheet => (sheet.headings, sheet.rows)) =
        some (sampleSheet.headings, sampleSheet.rows) := by
    decide +kernel
  cases read : sampleRoster.readSheet (some sampleRows) with
  | error problem =>
      rw [read] at cells
      cases cells
  | ok sheet =>
      rw [read] at cells
      obtain ⟨headings, rows⟩ := sheet
      cases cells
      rfl

private theorem parse_sample : sampleRoster.parse (some sampleRows) = .ok sampleParsed := by
  have columns : checkColumns sampleSheet = .ok () := by rfl
  have definitions_read : (Definition.ofRows [] sampleSheet.rows).toOption =
      some [sampleDefinition] := by
    decide +kernel
  cases read : Definition.ofRows [] sampleSheet.rows with
  | error problem =>
      rw [read] at definitions_read
      cases definitions_read
  | ok definitions =>
      rw [read] at definitions_read
      cases definitions_read
      unfold parse
      simp [readSheet_sample, columns, read, sampleParsed, bind, Except.bind, Except.mapError, pure,
        Except.pure]

private theorem readsBack_sample : Yaml.ReadsBack (sampleParsed.configValue (.int 200) "noon") := by
  apply @Yaml.readsBack_of_text _ sampleText
  · decide +kernel
  · decide +kernel
  · decide +kernel

/-- The one pool keeps its own rate for what expires, and half a percent of what is accepted. -/
theorem pools_of_roster_sample :
    ∃ text config pool,
      sampleRoster.generate (some sampleRows) (.int 200) (.ok "noon") = .ok (sampleParsed, text) ∧
      Config.load "settlement_config.yaml" (some text.toUTF8) = .ok config ∧
      config.pools = .ok [pool] ∧ Definition.Describes sampleRow pool ∧
      pool.schedule.feeFor (.int 1000) (.text "accepted") = .ok 5 ∧
      pool.schedule.feeFor (.int 1000) (.text "expired") = .ok 0 := by
  obtain ⟨sheet, text, config, pools, read, writes, loaded, built, -, each⟩ :=
    pools_of_roster parse_sample (by decide) "noon" "settlement_config.yaml" readsBack_sample
  obtain rfl := Except.ok.inj (read.symm.trans readSheet_sample)
  have shown : (sampleSheet.rows.filter fun row => !Definition.isBlank row) = [sampleRow] := by
    decide +kernel
  rw [shown] at each
  obtain ⟨pool, none, describes, nothing, rfl⟩ := List.forall₂_cons_left_iff.mp each
  obtain rfl := List.forall₂_nil_left_iff.mp nothing
  refine ⟨text, config, pool, writes sampleRoster (.inr ⟨rfl, rfl⟩), loaded, built, describes, ?_,
    ?_⟩
  · obtain ⟨policy, charges, fee⟩ := describes.fees .accepted
    have unset : Definition.numberCell sampleRow (Definition.rateColumn .accepted) = .ok none := rfl
    have taken : pool.schedule.feeFor (.int 1000) (.text "accepted") = .ok (policy.fee 1000) :=
      fee 1000 (by decide)
    cases charges with
    | own set => cases unset.symm.trans set
    | usual charged unset rate minimum maximum terms =>
        cases rate
        cases minimum
        cases maximum
        rw [taken, Policy.fee, terms.rate_eq, terms.minimum_eq, terms.maximum_eq]
        decide
  · obtain ⟨policy, charges, fee⟩ := describes.fees .expired
    have own : Definition.numberCell sampleRow (Definition.rateColumn .expired) = .ok (some 0) :=
      rfl
    have taken : pool.schedule.feeFor (.int 1000) (.text "expired") = .ok (policy.fee 1000) :=
      fee 1000 (by decide)
    cases charges with
    | own set terms =>
        cases own.symm.trans set
        rw [taken, Policy.fee, terms.rate_eq, terms.minimum_eq, terms.maximum_eq]
        decide
    | usual charged => simp at charged
    | expired unset => cases own.symm.trans unset

end Roster
end Escrow
