import Escrow.Proofs.Cells
import Escrow.Proofs.Roster

/-!
# Rows that define no pool

A row of a roster is blank, or defines a pool, or is refused.  It defines a pool exactly if it is named,
its numbers can be read and its fees make a schedule.  One kind of number is no matter of a refusal: a
text that is out of range is a fault, if it is met before anything is refused.  A row without such a
text ends in one of the three ways.
-/

namespace Escrow

/-! ## Fees that make a schedule -/

namespace Policy

/-- A rate is a share of the whole, in basis points. -/
def IsShare (rate : Int) : Prop := 0 ≤ rate ∧ rate ≤ basisPoints

/-- A rate and two bounds make a policy: the rate is a share, the bounds are amounts in order. -/
structure AreTerms (rate : Int) (minimum maximum : Option Int) : Prop where
  rate_valid : IsShare rate
  minimum_valid : IsAmount (minimum.getD 0)
  maximum_valid : ∀ top ∈ maximum, IsAmount top ∧ minimum.getD 0 ≤ top

private theorem areTerms_of_rate {rate : Int} : AreTerms rate none none ↔ IsShare rate :=
  ⟨AreTerms.rate_valid, fun share => ⟨share, by decide, by simp⟩⟩

variable {rate : Int} {minimum maximum : Option Int}

private theorem exists_ofConfig_table_iff :
    (∃ policy, ofConfig (.mapping (table rate minimum maximum)) = .ok policy) ↔
      AreTerms rate minimum maximum := by
  simp only [ofConfig_table, ofCause, mapError_eq_ok_iff]
  constructor
  · rintro ⟨policy, made⟩
    obtain ⟨rate_eq, minimum_eq, maximum_eq⟩ := hasTerms_of_make made
    have share := policy.rate_valid
    have least := policy.minimum_valid
    have greatest := policy.maximum_valid
    rw [rate_eq] at share
    rw [minimum_eq] at least greatest
    refine ⟨share, least, ?_⟩
    rintro top ⟨⟩
    exact greatest (.number top) maximum_eq
  · rintro ⟨share, least, greatest⟩
    unfold IsShare at share
    cases maximum with
    | none => simp [make, Value.whole?, share, least]
    | some top => simp [make, Value.whole?, share, least, greatest top rfl]

private theorem failsOnly_ofConfig_table :
    FailsOnly Problem.IsOfFees (ofConfig (.mapping (table rate minimum maximum))) := by
  rw [ofConfig_table]
  exact failsOnly_ofCause _

end Policy

namespace Schedule

variable {rates : List (Outcome × Int)}

private theorem exists_readPolicies_iff :
    (∃ policies, readPolicies Policy.ofConfig (rateTable rates) = .ok policies) ↔
      ∀ entry ∈ rates, Policy.IsShare entry.2 := by
  induction rates with
  | nil => exact iff_of_true ⟨[], rfl⟩ (by simp)
  | cons entry rest ih =>
      rw [List.forall_mem_cons, ← ih, ← Policy.areTerms_of_rate,
        ← Policy.exists_ofConfig_table_iff]
      constructor
      · rintro ⟨policies, made⟩
        obtain ⟨policy, first, made⟩ := bind_eq_ok_iff.mp made
        obtain ⟨others, later, -⟩ := bind_eq_ok_iff.mp made
        exact ⟨⟨policy, first⟩, others, later⟩
      · rintro ⟨⟨policy, first⟩, others, later⟩
        exact ⟨_, bind_eq_ok_iff.mpr ⟨policy, first, bind_eq_ok_iff.mpr ⟨others, later, rfl⟩⟩⟩

private theorem failsOnly_readPolicies_rates :
    FailsOnly Problem.IsOfFees (readPolicies Policy.ofConfig (rateTable rates)) := by
  induction rates with
  | nil => exact .ok []
  | cons entry rest ih =>
      exact Policy.failsOnly_ofConfig_table.bind fun policy _ => ih.bind fun others _ => .ok _

/-- The names of outcomes are all known to a schedule. -/
theorem exists_make {policies : List (Value × Policy)} (entries : List.Forall₂ IsRate rates policies)
    (default : Policy) : ∃ schedule, make default policies = .ok schedule := by
  have known : policies.filter (fun entry => (outcomeOfKey? entry.1).isNone) = [] := by
    induction entries with
    | nil => rfl
    | cons first _ ih =>
        rw [List.filter_cons_of_neg (by simp [first.1, outcomeOfKey?])]
        exact ih
  unfold make
  rw [known]
  exact ⟨_, rfl⟩

variable {definition : Definition}

private theorem exists_ofConfig_fees_iff :
    (∃ schedule, ofConfig definition.fees = .ok schedule) ↔
      Policy.AreTerms definition.rate definition.minimum definition.maximum ∧
        ∀ entry ∈ definition.overrides, Policy.IsShare entry.2 := by
  rw [ofConfig_fees, ← Policy.exists_ofConfig_table_iff, ← exists_readPolicies_iff]
  constructor
  · rintro ⟨schedule, made⟩
    obtain ⟨default, default_made, made⟩ := bind_eq_ok_iff.mp made
    obtain ⟨policies, policies_made, -⟩ := bind_eq_ok_iff.mp made
    exact ⟨⟨default, default_made⟩, policies, policies_made⟩
  · rintro ⟨⟨default, default_made⟩, policies, policies_made⟩
    obtain ⟨schedule, made⟩ := exists_make (rates_of_readPolicies policies_made) default
    exact ⟨schedule, bind_eq_ok_iff.mpr
      ⟨default, default_made, bind_eq_ok_iff.mpr ⟨policies, policies_made, made⟩⟩⟩

private theorem failsOnly_ofConfig_fees : FailsOnly Problem.IsOfFees
    (ofConfig definition.fees) := by
  rw [ofConfig_fees]
  refine Policy.failsOnly_ofConfig_table.bind fun default _ => ?_
  refine failsOnly_readPolicies_rates.bind fun policies policies_made => ?_
  obtain ⟨schedule, made⟩ := exists_make (rates_of_readPolicies policies_made) default
  rw [made]
  exact .ok schedule

end Schedule

namespace Definition

/-- The fees of a definition make a schedule, or they are refused. -/
theorem checkFees_cases (definition : Definition) :
    definition.checkFees = .ok () ∧ (∃ schedule, Schedule.ofConfig definition.fees = .ok schedule) ∨
      (¬∃ schedule, Schedule.ofConfig definition.fees = .ok schedule) ∧
        ∃ cause, definition.checkFees =
          .error (.ofCause (.setup (.invalidRowPolicy definition.pool cause))) := by
  have fails := @Schedule.failsOnly_ofConfig_fees definition
  unfold checkFees
  rcases fails.result_or_failure with ⟨schedule, made⟩ | ⟨problem, ⟨cause, rfl⟩, failed⟩
  · rw [made]
    exact .inl ⟨rfl, schedule, rfl⟩
  · rw [failed]
    exact .inr ⟨by simp, cause, rfl⟩

/-! ## Sound rows -/

variable {row : SheetRow} {column text : String} {outcomes : List Outcome} {problem : Problem}

/-- The columns with the numbers of the fees, in the order in which they are read. -/
def feeColumns : List String :=
  ["fee_bps", "min_fee", "max_fee"] ++ Outcome.all.map rateColumn

/-- The columns with numbers: the decimal places are read when the fees have been checked. -/
def numberColumns : List String := feeColumns ++ ["decimals"]

/-- The row has an id, an operator and an asset. -/
def IsNamed (row : SheetRow) : Prop := ∀ column ∈ Roster.requiredColumns, ¬row.IsUnset column

private theorem isNamed_iff : IsNamed row ↔
    ¬row.IsUnset "pool_id" ∧ ¬row.IsUnset "operator" ∧ ¬row.IsUnset "asset" := by
  simp [IsNamed, Roster.requiredColumns]

/-- The fees that a row sets make a schedule: its rates are shares, and its bounds amounts in order. -/
structure SetsFairFees (row : SheetRow) : Prop where
  rates : ∀ column ∈ "fee_bps" :: Outcome.all.map rateColumn, ∀ rate,
    numberCell row column = .ok (some rate) → Policy.IsShare rate
  minimum : ∀ least, numberCell row "min_fee" = .ok (some least) → IsAmount least
  maximum : ∀ top, numberCell row "max_fee" = .ok (some top) → IsAmount top ∧
    ∀ least, numberCell row "min_fee" = .ok (some least) → least ≤ top

/-- The row is named, its numbers can be read and its fees make a schedule. -/
structure IsSound (row : SheetRow) : Prop where
  named : IsNamed row
  read : AreRead row numberColumns
  fair : SetsFairFees row

/-- A text of a column with a number is out of range, and nothing before it is refused. -/
structure Escapes (row : SheetRow) (column text : String) : Prop where
  named : IsNamed row
  shows : row.Shows column text
  out : Text.IsOutOfRange text
  first : ∃ earlier later, numberColumns = earlier ++ column :: later ∧ AreRead row earlier
  fair : column = "decimals" → SetsFairFees row

/-- How the reading of a row ends: where the first of its problems is met, or well. -/
inductive Ends (row : SheetRow) : Answer (Option Definition) → Prop where
  | blank (unset : row.IsUnset "pool_id") : Ends row (.ok none)
  | incomplete {pool : String} (named : ¬IsNamed row) (set : ¬row.IsUnset "pool_id") :
      Ends row (.error (.ofCause (.setup (.incompleteRow pool))))
  | stopped {problem : Problem} (named : IsNamed row) (stops : StopsAt row feeColumns problem) :
      Ends row (.error problem)
  | unfair {pool : String} {cause : FeeCause} (named : IsNamed row) (read : AreRead row feeColumns)
      (unfair : ¬SetsFairFees row) :
      Ends row (.error (.ofCause (.setup (.invalidRowPolicy pool cause))))
  | unplaced {problem : Problem} (named : IsNamed row) (read : AreRead row feeColumns)
      (fair : SetsFairFees row) (fails : numberCell row "decimals" = .error problem) :
      Ends row (.error problem)
  | defined {definition : Definition} (sound : IsSound row) (defines : Defines row definition) :
      Ends row (.ok (some definition))

/-! ## The course of reading -/

private theorem overridesOf_of_stopsAt (stops : StopsAt row (outcomes.map rateColumn) problem) :
    overridesOf row outcomes = .error problem := by
  induction outcomes with
  | nil => cases stops
  | cons outcome rest ih =>
      unfold overridesOf
      cases stops with
      | here fails =>
          rw [fails]
          rfl
      | @later _ _ _ number read stops =>
          rw [read]
          cases number with
          | none => exact ih stops
          | some rate =>
              change (overridesOf row rest >>= _) = _
              rw [ih stops]
              rfl

private theorem exists_overridesOf (read : AreRead row (outcomes.map rateColumn)) :
    ∃ overrides, overridesOf row outcomes = .ok overrides := by
  induction outcomes with
  | nil => exact ⟨[], rfl⟩
  | cons outcome rest ih =>
      rw [List.map_cons] at read
      obtain ⟨⟨number, cell⟩, read⟩ := List.forall_mem_cons.mp read
      obtain ⟨overrides, others⟩ := ih read
      refine (exists_congr fun _ => bind_eq_ok_iff).mpr ?_
      cases number with
      | none => exact ⟨overrides, none, cell, others⟩
      | some rate =>
          exact ⟨_, some rate, cell, bind_eq_ok_iff.mpr ⟨overrides, others, rfl⟩⟩

/-- The row has these for its id, its operator and its asset. -/
structure Names (row : SheetRow) (pool operator asset : String) : Prop where
  pool_cell : textCell row "pool_id" = .ok (some pool)
  operator_cell : textCell row "operator" = .ok (some operator)
  asset_cell : textCell row "asset" = .ok (some asset)

variable {pool operator asset : String}

/-- The definition with the rest of what the row sets, behind its fees. -/
def completed (row : SheetRow) (fees : Definition) : Answer (Option Definition) := do
  let decimals ← numberCell row "decimals"
  let authority ← textCell row "authority"
  let custody ← textCell row "custody"
  return some { fees with
    decimals := decimals.getD defaultDecimals
    authority := authority
    custody := custody }

/-- A row that is named is read number by number, and its fees are checked before the rest. -/
theorem Names.ofRow_eq (names : Names row pool operator asset) :
    ofRow row = (do
      let rate ← numberCell row "fee_bps"
      let minimum ← numberCell row "min_fee"
      let maximum ← numberCell row "max_fee"
      let overrides ← overridesOf row Outcome.all
      let fees : Definition := {
        pool := pool
        operator := operator
        asset := Text.upper asset
        rate := rate.getD 0
        minimum := minimum
        maximum := maximum
        overrides := overrides }
      fees.checkFees
      completed row fees) := by
  unfold ofRow
  rw [names.pool_cell, names.operator_cell, names.asset_cell]
  rfl

private theorem Names.ofRow_of_stopsAt (names : Names row pool operator asset)
    (stops : StopsAt row feeColumns problem) : ofRow row = .error problem := by
  rw [names.ofRow_eq]
  cases stops with
  | here fails =>
      rw [fails]
      rfl
  | later rate_cell stops =>
    cases stops with
    | here fails =>
        rw [rate_cell, fails]
        rfl
    | later minimum_cell stops =>
      cases stops with
      | here fails =>
          rw [rate_cell, minimum_cell, fails]
          rfl
      | later maximum_cell stops =>
          rw [rate_cell, minimum_cell, maximum_cell, overridesOf_of_stopsAt stops]
          rfl

variable {rate minimum maximum : Option Int} {overrides : List (Outcome × Int)}

private theorem mem_overrides_iff (read : overridesOf row Outcome.all = .ok overrides)
    {outcome : Outcome} {own : Int} :
    (outcome, own) ∈ overrides ↔ numberCell row (rateColumn outcome) = .ok (some own) := by
  obtain ⟨sublist, each⟩ := rates_of_overridesOf nodup_outcomes read
  rcases each outcome outcome.mem_all with ⟨set, cell, listed⟩ | ⟨cell, unlisted⟩
  · constructor
    · intro member
      have same := List.inj_on_of_nodup_map (sublist.nodup nodup_outcomes) member listed rfl
      obtain ⟨-, rfl⟩ := Prod.mk.inj same
      exact cell
    · intro again
      cases cell.symm.trans again
      exact listed
  · constructor
    · exact fun member => absurd (List.mem_map_of_mem member) unlisted
    · exact fun again => nomatch cell.symm.trans again

/-- The fees of a row make a schedule exactly if those of its definition do. -/
theorem setsFairFees_iff (rate_cell : numberCell row "fee_bps" = .ok rate)
    (minimum_cell : numberCell row "min_fee" = .ok minimum)
    (maximum_cell : numberCell row "max_fee" = .ok maximum)
    (overrides_read : overridesOf row Outcome.all = .ok overrides) :
    SetsFairFees row ↔ Policy.AreTerms (rate.getD 0) minimum maximum ∧
      ∀ entry ∈ overrides, Policy.IsShare entry.2 := by
  constructor
  · intro fair
    refine ⟨⟨?_, ?_, ?_⟩, ?_⟩
    · cases rate with
      | none => exact ⟨le_rfl, by decide⟩
      | some set => exact fair.rates _ List.mem_cons_self set rate_cell
    · cases minimum with
      | none => exact ⟨le_rfl, by decide⟩
      | some least => exact fair.minimum least minimum_cell
    · rintro top ⟨⟩
      obtain ⟨amount, above⟩ := fair.maximum top maximum_cell
      refine ⟨amount, ?_⟩
      cases minimum with
      | none => exact amount.1
      | some least => exact above least minimum_cell
    · rintro ⟨outcome, own⟩ member
      exact fair.rates _ (List.mem_cons_of_mem _ (List.mem_map_of_mem outcome.mem_all)) own
        ((mem_overrides_iff overrides_read).mp member)
  · rintro ⟨terms, shares⟩
    refine ⟨?_, ?_, ?_⟩
    · intro column member own cell
      rcases List.mem_cons.mp member with rfl | member
      · cases rate_cell.symm.trans cell
        exact terms.rate_valid
      · obtain ⟨outcome, -, rfl⟩ := List.mem_map.mp member
        exact shares (outcome, own) ((mem_overrides_iff overrides_read).mpr cell)
    · intro least cell
      cases minimum_cell.symm.trans cell
      exact terms.minimum_valid
    · intro top cell
      cases maximum_cell.symm.trans cell
      obtain ⟨amount, above⟩ := terms.maximum_valid top rfl
      refine ⟨amount, fun least cell => ?_⟩
      cases minimum_cell.symm.trans cell
      exact above

/-- When the numbers of the fees have been read, the fees are checked and the rest is read. -/
theorem Names.exists_fees (names : Names row pool operator asset) (read : AreRead row feeColumns) :
    ∃ fees : Definition, ofRow row = (fees.checkFees >>= fun _ => completed row fees) ∧
      (SetsFairFees row ↔ ∃ schedule, Schedule.ofConfig fees.fees = .ok schedule) := by
  obtain ⟨rate, rate_cell⟩ := read "fee_bps" (by simp [feeColumns])
  obtain ⟨minimum, minimum_cell⟩ := read "min_fee" (by simp [feeColumns])
  obtain ⟨maximum, maximum_cell⟩ := read "max_fee" (by simp [feeColumns])
  obtain ⟨overrides, overrides_read⟩ := exists_overridesOf
    fun column member => read column (List.mem_append_right _ member)
  let fees : Definition := {
    pool := pool
    operator := operator
    asset := Text.upper asset
    rate := rate.getD 0
    minimum := minimum
    maximum := maximum
    overrides := overrides }
  refine ⟨fees, ?_, ?_⟩
  · rw [names.ofRow_eq, rate_cell, minimum_cell, maximum_cell, overrides_read]
    rfl
  · exact (setsFairFees_iff rate_cell minimum_cell maximum_cell overrides_read).trans
      (@Schedule.exists_ofConfig_fees_iff fees).symm

/-- The rest of a row is read if its decimal places are. -/
theorem exists_completed (mapping : row.IsMapping) {decimals : Option Int}
    (decimals_cell : numberCell row "decimals" = .ok decimals) (fees : Definition) :
    ∃ definition, completed row fees = .ok (some definition) := by
  obtain ⟨authority, authority_cell⟩ := exists_textCell mapping "authority"
  obtain ⟨custody, custody_cell⟩ := exists_textCell mapping "custody"
  unfold completed
  rw [decimals_cell, authority_cell, custody_cell]
  exact ⟨_, rfl⟩

private theorem Names.ends_of_areRead (names : Names row pool operator asset)
    (mapping : row.IsMapping)
    (named : IsNamed row) (read : AreRead row feeColumns) : Ends row (ofRow row) := by
  obtain ⟨fees, row_eq, fair_iff⟩ := names.exists_fees read
  rcases checkFees_cases fees with ⟨checked, made⟩ | ⟨unmade, cause, refused⟩
  · have fair := fair_iff.mpr made
    rw [checked] at row_eq
    change ofRow row = completed row fees at row_eq
    cases decimals_cell : numberCell row "decimals" with
    | error problem =>
        have fails : completed row fees = .error problem := by
          unfold completed
          rw [decimals_cell]
          rfl
        rw [row_eq, fails]
        exact .unplaced named read fair decimals_cell
    | ok decimals =>
        have all_read : AreRead row numberColumns := List.forall_mem_append.mpr
          ⟨read, List.forall_mem_singleton.mpr ⟨decimals, decimals_cell⟩⟩
        obtain ⟨definition, completed_eq⟩ := exists_completed mapping decimals_cell fees
        have made := row_eq.trans completed_eq
        rw [made]
        rcases ofRow_eq_ok made with ⟨nothing, -⟩ | ⟨_, ⟨⟩, defines⟩
        · cases nothing
        · exact .defined ⟨named, all_read, fair⟩ defines
  · rw [row_eq, refused]
    exact .unfair named read fun fair => unmade (fair_iff.mp fair)

/-- A row ends in one of the ways in which rows end. -/
theorem ends_ofRow (mapping : row.IsMapping) : Ends row (ofRow row) := by
  rcases isUnset_or_textCell mapping "pool_id" with ⟨unset, pool_cell⟩ | ⟨set, pool, pool_cell⟩
  · unfold ofRow
    rw [pool_cell]
    exact .blank unset
  have incomplete (missing : textCell row "operator" = .ok none ∨ textCell row "asset" = .ok none) :
      ofRow row = .error (.ofCause (.setup (.incompleteRow pool))) := by
    obtain ⟨operator, operator_cell⟩ := exists_textCell mapping "operator"
    obtain ⟨asset, asset_cell⟩ := exists_textCell mapping "asset"
    unfold ofRow
    rw [pool_cell, operator_cell, asset_cell]
    rw [operator_cell, asset_cell] at missing
    rcases missing with ⟨⟨⟩⟩ | ⟨⟨⟩⟩
    · rfl
    · cases operator <;> rfl
  rcases isUnset_or_textCell mapping "operator" with
    ⟨unset, cell⟩ | ⟨operator_set, operator, operator_cell⟩
  · rw [incomplete (.inl cell)]
    exact .incomplete (fun named => (isNamed_iff.mp named).2.1 unset) set
  rcases isUnset_or_textCell mapping "asset" with ⟨unset, cell⟩ | ⟨asset_set, asset, asset_cell⟩
  · rw [incomplete (.inr cell)]
    exact .incomplete (fun named => (isNamed_iff.mp named).2.2 unset) set
  have named : IsNamed row := isNamed_iff.mpr ⟨set, operator_set, asset_set⟩
  have names : Names row pool operator asset := ⟨pool_cell, operator_cell, asset_cell⟩
  rcases areRead_or_stopsAt row feeColumns with read | ⟨problem, stops⟩
  · exact names.ends_of_areRead mapping named read
  · rw [names.ofRow_of_stopsAt stops]
    exact .stopped named stops

/-! ## Telling the ends apart -/

private theorem Escapes.stopsAt (mapping : row.IsMapping) (escapes : Escapes row column text) :
    StopsAt row numberColumns (.fault .outOfRange) := by
  obtain ⟨earlier, later, columns_eq, read⟩ := escapes.first
  exact stopsAt_iff.mpr ⟨earlier, column, later, columns_eq, read,
    numberCell_of_isOutOfRange mapping escapes.shows escapes.out⟩

/-- A text that is out of range behind the numbers of the fees stands for the decimal places. -/
theorem Escapes.fair_of_areRead (mapping : row.IsMapping) (escapes : Escapes row column text)
    (read : AreRead row feeColumns) : SetsFairFees row := by
  obtain ⟨earlier, later, columns_eq, -⟩ := escapes.first
  have member : column ∈ numberColumns := columns_eq ▸ by simp
  rcases List.mem_append.mp member with fee | last
  · obtain ⟨number, cell⟩ := read column fee
    cases cell.symm.trans (numberCell_of_isOutOfRange mapping escapes.shows escapes.out)
  · exact escapes.fair (List.mem_singleton.mp last)

namespace Ends

variable {answer : Answer (Option Definition)}

private theorem blank_iff (ends : Ends row answer) : answer = .ok none ↔ row.IsUnset "pool_id" := by
  have pool_set (named : IsNamed row) : ¬row.IsUnset "pool_id" := (isNamed_iff.mp named).1
  cases ends with
  | blank unset => exact iff_of_true rfl unset
  | incomplete _ set => exact iff_of_false (by simp) set
  | stopped named => exact iff_of_false (by simp) (pool_set named)
  | unfair named => exact iff_of_false (by simp) (pool_set named)
  | unplaced named => exact iff_of_false (by simp) (pool_set named)
  | defined sound => exact iff_of_false (by simp) (pool_set sound.named)

private theorem defined_iff (ends : Ends row answer) :
    (∃ definition, answer = .ok (some definition) ∧ Defines row definition) ↔ IsSound row := by
  have columns_read (sound : IsSound row) : AreRead row feeColumns :=
    fun column member => sound.read column (List.mem_append_left _ member)
  cases ends with
  | blank unset =>
      exact iff_of_false (by simp) fun sound => (isNamed_iff.mp sound.named).1 unset
  | incomplete unnamed => exact iff_of_false (by simp) fun sound => unnamed sound.named
  | stopped _ stops =>
      exact iff_of_false (by simp) fun sound => stops.not_areRead (columns_read sound)
  | unfair _ _ unfair => exact iff_of_false (by simp) fun sound => unfair sound.fair
  | unplaced _ _ _ fails =>
      refine iff_of_false (by simp) fun sound => ?_
      obtain ⟨number, cell⟩ := sound.read "decimals" (by simp [numberColumns])
      cases cell.symm.trans fails
  | @defined definition sound defines => exact iff_of_true ⟨definition, rfl, defines⟩ sound

private theorem escapes_iff (mapping : row.IsMapping) (ends : Ends row answer) :
    answer = .error (.fault .outOfRange) ↔ ∃ column text, Escapes row column text := by
  cases ends with
  | blank unset =>
      refine iff_of_false (by simp) ?_
      rintro ⟨column, text, escapes⟩
      exact (isNamed_iff.mp escapes.named).1 unset
  | incomplete unnamed =>
      refine iff_of_false (by simp [Problem.ofCause]) ?_
      rintro ⟨column, text, escapes⟩
      exact unnamed escapes.named
  | @stopped problem named stops =>
      constructor
      · rintro ⟨⟩
        obtain ⟨earlier, column, later, columns_eq, read, fails⟩ := stopsAt_iff.mp stops
        obtain ⟨cause, ⟨⟩⟩ | ⟨-, text, shows, out⟩ := numberCell_eq_error mapping fails
        refine ⟨column, text, named, shows, out, ⟨earlier, later ++ ["decimals"], ?_, read⟩, ?_⟩
        · rw [numberColumns, columns_eq, List.append_assoc, List.cons_append]
        · rintro rfl
          have member : "decimals" ∈ feeColumns := columns_eq ▸ by simp
          exact absurd member (by decide)
      · -- Reading stops in one place only, so it is the text that escapes where it stops.
        rintro ⟨column, text, escapes⟩
        rw [(stops.append ["decimals"]).unique (escapes.stopsAt mapping)]
  | unfair _ read unfair =>
      refine iff_of_false (by simp [Problem.ofCause]) ?_
      rintro ⟨column, text, escapes⟩
      exact unfair (escapes.fair_of_areRead mapping read)
  | @unplaced problem named read fair fails =>
      constructor
      · rintro ⟨⟩
        obtain ⟨cause, ⟨⟩⟩ | ⟨-, text, shows, out⟩ := numberCell_eq_error mapping fails
        exact ⟨"decimals", text, named, shows, out, ⟨feeColumns, [], rfl, read⟩, fun _ => fair⟩
      · rintro ⟨column, text, escapes⟩
        have stops : StopsAt row numberColumns problem :=
          stopsAt_iff.mpr ⟨feeColumns, "decimals", [], rfl, read, fails⟩
        rw [stops.unique (escapes.stopsAt mapping)]
  | defined sound =>
      refine iff_of_false (by simp) ?_
      rintro ⟨column, text, escapes⟩
      exact (escapes.stopsAt mapping).not_areRead sound.read

/-- A row that fails is refused, or a number is out of range. -/
theorem failsOnly (mapping : row.IsMapping) (ends : Ends row answer) :
    FailsOnly (fun problem => problem.IsOfSetup ∨ problem = .fault .outOfRange) answer := by
  cases ends with
  | blank => exact .ok none
  | incomplete => exact .error (.inl ⟨_, rfl⟩)
  | stopped _ stops =>
      obtain ⟨_, _, _, -, -, fails⟩ := stopsAt_iff.mp stops
      exact .error ((numberCell_eq_error mapping fails).imp_right And.left)
  | unfair => exact .error (.inl ⟨_, rfl⟩)
  | unplaced _ _ _ fails => exact .error ((numberCell_eq_error mapping fails).imp_right And.left)
  | defined => exact .ok _

end Ends

/-- A row is blank if it has no id, defines a pool if it is sound, and fails with a number out of range
if it has one that is met before anything is refused.  A row without such a number is blank, or defines
a pool, or is refused as a configuration. -/
theorem defined_or_refused (mapping : row.IsMapping) :
    (ofRow row = .ok none ↔ row.IsUnset "pool_id") ∧
      ((∃ definition, ofRow row = .ok (some definition) ∧ Defines row definition) ↔ IsSound row) ∧
      (ofRow row = .error (.fault .outOfRange) ↔ ∃ column text, Escapes row column text) ∧
      ((∀ column text, ¬Escapes row column text) →
        ofRow row = .ok none ∨ (∃ definition, ofRow row = .ok (some definition)) ∨
          ∃ refusal, ofRow row = .error (.refused refusal) ∧
            refusal.cause.kind = .configuration) := by
  have ends := ends_ofRow mapping
  refine ⟨ends.blank_iff, ends.defined_iff, ends.escapes_iff mapping, fun inside => ?_⟩
  rcases (ends.failsOnly mapping).result_or_failure with
    ⟨result, read⟩ | ⟨problem, ⟨cause, rfl⟩ | rfl, failed⟩
  · cases result with
    | none => exact .inl read
    | some definition => exact .inr (.inl ⟨definition, read⟩)
  · exact .inr (.inr ⟨_, failed, rfl⟩)
  · obtain ⟨column, text, escapes⟩ := (ends.escapes_iff mapping).mp failed
    exact absurd escapes (inside column text)

/-- A row with the given rate. -/
def ratedSample (rate : String) : SheetRow :=
  [("pool_id", some "p"), ("operator", some "olga"), ("asset", some "usd"), ("fee_bps", some rate)]

/-- A row with a dash for its id. -/
def blankSample : SheetRow := [("pool_id", some " - "), ("fee_bps", some "inf")]

/-- An infinite rate is a fault, though the row is named and sets nothing else. -/
theorem unbounded_sample :
    (ratedSample "inf").IsMapping ∧ ofRow (ratedSample "inf") = .error (.fault .outOfRange) := by
  decide +kernel

private theorem isNamed_sample (rate : String) : IsNamed (ratedSample rate) := by
  have pool : (ratedSample rate).Shows "pool_id" "p" :=
    ⟨"p", by simp [ratedSample], by decide +kernel⟩
  have operator : (ratedSample rate).Shows "operator" "olga" :=
    ⟨"olga", by simp [ratedSample], by decide +kernel⟩
  have asset : (ratedSample rate).Shows "asset" "usd" :=
    ⟨"usd", by simp [ratedSample], by decide +kernel⟩
  exact isNamed_iff.mpr ⟨pool.not_isUnset, operator.not_isUnset, asset.not_isUnset⟩

/-- A rate of more than three hundred digits is met first. -/
theorem escapes_sample : Escapes (ratedSample "1e400") "fee_bps" "1e400" where
  named := isNamed_sample "1e400"
  shows := ⟨"1e400", by simp [ratedSample], by decide +kernel⟩
  out := by
    have unread : Text.readInt "1e400" = .error .malformed := by decide +kernel
    have value : Text.decimal? "1e400" = some (1, ((400 : Nat) : Int)) := by decide +kernel
    have reached : Double.overflowBound ≤ 1 * 10 ^ 400 := by decide +kernel
    exact ⟨by simp [unread], .inr ⟨1, _, value, (Double.reachesBound_natCast_iff ..).mpr reached⟩⟩
  first := ⟨[], numberColumns.tail, rfl, by simp [AreRead]⟩
  fair := fun same => absurd same (by decide)

/-- A rate with a fraction is read without it. -/
theorem isSound_sample : IsSound (ratedSample "250.9") where
  named := isNamed_sample "250.9"
  read := by
    have each : (numberColumns.all fun column =>
        (numberCell (ratedSample "250.9") column).isOk) = true := by decide +kernel
    exact fun column member => exists_eq_ok (List.all_eq_true.mp each column member)
  fair := by
    have rate_cell : numberCell (ratedSample "250.9") "fee_bps" = .ok (some 250) := by
      decide +kernel
    have overrides_read : overridesOf (ratedSample "250.9") Outcome.all = .ok [] := rfl
    refine (setsFairFees_iff rate_cell rfl rfl overrides_read).mpr ?_
    exact ⟨Policy.areTerms_of_rate.mpr ⟨by decide, by decide⟩, by simp⟩

/-- A dash in place of the id makes a row blank; of the rates one fails, one is read, and one that is no
number is refused. -/
theorem defined_or_refused_sample :
    (blankSample.IsMapping ∧ ofRow blankSample = .ok none) ∧
    ((ratedSample "1e400").IsMapping ∧
      ofRow (ratedSample "1e400") = .error (.fault .outOfRange)) ∧
    ((ratedSample "250.9").IsMapping ∧ ∃ definition,
      ofRow (ratedSample "250.9") = .ok (some definition) ∧
        Defines (ratedSample "250.9") definition) ∧
    (ratedSample "nan").IsMapping ∧ (∀ column text, ¬Escapes (ratedSample "nan") column text) ∧
      ∃ refusal, ofRow (ratedSample "nan") = .error (.refused refusal) ∧
        refusal.cause.kind = .configuration := by
  have mapping (rate : String) : (ratedSample rate).IsMapping := by
    change (["pool_id", "operator", "asset", "fee_bps"] : List String).Nodup
    decide
  have blank_mapping : blankSample.IsMapping := by decide
  have unset : blankSample.IsUnset "pool_id" := by
    intro cell member
    obtain rfl : cell = " - " := by simpa [blankSample] using member
    exact .inr (by decide +kernel)
  refine ⟨⟨blank_mapping, ?_⟩, ⟨mapping _, ?_⟩, ⟨mapping _, ?_⟩, mapping _, ?_⟩
  · exact (defined_or_refused blank_mapping).1.mpr unset
  · exact (defined_or_refused (mapping "1e400")).2.2.1.mpr ⟨_, _, escapes_sample⟩
  · exact (defined_or_refused (mapping "250.9")).2.1.mpr isSound_sample
  · obtain ⟨-, -, escapes_iff, told⟩ := defined_or_refused (mapping "nan")
    have failed : (ofRow (ratedSample "nan")).isOk = false := by decide +kernel
    have inside : ofRow (ratedSample "nan") ≠ .error (.fault .outOfRange) := by decide +kernel
    have no_escape (column text : String) : ¬Escapes (ratedSample "nan") column text :=
      fun escapes => inside (escapes_iff.mpr ⟨column, text, escapes⟩)
    refine ⟨no_escape, ?_⟩
    rcases told no_escape with read | ⟨definition, read⟩ | refused
    · rw [read] at failed
      cases failed
    · rw [read] at failed
      cases failed
    · exact refused

end Definition
end Escrow
