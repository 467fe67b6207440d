import Escrow.Fee.Schedule
import Escrow.Roster.Sheet
import Escrow.Text.Numeral

/-!
# Pool definitions

A row of a roster defines a pool: its id, operator and asset, its decimal places and its fees.  The
fees must make a valid schedule.
-/

namespace Escrow

/-- The decimal places of an asset unless others are given. -/
def defaultDecimals : Int := 6

/-- The definition of a pool in a roster. -/
structure Definition where
  pool : String
  operator : String
  asset : String
  decimals : Int := defaultDecimals
  /-- The rate of the default policy, in basis points. -/
  rate : Int := 0
  /-- The least and the greatest fee of the default policy, where given. -/
  minimum : Option Int := none
  maximum : Option Int := none
  /-- The rates of outcomes that have one of their own. -/
  overrides : List (Outcome × Int) := []
  authority : Option String := none
  custody : Option String := none
  deriving DecidableEq

namespace Definition

/-- A field of a record, if it has a value. -/
def optional {α : Type} (name : String) (toValue : α → Value) (value : Option α) :
    List (Value × Value) :=
  match value with
  | some value => [(.text name, toValue value)]
  | none => []

/-- The fee table of a definition. -/
def fees (definition : Definition) : Value :=
  .mapping ((.text "default", .mapping ([(.text "rate_bps", .int definition.rate)] ++
      optional "min_fee" .int definition.minimum ++ optional "max_fee" .int definition.maximum)) ::
    definition.overrides.map fun (outcome, rate) =>
      (.text outcome.name, .mapping [(.text "rate_bps", .int rate)]))

/-- The definition as it stands in a configuration. -/
def toValue (definition : Definition) : Value :=
  .mapping ([(.text "pool_id", .text definition.pool), (.text "operator", .text definition.operator),
    (.text "asset", .text definition.asset), (.text "decimals", .int definition.decimals),
    (.text "fees", definition.fees)] ++ optional "authority" .text definition.authority ++
    optional "custody" .text definition.custody)

/-- The whole number that the text of a cell stands for: a numeral, or the text of a double, which
loses its fraction. -/
def numberOf (column text : String) : Answer Int :=
  match Text.readInt text with
  | .ok n => .ok n
  | .error _ =>
    match Text.readDouble? text with
    | none | some .nan => .error (.ofCause (.setup (.notNumeric column text)))
    | some x =>
      match x.truncate with
      | some n => .ok n
      | none => .error (.fault .outOfRange)

/-- The text of a cell. -/
def textCell (row : SheetRow) (column : String) : Answer (Option String) :=
  (row.cell column).mapError .fault

/-- The number of a cell. -/
def numberCell (row : SheetRow) (column : String) : Answer (Option Int) := do
  match ← textCell row column with
  | some text => some <$> numberOf column text
  | none => return none

/-- The column for the rate of an outcome. -/
def rateColumn (outcome : Outcome) : String := outcome.name ++ "_fee_bps"

/-- The rates of outcomes that have one of their own. -/
def overridesOf (row : SheetRow) : List Outcome → Answer (List (Outcome × Int))
  | [] => .ok []
  | outcome :: rest => do
    match ← numberCell row (rateColumn outcome) with
    | some rate => return (outcome, rate) :: (← overridesOf row rest)
    | none => overridesOf row rest

/-- Refuse a definition whose fees make no schedule. -/
def checkFees (definition : Definition) : Answer Unit :=
  match Schedule.ofConfig definition.fees with
  | .ok _ => .ok ()
  | .error (.refused ⟨.fee cause, _⟩) =>
    .error (.ofCause (.setup (.invalidRowPolicy definition.pool cause)))
  | .error problem => .error problem

/-- The definition of a row; a row without an id defines no pool. -/
def ofRow (row : SheetRow) : Answer (Option Definition) := do
  match ← textCell row "pool_id" with
  | none => return none
  | some pool =>
    match ← textCell row "operator", ← textCell row "asset" with
    | some operator, some asset =>
      let fees : Definition := {
        pool := pool
        operator := operator
        asset := Text.upper asset
        rate := (← numberCell row "fee_bps").getD 0
        minimum := ← numberCell row "min_fee"
        maximum := ← numberCell row "max_fee"
        overrides := ← overridesOf row Outcome.all }
      fees.checkFees
      return some { fees with
        decimals := (← numberCell row "decimals").getD defaultDecimals
        authority := ← textCell row "authority"
        custody := ← textCell row "custody" }
    | _, _ => throw (.ofCause (.setup (.incompleteRow pool)))

/-- The definitions of rows, whose ids must differ from each other and from the taken ones. -/
def ofRows (taken : List String) : List SheetRow → Answer (List Definition)
  | [] => .ok []
  | row :: rest => do
    match ← ofRow row with
    | none => ofRows taken rest
    | some definition =>
      if definition.pool ∈ taken then
        throw (.ofCause (.setup (.duplicateRow definition.pool)))
      return definition :: (← ofRows (definition.pool :: taken) rest)

/-- The lines about a definition in a summary. -/
def summary (definition : Definition) : List String :=
  ["", s!"{definition.pool}:", s!"  Asset: {definition.asset} ({definition.decimals} decimals)",
    s!"  Operator: {definition.operator}", s!"  Default fee: {definition.rate} bps"] ++
    match definition.overrides with
    | [] => []
    | overrides =>
      let shown : Value := .mapping (overrides.map fun (outcome, rate) =>
        (.text outcome.name, .int rate))
      ["  Overrides: " ++ shown.quoted]

end Definition
end Escrow
