import Escrow.Fee.Policy
import Escrow.Text.Case
import Escrow.Value.Order

/-!
# Fee schedules

One policy for each outcome.  A schedule has a default policy and may override it: without an
override an accepted or rejected transfer pays by the default, an expired one like a rejected one,
and a cancelled one nothing.
-/

namespace Escrow

/-- The fee policies of a pool. -/
structure Schedule where
  default : Policy := Policy.free
  accepted : Option Policy := none
  rejected : Option Policy := none
  expired : Option Policy := none
  cancelled : Option Policy := none
  deriving DecidableEq

namespace Schedule

instance : Inhabited Schedule := ⟨{}⟩

/-- The override of an outcome. -/
def override (schedule : Schedule) : Outcome → Option Policy
  | .accepted => schedule.accepted
  | .rejected => schedule.rejected
  | .expired => schedule.expired
  | .cancelled => schedule.cancelled

/-- Set the override of an outcome. -/
def withOverride (schedule : Schedule) (outcome : Outcome) (policy : Policy) : Schedule :=
  match outcome with
  | .accepted => { schedule with accepted := some policy }
  | .rejected => { schedule with rejected := some policy }
  | .expired => { schedule with expired := some policy }
  | .cancelled => { schedule with cancelled := some policy }

/-- The policy of an outcome. -/
def policy (schedule : Schedule) : Outcome → Policy
  | .accepted => schedule.accepted.getD schedule.default
  | .rejected => schedule.rejected.getD schedule.default
  | .expired => (schedule.expired <|> schedule.rejected).getD schedule.default
  | .cancelled => schedule.cancelled.getD Policy.free

/-- The fee on an amount for an outcome. -/
def fee (schedule : Schedule) (outcome : Outcome) (amount : Whole) : Whole :=
  (schedule.policy outcome).fee amount

/-- The policy of an outcome named in any letter case. -/
def policyFor (schedule : Schedule) (outcome : Value) : Except FeeCause Policy :=
  let name := Text.lower outcome.plain
  match Outcome.ofName? name with
  | some outcome => .ok (schedule.policy outcome)
  | none => .error (.unknownOutcome name)

/-- The fee on any datum that may be an amount, for an outcome named in any letter case. -/
def feeFor (schedule : Schedule) (amount outcome : Value) : Except FeeCause Whole := do
  (← schedule.policyFor outcome).feeOf amount

/-- The outcome that a key of a fee table names. -/
def outcomeOfKey? : Value → Option Outcome
  | .text name => Outcome.ofName? name
  | _ => none

/-- The schedule with a default policy and overrides by outcome name. -/
def make (default : Policy) (overrides : List (Value × Policy)) : Answer Schedule :=
  match overrides.filter (fun (key, _) => (outcomeOfKey? key).isNone) with
  | [] =>
    .ok (overrides.foldl
      (fun schedule (key, policy) =>
        match outcomeOfKey? key with
        | some outcome => schedule.withOverride outcome policy
        | none => schedule)
      { default := default })
  | unknown =>
    match Value.sorted? (unknown.map Prod.fst) with
    | some names => .error (.ofCause (.fee (.unknownOutcomes names)))
    | none => .error (.fault .wrongKind)

/-- The schedule with one policy for every outcome that bears a fee. -/
def flat (policy : Policy) : Schedule := { default := policy }

/-- The policies of a table, one after another. -/
def readPolicies (read : Value → Answer Policy) :
    List (Value × Value) → Answer (List (Value × Policy))
  | [] => .ok []
  | (key, value) :: rest => do
    let policy ← read value
    return (key, policy) :: (← readPolicies read rest)

/-- The schedule of a configuration: a table with a policy for each outcome and the default. -/
def ofConfig (config : Value) : Answer Schedule := do
  let entries ← if config.isTruthy then config.readEntries.mapError .fault else pure []
  let isDefault (entry : Value × Value) : Bool := decide (entry.1 = .text "default")
  let default ← Policy.ofConfig (Value.field "default" entries)
  make default (← readPolicies Policy.ofConfig (entries.filter fun entry => !isDefault entry))

/-- The policies as a table: the default, and each override under the name of its outcome. -/
def toValue (schedule : Schedule) : Value :=
  .mapping ((.text "default", schedule.default.toValue) ::
    Outcome.all.filterMap fun outcome =>
      (schedule.override outcome).map fun policy => (.text outcome.name, policy.toValue))

end Schedule
end Escrow
