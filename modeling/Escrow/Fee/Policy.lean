import Escrow.Amount
import Escrow.Value.Read

/-!
# Fee policies

The fee of one outcome: a proportional rate in basis points, rounded down, at least a minimum and
at most an optional maximum, and never more than the amount.  A policy is valid by construction;
`Policy.make` is the check that every policy passes.
-/

namespace Escrow

/-- The basis points of a whole. -/
def basisPoints : Int := 10000

/-- A valid fee policy. -/
structure Policy where
  /-- The rate in basis points. -/
  rate : Whole
  /-- The least fee. -/
  minimum : Whole
  /-- The greatest fee, if there is one. -/
  maximum : Option Whole
  rate_valid : 0 ≤ rate.toInt ∧ rate.toInt ≤ basisPoints
  minimum_valid : IsAmount minimum.toInt
  maximum_valid : ∀ top, maximum = some top → IsAmount top.toInt ∧ minimum.toInt ≤ top.toInt

namespace Policy

/-- The policy without any fee. -/
def free : Policy where
  rate := 0
  minimum := 0
  maximum := none
  rate_valid := by decide
  minimum_valid := by decide
  maximum_valid := by simp

instance : Inhabited Policy := ⟨free⟩

instance : DecidableEq Policy := fun left right =>
  if same : left.rate = right.rate ∧ left.minimum = right.minimum ∧ left.maximum = right.maximum
  then isTrue (by
    cases left
    cases right
    simpa using same)
  else isFalse (by
    intro equal
    subst equal
    exact same ⟨rfl, rfl, rfl⟩)

/-- The policy with a rate, a minimum and a maximum; nothing stands for no maximum. -/
def make (rate minimum maximum : Value) : Except FeeCause Policy :=
  match rate.whole? with
  | none => .error (.rateOutOfRange rate)
  | some rateWhole =>
    if rate_valid : 0 ≤ rateWhole.toInt ∧ rateWhole.toInt ≤ basisPoints then
      match minimum.whole? with
      | none => .error (.minimumOutOfRange minimum)
      | some least =>
        if minimum_valid : IsAmount least.toInt then
          match maximum with
          | .null => .ok ⟨rateWhole, least, none, rate_valid, minimum_valid, by simp⟩
          | _ =>
            match maximum.whole? with
            | none => .error (.maximumOutOfRange maximum)
            | some top =>
              if top_valid : IsAmount top.toInt then
                if ordered : least.toInt ≤ top.toInt then
                  .ok ⟨rateWhole, least, some top, rate_valid, minimum_valid, by
                    rintro _ ⟨⟩
                    exact ⟨top_valid, ordered⟩⟩
                else .error (.maximumBelowMinimum top least)
              else .error (.maximumOutOfRange maximum)
        else .error (.minimumOutOfRange minimum)
    else .error (.rateOutOfRange rate)

/-- The names of the fields of a policy. -/
def fieldNames : List String := ["rate_bps", "min_fee", "max_fee"]

/-- A checked result as the answer of a call. -/
def ofCause {α : Type} (checked : Except FeeCause α) : Answer α :=
  checked.mapError fun cause => .ofCause (.fee cause)

/-- The policy with the given fields as they are; other fields are a fault. -/
def ofFields (entries : List (Value × Value)) : Answer Policy := do
  if entries.any fun (key, _) => !fieldNames.any fun name => decide (key = .text name) then
    throw (.fault .wrongKind)
  ofCause (make (Value.fieldOr "rate_bps" (.int 0) entries)
    (Value.fieldOr "min_fee" (.int 0) entries) (Value.field "max_fee" entries))

/-- The policy of a configuration: its fields may be numerals, and nothing is the free policy. -/
def ofConfig (config : Value) : Answer Policy := do
  if !config.isTruthy then return free
  let read (value : Value) : Answer Int := value.readInt.mapError .fault
  let entries ← config.fields.mapError .fault
  let rate ← read (Value.fieldOr "rate_bps" (.int 0) entries)
  let minimum ← read (Value.fieldOr "min_fee" (.int 0) entries)
  let maximum ←
    match Value.field "max_fee" entries with
    | .null => pure .null
    | value => Value.int <$> read value
  ofCause (make (.int rate) (.int minimum) maximum)

/-- The fields of a policy as a value. -/
def toValue (policy : Policy) : Value :=
  .mapping [(.text "rate_bps", policy.rate.toValue), (.text "min_fee", policy.minimum.toValue),
    (.text "max_fee", (policy.maximum.map Whole.toValue).getD .null)]

/-- The fee on an amount. -/
def fee (policy : Policy) (amount : Whole) : Whole :=
  let proportional : Whole := .number (amount.toInt * policy.rate.toInt / basisPoints)
  let raised := proportional.max policy.minimum
  let capped :=
    match policy.maximum with
    | some top => raised.min top
    | none => raised
  capped.min amount

/-- The fee on any datum that may be an amount. -/
def feeOf (policy : Policy) (amount : Value) : Except FeeCause Whole :=
  match amount.whole? with
  | some n => if IsAmount n.toInt then .ok (policy.fee n) else .error (.amountOutOfRange amount)
  | none => .error (.amountOutOfRange amount)

end Policy
end Escrow
