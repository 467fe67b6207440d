/-!
# Statuses of a transfer

A transfer is pending until it is settled, once, with one of four outcomes.
-/

namespace Escrow

/-- How a transfer is settled. -/
inductive Outcome where
  | accepted
  | rejected
  | expired
  | cancelled
  deriving DecidableEq, Inhabited

namespace Outcome

/-- The name of an outcome in records, messages and fee tables. -/
def name : Outcome → String
  | .accepted => "accepted"
  | .rejected => "rejected"
  | .expired => "expired"
  | .cancelled => "cancelled"

/-- All outcomes, in the order of reports. -/
def all : List Outcome := [.accepted, .rejected, .expired, .cancelled]

/-- The outcome of a name. -/
def ofName? (name : String) : Option Outcome := all.find? (·.name == name)

@[simp]
theorem ofName?_name (outcome : Outcome) : ofName? outcome.name = some outcome := by
  cases outcome <;> rfl

theorem mem_all (outcome : Outcome) : outcome ∈ all := by cases outcome <;> simp [all]

end Outcome

/-- Where a transfer stands. -/
inductive Status where
  | pending
  | settled (outcome : Outcome)
  deriving DecidableEq, Inhabited

namespace Status

/-- The name of a status in records. -/
def name : Status → String
  | .pending => "pending"
  | .settled outcome => outcome.name

/-- All statuses, in the order of reports. -/
def all : List Status := .pending :: Outcome.all.map .settled

/-- The status of a name. -/
def ofName? (name : String) : Option Status := all.find? (·.name == name)

/-- Is the transfer settled? -/
def isTerminal : Status → Bool
  | .pending => false
  | .settled _ => true

end Status
end Escrow
