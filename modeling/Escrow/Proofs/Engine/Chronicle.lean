import Escrow.Proofs.Engine.Once

/-!
# The story of an id

Of an id that was free the news of a run tell nothing, or a creation, or a creation and then a
settlement, and the record under the id says which of them.
-/

namespace Escrow
namespace Engine

/-- The record under an id came about by the news of it. -/
inductive Chronicle : Option Transfer → List News → Prop where
  | unknown : Chronicle none []
  | pending {transfer : Transfer} {creation : News} (creates : creation.isSettlement = false)
      (active : transfer.isActive) : Chronicle (some transfer) [creation]
  | settled {record : Transfer} {creation settlement : News}
      (creates : creation.isSettlement = false) (settles : settlement.isSettlement = true)
      (terminal : record.status.isTerminal) : Chronicle (some record) [creation, settlement]

variable {origin before after engine : Engine} {call : Call} {news later told : List News}
  {id : Value} {record : Option Transfer}

private theorem Chronicle.archived {transfer : Transfer}
    (chronicle : Chronicle (some transfer) news)
    (terminal : transfer.status.isTerminal) : Chronicle (some transfer.asArchived) news := by
  cases chronicle with
  | pending creates active =>
      rw [Progress.isActive_of_isTerminal terminal] at active
      cases active
  | settled creates settles => exact .settled creates settles terminal

/-- What a step makes of the record under an id goes on with its story. -/
theorem Chronicle.change (chronicle : Chronicle (before.lastRecord? id) news)
    (change : Change call before id record told) : Chronicle record (news ++ told) := by
  cases change with
  | kept =>
      rw [List.append_nil]
      exact chronicle
  | archived found terminal =>
      rw [found] at chronicle
      rw [List.append_nil]
      exact chronicle.archived terminal
  | created asked free admits =>
      rw [free] at chronicle
      cases chronicle with
      | unknown => exact .pending rfl admits.asked.isActive
  | settled named found allows time =>
      rw [found] at chronicle
      cases chronicle with
      | pending creates =>
          exact .settled creates (Transfer.isTerminal_settledBy _ _ _)
            (Transfer.isTerminal_settledBy _ _ _)
      | settled creates settles settled =>
          have pending := allows.pending
          rw [Progress.isActive_of_isTerminal settled] at pending
          cases pending

theorem Step.chronicle (step : Step origin call before later after) (tidy : before.Tidy)
    (chronicle : Chronicle (before.lastRecord? id) (newsAt id.canonical news)) :
    Chronicle (after.lastRecord? id) (newsAt id.canonical (news ++ later)) := by
  rw [newsAt_append]
  exact chronicle.change (step.change tidy id)

/-- A creation is the first of the news of its id, and one more follows at most. -/
theorem Chronicle.of_creation {past rest : List News} {creation : News}
    (chronicle : Chronicle record (past ++ creation :: rest))
    (creates : creation.isSettlement = false) : past = [] ∧ rest.length ≤ 1 := by
  generalize whole : past ++ creation :: rest = news at chronicle
  cases chronicle with
  | unknown => simp at whole
  | pending =>
      rcases past with _ | ⟨first, tail⟩
      · simp_all
      · simp at whole
  | settled other settles =>
      rcases past with _ | ⟨first, _ | ⟨second, tail⟩⟩
      · obtain ⟨-, rfl⟩ := List.cons.inj whole
        exact ⟨rfl, Nat.le_refl 1⟩
      · obtain ⟨rfl, -⟩ := List.cons.inj (List.cons.inj whole).2
        rw [settles] at creates
        cases creates
      · simp at whole

end Engine
end Escrow
