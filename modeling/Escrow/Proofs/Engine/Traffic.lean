import Escrow.Engine.Traffic
import Escrow.Proofs.Engine.Acts

/-!
# A call that has its pool to itself

If nothing else happens between the turns of a call, it changes the engine and is answered as if the
engine had served it at once.  Whatever else may come of turns is due to other calls in between.
-/

namespace Escrow
namespace Traffic

variable {traffic : Traffic} {key : Value}

theorem seenFrom_eq (none_replaced : traffic.replaced = .empty) (transfer pool : Value) :
    traffic.seenFrom transfer pool = traffic.engine := by
  rw [seenFrom, none_replaced, Table.get?_empty]

theorem changedFrom_eq (none_replaced : traffic.replaced = .empty) (transfer pool : Value)
    (engine : Engine) :
    traffic.changedFrom transfer pool engine = { traffic with engine := engine } := by
  rw [changedFrom, none_replaced, Table.get?_empty]

/-- The traffic after a waiting call has been served to its end, with the lock of its pool. -/
def served (traffic : Traffic) (number : Nat) (key : Value) : Traffic :=
  ((traffic.enter number).move key).finish key

/-- Nobody is served, and nobody ends, who has no lock. -/
theorem finish_move_of_free (free : traffic.holders.get? key = none) :
    (traffic.move key).finish key = traffic := by
  have nobody : traffic.move key = traffic := by
    rw [Traffic.move, free]
  rw [nobody, Traffic.finish, free]

/-- The ledger serves a call that has just got its lock, and the call ends. -/
theorem finish_move_hold (traffic : Traffic) (pool : Value) (business : Business) (move : Move) :
    ∃ holders, ((traffic.hold pool ⟨business, move, none⟩).move pool.canonical).finish
        pool.canonical =
      ({ traffic with
        engine := { traffic.engine with
          ledger := (traffic.engine.ledger.move move traffic.engine.now).1 }
        holders := holders } : Traffic).book business
          (traffic.engine.ledger.move move traffic.engine.now).2 := by
  have moved : (traffic.hold pool ⟨business, move, none⟩).move pool.canonical =
      { traffic with
        engine := { traffic.engine with
          ledger := (traffic.engine.ledger.move move traffic.engine.now).1 }
        holders := (traffic.holders.set pool.canonical ⟨business, move, none⟩).set pool.canonical
          ⟨business, move, some (traffic.engine.ledger.move move traffic.engine.now).2⟩ } := by
    rw [Traffic.move, hold, Table.get?_set_self]
  rw [moved, Traffic.finish, Table.get?_set_self]
  exact ⟨_, rfl⟩

private theorem served_refused (free : traffic.holders.get? key = none) (problem : Problem) :
    (traffic.wait (.error problem)).served traffic.waiting.length key =
      traffic.reply (.error problem) := by
  have nobody : (traffic.reply (.error problem)).enter traffic.waiting.length =
      traffic.reply (.error problem) := by
    have behind : (traffic.reply (.error problem)).waiting[traffic.waiting.length]? = none :=
      List.getElem?_eq_none le_rfl
    rw [Traffic.enter, behind]
  rw [served, wait, nobody]
  exact finish_move_of_free free

private theorem served_admitted {errand : Errand}
    (free : traffic.holders.get? errand.pool.canonical = none) :
    (traffic.wait (.ok errand)).served traffic.waiting.length errand.pool.canonical =
      ((traffic.proceed errand).move errand.pool.canonical).finish errand.pool.canonical := by
  have last : (traffic.wait (.ok errand)).enter traffic.waiting.length =
      traffic.proceed errand := by
    have unheld : ¬traffic.holders.contains errand.pool.canonical := by simp [Table.contains, free]
    have alone : (traffic.waiting ++ [errand]).eraseIdx traffic.waiting.length =
        traffic.waiting := by
      simp [List.eraseIdx_append_of_length_le]
    rw [wait, Traffic.enter, List.getElem?_concat_length]
    dsimp only
    rw [if_neg unheld, alone]
  rw [served, last]

/-- A creation that has its pool to itself is served as the engine serves it. -/
theorem served_create (traffic : Traffic) (request : CreateRequest)
    (free : traffic.holders.get? request.pool.canonical = none) :
    let served := (traffic.create request).served traffic.waiting.length request.pool.canonical
    served.engine = (traffic.engine.deposit request).1 ∧
      served.replies = traffic.replies ++
        [(traffic.engine.deposit request).2.map fun made => .transfer made.1] := by
  obtain ⟨drawn, -, asks⟩ := Engine.drafted_eq traffic.engine request
  unfold Engine.deposit Traffic.create
  rcases drafting : traffic.engine.drafted request with ⟨engine, problem | transfer⟩
  · have refused := @served_refused { traffic with engine := engine } _ free problem
    dsimp only [Except.map] at refused ⊢
    rw [refused]
    exact ⟨rfl, rfl⟩
  · rw [drafting] at asks
    have pooled : transfer.pool = request.pool := (asks transfer rfl).1.pool_eq
    rw [← pooled] at free ⊢
    have admitted := @served_admitted { traffic with engine := engine } (.create transfer) free
    dsimp only [Except.map, Errand.pool] at admitted ⊢
    rw [admitted]
    unfold Traffic.proceed
    dsimp only
    rcases engine.prepareDeposit transfer with problem | move
    · have ended := @finish_move_of_free
        (({ traffic with engine := engine } : Traffic).reply (.error problem)) _ free
      dsimp only
      rw [ended]
      exact ⟨rfl, rfl⟩
    · obtain ⟨holders, ended⟩ := finish_move_hold { traffic with engine := engine } transfer.pool
        (.deposit transfer) move
      dsimp only at ended ⊢
      rw [ended]
      rcases engine.ledger.move move engine.now with ⟨ledger, problem | reference⟩
      · exact ⟨rfl, rfl⟩
      · unfold Traffic.book
        dsimp only
        rcases ({ engine with ledger := ledger } : Engine).bookDeposit transfer with
          problem | created
        · exact ⟨rfl, rfl⟩
        · exact ⟨rfl, rfl⟩

/-- A settlement that has its pool to itself, and whose record nobody has replaced, is served as the
engine serves it. -/
theorem served_settle (traffic : Traffic) (id : Value) (call : SettlementCall)
    (pooled : ∀ record, traffic.engine.transfer id = .ok record → record.pool.canonical = key)
    (free : traffic.holders.get? key = none) (none_replaced : traffic.replaced = .empty) :
    let served := (traffic.settle id call).served traffic.waiting.length key
    served.engine = (traffic.engine.settle id call).1 ∧
      served.replies = traffic.replies ++
        [(traffic.engine.settle id call).2.map .event] := by
  unfold Engine.settle Traffic.settle
  rcases traffic.engine.checkCaller id call with problem | checked
  · have refused := served_refused free problem
    dsimp only [bind, Except.bind] at refused ⊢
    rw [refused]
    exact ⟨rfl, rfl⟩
  · rcases found : traffic.engine.transfer id with problem | record
    · have unprepared : traffic.engine.prepare id call = .error problem := by
        rw [Engine.prepare, found]
        rfl
      have refused := served_refused free problem
      rw [unprepared]
      dsimp only [bind, Except.bind] at refused ⊢
      rw [refused]
      exact ⟨rfl, rfl⟩
    · obtain rfl := pooled record found
      have admitted := @served_admitted traffic (.settle id record.pool call) free
      dsimp only [bind, Except.bind, pure, Except.pure, Errand.pool] at admitted ⊢
      rw [admitted]
      unfold Traffic.proceed
      dsimp only
      rw [seenFrom_eq none_replaced]
      rcases traffic.engine.prepare id call with problem | payout
      · have ended := @finish_move_of_free (traffic.reply (.error problem)) _ free
        dsimp only
        rw [ended]
        exact ⟨rfl, rfl⟩
      · obtain ⟨holders, ended⟩ :=
          finish_move_hold traffic record.pool (.payout payout) payout.move
        dsimp only at ended ⊢
        rw [ended]
        rcases traffic.engine.ledger.move payout.move traffic.engine.now with
          ⟨ledger, problem | reference⟩
        · exact ⟨rfl, rfl⟩
        · unfold Traffic.book
          dsimp only
          rw [seenFrom_eq, changedFrom_eq]
          · exact ⟨rfl, rfl⟩
          · exact none_replaced
          · exact none_replaced

/-- A change of fees that has its pool to itself is served as the engine serves it. -/
theorem served_updateFees (traffic : Traffic) (id caller : Value) (schedule : Schedule)
    (free : traffic.holders.get? id.canonical = none) :
    let changed := traffic.engine.changed (traffic.engine.updateFees id caller schedule)
    let served := (traffic.updateFees id caller schedule).served traffic.waiting.length id.canonical
    served.engine = changed.1 ∧ served.replies = traffic.replies ++ [changed.2] := by
  unfold Traffic.updateFees Engine.changed
  rcases updated : traffic.engine.updateFees id caller schedule with problem | engine
  · have refused := served_refused free problem
    dsimp only [Except.map] at refused ⊢
    rw [refused]
    exact ⟨rfl, rfl⟩
  · obtain ⟨pool, found, -, rfl⟩ := Engine.updateFees_eq_ok updated
    have pool_eq : traffic.engine.pool id = .ok pool := by
      rcases known : traffic.engine.pool id with problem | other
      · rw [Engine.updateFees, known] at updated
        cases updated
      · obtain ⟨-, found_too⟩ := Engine.pool_eq_ok_iff.mp known
        rw [Option.some.inj (found.symm.trans found_too)]
    have admitted := @served_admitted traffic (.updateFees id schedule) free
    dsimp only [Except.map, Errand.pool] at admitted ⊢
    rw [admitted]
    unfold Traffic.proceed
    dsimp only
    rw [pool_eq]
    dsimp only
    rw [finish_move_of_free]
    · exact ⟨rfl, rfl⟩
    · exact free

end Traffic
end Escrow
