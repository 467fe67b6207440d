import Escrow.Proofs.Engine.Passage

/-!
# Once and never again

An id is given to one transfer only, and a transfer is settled once only, over the whole of a run:
while it is registered its status says so, and when it is pruned its id stays behind.  What a
settlement wrote into a transfer is never written again.
-/

namespace Escrow

/-- The id that the news is about, in the form in which ids are told apart. -/
def News.key (item : News) : Value := item.event.transfer.canonical

/-- Is it the news of a settlement? -/
def News.isSettlement (item : News) : Bool := item.event.status.isTerminal

/-- The news under an id. -/
def newsAt (key : Value) (news : List News) : List News :=
  news.filter fun item => decide (item.key = key)

theorem newsAt_append (key : Value) (news later : List News) :
    newsAt key (news ++ later) = newsAt key news ++ newsAt key later := by
  simp [newsAt]

/-- Two records of a transfer tell the same of its settlement. -/
structure Transfer.SettledLike (transfer other : Transfer) : Prop where
  status_eq : transfer.status = other.status
  resolvedAt_eq : transfer.resolvedAt = other.resolvedAt
  reasonCode_eq : transfer.reasonCode = other.reasonCode
  reasonMessage_eq : transfer.reasonMessage = other.reasonMessage

theorem Transfer.SettledLike.refl (transfer : Transfer) : transfer.SettledLike transfer :=
  ⟨rfl, rfl, rfl, rfl⟩

theorem Transfer.SettledLike.trans {transfer other third : Transfer}
    (left : transfer.SettledLike other) (right : other.SettledLike third) :
    transfer.SettledLike third :=
  ⟨left.status_eq.trans right.status_eq, left.resolvedAt_eq.trans right.resolvedAt_eq,
    left.reasonCode_eq.trans right.reasonCode_eq,
    left.reasonMessage_eq.trans right.reasonMessage_eq⟩

namespace Engine

/-- The ids of the transfers that were created. -/
def createdKeys (news : List News) : List Value :=
  (news.filter fun item => !item.isSettlement).map News.key

/-- The ids of the transfers that were settled. -/
def settledKeys (news : List News) : List Value :=
  (news.filter fun item => item.isSettlement).map News.key

theorem createdKeys_append (news later : List News) :
    createdKeys (news ++ later) = createdKeys news ++ createdKeys later := by
  simp [createdKeys]

private theorem settledKeys_append (news later : List News) :
    settledKeys (news ++ later) = settledKeys news ++ settledKeys later := by
  simp [settledKeys]

private theorem mem_of_createdKeys {news : List News} {key : Value}
    (member : key ∈ createdKeys news) :
    ∃ item ∈ news, item.key = key := by
  obtain ⟨item, kept, rfl⟩ := List.mem_map.mp member
  exact ⟨item, (List.mem_filter.mp kept).1, rfl⟩

private theorem mem_of_settledKeys {news : List News} {key : Value}
    (member : key ∈ settledKeys news) :
    ∃ item ∈ news, item.key = key := by
  obtain ⟨item, kept, rfl⟩ := List.mem_map.mp member
  exact ⟨item, (List.mem_filter.mp kept).1, rfl⟩

private theorem settledKeys_singleton {item : News} (settles : item.isSettlement = true) :
    settledKeys [item] = [item.key] := by
  simp [settledKeys, settles]

variable {origin before after engine : Engine} {call : Call} {news later : List News}
  {key id : Value}

/-- Calls that succeed are in the news: a creation under the id that it gives to what is asked for,
and a settlement under the id that it is called for. -/
structure TellsSuccess (engine : Engine) : Prop where
  creations : ∀ request reply, (engine.perform (.create request)).2 = .ok reply →
    ∃ transfer, request.AsksFor transfer ∧
      transfer.id.canonical ∈ createdKeys (engine.newsOfCall (.create request))
  settlements : ∀ id settling reply, (engine.perform (.settle id settling)).2 = .ok reply →
    settledKeys (engine.newsOfCall (.settle id settling)) = [id.canonical]

private theorem mem_createdKeys_of_ok {request : CreateRequest} {reply : Reply}
    (ok : (engine.perform (.create request)).2 = .ok reply) :
    ∃ transfer, request.AsksFor transfer ∧
      transfer.id.canonical ∈ createdKeys (engine.newsOfCall (.create request)) := by
  have ended := deposited engine request
  rcases deposit_eq : engine.deposit request with ⟨next, problem | done⟩
  · simp [perform, create, deposit_eq, Except.map] at ok
  · rw [deposit_eq] at ended
    cases ended with
    | done drawn admits moved booking =>
        refine ⟨_, admits.asked, ?_⟩
        unfold newsOfCall createNews depositNews
        dsimp only
        rw [deposit_eq]
        dsimp only
        rw [createdKeys_append]
        exact List.mem_append_left _ (List.mem_singleton.mpr rfl)

private theorem Orderly.settledKeys_of_ok (orderly : engine.Orderly) {settling : SettlementCall}
    {reply : Reply} (ok : (engine.perform (.settle id settling)).2 = .ok reply) :
    settledKeys (engine.newsOfCall (.settle id settling)) = [id.canonical] := by
  have ended := settled orderly.steady id settling
  rcases settle_eq : engine.settle id settling with ⟨next, problem | event⟩
  · simp [perform, serve, settle_eq, Except.map] at ok
  · rw [settle_eq] at ended
    cases ended with
    | @done transfer pool booked settlement ledger reference time allows moved booking timely =>
        have same := (orderly.transfers _ _ allows.transfer_found).id_eq
        unfold newsOfCall settleNews
        dsimp only
        rw [settle_eq]
        dsimp only
        refine (settledKeys_singleton ?_).trans (congrArg (fun key => [key]) same)
        exact transfer.isTerminal_settledBy settlement time

theorem Orderly.tellsSuccess (orderly : engine.Orderly) : engine.TellsSuccess := by
  constructor
  · intro request reply ok
    exact mem_createdKeys_of_ok ok
  · intro id settling reply ok
    exact orderly.settledKeys_of_ok ok

/-! ## Ids stay taken -/

/-- An id that a step finds taken stays taken. -/
theorem Step.isTaken (step : Step origin call before later after)
    (taken : before.isTaken id = true) : after.isTaken id = true := by
  unfold Engine.isTaken at taken ⊢
  rw [Bool.or_eq_true] at taken ⊢
  have written {place : Value} {transfer : Transfer} :
      (before.transfers.set place transfer).contains id.canonical = true ∨
        before.pruned.contains id.canonical = true := by
    rw [Table.contains_set]
    rcases taken with there | gone
    · exact .inl (by rw [there, Bool.or_true])
    · exact .inr gone
  cases step with
  | deposit => exact written
  | settlement => exact written
  | archive => exact written
  | prune =>
      unfold Table.contains at taken ⊢
      rw [get?_transfers_prune, get?_pruned_prune]
      rcases taken with there | gone
      · obtain ⟨transfer, found⟩ := Option.isSome_iff_exists.mp there
        rw [found, Option.filter_some, Option.filter_some]
        cases transfer.isArchived <;> simp
      · right
        rw [Option.isSome_or, gone, Bool.or_true]
  | _ => exact taken

/-- A pruned id stays pruned. -/
theorem Step.pruned (step : Step origin call before later after)
    (gone : before.pruned.contains key = true) : after.pruned.contains key = true := by
  cases step with
  | prune =>
      unfold Table.contains at gone ⊢
      rw [get?_pruned_prune, Option.isSome_or, gone, Bool.or_true]
  | _ => exact gone

/-! ## Single creation and single settlement -/

/-- No id was created or settled twice; those in the news are taken, and those settled are not
pending. -/
structure SettledOnce (news : List News) (engine : Engine) : Prop where
  created : (createdKeys news).Nodup
  settled : (settledKeys news).Nodup
  taken : ∀ item ∈ news, engine.isTaken item.event.transfer = true
  resolved : ∀ key ∈ settledKeys news, ∀ transfer, engine.transfers.get? key = some transfer →
    transfer.isActive = false

private theorem SettledOnce.of_quiet (once : SettledOnce news before)
    (step : Step origin call before [] after)
    (resolved : ∀ key ∈ settledKeys news, ∀ transfer, after.transfers.get? key = some transfer →
      transfer.isActive = false) : SettledOnce (news ++ []) after := by
  rw [List.append_nil]
  exact ⟨once.created, once.settled, fun item member => step.isTaken (once.taken item member),
    resolved⟩

private theorem SettledOnce.deposit {request : CreateRequest} {transfer : Transfer} {pool : Pool}
    (once : SettledOnce news before) (admits : before.Admits request transfer pool)
    (step : Step origin call before later after)
    (transfers : after.transfers = before.transfers.set transfer.id.canonical transfer)
    (reference : Value) :
    SettledOnce (news ++ [⟨before, .created transfer reference⟩]) after := by
  have untaken : before.isTaken transfer.id = false :=
    isTaken_eq_false_iff.mpr ⟨admits.unused, admits.unpruned⟩
  have unknown : ∀ item ∈ news, item.key ≠ transfer.id.canonical := by
    intro item member same
    have taken := once.taken item member
    unfold isTaken at taken untaken
    rw [← same] at untaken
    exact Bool.false_ne_true (untaken.symm.trans taken)
  refine ⟨?_, ?_, ?_, ?_⟩
  · have unused : transfer.id.canonical ∉ createdKeys news := by
      intro known
      obtain ⟨item, member, same⟩ := mem_of_createdKeys known
      exact unknown item member same
    have distinct := List.Nodup.concat unused once.created
    rw [List.concat_eq_append] at distinct
    rw [createdKeys_append]
    exact distinct
  · rw [settledKeys_append]
    exact (List.append_nil _).symm ▸ once.settled
  · intro item member
    rcases List.mem_append.mp member with old | new
    · exact step.isTaken (once.taken item old)
    · rw [List.mem_singleton.mp new, isTaken, transfers, Table.contains_set]
      simp [Event.created]
  · rw [settledKeys_append, transfers]
    intro key settled other found
    rcases List.mem_append.mp settled with old | new
    · obtain ⟨item, member, same⟩ := mem_of_settledKeys old
      rw [Table.get?_set, if_neg (same ▸ unknown item member)] at found
      exact once.resolved key old other found
    · cases new

private theorem SettledOnce.settle {settling : SettlementCall} {transfer : Transfer} {pool : Pool}
    {settlement : Settlement} (once : SettledOnce news before) (tidy : before.Tidy)
    (allows : before.Allows id settling transfer pool settlement)
    (step : Step origin call before later after) (time : Instant)
    (transfers : after.transfers =
      before.transfers.set id.canonical (transfer.settledBy settlement time))
    (fee : Whole) (reference : Value) :
    SettledOnce
      (news ++ [⟨before, .settled (transfer.settledBy settlement time) pool.id fee time
        reference⟩]) after := by
  have same : transfer.id.canonical = id.canonical :=
    (tidy.transfers _ _ allows.transfer_found).id_eq
  have unsettled : id.canonical ∉ settledKeys news := by
    intro settled
    have resolved := once.resolved _ settled transfer allows.transfer_found
    rw [allows.pending] at resolved
    cases resolved
  generalize told_eq : (⟨before, .settled (transfer.settledBy settlement time) pool.id fee time
    reference⟩ : News) = told
  have settles : told.isSettlement = true := by
    rw [← told_eq]
    exact transfer.isTerminal_settledBy settlement time
  have told_key : told.key = id.canonical := by
    rw [← told_eq]
    exact same
  have keys : settledKeys [told] = [id.canonical] := by
    rw [settledKeys_singleton settles, told_key]
  have noKeys : createdKeys [told] = [] := by
    simp [createdKeys, settles]
  refine ⟨?_, ?_, ?_, ?_⟩
  · rw [createdKeys_append, noKeys, List.append_nil]
    exact once.created
  · have distinct := List.Nodup.concat unsettled once.settled
    rw [settledKeys_append, keys]
    rwa [List.concat_eq_append] at distinct
  · intro item member
    rcases List.mem_append.mp member with old | new
    · exact step.isTaken (once.taken item old)
    · have key_eq : told.event.transfer.canonical = id.canonical := told_key
      rw [List.mem_singleton.mp new, isTaken, transfers, key_eq, Table.contains_set]
      simp
  · rw [settledKeys_append, keys, transfers]
    intro key settled other found
    rw [Table.get?_set] at found
    split at found
    · cases found
      exact transfer.isActive_settledBy settlement time
    · rename_i different
      rcases List.mem_append.mp settled with old | new
      · exact once.resolved key old other found
      · exact absurd (List.mem_singleton.mp new) different

theorem Step.settledOnce (step : Step origin call before later after) (tidy : before.Tidy)
    (once : SettledOnce news before) : SettledOnce (news ++ later) after := by
  have whole := step
  cases step with
  | aside => exact once.of_quiet whole once.resolved
  | unpaidDeposit => exact once.of_quiet whole once.resolved
  | deposit asked drawn admits moved booking => exact once.deposit admits whole rfl _
  | unpaidSettlement => exact once.of_quiet whole once.resolved
  | settlement allows moved booking timely => exact once.settle tidy allows whole _ rfl _ _
  | fees => exact once.of_quiet whole once.resolved
  | register => exact once.of_quiet whole once.resolved
  | @archive _ id transfer found terminal =>
      apply once.of_quiet whole
      intro key settled other registered
      rw [Table.get?_set] at registered
      split at registered
      · cases registered
        rename_i same
        exact once.resolved key settled transfer (same ▸ found)
      · exact once.resolved key settled other registered
  | prune =>
      apply once.of_quiet whole
      intro key settled other registered
      rw [get?_transfers_prune, Option.filter_eq_some_iff] at registered
      exact once.resolved key settled other registered.1
  | told => exact once.of_quiet whole once.resolved
  | clock => exact once.of_quiet whole once.resolved

theorem settledOnce_nil (engine : Engine) : SettledOnce [] engine :=
  ⟨List.nodup_nil, List.nodup_nil, by simp, by simp [settledKeys]⟩

/-! ## What is settled stays settled -/

theorem lastRecord?_eq_some_iff {record : Transfer} :
    engine.lastRecord? id = some record ↔
      engine.transfers.get? id.canonical = some record ∨
        engine.transfers.get? id.canonical = none ∧
          engine.pruned.get? id.canonical = some record := by
  unfold lastRecord?
  cases engine.transfers.get? id.canonical <;> simp

theorem lastRecord?_eq_none_iff :
    engine.lastRecord? id = none ↔
      engine.transfers.get? id.canonical = none ∧ engine.pruned.get? id.canonical = none := by
  unfold lastRecord?
  cases engine.transfers.get? id.canonical <;> simp

theorem lastRecord?_of_set {place : Value} {transfer : Transfer}
    (transfers : after.transfers = before.transfers.set place transfer)
    (pruned : after.pruned = before.pruned) (id : Value) :
    after.lastRecord? id =
      if id.canonical = place then some transfer else before.lastRecord? id := by
  unfold lastRecord?
  rw [transfers, pruned, Table.get?_set]
  split <;> rfl

private theorem lastRecord?_prune : before.prune.lastRecord? id = before.lastRecord? id := by
  unfold lastRecord?
  rw [get?_transfers_prune, get?_pruned_prune]
  cases before.transfers.get? id.canonical with
  | none => rfl
  | some transfer => cases archived : transfer.isArchived <;> simp [archived]

/-- What a step makes of the record under an id, and what it tells of the id. -/
inductive Change (call : Call) (before : Engine) (id : Value) :
    Option Transfer → List News → Prop where
  | kept : Change call before id (before.lastRecord? id) []
  | archived {record : Transfer} (found : before.lastRecord? id = some record)
      (terminal : record.status.isTerminal) :
      Change call before id (some record.asArchived) []
  | created {request : CreateRequest} {transfer : Transfer} {pool : Pool}
      (asked : call = .create request) (free : before.lastRecord? id = none)
      (admits : before.Admits request transfer pool)
      (named : transfer.id.canonical = id.canonical) (reference : Value) :
      Change call before id (some transfer) [⟨before, .created transfer reference⟩]
  | settled {name : Value} {settling : SettlementCall} {transfer : Transfer} {pool : Pool}
      {settlement : Settlement} (named : name.canonical = id.canonical)
      (found : before.lastRecord? id = some transfer)
      (allows : before.Allows name settling transfer pool settlement) (time : Instant)
      (reference : Value) :
      Change call before id (some (transfer.settledBy settlement time))
        [⟨before, .settled (transfer.settledBy settlement time) pool.id
          (feeOf transfer pool settlement) time reference⟩]

/-- Writing a record changes what is under its id, and nothing else. -/
theorem Change.of_set {place : Value} {transfer : Transfer}
    (transfers : after.transfers = before.transfers.set place transfer)
    (pruned : after.pruned = before.pruned) (told : ∀ item ∈ later, item.key = place)
    (here : place = id.canonical → Change call before id (some transfer) later) :
    Change call before id (after.lastRecord? id) (newsAt id.canonical later) := by
  rw [lastRecord?_of_set transfers pruned, newsAt]
  split
  · rename_i same
    have all : later.filter (fun item => decide (item.key = id.canonical)) = later :=
      List.filter_eq_self.mpr fun item member => by simp [told item member, same]
    rw [all]
    exact here same.symm
  · rename_i other
    have none : later.filter (fun item => decide (item.key = id.canonical)) = [] :=
      List.filter_eq_nil_iff.mpr fun item member => by simp [told item member, Ne.symm other]
    rw [none]
    exact .kept

/-- A step keeps the record under an id, archives it, creates it or settles it. -/
theorem Step.change (step : Step origin call before later after) (tidy : before.Tidy) (id : Value) :
    Change call before id (after.lastRecord? id) (newsAt id.canonical later) := by
  cases step with
  | deposit asked drawn admits moved booking =>
      refine .of_set rfl rfl (fun item member => List.mem_singleton.mp member ▸ rfl) ?_
      intro named
      refine .created asked (lastRecord?_eq_none_iff.mpr ?_) admits named _
      rw [← named]
      exact ⟨admits.unused, admits.unpruned⟩
  | settlement allows moved booking timely =>
      have same := (tidy.transfers _ _ allows.transfer_found).id_eq
      refine .of_set rfl rfl (fun item member => List.mem_singleton.mp member ▸ same) ?_
      intro named
      have found := lastRecord?_eq_some_iff.mpr (.inl (named ▸ allows.transfer_found))
      exact .settled named found allows _ _
  | archive registered terminal =>
      refine .of_set rfl rfl (by simp) ?_
      intro named
      exact .archived (lastRecord?_eq_some_iff.mpr (.inl (named ▸ registered))) terminal
  | prune =>
      rw [lastRecord?_prune]
      exact .kept
  | _ => exact .kept

/-- The record of a settled transfer tells the same of its settlement after every step. -/
theorem Step.lastRecord (step : Step origin call before later after) (tidy : before.Tidy)
    {record : Transfer} (found : before.lastRecord? id = some record)
    (terminal : record.status.isTerminal) :
    ∃ kept, after.lastRecord? id = some kept ∧ kept.SettledLike record := by
  have change := step.change tidy id
  generalize after.lastRecord? id = rewritten, newsAt id.canonical later = told at change
  cases change with
  | kept => exact ⟨record, found, .refl record⟩
  | archived known =>
      obtain rfl := Option.some.inj (found.symm.trans known)
      exact ⟨_, rfl, ⟨rfl, rfl, rfl, rfl⟩⟩
  | created asked free => simp [free] at found
  | settled named known allows =>
      obtain rfl := Option.some.inj (found.symm.trans known)
      have pending := allows.pending
      rw [Progress.isActive_of_isTerminal terminal] at pending
      cases pending

theorem Orderly.lastRecord_run (orderly : engine.Orderly) {record : Transfer}
    (found : engine.lastRecord? id = some record) (terminal : record.status.isTerminal)
    (calls : List Call) :
    ∃ kept, (engine.run calls).lastRecord? id = some kept ∧ kept.SettledLike record := by
  have always : Along (fun _ _ => True) engine calls := along_of_forall (fun _ _ => trivial) engine
  refine @run_keeps (fun _ _ => True)
    (fun engine => ∃ kept, engine.lastRecord? id = some kept ∧ kept.SettledLike record)
    ?_ engine orderly calls always ⟨record, found, .refl record⟩
  rintro origin call - before later after step orderly ⟨kept, found, like⟩
  rw [← like.status_eq] at terminal
  obtain ⟨next, found, next_like⟩ := step.lastRecord orderly.tidy found terminal
  exact ⟨next, found, next_like.trans like⟩

/-! ## What is pruned stays pruned -/

private theorem Orderly.unregistered (orderly : engine.Orderly)
    (gone : engine.pruned.contains key = true) :
    engine.transfers.get? key = none := by
  cases found : engine.transfers.get? key with
  | none => rfl
  | some transfer =>
      have unpruned := (orderly.transfers key transfer found).unpruned
      rw [Table.contains, unpruned] at gone
      cases gone

/-- Every settlement call for a pruned transfer is refused because the transfer is not active. -/
theorem Orderly.perform_settle_of_pruned (orderly : engine.Orderly) (usable : id.isKey)
    (gone : engine.pruned.contains id.canonical = true) (settling : SettlementCall) :
    engine.perform (.settle id settling) = (engine, .error (.about id .transferPruned)) := by
  have missing := orderly.unregistered gone
  have refused : engine.transfer id = .error (.about id .transferPruned) := by
    unfold Engine.transfer find?
    rw [if_pos usable, missing]
    simp [gone, Except.mapError, bind, Except.bind, throw, throwThe, MonadExceptOf.throw]
  simp [perform, serve, settle, checkCaller, refused, bind, Except.bind, Except.map]

/-- No creation under the id of a pruned transfer succeeds. -/
theorem perform_create_of_pruned {request : CreateRequest} (chosen : request.id.isTruthy)
    (gone : engine.pruned.contains request.id.canonical = true) :
    ∃ problem, (engine.perform (.create request)).2 = .error problem := by
  have ended := deposited engine request
  rcases deposit_eq : engine.deposit request with ⟨next, problem | done⟩
  · exact ⟨problem, by simp [perform, create, deposit_eq, Except.map]⟩
  · rw [deposit_eq] at ended
    cases ended with
    | done drawn admits moved booking =>
        have unpruned := admits.unpruned
        rw [admits.asked.id_eq chosen] at unpruned
        rw [Table.contains, unpruned] at gone
        cases gone

/-- A step brings no news of a pruned transfer. -/
theorem Step.key_ne_of_pruned (step : Step origin call before later after)
    (orderly : before.Orderly) (gone : before.pruned.contains key = true) :
    ∀ item ∈ later, item.key ≠ key := by
  cases step with
  | deposit asked drawn admits moved booking =>
      intro item member same
      rw [List.mem_singleton.mp member] at same
      subst same
      have unpruned := admits.unpruned
      simp [Table.contains, News.key, Event.created, unpruned] at gone
  | settlement allows moved booking timely =>
      intro item member same
      rw [List.mem_singleton.mp member] at same
      have found := allows.transfer_found
      rw [← (orderly.transfers _ _ found).id_eq] at found
      have missing := orderly.unregistered gone
      rw [← same] at missing
      exact absurd (found.symm.trans missing) (by simp)
  | _ => simp

theorem Orderly.pruned_run (orderly : engine.Orderly) (gone : engine.pruned.contains key = true)
    (calls : List Call) :
    (engine.run calls).pruned.contains key = true ∧
      ∀ item ∈ engine.newsOf calls, item.key ≠ key := by
  have always : Along (fun _ _ => True) engine calls := along_of_forall (fun _ _ => trivial) engine
  have kept := @run_preserves (fun _ _ => True)
    (fun news engine => engine.pruned.contains key = true ∧ ∀ item ∈ news, item.key ≠ key)
    ?_ engine orderly calls always [] ⟨gone, by simp⟩
  · exact kept
  · rintro origin call - before later after news step orderly ⟨gone, unheard⟩
    refine ⟨step.pruned gone, ?_⟩
    intro item member
    rcases List.mem_append.mp member with old | new
    · exact unheard item old
    · exact step.key_ne_of_pruned orderly gone item new

end Engine
end Escrow
