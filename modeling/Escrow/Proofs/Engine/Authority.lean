import Escrow.Proofs.Engine.Once
import Escrow.Proofs.Engine.Terms

/-!
# Who may do what

A transfer is settled only by those who may settle it, and only in a call of theirs, whether users
make it, a listener or a sweep; and the fees of a pool are changed only by its authority.  A call that
its caller may not make, or that comes too early, leaves no trace: a run without such calls gives the
other calls the same answers and ends in the same state.
-/

namespace Escrow

/-- The outcome that a settlement call asks for. -/
def SettlementCall.outcome : SettlementCall → Outcome
  | .accept _ => .accepted
  | .reject .. => .rejected
  | .expire _ => .expired
  | .cancel _ => .cancelled

namespace Engine

/-- Has the deadline of the transfer passed by what the engine reads from its clock? -/
def isDue (engine : Engine) (transfer : Transfer) : Bool :=
  match engine.reading, transfer.expiresAt with
  | .ok (some time), some deadline => decide (deadline.atOrBefore? time = some true)
  | _, _ => false

/-- May the call be made for the transfer of the pool?  The operator accepts and rejects, the sender
cancels, and anyone expires what is due. -/
def permits (engine : Engine) (transfer : Transfer) (pool : Pool) : SettlementCall → Bool
  | .accept caller => caller.same pool.operator
  | .reject caller _ _ => caller.same pool.operator
  | .expire _ => engine.isDue transfer
  | .cancel caller => caller.same transfer.sender

/-- Does the call come from someone who may not make it, or too early?  The transfer may be settled
or pruned already. -/
def isTrespass (engine : Engine) : Call → Bool
  | .settle id call =>
    (engine.lastRecord? id).any fun transfer =>
      (engine.pools.get? transfer.pool.canonical).any fun pool =>
        !engine.permits transfer pool call
  | .updateFees id caller _ =>
    (engine.pools.get? id.canonical).any fun pool => !caller.same pool.authority
  | _ => false

end Engine

/-- A settlement call, made by a user, a listener or a sweep, with the engine that receives it. -/
structure Attempt where
  before : Engine
  id : Value
  call : SettlementCall

/-- The news that an attempt brings about. -/
def Attempt.news (attempt : Attempt) : List News :=
  attempt.before.settleNews attempt.id attempt.call

/-- The attempt is made for a pending transfer by someone who may make it. -/
def Attempt.IsRightful (attempt : Attempt) : Prop :=
  ∃ transfer pool, attempt.before.transfers.get? attempt.id.canonical = some transfer ∧
    attempt.before.pools.get? transfer.pool.canonical = some pool ∧ transfer.isActive ∧
    attempt.before.permits transfer pool attempt.call

namespace Engine

/-- What a listener attempts when it is told of a created transfer. -/
def reactionAttempts (event : Event) (engine : Engine) (listener : Listener) : List Attempt :=
  match listener with
  | .acceptor _ caller => [⟨engine.hear listener event, event.transfer, .accept caller⟩]
  | _ => []

/-- What listeners attempt when they are told of a created transfer. -/
def announceAttempts (event : Event) (engine : Engine) : List Listener → List Attempt
  | [] => []
  | listener :: rest =>
    reactionAttempts event engine listener ++
      announceAttempts event (tellCreated event engine listener) rest

/-- What a sweep of the given transfers attempts. -/
def sweepAttempts (engine : Engine) (caller : Value) : List Value → List Attempt
  | [] => []
  | id :: rest =>
    ⟨engine, id, .expire caller⟩ ::
      match engine.serve id (.expire caller) with
      | (next, .ok _) => next.sweepAttempts caller rest
      | (_, .error (.fault _)) => []
      | (next, .error (.refused refusal)) =>
        match next.recordRefusal id refusal with
        | (next, .ok _) => next.sweepAttempts caller rest
        | (_, .error _) => []

/-- The settlements that are attempted when a call is served. -/
def attemptsOf (engine : Engine) : Call → List Attempt
  | .create request =>
    match engine.deposit request with
    | (created, .ok (_, event)) => announceAttempts event created created.listeners
    | (_, .error _) => []
  | .settle id call => [⟨engine, id, call⟩]
  | .sweep pool caller =>
    match engine.archive, engine.overdue pool with
    | some _, .ok transfers => engine.sweepAttempts caller (transfers.map (·.id))
    | _, _ => []
  | _ => []

variable {origin before after engine : Engine} {call : Call} {news later : List News}
  {key id : Value}

/-! ## Settlements come from attempts -/

private theorem announceNews_eq (event : Event) (engine : Engine) (listeners : List Listener) :
    announceNews event engine listeners =
      (announceAttempts event engine listeners).flatMap Attempt.news := by
  induction listeners generalizing engine with
  | nil => rfl
  | cons listener rest ih =>
      have reaction : reactionNews event engine listener =
          (reactionAttempts event engine listener).flatMap Attempt.news := by
        cases listener <;> simp [reactionNews, reactionAttempts, Attempt.news]
      rw [announceNews, announceAttempts, List.flatMap_append, reaction, ih]

private theorem sweepNews_eq (engine : Engine) (caller : Value) (ids : List Value) :
    engine.sweepNews caller ids = (engine.sweepAttempts caller ids).flatMap Attempt.news := by
  induction ids generalizing engine with
  | nil => rfl
  | cons id rest ih =>
      unfold sweepNews sweepAttempts
      rw [List.flatMap_cons]
      rcases served : engine.serve id (.expire caller) with ⟨next, (refusal | fault) | event⟩
      · have nothing : Attempt.news ⟨engine, id, .expire caller⟩ = [] :=
          settleNews_of_serve_error served
        rw [nothing]
        dsimp only
        rcases next.recordRefusal id refusal with ⟨noted, fault | success⟩
        · rfl
        · exact ih noted
      · have nothing : Attempt.news ⟨engine, id, .expire caller⟩ = [] :=
          settleNews_of_serve_error served
        rw [nothing]
        rfl
      · dsimp only
        rw [ih]
        rfl

/-- The settlements in the news of a call are those of its attempts. -/
theorem exists_attempt {item : News} (member : item ∈ engine.newsOfCall call)
    (settles : item.isSettlement) : ∃ attempt ∈ engine.attemptsOf call, item ∈ attempt.news := by
  cases call with
  | create request =>
      unfold newsOfCall createNews at member
      unfold attemptsOf
      have ended := deposited engine request
      rcases deposit_eq : engine.deposit request with ⟨created, problem | ⟨transfer, event⟩⟩
      · simp [deposit_eq] at member
      · simp only [deposit_eq, List.mem_append] at member ⊢
        rw [deposit_eq] at ended
        cases ended with
        | done drawn admits moved booking =>
            rcases member with creation | reaction
            · -- The creation itself is not the news of a settlement.
              simp only [depositNews, deposit_eq, List.mem_singleton] at creation
              rw [creation] at settles
              cases settles
            · rw [announceNews_eq] at reaction
              exact List.mem_flatMap.mp reaction
  | settle id settling => exact ⟨_, List.mem_singleton.mpr rfl, member⟩
  | sweep pool caller =>
      unfold newsOfCall at member
      unfold attemptsOf
      dsimp only at member ⊢
      cases archive : engine.archive with
      | none => simp [archive] at member
      | some store =>
          cases overdue : engine.overdue pool with
          | error fault => simp [archive, overdue] at member
          | ok transfers =>
              simp only [archive, overdue, sweepNews_eq] at member
              exact List.mem_flatMap.mp member
  | _ => simp [newsOfCall] at member

private theorem before_of_mem_news {attempt : Attempt} {item : News}
    (member : item ∈ attempt.news) :
    item.before = attempt.before := by
  unfold Attempt.news settleNews at member
  split at member
  · rw [List.mem_singleton.mp member]
  · simp at member

/-- What is attempted while the listeners are told is received on the way. -/
theorem passage_to_announced (busy : call.isQuiet = false) (steady : engine.Steady) {event : Event}
    {listeners : List Listener} {attempt : Attempt}
    (member : attempt ∈ announceAttempts event engine listeners) :
    ∃ news, Passage origin call engine news attempt.before := by
  induction listeners generalizing engine with
  | nil => cases member
  | cons listener rest ih =>
      rcases List.mem_append.mp member with reaction | later
      · cases listener with
        | acceptor tag caller =>
            rw [List.mem_singleton.mp reaction]
            exact ⟨[], hear_passage origin call engine (.acceptor tag caller) event⟩
        | _ => cases reaction
      · have told := tellCreated_passage origin call steady event listener
        obtain ⟨news, reached⟩ := ih (told.steady busy steady) later
        exact ⟨_, told.trans reached⟩

/-- What a sweep attempts is received on the way. -/
theorem passage_to_swept (busy : call.isQuiet = false) (steady : engine.Steady) {caller : Value}
    {ids : List Value} {attempt : Attempt} (member : attempt ∈ engine.sweepAttempts caller ids) :
    ∃ news, Passage origin call engine news attempt.before := by
  induction ids generalizing engine with
  | nil => cases member
  | cons id rest ih =>
      rcases List.mem_cons.mp member with rfl | later
      · exact ⟨[], .refl engine⟩
      · have served := serve_passage origin call steady id (.expire caller)
        rcases ended : engine.serve id (.expire caller) with ⟨next, (refusal | fault) | event⟩ <;>
          rw [ended] at served later
        · dsimp only at served later
          have noted : Passage origin call next [] (next.recordRefusal id refusal).1 :=
            writeArchive_passage origin call next _
          rcases recording : next.recordRefusal id refusal with ⟨recorded, fault | success⟩ <;>
            rw [recording] at noted later
          · cases later
          · have both := served.trans noted
            obtain ⟨news, reached⟩ := ih (both.steady busy steady) later
            exact ⟨_, both.trans reached⟩
        · cases later
        · obtain ⟨news, reached⟩ := ih (served.steady busy steady) later
          exact ⟨_, served.trans reached⟩

/-- Whatever is attempted when a call is served is received on the way. -/
theorem Steady.passage_to_attempt (steady : engine.Steady) {attempt : Attempt}
    (member : attempt ∈ engine.attemptsOf call) :
    ∃ news, Passage engine call engine news attempt.before := by
  cases call with
  | create request =>
      have booked := deposit_passage engine request
      unfold attemptsOf at member
      rcases ended : engine.deposit request with ⟨created, problem | ⟨transfer, event⟩⟩ <;>
        rw [ended] at booked <;> simp only [ended] at member
      · cases member
      · have busy : (Call.create request).isQuiet = false := rfl
        obtain ⟨news, reached⟩ := passage_to_announced busy (booked.steady busy steady) member
        exact ⟨_, booked.trans reached⟩
  | settle id settling =>
      rw [List.mem_singleton.mp member]
      exact ⟨[], .refl engine⟩
  | sweep pool caller =>
      unfold attemptsOf at member
      dsimp only at member
      split at member
      · exact passage_to_swept rfl steady member
      · cases member
  | _ => cases member

private theorem isQuiet_of_attempt {attempt : Attempt} (member : attempt ∈ engine.attemptsOf call) :
    call.isQuiet = false := by
  cases call with
  | create => rfl
  | settle => rfl
  | sweep => rfl
  | _ => cases member

/-- The engines that bring about the news of a passage are orderly. -/
theorem Passage.news_orderly (passage : Passage origin call before news after)
    (orderly : before.Orderly) : ∀ item ∈ news, item.before.Orderly := by
  induction passage with
  | refl => simp
  | next step others ih =>
      intro item member
      rcases List.mem_append.mp member with first | rest
      · cases step with
        | deposit => exact List.mem_singleton.mp first ▸ orderly
        | settlement => exact List.mem_singleton.mp first ▸ orderly
        | _ => simp at first
      · exact ih (step.orderly orderly) item rest

/-! ## What is allowed is permitted -/

theorem reached_of_checkDue {transfer : Transfer} {now : Option Instant}
    (due : checkDue transfer id now = .ok ()) :
    ∃ deadline time, transfer.expiresAt = some deadline ∧ now = some time ∧
      deadline.atOrBefore? time = some true := by
  unfold checkDue at due
  cases expires : transfer.expiresAt with
  | none => simp [expires] at due
  | some deadline =>
      cases now with
      | none => simp [expires, Transfer.isExpired, deadlinePassed] at due
      | some time =>
          refine ⟨deadline, time, rfl, rfl, ?_⟩
          cases passed : deadline.atOrBefore? time with
          | none => simp [expires, Transfer.isExpired, deadlinePassed, passed] at due
          | some reached =>
              cases reached <;>
                simp [expires, Transfer.isExpired, deadlinePassed, passed] at due
              rfl

private theorem isDue_of_checkDue {transfer : Transfer} {now : Option Instant}
    (read : engine.reading = .ok now) (due : checkDue transfer id now = .ok ()) :
    engine.isDue transfer := by
  obtain ⟨deadline, time, expires, rfl, reached⟩ := reached_of_checkDue due
  simp [isDue, read, expires, reached]

private theorem permits_of_allows {settling : SettlementCall} {transfer : Transfer} {pool : Pool}
    {settlement : Settlement} (allows : engine.Allows id settling transfer pool settlement) :
    engine.permits transfer pool settling = true ∧ settlement.outcome = settling.outcome := by
  have authorized := allows.authorized
  have asked := allows.settlement_eq
  cases settling with
  | accept caller =>
      obtain rfl := Except.ok.inj asked
      exact ⟨of_check_eq_ok authorized, rfl⟩
  | reject caller code message =>
      simp only [settlementOf, bind_eq_ok_iff, pure_eq_ok_iff] at asked
      obtain ⟨kept, -, number, -, rfl⟩ := asked
      exact ⟨of_check_eq_ok authorized, rfl⟩
  | expire caller =>
      simp only [settlementOf, bind_eq_ok_iff, mapError_eq_ok_iff, pure_eq_ok_iff] at asked
      obtain ⟨now, read, _, due, rfl⟩ := asked
      exact ⟨isDue_of_checkDue read due, rfl⟩
  | cancel caller =>
      obtain rfl := Except.ok.inj asked
      exact ⟨of_check_eq_ok authorized, rfl⟩

/-- An attempt with news is rightful, and the news tell of its outcome. -/
theorem Attempt.isRightful {attempt : Attempt} {item : News} (orderly : attempt.before.Orderly)
    (member : item ∈ attempt.news) :
    attempt.IsRightful ∧ item.key = attempt.id.canonical ∧
      item.event.status = .settled attempt.call.outcome := by
  have ended := settled orderly.steady attempt.id attempt.call
  unfold Attempt.news settleNews at member
  rcases settle_eq : attempt.before.settle attempt.id attempt.call with ⟨next, problem | event⟩
  · simp [settle_eq] at member
  · rw [settle_eq] at ended member
    rw [List.mem_singleton.mp member]
    cases ended with
    | @done transfer pool booked settlement ledger reference time allows moved booking timely =>
        obtain ⟨permitted, outcome_eq⟩ := permits_of_allows allows
        refine ⟨⟨transfer, pool, allows.transfer_found, allows.pool_found, allows.pending,
          permitted⟩, (orderly.transfers _ _ allows.transfer_found).id_eq, ?_⟩
        rw [← outcome_eq]
        exact transfer.status_settledBy settlement time

/-! ## What becomes settled is in the news -/

/-- A transfer that is settled after a step was settled before it, or the step brings the news. -/
theorem Step.settled_cases (step : Step origin call before later after) (orderly : before.Orderly)
    {record : Transfer} (found : after.lastRecord? id = some record)
    (terminal : record.status.isTerminal) :
    (∃ old, before.lastRecord? id = some old ∧ old.status = record.status) ∨
      ∃ item ∈ later, item.key = id.canonical ∧ item.event.status = record.status := by
  have same (found : before.lastRecord? id = some record) :
      (∃ old, before.lastRecord? id = some old ∧ old.status = record.status) ∨
        ∃ item ∈ later, item.key = id.canonical ∧ item.event.status = record.status :=
    .inl ⟨record, found, rfl⟩
  have elsewhere {place : Value} {changed : Transfer} (different : id.canonical ≠ place)
      (found : (before.transfers.set place changed).get? id.canonical = some record ∨
        (before.transfers.set place changed).get? id.canonical = none ∧
          before.pruned.get? id.canonical = some record) :
      before.lastRecord? id = some record := by
    rw [Table.get?_set, if_neg different] at found
    exact lastRecord?_eq_some_iff.mpr found
  cases step with
  | @deposit request transfer pool booked ledger reference asked drawn admits moved booking =>
      rw [lastRecord?_eq_some_iff] at found
      by_cases place : id.canonical = transfer.id.canonical
      · -- A new transfer is pending.
        simp only [place, Table.get?_set_self, Option.some.injEq, reduceCtorEq, false_and,
          or_false] at found
        have pending := admits.asked.isActive
        rw [found, Progress.isActive_of_isTerminal terminal] at pending
        cases pending
      · exact same (elsewhere place found)
  | @settlement _ other settling transfer pool booked settlement ledger reference time allows moved
      booking timely =>
      rw [lastRecord?_eq_some_iff] at found
      by_cases place : id.canonical = other.canonical
      · simp only [place, Table.get?_set_self, Option.some.injEq, reduceCtorEq, false_and,
          or_false] at found
        refine .inr ⟨_, List.mem_singleton.mpr rfl, ?_, congrArg (·.status) found⟩
        rw [place]
        exact (orderly.transfers _ _ allows.transfer_found).id_eq
      · exact same (elsewhere place found)
  | @archive _ other transfer registered settled =>
      rw [lastRecord?_eq_some_iff] at found
      by_cases place : id.canonical = other.canonical
      · simp only [place, Table.get?_set_self, Option.some.injEq, reduceCtorEq, false_and,
          or_false] at found
        refine .inl ⟨transfer, ?_, congrArg (·.status) found⟩
        rw [lastRecord?_eq_some_iff, place]
        exact .inl registered
      · exact same (elsewhere place found)
  | prune =>
      apply same
      rw [lastRecord?_eq_some_iff, get?_transfers_prune, get?_pruned_prune] at found
      rw [lastRecord?_eq_some_iff]
      cases held : origin.transfers.get? id.canonical with
      | none => simpa [held] using found
      | some transfer =>
          rw [held] at found
          rcases found with kept | ⟨-, gone⟩
          · exact .inl (Option.filter_eq_some_iff.mp kept).1
          · rw [(orderly.transfers _ _ held).unpruned, Option.or_none] at gone
            exact .inl (Option.filter_eq_some_iff.mp gone).1
  | aside => exact same found
  | unpaidDeposit => exact same found
  | unpaidSettlement => exact same found
  | fees => exact same found
  | register => exact same found
  | told => exact same found
  | clock => exact same found

private theorem Passage.settled_cases (passage : Passage origin call before news after)
    (orderly : before.Orderly) {record : Transfer} (found : after.lastRecord? id = some record)
    (terminal : record.status.isTerminal) :
    (∃ old, before.lastRecord? id = some old ∧ old.status = record.status) ∨
      ∃ item ∈ news, item.key = id.canonical ∧ item.event.status = record.status := by
  induction passage with
  | refl => exact .inl ⟨record, found, rfl⟩
  | next step others ih =>
      rcases ih (step.orderly orderly) found with ⟨old, registered, status_eq⟩ | ⟨item, member, told⟩
      · rcases step.settled_cases orderly registered (status_eq ▸ terminal) with
          ⟨older, known, same⟩ | ⟨item, member, key_eq, told⟩
        · exact .inl ⟨older, known, same.trans status_eq⟩
        · exact .inr ⟨item, List.mem_append_left _ member, key_eq, told.trans status_eq⟩
      · exact .inr ⟨item, List.mem_append_right _ member, told⟩

/-- A transfer that a call settles was settled by a rightful attempt. -/
theorem Orderly.exists_rightful (orderly : engine.Orderly) (call : Call) {record : Transfer}
    {outcome : Outcome} (found : (engine.perform call).1.lastRecord? id = some record)
    (status_eq : record.status = .settled outcome)
    (pending : ∀ old, engine.lastRecord? id = some old → old.isActive) :
    ∃ attempt ∈ engine.attemptsOf call, attempt.id.canonical = id.canonical ∧
      attempt.call.outcome = outcome ∧ attempt.IsRightful := by
  have terminal : record.status.isTerminal := by
    rw [status_eq]
    rfl
  have passage := perform_passage orderly.steady call
  rcases passage.settled_cases orderly found terminal with
    ⟨old, registered, same⟩ | ⟨item, member, key_eq, told⟩
  · have active := pending old registered
    rw [Progress.isActive_of_isTerminal (same ▸ terminal)] at active
    cases active
  · have settles : item.isSettlement := by
      rw [News.isSettlement, told]
      exact terminal
    obtain ⟨attempt, attempted, brought⟩ := exists_attempt member settles
    have item_orderly := passage.news_orderly orderly item member
    rw [before_of_mem_news brought] at item_orderly
    obtain ⟨rightful, same, outcome_eq⟩ := Attempt.isRightful item_orderly brought
    refine ⟨attempt, attempted, same.symm.trans key_eq, ?_, rightful⟩
    rw [outcome_eq, status_eq] at told
    exact Status.settled.inj told

/-! ## Fees are changed by the authority -/

/-- The fees of a pool are as they were at first, or the call changes them in the name of the
authority. -/
def KeepsFees (origin : Engine) (call : Call) (engine : Engine) : Prop :=
  ∀ key old pool, origin.pools.get? key = some old → engine.pools.get? key = some pool →
    pool.schedule = old.schedule ∨
      ∃ id caller, call = .updateFees id caller pool.schedule ∧ id.canonical = key ∧
        caller.same old.authority

private theorem Step.keepsFees (step : Step origin call before later after)
    (fees : KeepsFees origin call before) : KeepsFees origin call after := by
  intro key old pool known found
  cases step.poolSource found with
  | @kept held registered continues schedule_eq =>
      rw [schedule_eq]
      exact fees key old held known registered
  | repriced start registered continues asked place authorized =>
      rw [start, known] at registered
      cases registered
      exact .inr ⟨_, _, asked, place, authorized⟩
  | new start asked place free =>
      rw [start, known] at free
      cases free

private theorem Orderly.keepsFees (orderly : engine.Orderly) (call : Call) :
    KeepsFees engine call (engine.perform call).1 := by
  have start : KeepsFees engine call engine := by
    intro key old pool known found
    rw [known] at found
    cases found
    exact .inl rfl
  exact (perform_passage orderly.steady call).keeps (fun _ _ _ step fees => step.keepsFees fees) start

/-! ## Trespasses leave no trace -/

private theorem not_allows_of_isTrespass {settling : SettlementCall}
    (trespass : engine.isTrespass (.settle id settling)) (transfer : Transfer) (pool : Pool)
    (settlement : Settlement) : ¬engine.Allows id settling transfer pool settlement := by
  intro allows
  have known : engine.lastRecord? id = some transfer :=
    lastRecord?_eq_some_iff.mpr (.inl allows.transfer_found)
  have permitted := (permits_of_allows allows).1
  simp [isTrespass, known, allows.pool_found, permitted] at trespass

/-- A trespass is refused and changes nothing, not even a failure that is armed. -/
theorem perform_of_isTrespass (trespass : engine.isTrespass call) :
    ∃ problem, engine.perform call = (engine, .error problem) := by
  cases call with
  | settle id settling =>
      obtain ⟨problem, refused⟩ := settle_of_not_allows (not_allows_of_isTrespass trespass)
      exact ⟨problem, by simp [perform, serve, refused, Except.map]⟩
  | updateFees id caller schedule =>
      unfold perform changed
      dsimp only
      split
      · rename_i next updated
        obtain ⟨pool, found, authorized, -⟩ := updateFees_eq_ok updated
        simp [isTrespass, found, authorized] at trespass
      · exact ⟨_, rfl⟩
  | _ => cases trespass

end Engine

/-- A call of a run with the engine that received it and its answer. -/
structure Served where
  before : Engine
  call : Call
  answer : Answer Reply

namespace Served

/-- The engine after the call. -/
def after (served : Served) : Engine := (served.before.perform served.call).1

/-- Was the call one that its caller may not make, or that came too early? -/
def isTrespass (served : Served) : Bool := served.before.isTrespass served.call

/-- Whatever the call settled or changed was for those to settle or change who did it. -/
structure IsAuthorized (served : Served) : Prop where
  settlements : ∀ id record outcome, served.after.lastRecord? id = some record →
    record.status = .settled outcome →
      (∀ old, served.before.lastRecord? id = some old → old.isActive) →
        ∃ attempt ∈ served.before.attemptsOf served.call,
          attempt.id.canonical = id.canonical ∧ attempt.call.outcome = outcome ∧
            attempt.IsRightful
  fees : Engine.KeepsFees served.before served.call served.after

end Served

namespace Engine

/-- The calls of a run as they are served, oldest first. -/
def served (engine : Engine) : List Call → List Served
  | [] => []
  | call :: rest =>
    ⟨engine, call, (engine.perform call).2⟩ :: (engine.perform call).1.served rest

/-- What every step of a call that meets a condition keeps holds whenever a run of such calls serves
one. -/
theorem Tidy.served_sustain {meets : Engine → Call → Prop} {holds : List News → Engine → Prop}
    (steps : ∀ origin call, meets origin call → ∀ before news after past,
      Step origin call before news after → before.Tidy → holds past before →
        holds (past ++ news) after)
    {engine : Engine} (tidy : engine.Tidy) {calls : List Call}
    (learns : Along (fun engine _ => engine.LearnsTime) engine calls)
    (along : Along meets engine calls) {past : List News} (start : holds past engine) :
    ∀ served ∈ engine.served calls, served.before.Steady ∧ meets served.before served.call ∧
      ∃ past, holds past served.before := by
  induction calls generalizing engine past with
  | nil => simp [Engine.served]
  | cons call rest ih =>
      have served := perform_passage ⟨tidy, learns.1⟩ call
      rw [Engine.served, List.forall_mem_cons]
      refine ⟨⟨⟨tidy, learns.1⟩, along.1, past, start⟩, ?_⟩
      exact ih (served.tidy tidy) learns.2 along.2
        (served.sustains (steps engine call along.1) tidy start)

/-- What every step of a call that meets a condition keeps holds whenever a run of such calls has
something attempted. -/
theorem Tidy.attempts_sustain {meets : Engine → Call → Prop} {holds : List News → Engine → Prop}
    (steps : ∀ origin call, meets origin call → ∀ before news after past,
      Step origin call before news after → before.Tidy → holds past before →
        holds (past ++ news) after)
    {engine : Engine} (tidy : engine.Tidy) {calls : List Call}
    (learns : Along (fun engine _ => engine.LearnsTime) engine calls)
    (along : Along meets engine calls) {past : List News} (start : holds past engine) :
    ∀ served ∈ engine.served calls, ∀ attempt ∈ served.before.attemptsOf served.call,
      attempt.before.Steady ∧ ∃ past, holds past attempt.before := by
  intro served member attempt attempted
  obtain ⟨steady, met, past, held⟩ :=
    tidy.served_sustain steps learns along start served member
  obtain ⟨news, reached⟩ := steady.passage_to_attempt attempted
  exact ⟨reached.steady (isQuiet_of_attempt attempted) steady, past ++ news,
    reached.sustains (steps served.before served.call met) steady.toTidy held⟩

/-- The calls of a run without those that are trespasses when they are served. -/
def lawful (engine : Engine) (calls : List Call) : List Call :=
  ((engine.served calls).filter fun served => !served.isTrespass).map (·.call)

variable {engine : Engine} {calls : List Call}

private theorem Orderly.isAuthorized (orderly : engine.Orderly) :
    ∀ served ∈ engine.served calls, served.IsAuthorized := by
  induction calls generalizing engine with
  | nil => simp [Engine.served]
  | cons call rest ih =>
      have next := (perform_passage orderly.steady call).orderly orderly
      rw [Engine.served, List.forall_mem_cons]
      refine ⟨⟨?_, orderly.keepsFees call⟩, ih next⟩
      intro id record outcome found status_eq pending
      exact orderly.exists_rightful call found status_eq pending

/-- Without its trespasses a run serves the other calls from the same states to the same answers, and
ends in the same state. -/
theorem run_lawful (engine : Engine) (calls : List Call) :
    engine.served (engine.lawful calls) =
        (engine.served calls).filter (fun served => !served.isTrespass) ∧
      engine.run (engine.lawful calls) = engine.run calls := by
  induction calls generalizing engine with
  | nil => exact ⟨rfl, rfl⟩
  | cons call rest ih =>
      obtain ⟨same, ends⟩ := ih (engine.perform call).1
      cases trespass : engine.isTrespass call with
      | true =>
          obtain ⟨problem, refused⟩ := perform_of_isTrespass trespass
          have skipped : engine.lawful (call :: rest) = engine.lawful rest := by
            simp [lawful, Engine.served, Served.isTrespass, trespass, refused]
          rw [refused] at same ends
          rw [skipped, run_cons, refused]
          refine ⟨?_, ends⟩
          simpa [Engine.served, Served.isTrespass, trespass, refused] using same
      | false =>
          have kept : engine.lawful (call :: rest) =
              call :: (engine.perform call).1.lawful rest := by
            simp [lawful, Engine.served, Served.isTrespass, trespass]
          rw [kept, run_cons, run_cons]
          refine ⟨?_, ends⟩
          simpa [Engine.served, Served.isTrespass, trespass] using same

/-- From a fresh engine on, transfers are settled and fees are changed by those who may do so, in
calls of theirs; and a run without the calls that their callers may not make, or that come too early,
gives the same answers to all others and ends in the same state, down to a failure that is armed in
the ledger. -/
theorem authorized_of_run {engine : Engine} (fresh : engine.IsFresh) (calls : List Call) :
    (∀ served ∈ engine.served calls, served.IsAuthorized) ∧
      engine.served (engine.lawful calls) =
        (engine.served calls).filter (fun served => !served.isTrespass) ∧
      engine.run (engine.lawful calls) = engine.run calls :=
  ⟨fresh.orderly.isAuthorized, run_lawful engine calls⟩

/-- The first transfer of the small market, with what a stranger tries before it is accepted. -/
def sampleIntrusion : List Call :=
  [.register samplePool, .create (sampleRequest "t1" 300),
    .settle (.text "t1") (.accept (.text "mallory")),
    .settle (.text "t1") (.cancel (.text "mallory")),
    .settle (.text "t1") (.expire (.text "mallory")),
    .updateFees (.text "p") (.text "mallory") {},
    .settle (.text "t1") (.accept (.text "olga")),
    .settle (.text "t1") (.reject (.text "mallory") (.int 1) .null)]

/-- The stranger leaves no trace in the small market. -/
theorem authorized_sample :
    (∀ served ∈ sampleEngine.served sampleIntrusion, served.IsAuthorized) ∧
      sampleEngine.lawful sampleIntrusion =
        [.register samplePool, .create (sampleRequest "t1" 300),
          .settle (.text "t1") (.accept (.text "olga"))] ∧
      sampleEngine.run
          [.register samplePool, .create (sampleRequest "t1" 300),
            .settle (.text "t1") (.accept (.text "olga"))] =
        sampleEngine.run sampleIntrusion := by
  obtain ⟨authorized, -, ends⟩ := authorized_of_run isFresh_sample sampleIntrusion
  have lawful_eq : sampleEngine.lawful sampleIntrusion =
      [.register samplePool, .create (sampleRequest "t1" 300),
        .settle (.text "t1") (.accept (.text "olga"))] := by
    decide +kernel
  rw [lawful_eq] at ends
  exact ⟨authorized, lawful_eq, ends⟩

end Engine
end Escrow
