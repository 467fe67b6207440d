import Escrow.Proofs.Engine.Accounts
import Escrow.Proofs.Engine.Hearing

/-!
# Listeners that only write down

Two runs that differ only in the listeners that write down what they hear, some of them failing.  No
step of a call reads who listens, and telling such a listener changes nothing but what is written
under its tag; so the engines stay alike in everything else, and every call is answered alike.
Those who listen from the start write down the same events, which account for the fees of every
pool.
-/

namespace Escrow

/-- Does the listener only write down what it hears, even if it fails then? -/
def Listener.isPassive : Listener → Bool
  | .observer _ | .deferred _ | .broken _ => true
  | .acceptor _ _ | .archivist => false

/-- Does the listener only write down what it hears, under one of the names? -/
def Listener.isAside (names : Value → Bool) (listener : Listener) : Bool :=
  listener.isPassive && listener.tag?.any names

namespace Engine

/-- The engine with other listeners, who have heard something else. -/
def watchedBy (engine : Engine) (listeners : List Listener) (heard : List Hearing) : Engine :=
  { engine with
    listeners := listeners
    heard := heard }

/-- The engine without those who only write down under one of the names, and without what is written
there. -/
def muted (engine : Engine) (names : Value → Bool) : Engine :=
  engine.watchedBy (engine.listeners.filter fun listener => !listener.isAside names)
    (engine.heard.filter fun hearing => !names hearing.tag)

/-- The engines differ only in who writes down under one of the names, and in what is written. -/
def Alike (names : Value → Bool) (left right : Engine) : Prop :=
  left.muted names = right.muted names

/-- Two answers are the same, with the same events, and the engines after them are alike. -/
structure Accord {α : Type} (names : Value → Bool) (left right : Engine × α)
    (leftNews rightNews : List News) : Prop where
  engines : Alike names left.1 right.1
  results : right.2 = left.2
  events : rightNews.map News.event = leftNews.map News.event

/-- What is done neither depends on who listens nor tells anybody. -/
def Heedless {α : Type} (change : Engine → Engine × α) : Prop :=
  ∀ engine listeners heard, change (engine.watchedBy listeners heard) =
    ((change engine).1.watchedBy listeners heard, (change engine).2)

variable {names : Value → Bool} {left right engine : Engine} {event : Event}
  {listener : Listener}

namespace Alike

theorem refl (engine : Engine) : Alike names engine engine := rfl

theorem symm (alike : Alike names left right) : Alike names right left := Eq.symm alike

theorem trans {other : Engine} (first : Alike names left right) (rest : Alike names right other) :
    Alike names left other :=
  Eq.trans first rest

private theorem eq_watchedBy (alike : Alike names left right) :
    right = left.watchedBy right.listeners right.heard := by
  have rest : (right.muted names).watchedBy right.listeners right.heard =
      (left.muted names).watchedBy right.listeners right.heard := by rw [alike]
  exact rest

private theorem listeners_eq (alike : Alike names left right) :
    left.listeners.filter (fun listener => !listener.isAside names) =
      right.listeners.filter fun listener => !listener.isAside names :=
  congrArg listeners alike

private theorem heard_eq (alike : Alike names left right) :
    left.heard.filter (fun hearing => !names hearing.tag) =
      right.heard.filter fun hearing => !names hearing.tag :=
  congrArg heard alike

private theorem pools_eq (alike : Alike names left right) : left.pools = right.pools := by
  have muted_eq : (left.muted names).pools = (right.muted names).pools := congrArg pools alike
  exact muted_eq

private theorem of_watchedBy (engine : Engine) {first second : List Listener}
    {old new : List Hearing} (listeners : first.filter (fun listener => !listener.isAside names) =
      second.filter fun listener => !listener.isAside names)
    (heard : old.filter (fun hearing => !names hearing.tag) =
      new.filter fun hearing => !names hearing.tag) :
    Alike names (engine.watchedBy first old) (engine.watchedBy second new) := by
  unfold Alike muted watchedBy
  dsimp only
  rw [listeners, heard]

/-- Engines that are alike stay alike when the same is done to both. -/
theorem watchedBy (alike : Alike names left right) (engine : Engine) :
    Alike names (engine.watchedBy left.listeners left.heard)
      (engine.watchedBy right.listeners right.heard) :=
  of_watchedBy engine alike.listeners_eq alike.heard_eq

end Alike

namespace Heedless

variable {α : Type} {change : Engine → Engine × α}

private theorem accord (heedless : Heedless change) (alike : Alike names left right) :
    Accord names (change left) (change right) [] [] := by
  have own := heedless left left.listeners left.heard
  have other := heedless left right.listeners right.heard
  rw [← alike.eq_watchedBy] at other
  rw [other]
  refine ⟨?_, rfl, rfl⟩
  have kept : (change left).1 = (change left).1.watchedBy left.listeners left.heard :=
    congrArg Prod.fst own
  have both := alike.watchedBy (change left).1
  rwa [← kept] at both

end Heedless

/-! ## What nobody is told of -/

private theorem writeArchive_heedless (attempt : Archive → Archive × Except Fault Bool) :
    Heedless fun engine => engine.writeArchive attempt := by
  intro engine listeners heard
  have archive_eq : (engine.watchedBy listeners heard).archive = engine.archive := rfl
  dsimp only
  unfold writeArchive
  rw [archive_eq]
  cases engine.archive <;> rfl

private theorem archiveTransfer_watchedBy (engine : Engine) (listeners : List Listener)
    (heard : List Hearing) (id : Value) :
    (engine.watchedBy listeners heard).archiveTransfer id =
      (engine.archiveTransfer id).map fun done => (done.1.watchedBy listeners heard, done.2) := by
  have transfer_eq : (engine.watchedBy listeners heard).transfer id = engine.transfer id := rfl
  unfold archiveTransfer
  rw [transfer_eq]
  cases engine.transfer id with
  | error problem => rfl
  | ok transfer =>
      cases archiving : transfer.archive transfer.id <;>
        simp [archiving, bind, Except.bind, Except.map, pure, Except.pure, watchedBy]

private theorem archiveEvent_watchedBy (engine : Engine) (listeners : List Listener)
    (heard : List Hearing) (event : Event) :
    (engine.watchedBy listeners heard).archiveEvent event =
      (engine.archiveEvent event).watchedBy listeners heard := by
  have wrote := writeArchive_heedless (·.writeEvent event.toEntry) engine listeners heard
  dsimp only at wrote
  unfold archiveEvent
  rw [wrote]
  generalize engine.writeArchive (·.writeEvent event.toEntry) = written
  obtain ⟨next, fault | success⟩ := written
  · rfl
  · have transfer_eq : (next.watchedBy listeners heard).transfer event.transfer =
        next.transfer event.transfer := rfl
    dsimp only
    split
    · rw [archiveTransfer_watchedBy]
      cases next.archiveTransfer event.transfer with
      | error problem => rfl
      | ok done => exact congrArg Prod.fst (writeArchive_heedless _ done.1 listeners heard)
    · rw [transfer_eq]
      cases next.transfer event.transfer with
      | error problem => rfl
      | ok transfer => exact congrArg Prod.fst (writeArchive_heedless _ next listeners heard)

private theorem book_watchedBy (engine : Engine) (listeners : List Listener) (heard : List Hearing)
    (payout : Payout) (reference : Value) :
    (engine.watchedBy listeners heard).book payout reference =
      ((engine.book payout reference).1.watchedBy listeners heard,
        (engine.book payout reference).2) := by
  have transfer_eq (id : Value) :
      (engine.watchedBy listeners heard).transfer id = engine.transfer id := rfl
  have pool_eq (id : Value) : (engine.watchedBy listeners heard).pool id = engine.pool id := rfl
  have reading_eq : (engine.watchedBy listeners heard).reading = engine.reading := rfl
  unfold book
  rw [transfer_eq, pool_eq, reading_eq]
  dsimp only
  split
  · rfl
  · cases engine.reading <;> rfl

private theorem settle_heedless (id : Value) (settling : SettlementCall) :
    Heedless fun engine => engine.settle id settling := by
  intro engine listeners heard
  have prepared_eq : (do
      (engine.watchedBy listeners heard).checkCaller id settling
      (engine.watchedBy listeners heard).prepare id settling : Answer Payout) =
      (do engine.checkCaller id settling; engine.prepare id settling) := rfl
  have ledger_eq : (engine.watchedBy listeners heard).ledger = engine.ledger := rfl
  have now_eq : (engine.watchedBy listeners heard).now = engine.now := rfl
  dsimp only
  unfold settle
  rw [prepared_eq, ledger_eq, now_eq]
  split
  · rfl
  · rename_i payout prepared
    dsimp only
    split
    · rfl
    · exact book_watchedBy { engine with ledger := (engine.ledger.move payout.move engine.now).1 }
        listeners heard payout _

private theorem drafted_watchedBy (engine : Engine) (listeners : List Listener)
    (heard : List Hearing) (request : CreateRequest) :
    (engine.watchedBy listeners heard).drafted request =
      ((engine.drafted request).1.watchedBy listeners heard, (engine.drafted request).2) := by
  have draft_eq (id : Value) :
      (engine.watchedBy listeners heard).draft request id = engine.draft request id := rfl
  have drawn_eq : (engine.watchedBy listeners heard).drawn = engine.drawn := rfl
  unfold drafted
  rw [draft_eq, draft_eq, drawn_eq]
  split
  · rfl
  · cases engine.draft request (.text (drawnId (engine.drawn + 1))) <;> rfl

private theorem bookDeposit_watchedBy (engine : Engine) (listeners : List Listener)
    (heard : List Hearing) (transfer : Transfer) :
    (engine.watchedBy listeners heard).bookDeposit transfer =
      (engine.bookDeposit transfer).map fun booked => booked.watchedBy listeners heard := by
  have pool_eq : (engine.watchedBy listeners heard).pool transfer.pool =
      engine.pool transfer.pool := rfl
  unfold bookDeposit
  rw [pool_eq]
  cases engine.pool transfer.pool with
  | error problem => rfl
  | ok pool =>
      cases booking : pool.bookDeposit transfer.amount <;>
        simp [booking, bind, Except.bind, Except.map, pure, Except.pure, watchedBy]

private theorem deposit_heedless (request : CreateRequest) :
    Heedless fun engine => engine.deposit request := by
  intro engine listeners heard
  dsimp only
  unfold deposit
  rw [drafted_watchedBy]
  generalize engine.drafted request = drafted
  obtain ⟨next, problem | transfer⟩ := drafted
  · rfl
  · have prepared_eq : (next.watchedBy listeners heard).prepareDeposit transfer =
        next.prepareDeposit transfer := rfl
    dsimp only
    rw [prepared_eq]
    cases next.prepareDeposit transfer with
    | error problem => rfl
    | ok move =>
        have moved_eq : (next.watchedBy listeners heard).ledger.move move
            (next.watchedBy listeners heard).now = next.ledger.move move next.now := rfl
        dsimp only
        rw [moved_eq]
        rcases next.ledger.move move next.now with ⟨ledger, problem | reference⟩
        · rfl
        · have booked := bookDeposit_watchedBy { next with ledger := ledger } listeners heard
            transfer
          have paid_eq : ({ next.watchedBy listeners heard with ledger := ledger } : Engine) =
              ({ next with ledger := ledger } : Engine).watchedBy listeners heard := rfl
          dsimp only
          rw [paid_eq, booked]
          cases ({ next with ledger := ledger } : Engine).bookDeposit transfer <;> rfl

/-! ## What the listeners are told -/

private theorem hear_aside (aside : listener.isAside names) (engine : Engine) (event : Event) :
    Alike names engine (engine.hear listener event) := by
  unfold Listener.isAside at aside
  rw [Bool.and_eq_true] at aside
  obtain ⟨-, named⟩ := aside
  unfold hear
  cases tag_eq : listener.tag? with
  | none => exact .refl engine
  | some tag =>
      rw [tag_eq, Option.any_some] at named
      unfold Alike muted watchedBy
      simp [named]

private theorem Alike.hear (alike : Alike names left right) (listener : Listener) (event : Event) :
    Alike names (left.hear listener event) (right.hear listener event) := by
  rw [alike.eq_watchedBy]
  unfold Engine.hear
  cases listener.tag? with
  | none => exact alike.watchedBy left
  | some tag =>
      apply Alike.of_watchedBy left alike.listeners_eq
      rw [List.filter_append, List.filter_append, alike.heard_eq]
      rfl

private theorem Alike.archiveEvent (alike : Alike names left right) (event : Event) :
    Alike names (left.archiveEvent event) (right.archiveEvent event) := by
  have own := left.archiveEvent_watchedBy left.listeners left.heard event
  have other := left.archiveEvent_watchedBy right.listeners right.heard event
  have both := alike.watchedBy (left.archiveEvent event)
  rw [← alike.eq_watchedBy] at other
  rw [← own, ← other] at both
  exact both

private theorem Alike.tellSettled (alike : Alike names left right) (listener : Listener) :
    Alike names (tellSettled event left listener) (tellSettled event right listener) := by
  unfold Engine.tellSettled
  split
  · exact alike.archiveEvent event
  · exact alike.hear listener event

private theorem tellSettled_aside (aside : listener.isAside names) (engine : Engine) :
    Alike names engine (tellSettled event engine listener) := by
  cases listener with
  | archivist => cases aside
  | acceptor tag caller => cases aside
  | _ => exact hear_aside aside engine event

/-- Telling all listeners comes to the same as telling those that are not aside. -/
theorem Alike.foldl {tell : Engine → Listener → Engine}
    (tells : ∀ listener left right, Alike names left right →
      Alike names (tell left listener) (tell right listener))
    (asides : ∀ listener, listener.isAside names → ∀ engine,
      Alike names engine (tell engine listener))
    (alike : Alike names left right) (listeners : List Listener) :
    Alike names (listeners.foldl tell left)
      ((listeners.filter fun listener => !listener.isAside names).foldl tell right) := by
  induction listeners generalizing left right with
  | nil => exact alike
  | cons listener rest ih =>
      rw [List.foldl_cons, List.filter_cons]
      cases aside : listener.isAside names with
      | true => exact ih ((asides listener aside left).symm.trans alike)
      | false => exact ih (tells listener left right alike)

private theorem Alike.announce {tell : Engine → Listener → Engine}
    (tells : ∀ listener left right, Alike names left right →
      Alike names (tell left listener) (tell right listener))
    (asides : ∀ listener, listener.isAside names → ∀ engine,
      Alike names engine (tell engine listener))
    (alike : Alike names left right) :
    Alike names (left.listeners.foldl tell left) (right.listeners.foldl tell right) := by
  have first := Alike.foldl tells asides alike left.listeners
  have second := Alike.foldl tells asides (.refl right) right.listeners
  rw [alike.listeners_eq] at first
  exact first.trans second.symm

private theorem Alike.announceSettled (alike : Alike names left right) (event : Event) :
    Alike names (left.announceSettled event) (right.announceSettled event) :=
  alike.announce (fun listener _ _ both => both.tellSettled listener)
    fun _ aside engine => tellSettled_aside aside engine

private theorem Alike.serve (alike : Alike names left right) (id : Value)
    (settling : SettlementCall) :
    Accord names (left.serve id settling) (right.serve id settling)
      (left.settleNews id settling) (right.settleNews id settling) := by
  have settled : Accord names (left.settle id settling) (right.settle id settling) [] [] :=
    (settle_heedless id settling).accord alike
  unfold Engine.serve settleNews
  generalize left.settle id settling = first at settled
  generalize right.settle id settling = second at settled
  obtain ⟨next, result⟩ := first
  obtain ⟨other, result⟩ := second
  obtain ⟨engines, rfl, -⟩ := settled
  cases result with
  | error problem => exact ⟨engines, rfl, rfl⟩
  | ok event => exact ⟨engines.announceSettled event, rfl, rfl⟩

private theorem Alike.tellCreated (alike : Alike names left right) (listener : Listener) :
    Alike names (tellCreated event left listener) (tellCreated event right listener) := by
  have heard := alike.hear listener event
  cases listener with
  | archivist => exact alike.archiveEvent event
  | acceptor tag caller => exact (heard.serve _ _).engines
  | _ => exact heard

private theorem tellCreated_aside (aside : listener.isAside names) (engine : Engine) :
    Alike names engine (tellCreated event engine listener) := by
  cases listener with
  | archivist => cases aside
  | acceptor tag caller => cases aside
  | _ => exact hear_aside aside engine event

private theorem Alike.announceCreated (alike : Alike names left right) (event : Event) :
    Alike names (left.announceCreated event) (right.announceCreated event) :=
  alike.announce (fun listener _ _ both => both.tellCreated listener)
    fun _ aside engine => tellCreated_aside aside engine

private theorem Alike.reactionNews (alike : Alike names left right) (listener : Listener) :
    (reactionNews event right listener).map News.event =
      (reactionNews event left listener).map News.event := by
  cases listener with
  | acceptor tag caller => exact ((alike.hear _ event).serve _ _).events
  | _ => rfl

private theorem announceNews_filter (alike : Alike names left right) (listeners : List Listener) :
    (announceNews event right (listeners.filter fun listener => !listener.isAside names)).map
        News.event =
      (announceNews event left listeners).map News.event := by
  induction listeners generalizing left right with
  | nil => rfl
  | cons listener rest ih =>
      rw [List.filter_cons, announceNews, List.map_append]
      cases aside : listener.isAside names with
      | true =>
          have silent : Engine.reactionNews event left listener = [] := by
            cases listener with
            | acceptor tag caller => cases aside
            | _ => rfl
          rw [silent]
          exact ih ((tellCreated_aside aside left).symm.trans alike)
      | false =>
          have told : Alike names (Engine.tellCreated event left listener)
              (Engine.tellCreated event right listener) := alike.tellCreated listener
          have later := ih told
          simp only [Bool.not_false, if_true, announceNews, List.map_append]
          rw [alike.reactionNews, later]

private theorem Alike.announceNews (alike : Alike names left right) (event : Event) :
    (announceNews event right right.listeners).map News.event =
      (announceNews event left left.listeners).map News.event := by
  rw [← announceNews_filter alike left.listeners, alike.listeners_eq]
  exact (announceNews_filter (.refl right) right.listeners).symm

/-! ## Calls -/

private theorem Alike.lastRecord? (alike : Alike names left right) (id : Value) :
    right.lastRecord? id = left.lastRecord? id := by
  rw [alike.eq_watchedBy]
  rfl

private theorem Alike.create (alike : Alike names left right) (request : CreateRequest) :
    Accord names (left.create request) (right.create request) (left.createNews request)
      (right.createNews request) := by
  have deposited : Accord names (left.deposit request) (right.deposit request) [] [] :=
    (deposit_heedless request).accord alike
  unfold Engine.create createNews depositNews
  generalize left.deposit request = first at deposited
  generalize right.deposit request = second at deposited
  obtain ⟨next, result⟩ := first
  obtain ⟨other, result⟩ := second
  obtain ⟨engines, rfl, -⟩ := deposited
  cases result with
  | error problem => exact ⟨engines, rfl, rfl⟩
  | ok created =>
      obtain ⟨transfer, event⟩ := created
      have told := engines.announceCreated event
      refine ⟨told, ?_, ?_⟩
      · exact congrArg (fun last : Option Transfer => Except.ok (last.getD transfer))
          (told.lastRecord? transfer.id)
      · exact congrArg (event :: ·) (engines.announceNews event)

private theorem Alike.recordRefusal (alike : Alike names left right) (id : Value)
    (refusal : Refusal) :
    Accord names (left.recordRefusal id refusal) (right.recordRefusal id refusal) [] [] := by
  have now_eq : right.now = left.now := by
    rw [alike.eq_watchedBy]
    rfl
  unfold Engine.recordRefusal
  rw [now_eq]
  exact (writeArchive_heedless _).accord alike

private theorem Alike.sweepEach (alike : Alike names left right) (caller : Value)
    (ids : List Value) :
    Accord names (left.sweepEach caller ids) (right.sweepEach caller ids)
      (left.sweepNews caller ids) (right.sweepNews caller ids) := by
  induction ids generalizing left right with
  | nil => exact ⟨alike, rfl, rfl⟩
  | cons id rest ih =>
      have served := alike.serve id (.expire caller)
      unfold Engine.sweepEach sweepNews
      generalize left.serve id (.expire caller) = first at served
      generalize right.serve id (.expire caller) = second at served
      obtain ⟨next, result⟩ := first
      obtain ⟨other, result⟩ := second
      obtain ⟨engines, rfl, events⟩ := served
      rcases result with (refusal | fault) | event
      · have recorded := Alike.recordRefusal engines id refusal
        dsimp only
        generalize next.recordRefusal id refusal = first at recorded
        generalize other.recordRefusal id refusal = second at recorded
        obtain ⟨next, result⟩ := first
        obtain ⟨other, result⟩ := second
        obtain ⟨engines, rfl, -⟩ := recorded
        cases result with
        | error fault => exact ⟨engines, rfl, rfl⟩
        | ok success => exact ih engines
      · exact ⟨engines, rfl, rfl⟩
      · obtain ⟨later, results, rest_events⟩ := ih engines
        refine ⟨later, ?_, ?_⟩
        · exact congrArg (Except.map (event :: ·)) results
        · rw [List.map_append, List.map_append, events, rest_events]

private theorem Alike.sweep (alike : Alike names left right) (pool caller : Value) :
    Accord names (left.sweep pool caller) (right.sweep pool caller)
      (left.newsOfCall (.sweep pool caller)) (right.newsOfCall (.sweep pool caller)) := by
  have archive_eq : right.archive = left.archive := by
    rw [alike.eq_watchedBy]
    rfl
  have overdue_eq : right.overdue pool = left.overdue pool := by
    rw [alike.eq_watchedBy]
    rfl
  unfold Engine.sweep newsOfCall
  dsimp only
  rw [archive_eq, overdue_eq]
  cases left.archive with
  | none => exact ⟨alike, rfl, rfl⟩
  | some archive =>
      dsimp only
      cases left.overdue pool with
      | error fault => exact ⟨alike, rfl, rfl⟩
      | ok transfers => exact alike.sweepEach caller _

private theorem updateFees_watchedBy (engine : Engine) (listeners : List Listener)
    (heard : List Hearing) (id caller : Value) (schedule : Schedule) :
    (engine.watchedBy listeners heard).updateFees id caller schedule =
      (engine.updateFees id caller schedule).map fun next => next.watchedBy listeners heard := by
  have pool_eq : (engine.watchedBy listeners heard).pool id = engine.pool id := rfl
  unfold updateFees
  rw [pool_eq]
  cases engine.pool id with
  | error problem => rfl
  | ok pool =>
      change (if (!caller.same pool.authority) = true then _ else _) =
        Except.map _ (if (!caller.same pool.authority) = true then _ else _)
      split <;> rfl

private theorem register_watchedBy (engine : Engine) (listeners : List Listener)
    (heard : List Hearing) (pool : Pool) :
    (engine.watchedBy listeners heard).register pool =
      (engine.register pool).map fun next => next.watchedBy listeners heard := by
  have pools_eq : (engine.watchedBy listeners heard).pools = engine.pools := rfl
  unfold register
  rw [pools_eq]
  rcases find? engine.pools pool.id with fault | found | found <;> rfl

private theorem onBooks_heedless (change : Books → Books × Answer Unit) :
    Heedless fun engine => engine.onBooks change := by
  intro engine listeners heard
  have backing_eq : (engine.watchedBy listeners heard).ledger.backing = engine.ledger.backing := rfl
  dsimp only
  unfold onBooks
  rw [backing_eq]
  cases engine.ledger.backing <;> rfl

/-- Only creations, settlements, sweeps and newcomers have to do with the listeners. -/
theorem perform_heedless {call : Call} (quiet : call.isQuiet ∨ call = .closeArchive) :
    Heedless fun engine => engine.perform call := by
  intro engine listeners heard
  dsimp only
  cases call with
  | create request => simp [Call.isQuiet] at quiet
  | settle id settling => simp [Call.isQuiet] at quiet
  | sweep pool caller => simp [Call.isQuiet] at quiet
  | listen listener => simp [Call.isQuiet] at quiet
  | updateFees id caller schedule =>
      unfold perform
      dsimp only
      rw [updateFees_watchedBy]
      cases engine.updateFees id caller schedule <;> rfl
  | register pool =>
      unfold perform
      dsimp only
      rw [register_watchedBy]
      cases engine.register pool <;> rfl
  | archive id =>
      unfold perform
      dsimp only
      rw [archiveTransfer_watchedBy]
      cases engine.archiveTransfer id <;> rfl
  | prune => rfl
  | setClock clock => rfl
  | advance micros =>
      have clock_eq : (engine.watchedBy listeners heard).clock = engine.clock := rfl
      unfold perform
      dsimp only
      rw [clock_eq]
      generalize engine.clock.map (·.after? micros) = later
      rcases later with _ | _ | clock <;> rfl
  | arm message =>
      exact onBooks_heedless (fun books => (books.arm message, .ok ())) engine listeners heard
  | credit account amount =>
      exact onBooks_heedless (fun books => books.credit account amount) engine listeners heard
  | refuseNext message transfer => rfl
  | script changes =>
      have backing_eq : (engine.watchedBy listeners heard).ledger.backing =
          engine.ledger.backing := rfl
      unfold perform onExchange
      dsimp only
      rw [backing_eq]
      cases engine.ledger.backing <;> rfl
  | closeArchive =>
      have archive_eq : (engine.watchedBy listeners heard).archive = engine.archive := rfl
      unfold perform closeArchive
      dsimp only
      rw [archive_eq]
      cases engine.archive <;> rfl

private theorem Alike.listen (alike : Alike names left right) (listener : Listener) :
    Alike names (left.perform (.listen listener)).1 (right.perform (.listen listener)).1 := by
  rw [alike.eq_watchedBy]
  refine Alike.of_watchedBy left ?_ alike.heard_eq
  rw [List.filter_append, List.filter_append, alike.listeners_eq]
  rfl

private theorem Alike.perform (alike : Alike names left right) (call : Call) :
    Accord names (left.perform call) (right.perform call) (left.newsOfCall call)
      (right.newsOfCall call) := by
  have heedless (quiet : call.isQuiet ∨ call = .closeArchive) :
      Accord names (left.perform call) (right.perform call) [] [] :=
    (perform_heedless quiet).accord alike
  cases call with
  | create request =>
      obtain ⟨engines, results, events⟩ := alike.create request
      exact ⟨engines, congrArg (Except.map Reply.transfer) results, events⟩
  | settle id settling =>
      obtain ⟨engines, results, events⟩ := alike.serve id settling
      exact ⟨engines, congrArg (Except.map Reply.event) results, events⟩
  | sweep pool caller =>
      obtain ⟨engines, results, events⟩ := alike.sweep pool caller
      exact ⟨engines, congrArg (Except.map Reply.events) results, events⟩
  | listen listener => exact ⟨alike.listen listener, rfl, rfl⟩
  | closeArchive => exact heedless (.inr rfl)
  | _ => exact heedless (.inl rfl)

/-! ## Runs -/

/-- The second list of calls is the first one with listeners put in that only write down under one
of the names. -/
inductive PutsListeners (names : Value → Bool) : List Call → List Call → Prop where
  | nil : PutsListeners names [] []
  | call (call : Call) {calls others : List Call} (rest : PutsListeners names calls others) :
      PutsListeners names (call :: calls) (call :: others)
  | listen {listener : Listener} (aside : listener.isAside names) {calls others : List Call}
      (rest : PutsListeners names calls others) :
      PutsListeners names calls (.listen listener :: others)

variable {calls others : List Call} {observers : List Listener}

theorem PutsListeners.append (asides : ∀ listener ∈ observers, listener.isAside names)
    (puts : PutsListeners names calls others) :
    PutsListeners names calls (observers.map .listen ++ others) := by
  induction observers with
  | nil => exact puts
  | cons listener rest ih =>
      rw [List.forall_mem_cons] at asides
      exact .listen asides.1 (ih asides.2)

private theorem Alike.listen_aside (alike : Alike names left right)
    (aside : listener.isAside names) :
    Alike names left (right.perform (.listen listener)).1 := by
  refine alike.trans ?_
  refine Alike.of_watchedBy right ?_ rfl
  rw [List.filter_append]
  simp [aside]

private theorem Alike.run (alike : Alike names left right)
    (puts : PutsListeners names calls others) :
    Alike names (left.run calls) (right.run others) ∧
      (right.newsOf others).map News.event = (left.newsOf calls).map News.event := by
  induction puts generalizing left right with
  | nil => exact ⟨alike, rfl⟩
  | call call rest ih =>
      obtain ⟨engines, -, events⟩ := alike.perform call
      obtain ⟨later, later_events⟩ := ih engines
      refine ⟨later, ?_⟩
      rw [newsOf, newsOf, List.map_append, List.map_append, events, later_events]
  | listen aside rest ih => exact ih (alike.listen_aside aside)

private theorem Step.whole {origin before after : Engine} {call : Call} {news : List News}
    (step : Step origin call before news after) :
    ∀ item ∈ news, item.event.fee.toInt + item.event.net = item.event.amount := by
  cases step with
  | deposit =>
      intro item member
      rw [List.mem_singleton.mp member]
      exact Int.zero_add _
  | settlement =>
      intro item member
      rw [List.mem_singleton.mp member]
      dsimp only [Event.settled]
      omega
  | _ => simp

end Engine
end Escrow
