import Escrow.Engine.Call
import Escrow.Proofs.Engine.Acts

/-!
# Runs as sequences of steps

A call is served in steps: a deposit, a settlement, a change of a register, a word to the ledger.
Reactions of listeners and the settlements of a sweep are steps like those that a call asks for, so
whatever every step keeps is kept by every run.  The news of a run are its events in the order in
which they come about.
-/

namespace Escrow

/-- An event, and the engine that was about to bring it about. -/
structure News where
  before : Engine
  event : Event

/-- Does the call leave the listeners and the archive alone, with nothing to tell them? -/
def Call.isQuiet : Call → Bool
  | .create _ | .settle _ _ | .sweep _ _ | .listen _ | .closeArchive => false
  | _ => true

/-- What the ledger is told by a call. -/
inductive Ledger.Told (ledger : Ledger) : Call → Ledger → Prop where
  | arm {books : Books} (held : ledger.backing = .books books) (message : Value) :
      Told ledger (.arm message) { ledger with backing := .books (books.arm message) }
  | credit {books : Books} (held : ledger.backing = .books books) (account : Account)
      (amount : Value) :
      Told ledger (.credit account amount)
        { ledger with backing := .books (books.credit account amount).1 }
  | refuseNext (message transfer : Value) :
      Told ledger (.refuseNext message transfer) (ledger.refuseNext message transfer)
  | script {custody : Custody} (held : ledger.backing = .custody custody)
      (changes : List (Value × Value)) :
      Told ledger (.script changes)
        { ledger with
          backing := .custody { custody with exchange := custody.exchange.update changes } }

private theorem Ledger.Told.onBooks {ledger after : Ledger} {call : Call}
    (told : ledger.Told call after) (onBooks : ledger.OnBooks) : after.OnBooks := by
  cases told with
  | arm => rfl
  | credit => rfl
  | refuseNext =>
      unfold Ledger.refuseNext
      split
      · exact onBooks
      · exact onBooks
  | script held =>
      rw [onBooks] at held
      cases held

theorem Ledger.Told.hasNumbers {ledger after : Ledger} {call : Call}
    (told : ledger.Told call after) (numbers : ledger.books.HasNumbers) :
    after.books.HasNumbers := by
  cases told with
  | arm held message =>
      rw [Ledger.books, held] at numbers
      exact numbers
  | credit held account amount =>
      rw [Ledger.books, held] at numbers
      exact numbers.credit account amount
  | refuseNext =>
      unfold Ledger.refuseNext
      split <;> exact numbers
  | script held changes =>
      rw [Ledger.books, held] at numbers
      exact numbers

theorem Ledger.Told.journal_eq {ledger after : Ledger} {call : Call}
    (told : ledger.Told call after) : after.books.journal = ledger.books.journal := by
  cases told with
  | arm held message =>
      simp only [Ledger.books, held]
      rfl
  | credit held account amount =>
      simp only [Ledger.books, held]
      exact Books.journal_add _ account amount
  | refuseNext =>
      unfold Ledger.refuseNext
      split <;> rfl
  | script held changes => simp only [Ledger.books, held]

namespace Engine

/-- A step on the way of serving a call to an engine, with its news. -/
inductive Step (origin : Engine) (call : Call) : Engine → List News → Engine → Prop where
  /-- What only listeners, the archive and the drawing of ids know of. -/
  | aside (before : Engine) (drawn : Nat) (listeners : List Listener) (heard : List Hearing)
      (archive : Option Archive) :
      Step origin call before []
        { before with
          drawn := drawn
          listeners := listeners
          heard := heard
          archive := archive }
  | unpaidDeposit {request : CreateRequest} {transfer : Transfer} {pool : Pool} {ledger : Ledger}
      {problem : Problem} (asked : call = .create request) (drawn : Nat)
      (admits : origin.Admits request transfer pool)
      (failed : origin.ledger.move (depositMove transfer pool) origin.now =
        (ledger, .error problem)) :
      Step origin call origin []
        { origin with
          drawn := drawn
          ledger := ledger }
  | deposit {request : CreateRequest} {transfer : Transfer} {pool booked : Pool}
      {ledger : Ledger} {reference : Value} (asked : call = .create request) (drawn : Nat)
      (admits : origin.Admits request transfer pool)
      (moved : origin.ledger.move (depositMove transfer pool) origin.now =
        (ledger, .ok reference))
      (booking : pool.bookDeposit transfer.amount = .ok booked) :
      Step origin call origin [⟨origin, .created transfer reference⟩]
        { origin with
          drawn := drawn
          ledger := ledger
          pools := origin.pools.set transfer.pool.canonical booked
          transfers := origin.transfers.set transfer.id.canonical transfer }
  | unpaidSettlement {before : Engine} {id : Value} {settling : SettlementCall}
      {transfer : Transfer} {pool : Pool} {settlement : Settlement} {ledger : Ledger}
      {problem : Problem} (allows : before.Allows id settling transfer pool settlement)
      (failed : before.ledger.move (payoutMove transfer pool settlement) before.now =
        (ledger, .error problem)) :
      Step origin call before [] { before with ledger := ledger }
  | settlement {before : Engine} {id : Value} {settling : SettlementCall} {transfer : Transfer}
      {pool booked : Pool} {settlement : Settlement} {ledger : Ledger} {reference : Value}
      {time : Instant} (allows : before.Allows id settling transfer pool settlement)
      (moved : before.ledger.move (payoutMove transfer pool settlement) before.now =
        (ledger, .ok reference))
      (booking : pool.bookSettlement transfer.amount (feeOf transfer pool settlement) =
        .ok booked)
      (timely : before.settlingTime = .ok time) :
      Step origin call before
        [⟨before, .settled (transfer.settledBy settlement time) pool.id
          (feeOf transfer pool settlement) time reference⟩]
        { before with
          ledger := ledger
          pools := before.pools.set transfer.pool.canonical booked
          transfers := before.transfers.set id.canonical (transfer.settledBy settlement time) }
  | fees {id caller : Value} {schedule : Schedule} {pool : Pool}
      (asked : call = .updateFees id caller schedule)
      (found : origin.pools.get? id.canonical = some pool)
      (authorized : caller.same pool.authority) :
      Step origin call origin []
        { origin with pools := origin.pools.set id.canonical { pool with schedule := schedule } }
  | register {pool : Pool} (asked : call = .register pool) (key : pool.id.isKey)
      (free : origin.pools.get? pool.id.canonical = none) :
      Step origin call origin [] { origin with pools := origin.pools.set pool.id.canonical pool }
  | archive {before : Engine} {id : Value} {transfer : Transfer}
      (found : before.transfers.get? id.canonical = some transfer)
      (terminal : transfer.status.isTerminal) :
      Step origin call before []
        { before with transfers := before.transfers.set id.canonical transfer.asArchived }
  | prune (asked : call = .prune) : Step origin call origin [] origin.prune
  | told {ledger : Ledger} (told : origin.ledger.Told call ledger) :
      Step origin call origin [] { origin with ledger := ledger }
  | clock {clock : Option Instant} (quiet : call.isQuiet)
      (served : (origin.perform call).1 = { origin with clock := clock }) :
      Step origin call origin [] { origin with clock := clock }

/-! ## Every step keeps an engine orderly -/

variable {before after : Engine} {key : Value} {transfer : Transfer}

/-- A registration outlasts the changes after which its pool is still there and its key is still not
pruned. -/
theorem Registers.mono (registers : before.Registers key transfer)
    (pooled : ∀ other, before.pools.contains other → after.pools.contains other)
    (unpruned : after.pruned.get? key = none) : after.Registers key transfer := by
  obtain ⟨pool, found⟩ := registers.pooled
  exact ⟨registers.id_key, registers.id_eq, registers.amount,
    Option.isSome_iff_exists.mp (pooled _ (Table.contains_of_get? found)), unpruned,
    registers.archived⟩

theorem Tidy.of_same (tidy : before.Tidy) (pools : after.pools = before.pools)
    (transfers : after.transfers = before.transfers) (pruned : after.pruned = before.pruned) :
    after.Tidy := by
  refine ⟨?_, ?_⟩
  · rw [pools]
    exact tidy.pools
  · rw [transfers]
    intro key transfer found
    apply (tidy.transfers key transfer found).mono
    · rw [pools]
      exact fun _ there => there
    · rw [pruned]
      exact (tidy.transfers key transfer found).unpruned

theorem Tidy.setPool (tidy : before.Tidy) {pool : Pool}
    (keyed : pool.id.isKey ∧ pool.id.canonical = key) :
    ({ before with pools := before.pools.set key pool } : Engine).Tidy := by
  refine ⟨?_, ?_⟩
  · intro other held found
    rw [Table.get?_set] at found
    split at found
    · rename_i same
      cases found
      exact ⟨keyed.1, keyed.2.trans same.symm⟩
    · exact tidy.pools other held found
  · intro other held found
    have registers := tidy.transfers other held found
    refine registers.mono ?_ registers.unpruned
    intro place there
    rw [Table.contains_set, there, Bool.or_true]

private theorem Tidy.setTransfer (tidy : before.Tidy) (registers : before.Registers key transfer) :
    ({ before with transfers := before.transfers.set key transfer } : Engine).Tidy := by
  refine ⟨tidy.pools, ?_⟩
  intro other held found
  rw [Table.get?_set] at found
  split at found
  · rename_i same
    cases found
    rw [same]
    exact registers.mono (fun _ there => there) registers.unpruned
  · have kept := tidy.transfers other held found
    exact kept.mono (fun _ there => there) kept.unpruned

/-- An engine stays tidy as a deposit is booked under an id that is not pruned. -/
theorem Tidy.deposit {pool booked : Pool} (tidy : before.Tidy)
    (pool_found : before.pools.get? transfer.pool.canonical = some pool)
    (booking : pool.bookDeposit transfer.amount = .ok booked) (id_key : transfer.id.isKey)
    (amount : IsAmount transfer.amount) (untouched : transfer.toProgress = {})
    (unpruned : before.pruned.get? transfer.id.canonical = none)
    (pools : after.pools = before.pools.set transfer.pool.canonical booked)
    (transfers : after.transfers = before.transfers.set transfer.id.canonical transfer)
    (pruned : after.pruned = before.pruned) : after.Tidy := by
  obtain ⟨deposits, created, booked_eq⟩ := Pool.bookDeposit_eq_ok booking
  have keyed : booked.id.isKey ∧ booked.id.canonical = transfer.pool.canonical := by
    have kept := tidy.pools _ _ pool_found
    rwa [booked_eq]
  have written : ({ before with
      pools := before.pools.set transfer.pool.canonical booked
      transfers := before.transfers.set transfer.id.canonical transfer } : Engine).Tidy := by
    refine (tidy.setPool keyed).setTransfer ?_
    refine ⟨id_key, rfl, amount, ⟨_, Table.get?_set_self _ _ _⟩, unpruned, ?_⟩
    rw [untouched]
    simp [Progress.isArchived, Value.isTruthy]
  exact written.of_same pools transfers pruned

/-- An engine stays tidy as a settlement is booked. -/
theorem Tidy.settle {pool booked : Pool} {fee : Whole} {settlement : Settlement} {time : Instant}
    (tidy : before.Tidy) (found : before.transfers.get? key = some transfer)
    (pool_found : before.pools.get? transfer.pool.canonical = some pool)
    (booking : pool.bookSettlement transfer.amount fee = .ok booked)
    (pools : after.pools = before.pools.set transfer.pool.canonical booked)
    (transfers : after.transfers =
      before.transfers.set key (transfer.settledBy settlement time))
    (pruned : after.pruned = before.pruned) : after.Tidy := by
  obtain ⟨withdrawn, fees, resolved, booked_eq⟩ := Pool.bookSettlement_eq_ok booking
  have keyed : booked.id.isKey ∧ booked.id.canonical = transfer.pool.canonical := by
    have kept := tidy.pools _ _ pool_found
    rwa [booked_eq]
  have registers := tidy.transfers _ _ found
  have written : ({ before with
      pools := before.pools.set transfer.pool.canonical booked
      transfers := before.transfers.set key (transfer.settledBy settlement time) } :
        Engine).Tidy := by
    refine (tidy.setPool keyed).setTransfer ?_
    exact ⟨registers.id_key, registers.id_eq, registers.amount, ⟨_, Table.get?_set_self _ _ _⟩,
      registers.unpruned, fun _ => transfer.isTerminal_settledBy settlement time⟩
  exact written.of_same pools transfers pruned

private theorem Tidy.prune (tidy : before.Tidy) : before.prune.Tidy := by
  refine ⟨tidy.pools, ?_⟩
  intro key transfer found
  rw [get?_transfers_prune, Option.filter_eq_some_iff] at found
  obtain ⟨found, unarchived⟩ := found
  have registers := tidy.transfers key transfer found
  refine registers.mono (fun _ there => there) ?_
  rw [get?_pruned_prune, found, registers.unpruned, Option.filter_some]
  simpa using unarchived

theorem Step.tidy {origin : Engine} {call : Call} {news : List News}
    (step : Step origin call before news after) (tidy : before.Tidy) : after.Tidy := by
  cases step with
  | aside => exact tidy.of_same rfl rfl rfl
  | unpaidDeposit => exact tidy.of_same rfl rfl rfl
  | deposit asked drawn admits moved booking =>
      exact tidy.deposit admits.pool_found booking admits.id_key admits.asked.amount
        admits.asked.untouched admits.unpruned rfl rfl rfl
  | unpaidSettlement => exact tidy.of_same rfl rfl rfl
  | settlement allows moved booking timely =>
      exact tidy.settle allows.transfer_found allows.pool_found booking rfl rfl rfl
  | fees asked found authorized =>
      have keyed := tidy.pools _ _ found
      exact tidy.setPool keyed
  | register asked key free => exact tidy.setPool ⟨key, rfl⟩
  | archive found terminal =>
      have registers := tidy.transfers _ _ found
      apply tidy.setTransfer
      exact ⟨registers.id_key, registers.id_eq, registers.amount, registers.pooled,
        registers.unpruned, fun _ => terminal⟩
  | prune => exact tidy.prune
  | told => exact tidy.of_same rfl rfl rfl
  | clock => exact tidy.of_same rfl rfl rfl

/-- No step turns books into another ledger. -/
theorem Step.onBooks {origin : Engine} {call : Call} {news : List News}
    (step : Step origin call before news after) (onBooks : before.ledger.OnBooks) :
    after.ledger.OnBooks := by
  have paid {move : Move} {ledger : Ledger} {answer : Answer Value}
      (moved : before.ledger.move move before.now = (ledger, answer)) : ledger.OnBooks := by
    have kept := onBooks.moved move before.now
    rwa [moved] at kept
  cases step with
  | unpaidDeposit asked drawn admits failed => exact paid failed
  | deposit asked drawn admits moved booking => exact paid moved
  | unpaidSettlement allows failed => exact paid failed
  | settlement allows moved booking timely => exact paid moved
  | told told => exact told.onBooks onBooks
  | _ => exact onBooks

theorem Step.orderly {origin : Engine} {call : Call} {news : List News}
    (step : Step origin call before news after) (orderly : before.Orderly) : after.Orderly := by
  have tidy := step.tidy orderly.tidy
  exact ⟨step.onBooks orderly.onBooks, tidy.pools, tidy.transfers⟩

/-- Only a quiet call touches the clock. -/
theorem Step.clock_eq {origin : Engine} {call : Call} {news : List News}
    (step : Step origin call before news after) (busy : call.isQuiet = false) :
    after.clock = before.clock ∧ after.isUniversal = before.isUniversal := by
  cases step with
  | clock quiet =>
      rw [busy] at quiet
      cases quiet
  | _ => exact ⟨rfl, rfl⟩

/-- While a call that is not quiet is served, settlements go on learning their time. -/
theorem Step.learnsTime {origin : Engine} {call : Call} {news : List News}
    (step : Step origin call before news after) (busy : call.isQuiet = false)
    (learns : before.LearnsTime) : after.LearnsTime := by
  obtain ⟨clock_eq, universal_eq⟩ := step.clock_eq busy
  refine learns.imp step.onBooks ?_
  rw [settlingTime, settlingTime, reading, reading, now, now, clock_eq, universal_eq]
  exact id

private theorem Step.steady {origin : Engine} {call : Call} {news : List News}
    (step : Step origin call before news after) (busy : call.isQuiet = false)
    (steady : before.Steady) : after.Steady :=
  ⟨step.tidy steady.toTidy, step.learnsTime busy steady.learns⟩

/-- Several steps one after another, with their news. -/
inductive Passage (origin : Engine) (call : Call) : Engine → List News → Engine → Prop where
  | refl (engine : Engine) : Passage origin call engine [] engine
  | next {before between after : Engine} {first rest : List News}
      (step : Step origin call before first between)
      (others : Passage origin call between rest after) :
      Passage origin call before (first ++ rest) after

namespace Passage

variable {origin before between after : Engine} {call : Call} {first news : List News}

theorem of_step (step : Step origin call before news after) :
    Passage origin call before news after := by
  have single := Passage.next step (.refl after)
  rwa [List.append_nil] at single

theorem trans (left : Passage origin call before first between)
    (right : Passage origin call between news after) :
    Passage origin call before (first ++ news) after := by
  induction left with
  | refl => exact right
  | next step others ih =>
      rw [List.append_assoc]
      exact .next step (ih right)

/-- What every step keeps, with the news so far, is kept by a passage. -/
theorem carries {holds : List News → Engine → Prop}
    (steps : ∀ before news after past, Step origin call before news after → holds past before →
      holds (past ++ news) after)
    (passage : Passage origin call before news after) {past : List News}
    (start : holds past before) : holds (past ++ news) after := by
  induction passage generalizing past with
  | refl =>
      rw [List.append_nil]
      exact start
  | next step others ih =>
      rw [← List.append_assoc]
      exact ih (steps _ _ _ _ step start)

theorem keeps {holds : Engine → Prop}
    (steps : ∀ before news after, Step origin call before news after → holds before → holds after)
    (passage : Passage origin call before news after) (start : holds before) : holds after :=
  @carries origin before after call news (fun _ engine => holds engine)
    (fun before news after _ => steps before news after) passage [] start

theorem tidy (passage : Passage origin call before news after) (tidy : before.Tidy) :
    after.Tidy := passage.keeps (fun _ _ _ step => step.tidy) tidy

theorem orderly (passage : Passage origin call before news after) (orderly : before.Orderly) :
    after.Orderly := passage.keeps (fun _ _ _ step => step.orderly) orderly

theorem steady (passage : Passage origin call before news after) (busy : call.isQuiet = false)
    (steady : before.Steady) : after.Steady :=
  passage.keeps (fun _ _ _ step => step.steady busy) steady

/-- What every step of an orderly engine keeps is kept by a passage. -/
theorem preserves {holds : List News → Engine → Prop}
    (steps : ∀ before news after past, Step origin call before news after → before.Orderly →
      holds past before → holds (past ++ news) after)
    (passage : Passage origin call before news after) (orderly : before.Orderly)
    {past : List News} (start : holds past before) : holds (past ++ news) after :=
  (@carries origin before after call news (fun news engine => engine.Orderly ∧ holds news engine)
    (fun before news after past step both =>
      ⟨step.orderly both.1, steps before news after past step both.1 both.2⟩)
    passage past ⟨orderly, start⟩).2

/-- What every step of a tidy engine keeps is kept by a passage. -/
theorem sustains {holds : List News → Engine → Prop}
    (steps : ∀ before news after past, Step origin call before news after → before.Tidy →
      holds past before → holds (past ++ news) after)
    (passage : Passage origin call before news after) (tidy : before.Tidy)
    {past : List News} (start : holds past before) : holds (past ++ news) after :=
  (@carries origin before after call news (fun news engine => engine.Tidy ∧ holds news engine)
    (fun before news after past step both =>
      ⟨step.tidy both.1, steps before news after past step both.1 both.2⟩)
    passage past ⟨tidy, start⟩).2

end Passage

/-! ## News -/

/-- The news of a deposit: that the transfer was created. -/
def depositNews (engine : Engine) (request : CreateRequest) : List News :=
  match (engine.deposit request).2 with
  | .ok (_, event) => [⟨engine, event⟩]
  | .error _ => []

/-- The news of a settlement. -/
def settleNews (engine : Engine) (id : Value) (call : SettlementCall) : List News :=
  match (engine.settle id call).2 with
  | .ok event => [⟨engine, event⟩]
  | .error _ => []

/-- The news that a listener brings about when it is told of a created transfer. -/
def reactionNews (event : Event) (engine : Engine) (listener : Listener) : List News :=
  match listener with
  | .acceptor _ caller => (engine.hear listener event).settleNews event.transfer (.accept caller)
  | _ => []

/-- The news that listeners bring about when they are told of a created transfer. -/
def announceNews (event : Event) (engine : Engine) : List Listener → List News
  | [] => []
  | listener :: rest =>
    reactionNews event engine listener ++
      announceNews event (tellCreated event engine listener) rest

/-- The news of a creation. -/
def createNews (engine : Engine) (request : CreateRequest) : List News :=
  match engine.deposit request with
  | (created, .ok (_, event)) =>
    engine.depositNews request ++ announceNews event created created.listeners
  | (_, .error _) => []

/-- The news of a sweep of the given transfers. -/
def sweepNews (engine : Engine) (caller : Value) : List Value → List News
  | [] => []
  | id :: rest =>
    match engine.serve id (.expire caller) with
    | (next, .ok _) => engine.settleNews id (.expire caller) ++ next.sweepNews caller rest
    | (_, .error (.fault _)) => []
    | (next, .error (.refused refusal)) =>
      match next.recordRefusal id refusal with
      | (next, .ok _) => next.sweepNews caller rest
      | (_, .error _) => []

/-- The news of a call. -/
def newsOfCall (engine : Engine) : Call → List News
  | .create request => engine.createNews request
  | .settle id call => engine.settleNews id call
  | .sweep pool caller =>
    match engine.archive, engine.overdue pool with
    | some _, .ok transfers => engine.sweepNews caller (transfers.map (·.id))
    | _, _ => []
  | _ => []

/-- The news of a run, oldest first. -/
def newsOf (engine : Engine) : List Call → List News
  | [] => []
  | call :: rest => engine.newsOfCall call ++ (engine.perform call).1.newsOf rest

/-! ## Following a call -/

/-- The relation between engines, with the news in between, can be followed through a call: it
composes, and it keeps what it needs of an engine. -/
structure Follows (fit : Engine → Prop) (relates : Engine → List News → Engine → Prop) : Prop where
  refl : ∀ engine, relates engine [] engine
  trans : ∀ {before between after : Engine} {first rest : List News},
    relates before first between → relates between rest after → relates before (first ++ rest) after
  keeps : ∀ {before after : Engine} {news : List News}, relates before news after → fit before →
    fit after

theorem settleNews_of_serve_error {engine next : Engine} {id : Value} {settling : SettlementCall}
    {problem : Problem} (failed : engine.serve id settling = (next, .error problem)) :
    engine.settleNews id settling = [] := by
  unfold serve at failed
  unfold settleNews
  split at failed
  · cases failed
  · rw [failed]

namespace Follows

variable {fit : Engine → Prop} {relates : Engine → List News → Engine → Prop} {event : Event}
  {listeners : List Listener} {caller : Value}

/-- What follows each of the listeners hearing of a settlement follows all of them. -/
theorem tellSettled (follows : Follows fit relates)
    (told : ∀ listener ∈ listeners, ∀ engine,
      relates engine [] (tellSettled event engine listener)) (engine : Engine) :
    relates engine [] (listeners.foldl (Engine.tellSettled event) engine) := by
  induction listeners generalizing engine with
  | nil => exact follows.refl engine
  | cons listener rest ih =>
      rw [List.forall_mem_cons] at told
      exact follows.trans (told.1 engine) (ih told.2 _)

/-- What follows each of the listeners hearing of a creation follows all of them. -/
theorem tellCreated (follows : Follows fit relates)
    (told : ∀ listener ∈ listeners, ∀ engine, fit engine →
      relates engine (reactionNews event engine listener) (tellCreated event engine listener))
    {engine : Engine} (start : fit engine) :
    relates engine (announceNews event engine listeners)
      (listeners.foldl (Engine.tellCreated event) engine) := by
  induction listeners generalizing engine with
  | nil => exact follows.refl engine
  | cons listener rest ih =>
      rw [List.forall_mem_cons] at told
      have first := told.1 engine start
      exact follows.trans first (ih told.2 (follows.keeps first start))

private theorem sweepEach (follows : Follows fit relates)
    (serves : ∀ engine id, fit engine →
      relates engine (engine.settleNews id (.expire caller)) (engine.serve id (.expire caller)).1)
    (notes : ∀ engine id refusal, relates engine [] (engine.recordRefusal id refusal).1)
    (ids : List Value) {engine : Engine} (start : fit engine) :
    relates engine (engine.sweepNews caller ids) (engine.sweepEach caller ids).1 := by
  induction ids generalizing engine with
  | nil => exact follows.refl engine
  | cons id rest ih =>
      have served := serves engine id start
      unfold Engine.sweepEach sweepNews
      rcases ended : engine.serve id (.expire caller) with ⟨next, (refusal | fault) | event⟩ <;>
        rw [ended] at served
      · rw [settleNews_of_serve_error ended] at served
        have recorded := follows.trans served (notes next id refusal)
        dsimp only
        rcases noting : next.recordRefusal id refusal with ⟨noted, fault | success⟩ <;>
          rw [noting] at recorded
        · exact recorded
        · exact follows.trans recorded (ih (follows.keeps recorded start))
      · rw [settleNews_of_serve_error ended] at served
        exact served
      · exact follows.trans served (ih (follows.keeps served start))

/-- What follows single expiries, and the recording of what stands in their way, follows a sweep. -/
theorem sweep (follows : Follows fit relates)
    (serves : ∀ engine id, fit engine →
      relates engine (engine.settleNews id (.expire caller)) (engine.serve id (.expire caller)).1)
    (notes : ∀ engine id refusal, relates engine [] (engine.recordRefusal id refusal).1)
    (pool : Value) {engine : Engine} (start : fit engine) :
    relates engine (engine.newsOfCall (.sweep pool caller)) (engine.sweep pool caller).1 := by
  unfold Engine.sweep newsOfCall
  dsimp only
  cases engine.archive with
  | none => exact follows.refl engine
  | some archive =>
      dsimp only
      cases engine.overdue pool with
      | error fault => exact follows.refl engine
      | ok transfers => exact follows.sweepEach serves notes _ start

end Follows

/-! ## Every call is a passage -/

section

variable (origin : Engine) (call : Call)

theorem hear_passage (engine : Engine) (listener : Listener) (event : Event) :
    Passage origin call engine [] (engine.hear listener event) := by
  unfold hear
  split
  · exact .of_step (.aside engine _ _ _ _)
  · exact .refl engine

theorem writeArchive_passage (engine : Engine)
    (attempt : Archive → Archive × Except Fault Bool) :
    Passage origin call engine [] (engine.writeArchive attempt).1 := by
  unfold writeArchive
  split
  · exact .refl engine
  · exact .of_step (.aside engine _ _ _ _)

private theorem archiveTransfer_passage {engine after : Engine} {id : Value} {archived : Transfer}
    (done : engine.archiveTransfer id = .ok (after, archived)) :
    Passage origin call engine [] after := by
  obtain ⟨transfer, found, terminal, rfl, rfl⟩ := archiveTransfer_eq_ok done
  exact .of_step (.archive found terminal)

theorem archiveEvent_passage (engine : Engine) (event : Event) :
    Passage origin call engine [] (engine.archiveEvent event) := by
  have recorded := writeArchive_passage origin call engine (·.writeEvent event.toEntry)
  unfold archiveEvent
  split
  · rename_i wrote
    rwa [wrote] at recorded
  · rename_i wrote
    rw [wrote] at recorded
    split
    · split
      · rename_i archiving
        have archived := archiveTransfer_passage origin call archiving
        exact (recorded.trans archived).trans (writeArchive_passage origin call _ _)
      · exact recorded
    · split
      · exact recorded.trans (writeArchive_passage origin call _ _)
      · exact recorded

/-- A passage can be followed by passages. -/
theorem follows_passage : Follows Tidy (Passage origin call) :=
  ⟨.refl, .trans, fun passage tidy => passage.tidy tidy⟩

/-- While a call other than a quiet one is served, settlements go on learning their time. -/
theorem follows_steadily (busy : call.isQuiet = false) : Follows Steady (Passage origin call) :=
  ⟨.refl, .trans, fun passage steady => passage.steady busy steady⟩

theorem tellSettled_passage (engine : Engine) (event : Event) (listener : Listener) :
    Passage origin call engine [] (tellSettled event engine listener) := by
  unfold tellSettled
  split
  · exact archiveEvent_passage origin call engine event
  · exact hear_passage origin call engine listener event

theorem announceSettled_passage (engine : Engine) (event : Event) :
    Passage origin call engine [] (engine.announceSettled event) := by
  apply (follows_passage origin call).tellSettled
  intro listener member engine
  exact tellSettled_passage origin call engine event listener

theorem settle_passage {engine : Engine} (steady : engine.Steady) (id : Value)
    (settling : SettlementCall) :
    Passage origin call engine (engine.settleNews id settling) (engine.settle id settling).1 := by
  have ended := settled steady id settling
  unfold settleNews
  generalize engine.settle id settling = result at ended
  cases ended with
  | refused => exact .refl engine
  | unpaid allows failed => exact .of_step (.unpaidSettlement allows failed)
  | done allows moved booking timely => exact .of_step (.settlement allows moved booking timely)

theorem serve_passage {engine : Engine} (steady : engine.Steady) (id : Value)
    (settling : SettlementCall) :
    Passage origin call engine (engine.settleNews id settling) (engine.serve id settling).1 := by
  have settled := settle_passage origin call steady id settling
  unfold serve
  split
  · rename_i next event done
    rw [done] at settled
    have announced := settled.trans (announceSettled_passage origin call next event)
    rwa [List.append_nil] at announced
  · exact settled

theorem Steady.hear {engine : Engine} (steady : engine.Steady) (listener : Listener)
    (event : Event) : (engine.hear listener event).Steady := by
  unfold Engine.hear
  split
  · exact ⟨steady.toTidy.of_same rfl rfl rfl, steady.learns⟩
  · exact steady

theorem tellCreated_passage {engine : Engine} (steady : engine.Steady) (event : Event)
    (listener : Listener) :
    Passage origin call engine (reactionNews event engine listener)
      (tellCreated event engine listener) := by
  cases listener with
  | archivist => exact archiveEvent_passage origin call engine event
  | acceptor tag caller =>
      have heard := hear_passage origin call engine (.acceptor tag caller) event
      exact heard.trans (serve_passage origin call (steady.hear _ _) _ _)
  | observer tag => exact hear_passage origin call engine (.observer tag) event
  | deferred tag => exact hear_passage origin call engine (.deferred tag) event
  | broken tag => exact hear_passage origin call engine (.broken tag) event

theorem announceCreated_passage (busy : call.isQuiet = false) {engine : Engine}
    (steady : engine.Steady) (event : Event) :
    Passage origin call engine (announceNews event engine engine.listeners)
      (engine.announceCreated event) := by
  apply (follows_steadily origin call busy).tellCreated
  · intro listener member engine steady
    exact tellCreated_passage origin call steady event listener
  · exact steady

end

theorem deposit_passage (engine : Engine) (request : CreateRequest) :
    Passage engine (.create request) engine (engine.depositNews request)
      (engine.deposit request).1 := by
  have ended := deposited engine request
  unfold depositNews
  generalize engine.deposit request = result at ended
  cases ended with
  | refused drawn => exact .of_step (.aside engine drawn _ _ _)
  | unpaid drawn problem admits failed => exact .of_step (.unpaidDeposit rfl drawn admits failed)
  | done drawn admits moved booking => exact .of_step (.deposit rfl drawn admits moved booking)

private theorem create_passage {engine : Engine} (steady : engine.Steady)
    (request : CreateRequest) :
    Passage engine (.create request) engine (engine.createNews request)
      (engine.create request).1 := by
  have booked := deposit_passage engine request
  unfold create createNews
  rcases ended : engine.deposit request with ⟨created, answer⟩
  cases answer with
  | error problem =>
      rw [depositNews, ended] at booked
      exact booked
  | ok done =>
      rw [ended] at booked
      exact booked.trans (announceCreated_passage _ _ rfl (booked.steady rfl steady) done.2)

private theorem sweep_passage {engine : Engine} (steady : engine.Steady) (pool caller : Value) :
    Passage engine (.sweep pool caller) engine (engine.newsOfCall (.sweep pool caller))
      (engine.sweep pool caller).1 := by
  apply (follows_steadily engine (.sweep pool caller) rfl).sweep
  · intro next id steady
    exact serve_passage _ _ steady id (.expire caller)
  · intro next id refusal
    exact writeArchive_passage _ _ next _
  · exact steady

/-- What a quiet call does: nothing, or a single step, behind the backs of the listeners. -/
structure Quiet (engine : Engine) (call : Call) (after : Engine) : Prop where
  step : after = engine ∨ Step engine call engine [] after
  listeners : after.listeners = engine.listeners
  heard : after.heard = engine.heard
  archive : after.archive = engine.archive

theorem Quiet.refl (engine : Engine) (call : Call) : Quiet engine call engine :=
  ⟨.inl rfl, rfl, rfl, rfl⟩

theorem Quiet.passage {engine after : Engine} {call : Call} (quiet : Quiet engine call after) :
    Passage engine call engine [] after := by
  rcases quiet.step with same | step
  · rw [same]
    exact .refl engine
  · exact .of_step step

/-- What a quiet call does to an engine. -/
theorem perform_quiet (engine : Engine) {call : Call} (quiet : call.isQuiet) :
    Quiet engine call (engine.perform call).1 := by
  cases call with
  | updateFees id caller schedule =>
      unfold perform changed
      dsimp only
      split
      · rename_i after updated
        obtain ⟨pool, found, authorized, rfl⟩ := updateFees_eq_ok updated
        exact ⟨.inr (.fees rfl found authorized), rfl, rfl, rfl⟩
      · exact .refl engine _
  | register pool =>
      unfold perform
      dsimp only
      split
      · rename_i after registered
        obtain ⟨key, free, rfl⟩ := register_eq_ok registered
        exact ⟨.inr (.register rfl key free), rfl, rfl, rfl⟩
      · exact .refl engine _
  | archive id =>
      unfold perform
      dsimp only
      split
      · rename_i after transfer done
        obtain ⟨transfer, found, terminal, rfl, rfl⟩ := archiveTransfer_eq_ok done
        exact ⟨.inr (.archive found terminal), rfl, rfl, rfl⟩
      · exact .refl engine _
  | prune => exact ⟨.inr (.prune rfl), rfl, rfl, rfl⟩
  | setClock clock => exact ⟨.inr (.clock rfl rfl), rfl, rfl, rfl⟩
  | advance micros =>
      have served (clock : Option Instant)
          (same : (engine.perform (.advance micros)).1 = { engine with clock := clock }) :
          Quiet engine (.advance micros) (engine.perform (.advance micros)).1 := by
        rw [same]
        exact ⟨.inr (.clock rfl same), rfl, rfl, rfl⟩
      rcases ahead : engine.clock.map (·.after? micros) with _ | _ | clock
      · exact served engine.clock (by simp [perform, ahead])
      · exact served engine.clock (by simp [perform, ahead])
      · exact served (some clock) (by simp [perform, ahead])
  | arm message =>
      unfold perform onBooks
      dsimp only
      split
      · rename_i books held
        exact ⟨.inr (.told (.arm held message)), rfl, rfl, rfl⟩
      · exact .refl engine _
  | credit account amount =>
      unfold perform onBooks
      dsimp only
      split
      · rename_i books held
        exact ⟨.inr (.told (.credit held account amount)), rfl, rfl, rfl⟩
      · exact .refl engine _
  | refuseNext message transfer =>
      exact ⟨.inr (.told (.refuseNext message transfer)), rfl, rfl, rfl⟩
  | script changes =>
      unfold perform onExchange
      dsimp only
      split
      · exact .refl engine _
      · rename_i custody held
        exact ⟨.inr (.told (.script held changes)), rfl, rfl, rfl⟩
  | _ => cases quiet

/-- Every call is served in steps. -/
theorem perform_passage {engine : Engine} (steady : engine.Steady) (call : Call) :
    Passage engine call engine (engine.newsOfCall call) (engine.perform call).1 := by
  cases call with
  | create request => exact create_passage steady request
  | settle id settling => exact serve_passage _ _ steady id settling
  | sweep pool caller => exact sweep_passage steady pool caller
  | listen listener => exact .of_step (.aside engine _ _ _ _)
  | closeArchive =>
      unfold perform changed closeArchive
      cases engine.archive with
      | none => exact .refl engine
      | some archive => exact .of_step (.aside engine _ _ _ _)
  | _ => exact (perform_quiet engine rfl).passage

/-! ## Runs -/

/-- Every call of a run meets a condition together with the engine that receives it. -/
def Along (meets : Engine → Call → Prop) (engine : Engine) : List Call → Prop
  | [] => True
  | call :: rest => meets engine call ∧ Along meets (engine.perform call).1 rest

theorem along_of_forall {meets : Call → Prop} {calls : List Call}
    (all : ∀ call ∈ calls, meets call) (engine : Engine) :
    Along (fun _ call => meets call) engine calls := by
  induction calls generalizing engine with
  | nil => trivial
  | cons call rest ih =>
      rw [List.forall_mem_cons] at all
      exact ⟨all.1, ih all.2 _⟩

theorem Along.forall_mem {meets : Engine → Call → Prop} {holds : Call → Prop}
    (implies : ∀ engine call, meets engine call → holds call) {engine : Engine}
    {calls : List Call} (along : Along meets engine calls) : ∀ call ∈ calls, holds call := by
  induction calls generalizing engine with
  | nil => simp
  | cons call rest ih =>
      rw [List.forall_mem_cons]
      exact ⟨implies engine call along.1, ih along.2⟩

theorem run_cons (engine : Engine) (call : Call) (rest : List Call) :
    engine.run (call :: rest) = (engine.perform call).1.run rest := rfl

private theorem Along.and {meets holds : Engine → Call → Prop} {engine : Engine} {calls : List Call}
    (left : Along meets engine calls) (right : Along holds engine calls) :
    Along (fun engine call => meets engine call ∧ holds engine call) engine calls := by
  induction calls generalizing engine with
  | nil => trivial
  | cons call rest ih => exact ⟨⟨left.1, right.1⟩, ih left.2 right.2⟩

theorem Along.mono {meets holds : Engine → Call → Prop}
    (implies : ∀ engine call, meets engine call → holds engine call) {engine : Engine}
    {calls : List Call} (along : Along meets engine calls) : Along holds engine calls := by
  induction calls generalizing engine with
  | nil => trivial
  | cons call rest ih => exact ⟨implies engine call along.1, ih along.2⟩

/-- What every call that meets a condition keeps, with its news, is kept by every run of such
calls. -/
theorem run_carries {meets : Engine → Call → Prop} {holds : List News → Engine → Prop}
    (serves : ∀ engine call past, meets engine call → holds past engine →
      holds (past ++ engine.newsOfCall call) (engine.perform call).1)
    {engine : Engine} {calls : List Call} (along : Along meets engine calls) {past : List News}
    (start : holds past engine) : holds (past ++ engine.newsOf calls) (engine.run calls) := by
  induction calls generalizing engine past with
  | nil =>
      rw [newsOf, List.append_nil]
      exact start
  | cons call rest ih =>
      rw [newsOf, ← List.append_assoc, run_cons]
      exact ih along.2 (serves engine call past along.1 start)

theorem Orderly.run {engine : Engine} (orderly : engine.Orderly) (calls : List Call) :
    (engine.run calls).Orderly := by
  induction calls generalizing engine with
  | nil => exact orderly
  | cons call rest ih => exact ih ((perform_passage orderly.steady call).orderly orderly)

theorem Tidy.run {engine : Engine} (tidy : engine.Tidy) {calls : List Call}
    (learns : Along (fun engine _ => engine.LearnsTime) engine calls) : (engine.run calls).Tidy := by
  induction calls generalizing engine with
  | nil => exact tidy
  | cons call rest ih => exact ih ((perform_passage ⟨tidy, learns.1⟩ call).tidy tidy) learns.2

/-- Over books every settlement learns its time. -/
theorem Orderly.learnsTime_along {engine : Engine} (orderly : engine.Orderly) (calls : List Call) :
    Along (fun engine _ => engine.LearnsTime) engine calls := by
  induction calls generalizing engine with
  | nil => trivial
  | cons call rest ih =>
      exact ⟨.inl orderly.onBooks, ih ((perform_passage orderly.steady call).orderly orderly)⟩

/-- What every step of a call that meets a condition keeps is kept by every run of such calls. -/
theorem run_preserves {meets : Engine → Call → Prop} {holds : List News → Engine → Prop}
    (steps : ∀ origin call, meets origin call → ∀ before news after past,
      Step origin call before news after → before.Orderly → holds past before →
        holds (past ++ news) after)
    {engine : Engine} (orderly : engine.Orderly) {calls : List Call}
    (along : Along meets engine calls) {past : List News} (start : holds past engine) :
    holds (past ++ engine.newsOf calls) (engine.run calls) :=
  (@run_carries meets (fun news engine => engine.Orderly ∧ holds news engine)
    (fun engine call _ met both =>
      have served := perform_passage both.1.steady call
      ⟨served.orderly both.1, served.preserves (steps engine call met) both.1 both.2⟩)
    engine calls along past ⟨orderly, start⟩).2

/-- What every step of a call that meets a condition keeps is kept by every run of such calls, over
any ledger, if every settlement learns its time. -/
theorem Tidy.run_preserves {meets : Engine → Call → Prop} {holds : List News → Engine → Prop}
    (steps : ∀ origin call, meets origin call → ∀ before news after past,
      Step origin call before news after → before.Tidy → holds past before →
        holds (past ++ news) after)
    {engine : Engine} (tidy : engine.Tidy) {calls : List Call}
    (learns : Along (fun engine _ => engine.LearnsTime) engine calls)
    (along : Along meets engine calls) {past : List News} (start : holds past engine) :
    holds (past ++ engine.newsOf calls) (engine.run calls) :=
  (@run_carries (fun engine call => engine.LearnsTime ∧ meets engine call)
    (fun news engine => engine.Tidy ∧ holds news engine)
    (fun engine call _ met both =>
      have served := perform_passage ⟨both.1, met.1⟩ call
      ⟨served.tidy both.1, served.sustains (steps engine call met.2) both.1 both.2⟩)
    engine calls (learns.and along) past ⟨tidy, start⟩).2

theorem run_keeps {meets : Engine → Call → Prop} {holds : Engine → Prop}
    (steps : ∀ origin call, meets origin call → ∀ before news after,
      Step origin call before news after → before.Orderly → holds before → holds after)
    {engine : Engine} (orderly : engine.Orderly) {calls : List Call}
    (along : Along meets engine calls) (start : holds engine) : holds (engine.run calls) :=
  @run_preserves meets (fun _ engine => holds engine)
    (fun origin call meeting before news after _ => steps origin call meeting before news after)
    engine orderly calls along [] start

/-- An engine on books that nothing has happened to. -/
structure IsFresh (engine : Engine) : Prop where
  onBooks : engine.ledger.OnBooks
  pools : engine.pools = .empty
  transfers : engine.transfers = .empty
  pruned : engine.pruned = .empty

/-- An engine that nothing has happened to, over any ledger. -/
structure IsBlank (engine : Engine) : Prop where
  pools : engine.pools = .empty
  transfers : engine.transfers = .empty
  pruned : engine.pruned = .empty

theorem IsBlank.tidy {engine : Engine} (blank : engine.IsBlank) : engine.Tidy := by
  constructor
  · intro key pool found
    rw [blank.pools, Table.get?_empty] at found
    cases found
  · intro key transfer found
    rw [blank.transfers, Table.get?_empty] at found
    cases found

theorem IsFresh.isBlank {engine : Engine} (fresh : engine.IsFresh) : engine.IsBlank :=
  ⟨fresh.pools, fresh.transfers, fresh.pruned⟩

theorem IsFresh.orderly {engine : Engine} (fresh : engine.IsFresh) : engine.Orderly :=
  ⟨fresh.onBooks, fresh.isBlank.tidy.pools, fresh.isBlank.tidy.transfers⟩

/-! ## A small market -/

private theorem rate_valid_sample : 0 ≤ (100 : Whole).toInt ∧
    (100 : Whole).toInt ≤ basisPoints := by
  decide

/-- A fee of one percent. -/
def samplePolicy : Policy :=
  { Policy.free with
    rate := 100
    rate_valid := rate_valid_sample }

/-- A pool of dollars that Olga operates. -/
def samplePool : Pool :=
  .make (.text "p") (.text "olga") (.text "USD") .null .null (.int 6) { default := samplePolicy }

/-- An engine at noon, on books on which Alice holds a thousand dollars. -/
def sampleEngine : Engine where
  ledger := .ofBooks (.ofBalances [(⟨.text "alice", .text "USD"⟩, .int 1000)])
  clock := some ⟨⟨2026, 1, 1⟩, 12, 0, 0, 0, some 0⟩

/-- Alice asks to send dollars to Bob. -/
def sampleRequest (id : String) (amount : Int) : CreateRequest where
  pool := .text "p"
  sender := .text "alice"
  recipient := .text "bob"
  amount := .int amount
  id := .text id

/-- A first transfer is rejected when a failure of the ledger has kept it from being accepted, and
is archived and pruned; a second one stays pending; a third one is accepted as it is announced. -/
def sampleCalls : List Call :=
  [.register samplePool,
    .create (sampleRequest "t1" 300),
    .arm (.text "down"),
    .settle (.text "t1") (.accept (.text "olga")),
    .settle (.text "t1") (.reject (.text "olga") (.int 7) (.text "no")),
    .archive (.text "t1"),
    .prune,
    .create (sampleRequest "t2" 200),
    .listen (.acceptor (.text "a") (.text "olga")),
    .create (sampleRequest "t3" 500)]

theorem isFresh_sample : sampleEngine.IsFresh := ⟨rfl, rfl, rfl, rfl⟩

end Engine
end Escrow
