import Escrow.Proofs.Engine.Hearing
import Escrow.Proofs.Engine.Legible

/-!
# Runs with an archive

The keeper of the archive comes first among the listeners, so it hears of every event before anything
else happens.  A call is then served in acts: steps without news, which leave the tables of the
archive alone, and steps with news, each with the filing of its news.  What every act keeps holds
between any two calls.
-/

namespace Escrow
namespace Engine

/-- The engine has an open archive that keeps these rows and events. -/
def Stores (engine : Engine) (rows : Table String TransferRow) (events : List EventRow) : Prop :=
  ∃ archive, engine.archive = some archive ∧ archive.Keeps rows events

/-- The archive is kept by the first listener, and by no other one. -/
def KeepsArchive (engine : Engine) : Prop :=
  ∃ rest, engine.listeners = .archivist :: rest ∧ .archivist ∉ rest

/-- From one engine to the other the archive has the same keeper and the same tables. -/
structure LeavesArchive (before after : Engine) : Prop where
  keeper : before.KeepsArchive → after.KeepsArchive
  tables : ∀ rows events, before.Stores rows events → after.Stores rows events

/-- A part of serving a call that leaves no news unfiled. -/
inductive Act (origin : Engine) (call : Call) : Engine → List News → Engine → Prop where
  | quiet {before after : Engine} (step : Step origin call before [] after)
      (leaves : before.LeavesArchive after) : Act origin call before [] after
  | filed {before between : Engine} {item : News} (step : Step origin call before [item] between)
      (listeners : between.listeners = before.listeners)
      (archive : between.archive = before.archive) :
      Act origin call before [item] (between.archiveEvent item.event)

/-- Several acts one after another, with their news. -/
inductive Acts (origin : Engine) (call : Call) : Engine → List News → Engine → Prop where
  | refl (engine : Engine) : Acts origin call engine [] engine
  | next {before between after : Engine} {first rest : List News}
      (act : Act origin call before first between) (others : Acts origin call between rest after) :
      Acts origin call before (first ++ rest) after

variable {origin before between after engine : Engine} {call : Call} {first news : List News}
  {rows : Table String TransferRow} {events : List EventRow}

theorem Stores.of_same (stores : before.Stores rows events)
    (archive : after.archive = before.archive) : after.Stores rows events := by
  obtain ⟨kept, held, keeps⟩ := stores
  exact ⟨kept, archive.trans held, keeps⟩

theorem LeavesArchive.of_same (listeners : after.listeners = before.listeners)
    (archive : after.archive = before.archive) : before.LeavesArchive after := by
  constructor
  · unfold KeepsArchive
    rw [listeners]
    exact id
  · intro rows events stores
    exact stores.of_same archive

private theorem listeners_archiveEvent (engine : Engine) (event : Event) :
    (engine.archiveEvent event).listeners = engine.listeners :=
  (@archiveEvent_heard .null engine event).listeners

private theorem Act.passage (act : Act origin call before news after) :
    Passage origin call before news after := by
  cases act with
  | quiet step => exact .of_step step
  | filed step =>
      have filed := archiveEvent_passage origin call
      exact (Passage.of_step step).trans (filed _ _)

private theorem Act.keeper (act : Act origin call before news after)
    (keeper : before.KeepsArchive) :
    after.KeepsArchive := by
  cases act with
  | quiet step leaves => exact leaves.keeper keeper
  | filed step listeners =>
      unfold KeepsArchive
      rw [listeners_archiveEvent, listeners]
      exact keeper

/-- Every act of a legible call leaves a clock that can be read, and the engine legible. -/
theorem Act.isLegible (act : Act origin call before news after) (names : call.IsLegible)
    (served : (origin.perform call).1.TellsTime) (orderly : before.Orderly)
    (timely : before.TellsTime) (legible : before.IsLegible) : after.TellsTime ∧ after.IsLegible :=
  @Passage.preserves origin before after call news
    (fun _ engine => engine.TellsTime ∧ engine.IsLegible)
    (fun _ _ _ _ step orderly held => ⟨step.tellsTime served held.1,
      step.isLegible names held.1 orderly held.2⟩)
    act.passage orderly [] ⟨timely, legible⟩

namespace Acts

private theorem of_act (act : Act origin call before news after) :
    Acts origin call before news after := by
  have single := Acts.next act (.refl after)
  rwa [List.append_nil] at single

theorem trans (left : Acts origin call before first between)
    (right : Acts origin call between news after) :
    Acts origin call before (first ++ news) after := by
  induction left with
  | refl => exact right
  | next act others ih =>
      rw [List.append_assoc]
      exact .next act (ih right)

private theorem passage (acts : Acts origin call before news after) :
    Passage origin call before news after := by
  induction acts with
  | refl => exact .refl _
  | next act others ih => exact act.passage.trans ih

private theorem orderly (acts : Acts origin call before news after) (orderly : before.Orderly) :
    after.Orderly := acts.passage.orderly orderly

private theorem keeper (acts : Acts origin call before news after) (keeper : before.KeepsArchive) :
    after.KeepsArchive := by
  induction acts with
  | refl => exact keeper
  | next act others ih => exact ih (act.keeper keeper)

/-- What every act keeps is kept by several of them. -/
theorem preserves {holds : List News → Engine → Prop}
    (each : ∀ before news after past, Act origin call before news after → before.Orderly →
      holds past before → holds (past ++ news) after)
    (acts : Acts origin call before news after) (orderly : before.Orderly)
    {past : List News} (start : holds past before) : holds (past ++ news) after := by
  induction acts generalizing past with
  | refl =>
      rw [List.append_nil]
      exact start
  | next act others ih =>
      rw [← List.append_assoc]
      exact ih (act.passage.orderly orderly) (each _ _ _ _ act orderly start)

end Acts

/-! ## Listeners behind the keeper -/

private theorem quiet_acts (step : Step origin call before [] after)
    (listeners : after.listeners = before.listeners) (archive : after.archive = before.archive) :
    Acts origin call before [] after := .of_act (.quiet step (.of_same listeners archive))

section

variable (origin : Engine) (call : Call)

/-- Acts can be followed by acts. -/
theorem follows_acts :
    Follows (fun engine => engine.Orderly ∧ engine.KeepsArchive) (Acts origin call) :=
  ⟨.refl, .trans, fun acts fit => ⟨acts.orderly fit.1, acts.keeper fit.2⟩⟩

private theorem hear_acts (engine : Engine) (listener : Listener) (event : Event) :
    Acts origin call engine [] (engine.hear listener event) := by
  unfold hear
  split
  · exact quiet_acts (.aside engine _ _ _ _) rfl rfl
  · exact .refl engine

/-- Once a settlement is filed, the other listeners only hear of it. -/
theorem announceSettled_acts {rest : List Listener}
    (listeners : engine.listeners = .archivist :: rest) (others : .archivist ∉ rest)
    (event : Event) :
    Acts origin call (engine.archiveEvent event) [] (engine.announceSettled event) := by
  unfold announceSettled
  rw [listeners, List.foldl_cons]
  apply (follows_acts origin call).tellSettled
  intro listener member engine
  have other : listener ≠ .archivist := fun same => others (same ▸ member)
  unfold tellSettled
  split
  · exact absurd rfl other
  · exact hear_acts origin call engine listener event

private theorem serve_acts {engine : Engine} (orderly : engine.Orderly)
    (keeper : engine.KeepsArchive) (id : Value) (settling : SettlementCall) :
    Acts origin call engine (engine.settleNews id settling) (engine.serve id settling).1 := by
  obtain ⟨rest, listeners, others⟩ := keeper
  have ended := settled orderly.steady id settling
  unfold serve settleNews
  generalize engine.settle id settling = result at ended
  cases ended with
  | refused => exact .refl engine
  | unpaid allows failed => exact quiet_acts (.unpaidSettlement allows failed) rfl rfl
  | done allows moved booking timely =>
      have filed := Acts.of_act
        (.filed (Step.settlement allows moved booking timely : Step origin call _ _ _) rfl rfl)
      refine filed.trans ?_
      dsimp only
      apply announceSettled_acts
      · exact listeners
      · exact others

private theorem tellCreated_acts {engine : Engine} (orderly : engine.Orderly)
    (keeper : engine.KeepsArchive) {listener : Listener} (other : listener ≠ .archivist)
    (event : Event) :
    Acts origin call engine (reactionNews event engine listener)
      (tellCreated event engine listener) := by
  have heard := hear_acts origin call engine listener event
  cases listener with
  | archivist => exact absurd rfl other
  | acceptor tag caller =>
      exact heard.trans
        (serve_acts origin call (heard.orderly orderly) (heard.keeper keeper) _ _)
  | observer tag => exact heard
  | deferred tag => exact heard
  | broken tag => exact heard

/-- Once a creation is filed, the other listeners hear of it and may accept the transfer. -/
theorem announceCreated_acts {engine : Engine} {event : Event}
    (orderly : (engine.archiveEvent event).Orderly)
    {rest : List Listener} (listeners : engine.listeners = .archivist :: rest)
    (others : .archivist ∉ rest) :
    Acts origin call (engine.archiveEvent event)
      (announceNews event engine engine.listeners) (engine.announceCreated event) := by
  have keeper : (engine.archiveEvent event).KeepsArchive :=
    ⟨rest, (listeners_archiveEvent engine event).trans listeners, others⟩
  unfold announceCreated
  rw [listeners, List.foldl_cons]
  apply (follows_acts origin call).tellCreated
  · intro listener member engine fit
    have other : listener ≠ .archivist := fun same => others (same ▸ member)
    exact tellCreated_acts origin call fit.1 fit.2 other event
  · exact ⟨orderly, keeper⟩

end

/-! ## Every call is served in acts -/

private theorem create_acts {engine : Engine} (orderly : engine.Orderly)
    (keeper : engine.KeepsArchive) (request : CreateRequest) :
    Acts engine (.create request) engine (engine.createNews request) (engine.create request).1 := by
  obtain ⟨rest, listeners, others⟩ := keeper
  have ended := deposited engine request
  unfold create createNews depositNews
  generalize engine.deposit request = result at ended
  cases ended with
  | refused drawn => exact quiet_acts (.aside engine drawn _ _ _) rfl rfl
  | unpaid drawn problem admits failed =>
      exact quiet_acts (.unpaidDeposit rfl drawn admits failed) rfl rfl
  | done drawn admits moved booking =>
      have filed := Acts.of_act (.filed (Step.deposit rfl drawn admits moved booking) rfl rfl)
      refine filed.trans ?_
      apply announceCreated_acts
      · exact filed.orderly orderly
      · exact listeners
      · exact others

private theorem recordRefusal_acts (origin : Engine) (call : Call) (engine : Engine) (id : Value)
    (refusal : Refusal) :
    Acts origin call engine [] (engine.recordRefusal id refusal).1 := by
  unfold recordRefusal writeArchive
  split
  · exact .refl engine
  · rename_i archive held
    refine .of_act (.quiet (.aside engine _ _ _ _) ⟨fun keeper => keeper, ?_⟩)
    rintro rows events ⟨kept, same, keeps⟩
    obtain rfl := Option.some.inj (held.symm.trans same)
    exact ⟨_, rfl, keeps.writeError _ _ _ _⟩

private theorem sweep_acts {engine : Engine} (orderly : engine.Orderly)
    (keeper : engine.KeepsArchive) (pool caller : Value) :
    Acts engine (.sweep pool caller) engine (engine.newsOfCall (.sweep pool caller))
      (engine.sweep pool caller).1 := by
  apply (follows_acts engine (.sweep pool caller)).sweep
  · intro next id fit
    exact serve_acts _ _ fit.1 fit.2 id (.expire caller)
  · intro next id refusal
    exact recordRefusal_acts _ _ next id refusal
  · exact ⟨orderly, keeper⟩

private theorem Quiet.acts (quiet : Quiet engine call after) : Acts engine call engine
    [] after := by
  rcases quiet.step with same | step
  · rw [same]
    exact .refl engine
  · exact quiet_acts step quiet.listeners quiet.archive

end Engine

/-- The call leaves the archive to its keeper: it neither closes it nor adds a second keeper. -/
structure Call.SparesArchive (call : Call) : Prop where
  unclosed : call ≠ .closeArchive
  unshared : call ≠ .listen .archivist

namespace Engine

/-- Every call that leaves the archive to its keeper is served in acts. -/
theorem perform_acts {engine : Engine} (orderly : engine.Orderly) (keeper : engine.KeepsArchive)
    {call : Call} (spares : call.SparesArchive) :
    Acts engine call engine (engine.newsOfCall call) (engine.perform call).1 := by
  cases call with
  | create request => exact create_acts orderly keeper request
  | settle id settling => exact serve_acts _ _ orderly keeper id settling
  | sweep pool caller => exact sweep_acts orderly keeper pool caller
  | listen listener =>
      refine .of_act (.quiet (.aside engine _ _ _ _) ⟨?_, fun _ _ => id⟩)
      rintro ⟨rest, listeners, others⟩
      refine ⟨rest ++ [listener], ?_, ?_⟩
      · change engine.listeners ++ [listener] = _
        rw [listeners, List.cons_append]
      · have other : listener ≠ .archivist := fun same => spares.unshared (by rw [same])
        simp [others, Ne.symm other]
  | closeArchive => exact absurd rfl spares.unclosed
  | _ => exact (perform_quiet engine rfl).acts

/-- What every act of a call that meets a condition keeps is kept by every run of such calls. -/
theorem run_files {meets : Engine → Call → Prop} {holds : List News → Engine → Prop}
    (acts : ∀ origin call, meets origin call → ∀ before news after past,
      Act origin call before news after → before.Orderly → holds past before →
        holds (past ++ news) after)
    (spares : ∀ origin call, meets origin call → call.SparesArchive)
    {engine : Engine} (orderly : engine.Orderly) (keeper : engine.KeepsArchive)
    {calls : List Call} (along : Along meets engine calls) {past : List News}
    (start : holds past engine) :
    holds (past ++ engine.newsOf calls) (engine.run calls) := by
  induction calls generalizing engine past with
  | nil =>
      rw [newsOf, List.append_nil]
      exact start
  | cons call rest ih =>
      have served := perform_acts orderly keeper (spares engine call along.1)
      have kept := served.preserves (acts engine call along.1) orderly start
      rw [newsOf, ← List.append_assoc, run_cons]
      exact ih (served.orderly orderly) (served.keeper keeper) along.2 kept

theorem KeepsArchive.run {meets : Engine → Call → Prop}
    (spares : ∀ origin call, meets origin call → call.SparesArchive)
    (keeper : engine.KeepsArchive) (orderly : engine.Orderly) {calls : List Call}
    (along : Along meets engine calls) : (engine.run calls).KeepsArchive :=
  @run_files meets (fun _ engine => engine.KeepsArchive)
    (fun _ _ _ _ _ _ _ act _ keeper => act.keeper keeper) spares engine orderly keeper calls along []
    keeper

/-! ## What filing does -/

/-- The news of a creation is filed with a row of the transfer as it is now. -/
theorem archiveEvent_created_of_keeps {engine : Engine} {event : Event} {transfer : Transfer}
    {time : Instant} {archive : Archive} (held : engine.archive = some archive)
    (keeps : archive.Keeps rows events) (legible : event.IsLegible)
    (pending : event.status.isTerminal = false)
    (found : engine.transfers.get? event.transfer.canonical = some transfer)
    (fits : transfer.IsLegible) (timely : engine.now = .ok time) :
    ∃ later, engine.archiveEvent event = { engine with archive := some later } ∧
      later.Keeps
        (Store.withRow rows (transfer.row (archive.store.transferWrites + 1) .null .null time))
        (events ++ [event.row (events.length + 1)]) := by
  obtain ⟨recorded, wrote, keeps, writes⟩ := keeps.writeEvent legible
  obtain ⟨later, written, keeps⟩ := keeps.writeTransfer fits (.inl rfl) (.inl rfl) timely
  rw [writes] at keeps
  refine ⟨later, ?_, keeps⟩
  have same : ({ engine with archive := some recorded } : Engine).transfer event.transfer =
      .ok transfer := transfer_eq_ok_iff.mpr ⟨legible.transfer.isKey, found⟩
  have now_eq : ({ engine with archive := some recorded } : Engine).now = engine.now := rfl
  simp [archiveEvent, writeTransfer, writeArchive, held, wrote, pending, same, now_eq, written]

theorem archiveEvent_created {engine : Engine} {event : Event} {transfer : Transfer}
    {time : Instant} (stores : engine.Stores rows events) (legible : event.IsLegible)
    (pending : event.status.isTerminal = false)
    (found : engine.transfers.get? event.transfer.canonical = some transfer)
    (fits : transfer.IsLegible) (timely : engine.now = .ok time) :
    ∃ archive number, engine.archiveEvent event = { engine with archive := some archive } ∧
      archive.Keeps (Store.withRow rows (transfer.row number .null .null time))
        (events ++ [event.row (events.length + 1)]) := by
  obtain ⟨archive, held, keeps⟩ := stores
  obtain ⟨later, filed, keeps⟩ :=
    archiveEvent_created_of_keeps held keeps legible pending found fits timely
  exact ⟨later, _, filed, keeps⟩

/-- The news of a settlement is filed with the row of the settled transfer, which is archived. -/
theorem archiveEvent_settled_of_keeps {engine : Engine} {event : Event} {transfer : Transfer}
    {time : Instant} {archive : Archive} (held : engine.archive = some archive)
    (keeps : archive.Keeps rows events) (legible : event.IsLegible)
    (terminal : event.status.isTerminal = true)
    (found : engine.transfers.get? event.transfer.canonical = some transfer)
    (settled : transfer.status.isTerminal = true) (fits : transfer.IsLegible)
    (timely : engine.now = .ok time) :
    ∃ later, engine.archiveEvent event =
        { engine with
          archive := some later
          transfers := engine.transfers.set event.transfer.canonical transfer.asArchived } ∧
      later.Keeps
        (Store.withRow rows
          (transfer.asArchived.row (archive.store.transferWrites + 1) event.fee.toValue
            (.int event.net) time))
        (events ++ [event.row (events.length + 1)]) := by
  obtain ⟨recorded, wrote, keeps, writes⟩ := keeps.writeEvent legible
  obtain ⟨fee, fee_eq, fee_amount⟩ := legible.fee
  have fee_figure : event.fee.toValue.IsFigure := .inr ⟨fee, by rw [fee_eq]; rfl, fee_amount⟩
  obtain ⟨later, written, keeps⟩ :=
    keeps.writeTransfer (isLegible_asArchived fits) fee_figure (.inr ⟨_, rfl, legible.net⟩) timely
  rw [writes] at keeps
  refine ⟨later, ?_, keeps⟩
  have archiving : ({ engine with archive := some recorded } : Engine).archiveTransfer
      event.transfer = .ok (_, transfer.asArchived) :=
    archiveTransfer_of_settled legible.transfer.isKey found settled
  have now_eq (transfers : Table Value Transfer) :
      ({ engine with archive := some recorded, transfers := transfers } : Engine).now =
        engine.now := rfl
  simp [archiveEvent, writeTransfer, writeArchive, held, wrote, terminal, archiving, now_eq, written]

theorem archiveEvent_settled {engine : Engine} {event : Event} {transfer : Transfer}
    {time : Instant} (stores : engine.Stores rows events) (legible : event.IsLegible)
    (terminal : event.status.isTerminal = true)
    (found : engine.transfers.get? event.transfer.canonical = some transfer)
    (settled : transfer.status.isTerminal = true) (fits : transfer.IsLegible)
    (timely : engine.now = .ok time) :
    ∃ archive number, engine.archiveEvent event =
        { engine with
          archive := some archive
          transfers := engine.transfers.set event.transfer.canonical transfer.asArchived } ∧
      archive.Keeps
        (Store.withRow rows
          (transfer.asArchived.row number event.fee.toValue (.int event.net) time))
        (events ++ [event.row (events.length + 1)]) := by
  obtain ⟨archive, held, keeps⟩ := stores
  obtain ⟨later, filed, keeps⟩ :=
    archiveEvent_settled_of_keeps held keeps legible terminal found settled fits timely
  exact ⟨later, _, filed, keeps⟩

end Engine
end Escrow
