import Escrow.Proofs.Engine.Once

/-!
# What a listener hears

A listener hears the news of a run in their order, whatever the other listeners do: they write down
nothing under its tag, whether they fail, keep the archive or settle what they hear of.  Exactly what
those before it bring about when they are told of a creation is heard before the creation.
-/

namespace Escrow
namespace Engine

/-- The events that were heard under a tag, oldest first. -/
def heardAs (engine : Engine) (tag : Value) : List Event :=
  (engine.heard.filter fun hearing => decide (hearing.tag = tag)).map Hearing.event

/-- The listener with the tag comes after the earlier ones, and no other one has the tag. -/
structure Placed (engine : Engine) (earlier : List Listener) (listener : Listener) (tag : Value) :
    Prop where
  tag_eq : listener.tag? = some tag
  listeners : ∃ later, engine.listeners = earlier ++ listener :: later ∧
    ∀ other ∈ earlier ++ later, other.tag? ≠ some tag

/-- From one engine to the other the events are heard under the tag, and the listeners stay. -/
structure Heard (tag : Value) (before : Engine) (events : List Event) (after : Engine) : Prop where
  listeners : after.listeners = before.listeners
  heard : after.heardAs tag = before.heardAs tag ++ events

/-- What the earlier listeners bring about when they are told of the creation in a call. -/
def reactionsOfCall (earlier : List Listener) (engine : Engine) : Call → List News
  | .create request =>
    match engine.deposit request with
    | (created, .ok (_, event)) => announceNews event created earlier
    | (_, .error _) => []
  | _ => []

/-- What the earlier listeners bring about when they are told of the creations in a run. -/
def reactionsOf (earlier : List Listener) (engine : Engine) : List Call → List News
  | [] => []
  | call :: rest =>
    reactionsOfCall earlier engine call ++ reactionsOf earlier (engine.perform call).1 rest

/-- How the news of a call are heard behind listeners with the given reactions: in their order, except
that the reactions to a creation come before it. -/
inductive Overheard : List News → List News → List Event → Prop where
  | inOrder (news : List News) : Overheard [] news (news.map News.event)
  | created {creation : News} {reactions rest : List News} (creates : creation.isSettlement = false)
      (keys : ∀ item ∈ reactions ++ rest, item.key = creation.key) :
      Overheard reactions (creation :: (reactions ++ rest))
        (reactions.map News.event ++ creation.event :: rest.map News.event)

variable {tag : Value} {origin before between after engine : Engine} {call : Call}
  {events later : List Event} {earlier : List Listener} {listener other : Listener}

namespace Heard

theorem of_same (listeners : after.listeners = before.listeners)
    (heard : after.heard = before.heard) : Heard tag before [] after := by
  refine ⟨listeners, ?_⟩
  rw [heardAs, heard, ← heardAs, List.append_nil]

theorem refl (engine : Engine) : Heard tag engine [] engine := of_same rfl rfl

private theorem of_quiet (quiet : Quiet engine call after) : Heard tag engine [] after :=
  of_same quiet.listeners quiet.heard

theorem trans (left : Heard tag before events between) (right : Heard tag between later after) :
    Heard tag before (events ++ later) after := by
  refine ⟨right.listeners.trans left.listeners, ?_⟩
  rw [right.heard, left.heard, List.append_assoc]

private theorem placed (heard : Heard tag before events after)
    (placed : before.Placed earlier listener tag) : after.Placed earlier listener tag := by
  obtain ⟨later, listeners, others⟩ := placed.listeners
  exact ⟨placed.tag_eq, later, heard.listeners.trans listeners, others⟩

end Heard

/-- Passages by which the events of their news are heard under the tag can be followed. -/
theorem follows_heard (tag : Value) (earlier : List Listener) (listener : Listener)
    (origin : Engine) (busy : call.isQuiet = false) :
    Follows (fun engine => engine.Steady ∧ engine.Placed earlier listener tag)
      fun before news after =>
        Passage origin call before news after ∧ Heard tag before (news.map News.event) after := by
  refine ⟨fun engine => ⟨.refl engine, .refl engine⟩, ?_, ?_⟩
  · intro before between after first rest left right
    refine ⟨left.1.trans right.1, ?_⟩
    rw [List.map_append]
    exact left.2.trans right.2
  · intro before after news both fit
    exact ⟨both.1.steady busy fit.1, both.2.placed fit.2⟩

/-! ## One listener -/

private theorem hear_self (named : listener.tag? = some tag) (engine : Engine) (event : Event) :
    Heard tag engine [event] (engine.hear listener event) := by
  unfold hear
  rw [named]
  refine ⟨rfl, ?_⟩
  simp [heardAs]

private theorem hear_other (unnamed : other.tag? ≠ some tag) (engine : Engine) (event : Event) :
    Heard tag engine [] (engine.hear other event) := by
  unfold hear
  split
  · rename_i name named
    have different : name ≠ tag := by
      rintro rfl
      exact unnamed named
    refine ⟨rfl, ?_⟩
    simp [heardAs, different]
  · exact .refl engine

private theorem writeArchive_heard (engine : Engine)
    (attempt : Archive → Archive × Except Fault Bool) :
    Heard tag engine [] (engine.writeArchive attempt).1 := by
  unfold writeArchive
  split <;> exact .of_same rfl rfl

private theorem archiveTransfer_heard {id : Value} {archived : Transfer}
    (done : engine.archiveTransfer id = .ok (after, archived)) : Heard tag engine [] after := by
  obtain ⟨transfer, -, -, rfl, rfl⟩ := archiveTransfer_eq_ok done
  exact .of_same rfl rfl

theorem archiveEvent_heard (engine : Engine) (event : Event) :
    Heard tag engine [] (engine.archiveEvent event) := by
  have recorded : Heard tag engine [] (engine.writeArchive (·.writeEvent event.toEntry)).1 :=
    writeArchive_heard engine _
  unfold archiveEvent
  split
  · rename_i wrote
    rwa [wrote] at recorded
  · rename_i wrote
    rw [wrote] at recorded
    split
    · split
      · rename_i archiving
        exact (recorded.trans (archiveTransfer_heard archiving)).trans (writeArchive_heard _ _)
      · exact recorded
    · split
      · exact recorded.trans (writeArchive_heard _ _)
      · exact recorded

/-- A settlement itself is told to nobody. -/
theorem settle_heard (steady : engine.Steady) (id : Value) (settling : SettlementCall) :
    Heard tag engine [] (engine.settle id settling).1 := by
  have ended := settled steady id settling
  generalize engine.settle id settling = result at ended
  cases ended with
  | refused => exact .refl engine
  | unpaid => exact .of_same rfl rfl
  | done => exact .of_same rfl rfl

private theorem tellSettled_self (named : listener.tag? = some tag) (engine : Engine)
    (event : Event) :
    Heard tag engine [event] (tellSettled event engine listener) := by
  unfold tellSettled
  split
  · cases named
  · exact hear_self named engine event

private theorem tellSettled_other (unnamed : other.tag? ≠ some tag) (engine : Engine)
    (event : Event) :
    Heard tag engine [] (tellSettled event engine other) := by
  unfold tellSettled
  split
  · exact archiveEvent_heard engine event
  · exact hear_other unnamed engine event

/-! ## All listeners -/

private theorem tellSettled_others {listeners : List Listener}
    (unnamed : ∀ other ∈ listeners, other.tag? ≠ some tag) (engine : Engine) (event : Event) :
    Heard tag engine [] (listeners.foldl (tellSettled event) engine) := by
  induction listeners generalizing engine with
  | nil => exact .refl engine
  | cons other rest ih =>
      rw [List.forall_mem_cons] at unnamed
      exact (tellSettled_other unnamed.1 engine event).trans (ih unnamed.2 _)

private theorem announceSettled_heard (placed : engine.Placed earlier listener tag)
    (event : Event) :
    Heard tag engine [event] (engine.announceSettled event) := by
  obtain ⟨named, later, listeners, others⟩ := placed
  rw [List.forall_mem_append] at others
  unfold announceSettled
  rw [listeners, List.foldl_append, List.foldl_cons]
  have first := tellSettled_others others.1 engine event
  have own := tellSettled_self named (earlier.foldl (tellSettled event) engine) event
  exact (first.trans own).trans (tellSettled_others others.2 _ event)

private theorem serve_heard (steady : engine.Steady) (placed : engine.Placed earlier listener tag)
    (id : Value) (settling : SettlementCall) :
    Heard tag engine ((engine.settleNews id settling).map News.event)
      (engine.serve id settling).1 := by
  have settled : Heard tag engine [] (engine.settle id settling).1 :=
    settle_heard steady id settling
  unfold serve settleNews
  rcases ended : engine.settle id settling with ⟨next, problem | event⟩ <;> rw [ended] at settled
  · exact settled
  · exact settled.trans (announceSettled_heard (settled.placed placed) event)

private theorem tellCreated_other (steady : engine.Steady)
    (placed : engine.Placed earlier listener tag)
    (unnamed : other.tag? ≠ some tag) (event : Event) :
    Heard tag engine ((reactionNews event engine other).map News.event)
      (tellCreated event engine other) := by
  have heard := hear_other unnamed engine event
  cases other with
  | acceptor name caller =>
      exact heard.trans (serve_heard (steady.hear _ _) (heard.placed placed) _ _)
  | archivist => exact archiveEvent_heard engine event
  | observer => exact heard
  | deferred => exact heard
  | broken => exact heard

/-- A listener hears of a creation before it reacts. -/
theorem tellCreated_self (steady : engine.Steady) (placed : engine.Placed earlier listener tag)
    (event : Event) :
    Heard tag engine (event :: (reactionNews event engine listener).map News.event)
      (tellCreated event engine listener) := by
  have heard := hear_self placed.tag_eq engine event
  cases listener with
  | acceptor name caller =>
      exact heard.trans (serve_heard (steady.hear _ _) (heard.placed placed) _ _)
  | archivist => cases placed.tag_eq
  | observer => exact heard
  | deferred => exact heard
  | broken => exact heard

private theorem announceNews_append (event : Event) (engine : Engine) (left right : List Listener) :
    announceNews event engine (left ++ right) =
      announceNews event engine left ++
        announceNews event (left.foldl (tellCreated event) engine) right := by
  induction left generalizing engine with
  | nil => rfl
  | cons listener rest ih =>
      rw [List.cons_append, announceNews, ih, announceNews, List.append_assoc]
      rfl

private theorem announceCreated_heard (origin : Engine) (busy : call.isQuiet = false)
    (steady : engine.Steady) (placed : engine.Placed earlier listener tag) (event : Event) :
    ∃ rest, announceNews event engine engine.listeners =
        announceNews event engine earlier ++ rest ∧
      Heard tag engine
        ((announceNews event engine earlier).map News.event ++ event :: rest.map News.event)
        (engine.announceCreated event) := by
  obtain ⟨later, listeners, others⟩ := placed.listeners
  rw [List.forall_mem_append] at others
  have told {engine : Engine} {listeners : List Listener} (steady : engine.Steady)
      (placed : engine.Placed earlier listener tag)
      (unnamed : ∀ other ∈ listeners, other.tag? ≠ some tag) :=
    (follows_heard tag earlier listener origin busy).tellCreated
      (fun other member engine fit =>
        ⟨tellCreated_passage origin call fit.1 event other,
          tellCreated_other fit.1 fit.2 (unnamed other member) event⟩) ⟨steady, placed⟩
  have first := told steady placed others.1
  have first_steady := first.1.steady busy steady
  have first_placed := first.2.placed placed
  have own := tellCreated_self first_steady first_placed event
  have own_steady :=
    (tellCreated_passage origin call first_steady event listener).steady busy first_steady
  have last := told own_steady (own.placed first_placed) others.2
  refine ⟨announceNews event (earlier.foldl (tellCreated event) engine) (listener :: later), ?_, ?_⟩
  · rw [listeners, announceNews_append]
  · unfold announceCreated
    rw [listeners, List.foldl_append, List.foldl_cons, announceNews, List.map_append]
    exact first.2.trans (own.trans last.2)

/-! ## Reactions -/

/-- Whatever listeners bring about is the reaction of one of them. -/
theorem mem_announceNews (origin : Engine) (busy : call.isQuiet = false) {event : Event}
    {listeners : List Listener} {item : News} (steady : engine.Steady)
    (member : item ∈ announceNews event engine listeners) :
    ∃ other ∈ listeners, ∃ next : Engine, next.Steady ∧ item ∈ reactionNews event next other := by
  induction listeners generalizing engine with
  | nil => cases member
  | cons other rest ih =>
      rcases List.mem_append.mp member with first | later
      · exact ⟨other, List.mem_cons_self, engine, steady, first⟩
      · have next := (tellCreated_passage origin call steady event other).steady busy steady
        obtain ⟨reacting, among, reached⟩ := ih next later
        exact ⟨reacting, List.mem_cons_of_mem other among, reached⟩

/-- The news of a settlement are about its transfer. -/
theorem key_of_settleNews (steady : engine.Steady) {id : Value} {settling : SettlementCall}
    {item : News} (member : item ∈ engine.settleNews id settling) : item.key = id.canonical := by
  have ended := settled steady id settling
  unfold settleNews at member
  generalize engine.settle id settling = result at ended member
  cases ended with
  | refused => cases member
  | unpaid => cases member
  | done allows =>
      rw [List.mem_singleton.mp member]
      exact (steady.transfers _ _ allows.transfer_found).id_eq

/-- A reaction to a creation is about the transfer that was created. -/
theorem key_of_reactionNews (steady : engine.Steady) {event : Event} {item : News}
    (member : item ∈ reactionNews event engine other) :
    item.key = event.transfer.canonical := by
  cases other with
  | acceptor tag caller => exact key_of_settleNews (steady.hear _ _) member
  | _ => cases member

/-! ## Calls and runs -/

private theorem deposit_heard (engine : Engine) (request : CreateRequest) :
    Heard tag engine [] (engine.deposit request).1 := by
  have ended := deposited engine request
  generalize engine.deposit request = result at ended
  cases ended with
  | refused => exact .of_same rfl rfl
  | unpaid => exact .of_same rfl rfl
  | done => exact .of_same rfl rfl

private theorem create_heard (steady : engine.Steady) (placed : engine.Placed earlier listener tag)
    (request : CreateRequest) :
    ∃ events, Overheard (reactionsOfCall earlier engine (.create request))
        (engine.createNews request) events ∧
      Heard tag engine events (engine.create request).1 := by
  have busy : (Call.create request).isQuiet = false := rfl
  have booked : Heard tag engine [] (engine.deposit request).1 := deposit_heard engine request
  have next_steady := (deposit_passage engine request).steady busy steady
  have ended := deposited engine request
  unfold create createNews depositNews reactionsOfCall
  dsimp only
  rcases deposit_eq : engine.deposit request with ⟨next, problem | ⟨transfer, event⟩⟩ <;>
    rw [deposit_eq] at booked next_steady ended
  · exact ⟨[], .inOrder [], booked⟩
  · obtain ⟨rest, news_eq, heard⟩ :=
      announceCreated_heard engine busy next_steady (booked.placed placed) event
    refine ⟨_, ?_, booked.trans heard⟩
    dsimp only
    rw [news_eq]
    refine @Overheard.created ⟨engine, event⟩ (announceNews event next earlier) rest ?_ ?_
    · cases ended with
      | done => rfl
    · intro item member
      rw [← news_eq] at member
      obtain ⟨other, -, reached, steady, reaction⟩ :=
        mem_announceNews engine busy next_steady member
      exact key_of_reactionNews steady reaction

private theorem sweep_heard (steady : engine.Steady) (placed : engine.Placed earlier listener tag)
    (pool caller : Value) :
    Heard tag engine ((engine.newsOfCall (.sweep pool caller)).map News.event)
      (engine.sweep pool caller).1 := by
  have busy : (Call.sweep pool caller).isQuiet = false := rfl
  have swept := (follows_heard tag earlier listener engine busy).sweep
    (fun next id fit => ⟨serve_passage _ _ fit.1 id (.expire caller),
      serve_heard fit.1 fit.2 id (.expire caller)⟩)
    (fun next id refusal => ⟨writeArchive_passage _ _ next _, writeArchive_heard next _⟩)
    pool ⟨steady, placed⟩
  exact swept.2

/-- A call that adds no other listener with the tag is overheard, and the listener stays in its
place. -/
theorem perform_heard (steady : engine.Steady) (placed : engine.Placed earlier listener tag)
    {call : Call} (others : ∀ other, call = .listen other → other.tag? ≠ some tag) :
    (engine.perform call).1.Placed earlier listener tag ∧
      ∃ events, Overheard (reactionsOfCall earlier engine call) (engine.newsOfCall call) events ∧
        (engine.perform call).1.heardAs tag = engine.heardAs tag ++ events := by
  have kept {next : Engine} {reactions news : List News} {events : List Event}
      (heard : Heard tag engine events next) (overheard : Overheard reactions news events) :
      next.Placed earlier listener tag ∧ ∃ events, Overheard reactions news events ∧
        next.heardAs tag = engine.heardAs tag ++ events :=
    ⟨heard.placed placed, events, overheard, heard.heard⟩
  cases call with
  | create request =>
      obtain ⟨events, overheard, heard⟩ := create_heard steady placed request
      exact kept heard overheard
  | settle id settling => exact kept (serve_heard steady placed id settling) (.inOrder _)
  | sweep pool caller => exact kept (sweep_heard steady placed pool caller) (.inOrder _)
  | listen other =>
      obtain ⟨later, listeners, unnamed⟩ := placed.listeners
      refine ⟨⟨placed.tag_eq, later ++ [other], ?_, ?_⟩, [], .inOrder [], (List.append_nil _).symm⟩
      · unfold perform
        dsimp only
        rw [listeners, List.append_assoc, List.cons_append]
      · intro added member
        rw [← List.append_assoc] at member
        rcases List.mem_append.mp member with old | new
        · exact unnamed added old
        · exact List.mem_singleton.mp new ▸ others other rfl
  | closeArchive =>
      have same : Heard tag engine [] (engine.perform .closeArchive).1 := by
        unfold perform changed closeArchive
        cases engine.archive <;> exact .of_same rfl rfl
      exact kept same (.inOrder [])
  | _ => exact kept (.of_quiet (perform_quiet engine rfl)) (.inOrder [])

/-- Behind listeners that do not react, a listener hears the news in their order. -/
theorem Overheard.events_eq {news : List News} (overheard : Overheard [] news events) :
    events = news.map News.event := by
  cases overheard with
  | inOrder => rfl
  | created => rfl

end Engine
end Escrow
