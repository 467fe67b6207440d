import Escrow.Proofs.Engine.Chronicle
import Escrow.Proofs.Engine.Hearing

/-!
# Order of delivery

Of a transfer that is created after it was added, a listener hears the creation once, and the
settlement once if there is one.  The creation comes first, unless a listener before it settles the
transfer on being told of the creation; then the settlement comes first, and the creation next.
-/

namespace Escrow
namespace Engine

/-- The events of an id. -/
def heardOf (key : Value) (events : List Event) : List Event :=
  events.filter fun event => decide (event.transfer.canonical = key)

/-- How the news of an id are heard behind listeners with the given reactions to them: in their order if
there are none, and else the settlement, which is the reaction, ahead of the creation. -/
inductive Relayed : List News → List News → List Event → Prop where
  | inOrder (news : List News) : Relayed [] news (news.map News.event)
  | ahead (creation settlement : News) :
      Relayed [settlement] [creation, settlement] [settlement.event, creation.event]

variable {earlier : List Listener} {listener : Listener} {reactions further news later : List News}
  {events heard : List Event} {tag key : Value} {engine : Engine}

private theorem heardOf_append (key : Value) (events heard : List Event) :
    heardOf key (events ++ heard) = heardOf key events ++ heardOf key heard := by
  simp [heardOf]

private theorem heardOf_map (key : Value) (news : List News) :
    heardOf key (news.map News.event) = (newsAt key news).map News.event := by
  rw [heardOf, List.filter_map]
  rfl

private theorem newsAt_self (same : ∀ item ∈ news, item.key = key) : newsAt key news = news := by
  rw [newsAt, List.filter_eq_self]
  simpa using same

private theorem newsAt_other (differ : ∀ item ∈ news, item.key ≠ key) : newsAt key news = [] := by
  rw [newsAt, List.filter_eq_nil_iff]
  simpa using differ

/-- What is overheard of a call is overheard of every id. -/
theorem Overheard.ofKey (overheard : Overheard reactions news events) (key : Value) :
    Overheard (newsAt key reactions) (newsAt key news) (heardOf key events) := by
  cases overheard with
  | inOrder =>
      rw [heardOf_map]
      exact .inOrder _
  | @created creation _ rest creates keys =>
      have events_eq : reactions.map News.event ++ creation.event :: rest.map News.event =
          (reactions ++ creation :: rest).map News.event := by
        rw [List.map_append, List.map_cons]
      rw [events_eq, heardOf_map]
      have told : ∀ item ∈ creation :: (reactions ++ rest), item.key = creation.key := by
        rw [List.forall_mem_cons]
        exact ⟨rfl, keys⟩
      have heard : ∀ item ∈ reactions ++ creation :: rest, item.key = creation.key := by
        intro item member
        exact told item (List.perm_middle.mem_iff.mp member)
      have reacted : ∀ item ∈ reactions, item.key = creation.key := fun item member =>
        keys item (List.mem_append_left rest member)
      by_cases own : creation.key = key
      · rw [newsAt_self (own ▸ reacted), newsAt_self (own ▸ told), newsAt_self (own ▸ heard),
          ← events_eq]
        exact .created creates keys
      · have other {item : News} (about : item.key = creation.key) : item.key ≠ key :=
          fun same => own (about.symm.trans same)
        rw [newsAt_other fun item member => other (reacted item member),
          newsAt_other fun item member => other (told item member),
          newsAt_other fun item member => other (heard item member)]
        exact .inOrder []

/-- What is overheard of a call is relayed with what was before. -/
theorem Relayed.append {record : Option Transfer} (relayed : Relayed reactions news events)
    (overheard : Overheard further later heard) (chronicle : Chronicle record (news ++ later)) :
    Relayed (reactions ++ further) (news ++ later) (events ++ heard) := by
  cases overheard with
  | inOrder =>
      rw [List.append_nil]
      cases relayed with
      | inOrder =>
          rw [← List.map_append]
          exact .inOrder _
      | ahead creation settlement =>
          cases later with
          | nil => exact .ahead creation settlement
          | cons item rest => cases chronicle
  | @created creation _ rest creates keys =>
      -- Nothing was told of the id before its creation.
      obtain ⟨rfl, short⟩ := chronicle.of_creation creates
      cases relayed with
      | inOrder =>
          cases further with
          | nil => exact .inOrder (creation :: rest)
          | cons settlement others =>
              obtain ⟨rfl, rfl⟩ : others = [] ∧ rest = [] := by
                simpa using short
              exact .ahead creation settlement

/-- Since it was added to the base, the listener behind the earlier ones has been relayed the news of
every id that was free then. -/
structure Attends (base : Engine) (earlier : List Listener) (listener : Listener) (tag : Value)
    (reactions news : List News) (engine : Engine) : Prop where
  tidy : engine.Tidy
  placed : engine.Placed earlier listener tag
  relayed : ∃ heard, engine.heardAs tag = base.heardAs tag ++ heard ∧
    ∀ id, base.lastRecord? id = none →
      Chronicle (engine.lastRecord? id) (newsAt id.canonical news) ∧
        Relayed (newsAt id.canonical reactions) (newsAt id.canonical news)
          (heardOf id.canonical heard)

variable {base : Engine}

theorem Attends.start (tidy : base.Tidy) (placed : base.Placed earlier listener tag) :
    Attends base earlier listener tag [] [] base := by
  refine ⟨tidy, placed, [], (List.append_nil _).symm, ?_⟩
  intro id free
  rw [free]
  exact ⟨.unknown, .inOrder []⟩

private theorem Attends.perform (attends : Attends base earlier listener tag reactions news engine)
    (learns : engine.LearnsTime) {call : Call}
    (others : ∀ other, call = .listen other → other.tag? ≠ some tag) :
    Attends base earlier listener tag (reactions ++ reactionsOfCall earlier engine call)
      (news ++ engine.newsOfCall call) (engine.perform call).1 := by
  have steady : engine.Steady := ⟨attends.tidy, learns⟩
  have passage := perform_passage steady call
  obtain ⟨placed, events, overheard, told⟩ := perform_heard steady attends.placed others
  obtain ⟨heard, heard_eq, relayed⟩ := attends.relayed
  refine ⟨passage.tidy attends.tidy, placed, heard ++ events, ?_, ?_⟩
  · rw [told, heard_eq, List.append_assoc]
  · intro id free
    have chronicle := @Passage.sustains engine engine (engine.perform call).1 call
      (engine.newsOfCall call)
      (fun news engine => Chronicle (engine.lastRecord? id) (newsAt id.canonical news))
      (fun _ _ _ _ step tidy => step.chronicle tidy) passage attends.tidy news (relayed id free).1
    refine ⟨chronicle, ?_⟩
    rw [newsAt_append] at chronicle
    rw [newsAt_append, newsAt_append, heardOf_append]
    exact (relayed id free).2.append (overheard.ofKey id.canonical) chronicle

private theorem Attends.run (attends : Attends base earlier listener tag reactions news engine)
    {calls : List Call} (learns : Along (fun engine _ => engine.LearnsTime) engine calls)
    (others : ∀ other, .listen other ∈ calls → other.tag? ≠ some tag) :
    Attends base earlier listener tag (reactions ++ reactionsOf earlier engine calls)
      (news ++ engine.newsOf calls) (engine.run calls) := by
  induction calls generalizing engine reactions news with
  | nil =>
      rw [reactionsOf, newsOf, List.append_nil, List.append_nil]
      exact attends
  | cons call rest ih =>
      have first : ∀ other, call = .listen other → other.tag? ≠ some tag := fun other same =>
        others other (same ▸ List.mem_cons_self)
      rw [reactionsOf, newsOf, run_cons, ← List.append_assoc, ← List.append_assoc]
      exact ih (attends.perform learns.1 first) learns.2 fun other later =>
        others other (.tail _ later)

/-- From when it is added on, a listener hears of every transfer that is created later the creation
once and, if it is settled, the settlement once: in this order, unless a listener before it settles the
transfer on being told of the creation, and then in the opposite one. -/
theorem heard_of_run {engine : Engine} (blank : engine.IsBlank) {past later : List Call}
    {listener : Listener} {tag : Value} (tagged : listener.tag? = some tag)
    (unused : ∀ other ∈ (engine.run past).listeners, other.tag? ≠ some tag)
    (others : ∀ other, .listen other ∈ later → other.tag? ≠ some tag)
    (learned : Along (fun engine _ => engine.LearnsTime) engine past)
    (learns : Along (fun engine _ => engine.LearnsTime) (engine.run past)
      (.listen listener :: later)) :
    ∃ heard, ((engine.run past).run (.listen listener :: later)).heardAs tag =
        (engine.run past).heardAs tag ++ heard ∧
      ∀ id, (engine.run past).lastRecord? id = none →
        Chronicle (((engine.run past).run (.listen listener :: later)).lastRecord? id)
            (newsAt id.canonical ((engine.run past).newsOf (.listen listener :: later))) ∧
          Relayed
            (newsAt id.canonical (reactionsOf (engine.run past).listeners (engine.run past)
              (.listen listener :: later)))
            (newsAt id.canonical ((engine.run past).newsOf (.listen listener :: later)))
            (heardOf id.canonical heard) := by
  have tidy := blank.tidy.run learned
  generalize engine.run past = base at unused learns tidy ⊢
  have added : (base.perform (.listen listener)).1.Placed base.listeners listener tag := by
    refine ⟨tagged, [], rfl, ?_⟩
    rwa [List.append_nil]
  have steady : base.Steady := ⟨tidy, learns.1⟩
  have start := Attends.start ((perform_passage steady _).tidy tidy) added
  exact (start.run learns.2 others).relayed

/-- Olga accepts the transfers of her pool as they are announced; Carol does not in hers. -/
def sampleOpening : List Call :=
  [.register samplePool,
    .register { samplePool with id := .text "q", operator := .text "carol" },
    .listen (.acceptor (.text "a") (.text "olga"))]

/-- A listener is added, then a transfer is created in either pool, and Carol accepts hers. -/
def sampleAttendance : List Call :=
  [.listen (.observer (.text "b")),
    .create (sampleRequest "t1" 300),
    .create { sampleRequest "t2" 200 with pool := .text "q" },
    .settle (.text "t2") (.accept (.text "carol"))]

/-- Olga's acceptance is the only reaction.  Of her transfer the listener hears the settlement before
the creation, and of Carol's the creation before the settlement. -/
theorem heard_sample :
    ∃ heard, ((sampleEngine.run sampleOpening).run sampleAttendance).heardAs (.text "b") = heard ∧
      (∀ id, (sampleEngine.run sampleOpening).lastRecord? id = none →
        Relayed
          (newsAt id.canonical (reactionsOf [.acceptor (.text "a") (.text "olga")]
            (sampleEngine.run sampleOpening) sampleAttendance))
          (newsAt id.canonical ((sampleEngine.run sampleOpening).newsOf sampleAttendance))
          (heardOf id.canonical heard)) ∧
      (reactionsOf [.acceptor (.text "a") (.text "olga")] (sampleEngine.run sampleOpening)
        sampleAttendance).map News.key = [.text "t1"] ∧
      (heardOf (.text "t1") heard).map Event.kindName = ["settled", "created"] ∧
      (heardOf (.text "t2") heard).map Event.kindName = ["created", "settled"] := by
  have orderly := isFresh_sample.orderly
  have listeners : (sampleEngine.run sampleOpening).listeners =
      [.acceptor (.text "a") (.text "olga")] := by
    decide +kernel
  have unused : ∀ other ∈ (sampleEngine.run sampleOpening).listeners,
      other.tag? ≠ some (.text "b") := by
    decide +kernel
  have untold : (sampleEngine.run sampleOpening).heardAs (.text "b") = [] := by decide +kernel
  have reacted : (reactionsOf [.acceptor (.text "a") (.text "olga")]
      (sampleEngine.run sampleOpening) sampleAttendance).map News.key = [.text "t1"] := by
    decide +kernel
  have told (id : String) (names : List String)
      (shown : (heardOf (.text id) (((sampleEngine.run sampleOpening).run sampleAttendance).heardAs
        (.text "b"))).map Event.kindName = names) {heard : List Event}
      (heard_eq : ((sampleEngine.run sampleOpening).run sampleAttendance).heardAs (.text "b") =
        heard) : (heardOf (.text id) heard).map Event.kindName = names :=
    heard_eq ▸ shown
  obtain ⟨heard, heard_eq, relayed⟩ := @heard_of_run sampleEngine isFresh_sample.isBlank
    sampleOpening _ (.observer (.text "b")) (.text "b") rfl unused (by simp)
    (orderly.learnsTime_along _) ((orderly.run _).learnsTime_along sampleAttendance)
  rw [untold, List.nil_append] at heard_eq
  rw [listeners] at relayed
  exact ⟨heard, heard_eq, fun id free => (relayed id free).2, reacted,
    told "t1" _ (by decide +kernel) heard_eq, told "t2" _ (by decide +kernel) heard_eq⟩

/-- Of the transfer in Olga's pool, which did not exist when the listener was added, it hears the
settlement before the creation. -/
theorem overtaken_sample :
    (sampleEngine.run sampleOpening).lastRecord? (.text "t1") = none ∧
      (heardOf (.text "t1") (((sampleEngine.run sampleOpening).run sampleAttendance).heardAs
        (.text "b"))).map Event.kindName = ["settled", "created"] := by
  decide +kernel

end Engine
end Escrow
