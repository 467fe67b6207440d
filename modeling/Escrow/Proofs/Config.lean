import Escrow.Config
import Escrow.Proofs.Answer

/-!
# Configurations that are read back

A written configuration is meant to be read back as the same texts, whole numbers, lists and
mappings.  From a document that holds them, the configuration is loaded: its settings are those that
were written, and so are its definitions.
-/

namespace Escrow

/-- If something can be made of each item whose reading is the value next to it, it can be made of
all of them. -/
theorem exists_mapM {m : Type → Type} [Monad m] [LawfulMonad m] {α β γ : Type} {make : α → m β}
    {read : β → γ} {items : List α} {values : List γ}
    (each : List.Forall₂ (fun item value => ∃ made, make item = pure made ∧ read made = value)
      items values) :
    ∃ all, items.mapM make = pure all ∧ all.map read = values := by
  induction each with
  | nil => exact ⟨[], rfl, rfl⟩
  | cons first _ ih =>
      obtain ⟨made, made_eq, rfl⟩ := first
      obtain ⟨all, all_eq, rfl⟩ := ih
      refine ⟨made :: all, ?_, rfl⟩
      rw [List.mapM_cons, made_eq, all_eq, pure_bind, pure_bind]

namespace Text

private theorem unifyBreaks_eq_self {chars : List Char} (unbroken : '\r' ∉ chars) :
    unifyBreaks chars = chars := by
  induction chars with
  | nil => rfl
  | cons c rest ih =>
      rw [List.mem_cons, not_or] at unbroken
      have other : c ≠ '\r' := fun same => unbroken.1 same.symm
      have kept : unifyBreaks (c :: rest) = c :: unifyBreaks rest := by
        simp [unifyBreaks, other]
      rw [kept, ih unbroken.2]

/-- A text whose lines end in line feeds is the text of the file that it is written to. -/
theorem ofContent_toUTF8 {text : String} (unbroken : '\r' ∉ text.toList) :
    ofContent text.toUTF8 = .ok text := by
  have decoded : decode text.toUTF8 = .ok text := by
    have valid : text.toUTF8.IsValidUTF8 := text.isValidUTF8
    unfold decode String.fromUTF8?
    rw [dif_pos valid]
    rfl
  rw [ofContent, decoded, Except.map, unifyBreaks_eq_self unbroken, String.ofList_toList]

end Text

namespace Yaml

namespace Document

/-- Does the part stand for the value, made of texts, whole numbers, lists and mappings that are
nested less than so deep? -/
def holds (document : Document) : Nat → Nat → Value → Bool
  | 0, _, _ => false
  | depth + 1, number, value =>
    match document.parts[number]?, value with
    | some (.datum (.text held)), .text s => decide (held = s)
    | some (.datum (.int held)), .int n => decide (held = n)
    | some (.list items), .list values =>
      decide (List.Forall₂ (fun item value => document.holds depth item value) items values)
    | some (.mapping entries), .mapping values =>
      decide (List.Forall₂
        (fun entry value =>
          document.holds depth entry.1 value.1 ∧ document.holds depth entry.2 value.2)
        entries values)
    | _, _ => false

variable {document : Document} {depth number : Nat} {value : Value}

theorem part_of_holds_text {s : String} (holds : document.holds depth number (.text s)) :
    document.parts[number]? = some (.datum (.text s)) := by
  cases depth with
  | zero => cases holds
  | succ depth =>
      unfold Document.holds at holds
      split at holds <;> simp_all

theorem part_of_holds_int {n : Int} (holds : document.holds depth number (.int n)) :
    document.parts[number]? = some (.datum (.int n)) := by
  cases depth with
  | zero => cases holds
  | succ depth =>
      unfold Document.holds at holds
      split at holds <;> simp_all

theorem part_of_holds_list {values : List Value}
    (holds : document.holds (depth + 1) number (.list values)) :
    ∃ items, document.parts[number]? = some (.list items) ∧
      List.Forall₂ (fun item value => document.holds depth item value) items values := by
  unfold Document.holds at holds
  split at holds <;> simp_all

theorem part_of_holds_mapping {values : List (Value × Value)}
    (holds : document.holds (depth + 1) number (.mapping values)) :
    ∃ entries, document.parts[number]? = some (.mapping entries) ∧
      List.Forall₂
        (fun entry value =>
          document.holds depth entry.1 value.1 ∧ document.holds depth entry.2 value.2)
        entries values := by
  unfold Document.holds at holds
  split at holds <;> simp_all

/-- The four kinds of values that a part can stand for. -/
theorem plain_of_holds (holds : document.holds depth number value) :
    (∃ s, value = .text s) ∨ (∃ n, value = .int n) ∨ (∃ values, value = .list values) ∨
      ∃ values, value = .mapping values := by
  cases depth with
  | zero => cases holds
  | succ depth =>
      unfold Document.holds at holds
      split at holds <;> simp_all

private theorem holds_succ (holds : document.holds depth number value) :
    document.holds (depth + 1) number value := by
  induction depth generalizing number value with
  | zero => cases holds
  | succ depth ih =>
      rcases plain_of_holds holds with ⟨s, rfl⟩ | ⟨n, rfl⟩ | ⟨values, rfl⟩ | ⟨values, rfl⟩
      · unfold Document.holds
        rw [part_of_holds_text holds]
        simp
      · unfold Document.holds
        rw [part_of_holds_int holds]
        simp
      · obtain ⟨items, part, held⟩ := part_of_holds_list holds
        unfold Document.holds
        rw [part]
        exact decide_eq_true (held.imp fun _ _ inside => ih inside)
      · obtain ⟨entries, part, held⟩ := part_of_holds_mapping holds
        unfold Document.holds
        rw [part]
        exact decide_eq_true (held.imp fun _ _ inside => ⟨ih inside.1, ih inside.2⟩)

theorem holds_mono {deeper : Nat} (le : depth ≤ deeper)
    (holds : document.holds depth number value) : document.holds deeper number value := by
  induction le with
  | refl => exact holds
  | step _ ih => exact holds_succ ih

/-! ## Trees -/

private theorem values_eq_map (trees : List Tree) : Tree.values trees = trees.map Tree.value := by
  induction trees with
  | nil => rfl
  | cons tree rest ih => rw [Tree.values, ih, List.map_cons]

private theorem entryValues_eq_map (trees : List (Tree × Tree)) :
    Tree.entryValues trees = trees.map fun entry => (entry.1.value, entry.2.value) := by
  induction trees with
  | nil => rfl
  | cons entry rest ih => rw [Tree.entryValues, ih, List.map_cons]

/-- The tree at a part that stands for a value has this value. -/
theorem exists_tree (holds : document.holds depth number value) :
    ∃ tree, document.tree? depth number = some tree ∧ tree.value = value := by
  induction depth generalizing number value with
  | zero => cases holds
  | succ depth ih =>
      unfold tree?
      rcases plain_of_holds holds with ⟨s, rfl⟩ | ⟨n, rfl⟩ | ⟨values, rfl⟩ | ⟨values, rfl⟩
      · rw [part_of_holds_text holds]
        exact ⟨_, rfl, rfl⟩
      · rw [part_of_holds_int holds]
        exact ⟨_, rfl, rfl⟩
      · obtain ⟨items, part, held⟩ := part_of_holds_list holds
        obtain ⟨trees, made, rfl⟩ := exists_mapM (held.imp fun _ _ inside => ih inside)
        rw [part]
        dsimp only
        rw [made]
        exact ⟨.list (some number) trees, rfl, by rw [Tree.value, values_eq_map]⟩
      · obtain ⟨entries, part, held⟩ := part_of_holds_mapping holds
        have each : List.Forall₂
            (fun entry value => ∃ made : Tree × Tree,
              (do return (← document.tree? depth entry.1, ← document.tree? depth entry.2)) =
                  some made ∧ (made.1.value, made.2.value) = value)
            entries values := by
          refine held.imp fun entry value inside => ?_
          obtain ⟨key, key_made, key_value⟩ := ih inside.1
          obtain ⟨tree, tree_made, tree_value⟩ := ih inside.2
          refine ⟨(key, tree), ?_, Prod.ext key_value tree_value⟩
          rw [key_made, tree_made]
          rfl
        obtain ⟨trees, made, rfl⟩ := exists_mapM each
        rw [part]
        dsimp only
        rw [made]
        exact ⟨.mapping (some number) trees, rfl, by rw [Tree.value, entryValues_eq_map]⟩

theorem value_top_of_text {s : String}
    (part : document.parts[number]? = some (.datum (.text s)))
    (depth : Nat) : (document.top depth number).value = .text s := by
  cases depth <;> simp [top, part, Tree.value]

theorem value_top_of_int {n : Int} (part : document.parts[number]? = some (.datum (.int n)))
    (depth : Nat) : (document.top depth number).value = .int n := by
  cases depth <;> simp [top, part, Tree.value]

end Document

/-! ## Reading back -/

/-- What is written for the value is read back as the value. -/
def ReadsBack (value : Value) : Prop :=
  ∃ text document, Text.ofContent (write value).toUTF8 = .ok text ∧
    read text = .ok (some document) ∧ document.holds greatestDepth document.root value

/-- Whether a value is read back can be seen from the text that is written for it. -/
theorem readsBack_of_text {value : Value} {text : String} (written : write value = text)
    (unbroken : '\r' ∉ text.toList)
    (held : (read text).toOption.join.any fun document =>
      document.holds greatestDepth document.root value) : ReadsBack value := by
  have content : Text.ofContent (write value).toUTF8 = .ok text := by
    rw [written]
    exact Text.ofContent_toUTF8 unbroken
  cases found : read text with
  | error fault => simp [found, Except.toOption] at held
  | ok document? =>
      cases document? with
      | none => simp [found, Except.toOption] at held
      | some document =>
          rw [found] at held
          exact ⟨text, document, content, found, held⟩

end Yaml

namespace Config

open Yaml (Document)

variable {document : Document} {depth : Nat}

/-- The part under a name is the one that stands for the value there. -/
theorem partAt?_of_holds {entries : List (Nat × Nat)} {values : List (Value × Value)}
    (held : List.Forall₂
      (fun entry value =>
        document.holds depth entry.1 value.1 ∧ document.holds depth entry.2 value.2)
      entries values)
    (keys : ∀ value ∈ values, ∃ s, value.1 = .text s) {name : String} {value : Value}
    (found : Value.find? (.text name) values = some value) :
    ∃ number, partAt? document name entries = some number ∧ document.holds depth number value := by
  induction held with
  | nil => cases found
  | @cons entry first entries rest pair _ ih =>
      rw [List.forall_mem_cons] at keys
      obtain ⟨⟨s, key⟩, keys⟩ := keys
      obtain ⟨key_holds, holds⟩ := pair
      rw [key] at key_holds
      have top := Document.value_top_of_text (Document.part_of_holds_text key_holds) 0
      unfold Value.find? at found
      rw [key] at found
      unfold partAt?
      rw [List.find?_cons]
      dsimp only
      rw [top]
      by_cases same : s = name
      · simp only [Value.same_text, same, decide_true, if_true, Option.some.injEq] at found ⊢
        exact ⟨entry.2, rfl, found ▸ holds⟩
      · simp only [Value.same_text, same, decide_false] at found ⊢
        exact ih keys found

/-- The settings of a written configuration. -/
def writtenSettings (limit : Int) (history : String) : List (Value × Value) :=
  [(.text memoLimitName, .int limit), (.text historyPathName, .text history)]

/-- A written configuration, with data about its making. -/
def writtenEntries (metadata : Value) (limit : Int) (history : String) (definitions : List Value) :
    List (Value × Value) :=
  [(.text "metadata", metadata), (.text "engine", .mapping (writtenSettings limit history)),
    (.text "pools", .list definitions)]

variable {limit : Int} {history : String} {definitions tops : List Value}

/-- What is written for the settings and any list of definitions makes a configuration. -/
theorem ofValue_written (nonneg : 0 ≤ limit) (history : String) (tops : List Value) :
    ofValue (.mapping [(.text "engine", .mapping (writtenSettings limit history)),
      (.text "pools", .list tops)]) =
      .ok ⟨.number limit, .text history, tops, nonneg, none⟩ := by
  have unknown : unknownNames (.mapping (writtenSettings limit history)) = .ok [] := by
    simp [unknownNames, writtenSettings, Value.elements?, distinct, Value.sorted?, pure,
      Except.pure]
  have settings : (Value.field "engine" [(.text "engine", .mapping (writtenSettings limit history)),
      (.text "pools", .list tops)]).orElse (.mapping []) =
      .mapping (writtenSettings limit history) := by
    simp [Value.field, Value.find?, Value.orElse, Value.isTruthy, writtenSettings]
  have pools : ((Value.field "pools" [(.text "engine", .mapping (writtenSettings limit history)),
      (.text "pools", .list tops)]).orElse (.list [])).elements? = some tops := by
    cases tops <;> simp [Value.field, Value.find?, Value.orElse, Value.isTruthy, Value.elements?]
  have made : make (.int limit) (.text history) [] =
      .ok ⟨.number limit, .text history, [], nonneg, none⟩ := by
    unfold make Value.whole?
    exact dif_pos nonneg
  have limit_set : setting memoLimitName (.int defaultMemoLimit)
      (.mapping (writtenSettings limit history)) = .ok (.int limit) := by
    simp [setting, writtenSettings, Value.fieldOr, Value.find?]
  have history_set : setting historyPathName (.text defaultHistoryPath)
      (.mapping (writtenSettings limit history)) = .ok (.text history) := by
    simp [setting, writtenSettings, Value.fieldOr, Value.find?, memoLimitName, historyPathName]
  simp [ofValue, Value.isTruthy, Value.fields, settings, unknown, limit_set, history_set, made,
    pools, bind, Except.bind, Except.mapError, pure, Except.pure]

/-- The settings in a document are read whole. -/
theorem settings_of_holds {number : Nat}
    (holds : document.holds (depth + 2) number (.mapping (writtenSettings limit history))) :
    (document.top settingsDepth number).value = .mapping (writtenSettings limit history) ∧
      ∃ tree, historyOf document (some number) = .ok (some tree) ∧ tree.value = .text history := by
  obtain ⟨entries, part, held⟩ := Document.part_of_holds_mapping holds
  have keys : ∀ value ∈ writtenSettings limit history, ∃ s, value.1 = .text s := by
    simp [writtenSettings]
  have found : Value.find? (.text historyPathName) (writtenSettings limit history) =
      some (.text history) := by
    simp [writtenSettings, Value.find?, memoLimitName, historyPathName]
  obtain ⟨place, place_eq, place_holds⟩ := partAt?_of_holds held keys found
  have place_part := Document.part_of_holds_text place_holds
  constructor
  · unfold writtenSettings at held ⊢
    obtain ⟨first, rest, ⟨limit_key, limit_value⟩, rest_held, rfl⟩ :=
      List.forall₂_cons_right_iff.mp held
    obtain ⟨second, none, ⟨history_key, history_value⟩, none_held, rfl⟩ :=
      List.forall₂_cons_right_iff.mp rest_held
    obtain rfl := List.forall₂_nil_right_iff.mp none_held
    unfold settingsDepth Document.top
    rw [part]
    simp only [List.map_cons, List.map_nil, Yaml.Tree.value, Yaml.Tree.entryValues,
      Document.value_top_of_text (Document.part_of_holds_text limit_key),
      Document.value_top_of_int (Document.part_of_holds_int limit_value),
      Document.value_top_of_text (Document.part_of_holds_text history_key),
      Document.value_top_of_text (Document.part_of_holds_text history_value)]
  · refine ⟨.datum none (.text history), ?_, rfl⟩
    have tree_eq : treeAt document place = .ok (.datum none (.text history)) := by
      unfold treeAt Yaml.greatestDepth Document.tree?
      rw [place_part]
      rfl
    unfold historyOf
    simp only [Option.bind_some, part, place_eq]
    rw [Option.mapM_some, tree_eq]
    rfl

/-- The definitions in a document are read whole, and their list is seen from above. -/
theorem definitions_of_holds {number : Nat} (le : depth ≤ Yaml.greatestDepth)
    (holds : document.holds (depth + 1) number (.list definitions)) :
    (∃ tops, (document.top 1 number).value = .list tops) ∧
      ∃ trees, definitionsOf document (some number) = .ok trees ∧
        trees.map Yaml.Tree.value = definitions := by
  obtain ⟨items, part, held⟩ := Document.part_of_holds_list holds
  constructor
  · unfold Document.top
    rw [part]
    exact ⟨_, rfl⟩
  · have each : List.Forall₂
        (fun item value => ∃ tree, treeAt document item = .ok tree ∧ tree.value = value)
        items definitions := by
      refine held.imp fun item value inside => ?_
      obtain ⟨tree, made, tree_value⟩ := Document.exists_tree (Document.holds_mono le inside)
      exact ⟨tree, by rw [treeAt, made], tree_value⟩
    unfold definitionsOf
    simp only [Option.bind_some, part]
    exact exists_mapM each

/-- A written configuration that is read back is loaded with the settings and the definitions that
were written. -/
theorem load_of_readsBack {metadata : Value} (nonneg : 0 ≤ limit)
    (back : Yaml.ReadsBack (.mapping (writtenEntries metadata limit history definitions)))
    (path : String) :
    ∃ config, load path (some
        (Yaml.write (.mapping (writtenEntries metadata limit history definitions))).toUTF8) =
          .ok config ∧
      config.memoLimit = .number limit ∧ config.historyPath = .text history ∧
        config.definitions = definitions := by
  obtain ⟨text, document, content, read, holds⟩ := back
  obtain ⟨entries, root, held⟩ := Document.part_of_holds_mapping holds
  have keys : ∀ value ∈ writtenEntries metadata limit history definitions,
      ∃ s, value.1 = .text s := by
    simp [writtenEntries]
  have engine_found :
      Value.find? (.text "engine") (writtenEntries metadata limit history definitions) =
        some (.mapping (writtenSettings limit history)) := by
    simp [writtenEntries, Value.find?]
  have pools_found :
      Value.find? (.text "pools") (writtenEntries metadata limit history definitions) =
        some (.list definitions) := by
    simp [writtenEntries, Value.find?]
  obtain ⟨settings, settings_eq, settings_hold⟩ := partAt?_of_holds held keys engine_found
  obtain ⟨pools, pools_eq, pools_hold⟩ := partAt?_of_holds held keys pools_found
  obtain ⟨settings_top, tree, tree_eq, tree_value⟩ := settings_of_holds settings_hold
  obtain ⟨⟨tops, pools_top⟩, trees, trees_eq, trees_value⟩ :=
    definitions_of_holds (by decide) pools_hold
  have parsed : readText path text = .ok (some document) := by rw [readText, read]
  have loaded : ofDocument document entries =
      .ok ⟨.number limit, .text history, definitions, nonneg, some ⟨some tree, trees⟩⟩ := by
    simp [ofDocument, settings_eq, pools_eq, settings_top, pools_top, ofValue_written nonneg,
      tree_eq, trees_eq, tree_value, trees_value, bind, Except.bind, Except.mapError, pure, Except.pure]
  refine ⟨⟨.number limit, .text history, definitions, nonneg, some ⟨some tree, trees⟩⟩, ?_, rfl,
    rfl, rfl⟩
  obtain ⟨first, rest, -, -, rfl⟩ := List.forall₂_cons_right_iff.mp held
  unfold load
  dsimp only
  rw [content]
  simp [parsed, root, loaded, bind, Except.bind, Except.mapError]

end Config
end Escrow
