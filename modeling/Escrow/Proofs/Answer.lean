import Mathlib
import Escrow.Error

/-!
# Inverting answers

Every operation of the library that may be refused is a chain of answers.  These lemmas take a chain
that ended well apart into its links.
-/

namespace Escrow

variable {ε δ α β : Type}

theorem bind_eq_ok_iff {answer : Except ε α} {next : α → Except ε β} {result : β} :
    (answer >>= next) = .ok result ↔ ∃ value, answer = .ok value ∧ next value = .ok result := by
  cases answer <;> simp [bind, Except.bind]

theorem mapError_eq_ok_iff {answer : Except ε α} {change : ε → δ} {value : α} :
    answer.mapError change = .ok value ↔ answer = .ok value := by
  cases answer <;> simp [Except.mapError]

theorem map_eq_ok_iff {answer : Except ε α} {change : α → β} {result : β} :
    answer.map change = .ok result ↔ ∃ value, answer = .ok value ∧ change value = result := by
  cases answer <;> simp [Except.map]

theorem pure_eq_ok_iff {value result : α} :
    (pure value : Except ε α) = .ok result ↔ value = result := by
  simp [pure, Except.pure]

theorem exists_eq_ok {answer : Except ε α} (ends_well : answer.isOk) :
    ∃ value, answer = .ok value := by
  cases answer with
  | error problem => cases ends_well
  | ok value => exact ⟨value, rfl⟩

/-- What is made of each item in turn ends well if each of them does. -/
theorem mapM_eq_ok_iff {make : α → Except ε β} {items : List α} {all : List β} :
    items.mapM make = .ok all ↔ List.Forall₂ (fun item made => make item = .ok made) items all := by
  induction items generalizing all with
  | nil => cases all <;> simp [pure, Except.pure]
  | cons item rest ih =>
      rw [List.mapM_cons, List.forall₂_cons_left_iff, bind_eq_ok_iff]
      constructor
      · rintro ⟨made, made_eq, made_all⟩
        obtain ⟨others, others_eq, all_eq⟩ := bind_eq_ok_iff.mp made_all
        exact ⟨made, others, made_eq, ih.mp others_eq, (pure_eq_ok_iff.mp all_eq).symm⟩
      · rintro ⟨made, others, made_eq, others_eq, rfl⟩
        exact ⟨made, made_eq, bind_eq_ok_iff.mpr ⟨others, ih.mpr others_eq, rfl⟩⟩

theorem exists_mapM_eq_ok_iff {make : α → Except ε β} {items : List α} :
    (∃ all, items.mapM make = .ok all) ↔ ∀ item ∈ items, ∃ made, make item = .ok made := by
  simp only [mapM_eq_ok_iff]
  induction items with
  | nil => simp
  | cons item rest ih =>
      simp only [List.forall₂_cons_left_iff, List.forall_mem_cons, ← ih]
      constructor
      · rintro ⟨_, made, others, made_eq, others_eq, -⟩
        exact ⟨⟨made, made_eq⟩, others, others_eq⟩
      · rintro ⟨⟨made, made_eq⟩, others, others_eq⟩
        exact ⟨_, made, others, made_eq, others_eq, rfl⟩

/-- A check that ends well holds. -/
theorem of_check_eq_ok {condition : Prop} [Decidable condition] {problem : ε}
    (checked : (if condition then .ok () else .error problem : Except ε Unit) = .ok ()) :
    condition := by
  by_contra fails
  rw [if_neg fails] at checked
  cases checked

/-- A chain that begins with a failure does not end well. -/
theorem throw_bind_ne_ok (problem : ε) (next : α → Except ε β) (result : β) :
    (throw problem >>= next) ≠ .ok result := by
  simp [throw, throwThe, MonadExceptOf.throw, bind, Except.bind]

/-! ## Failures -/

/-- Every failure of the answer is an allowed one. -/
def FailsOnly (allowed : ε → Prop) (answer : Except ε α) : Prop :=
  ∀ problem, answer = .error problem → allowed problem

namespace FailsOnly

variable {allowed : ε → Prop} {answer : Except ε α}

theorem ok (value : α) : FailsOnly allowed (.ok value) := by
  rintro problem ⟨⟩

theorem error {problem : ε} (fine : allowed problem) :
    FailsOnly allowed (.error problem : Except ε α) := by
  rintro _ ⟨⟩
  exact fine

theorem mono {permitted : ε → Prop} (fails : FailsOnly allowed answer)
    (weaker : ∀ problem, allowed problem → permitted problem) : FailsOnly permitted answer :=
  fun problem failed => weaker problem (fails problem failed)

theorem bind {next : α → Except ε β} (first : FailsOnly allowed answer)
    (rest : ∀ value, answer = .ok value → FailsOnly allowed (next value)) :
    FailsOnly allowed (answer >>= next) := by
  cases answer with
  | error problem => exact .error (first problem rfl)
  | ok value => exact rest value rfl

theorem mapError {permitted : δ → Prop} {change : ε → δ} (fails : FailsOnly allowed answer)
    (turned : ∀ problem, allowed problem → permitted (change problem)) :
    FailsOnly permitted (answer.mapError change) := by
  cases answer with
  | error problem => exact .error (turned problem (fails problem rfl))
  | ok value => exact .ok value

theorem map {change : α → β} (fails : FailsOnly allowed answer) :
    FailsOnly allowed (answer.map change) := by
  cases answer with
  | error problem => exact .error (fails problem rfl)
  | ok value => exact .ok _

theorem mapM {make : α → Except ε β} {items : List α}
    (each : ∀ item ∈ items, FailsOnly allowed (make item)) :
    FailsOnly allowed (items.mapM make) := by
  induction items with
  | nil => exact .ok []
  | cons item rest ih =>
      rw [List.forall_mem_cons] at each
      rw [List.mapM_cons]
      exact each.1.bind fun made _ => (ih each.2).bind fun others _ => .ok _

/-- An answer is a result or an allowed failure. -/
theorem result_or_failure (fails : FailsOnly allowed answer) :
    (∃ value, answer = .ok value) ∨ ∃ problem, allowed problem ∧ answer = .error problem := by
  cases answer with
  | error problem => exact .inr ⟨problem, fails problem rfl, rfl⟩
  | ok value => exact .inl ⟨value, rfl⟩

end FailsOnly

/-! ## Filters -/

theorem mem_of_filterAuxM {test : α → Except ε Bool} {list passed result : List α}
    (filtered : list.filterAuxM test passed = .ok result) {item : α} (member : item ∈ result) :
    item ∈ passed ∨ item ∈ list := by
  induction list generalizing passed with
  | nil =>
      cases filtered
      exact .inl member
  | cons head rest ih =>
      obtain ⟨passes, -, filtered⟩ := bind_eq_ok_iff.mp filtered
      rcases ih filtered with earlier | later
      · cases passes with
        | false => exact .inl earlier
        | true =>
            rcases List.mem_cons.mp earlier with rfl | earlier
            · exact .inr List.mem_cons_self
            · exact .inl earlier
      · exact .inr (List.mem_cons_of_mem _ later)

theorem filterAuxM_eq {test : α → Except ε Bool} {keep : α → Bool} {list : List α}
    (passes : ∀ item ∈ list, test item = .ok (keep item)) (passed : List α) :
    list.filterAuxM test passed = .ok ((list.filter keep).reverse ++ passed) := by
  induction list generalizing passed with
  | nil => rfl
  | cons head rest ih =>
      rw [List.forall_mem_cons] at passes
      rw [List.filterAuxM, passes.1]
      refine (ih passes.2 _).trans ?_
      cases kept : keep head <;> simp [kept]

/-- A test that never fails filters. -/
theorem filterM_eq {test : α → Except ε Bool} {keep : α → Bool} {list : List α}
    (passes : ∀ item ∈ list, test item = .ok (keep item)) :
    list.filterM test = .ok (list.filter keep) := by
  rw [List.filterM, filterAuxM_eq passes, List.append_nil]
  change Except.ok _ = _
  rw [List.reverse_reverse]

/-- What passes a test that may fail is among what was tested. -/
theorem mem_of_filterM {test : α → Except ε Bool} {list result : List α}
    (filtered : list.filterM test = .ok result) {item : α} (member : item ∈ result) :
    item ∈ list := by
  obtain ⟨passed, auxiliary, reversed⟩ := bind_eq_ok_iff.mp filtered
  obtain rfl := pure_eq_ok_iff.mp reversed
  rcases mem_of_filterAuxM auxiliary (List.mem_reverse.mp member) with none_passed | listed
  · cases none_passed
  · exact listed

end Escrow
