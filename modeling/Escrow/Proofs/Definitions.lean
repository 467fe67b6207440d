import Escrow.Proofs.Fee
import Escrow.Config

/-!
# Configurations that build no pools

From a configuration the pools of its definitions are built, or it is refused.  What is refused is told
apart from data of the wrong kind, which no rule covers: settings that are no mapping, a list of
definitions that is none, a policy that is no table, an infinite number, decimal places that are no
number, and names in which a number has too many digits to be written are not refused but are faults.
Whatever else a configuration holds, it is a refusal.
-/

namespace Escrow

/-! ## Numbers and tables -/

/-- The faults of data that are turned into a refusal where they are met. -/
def Fault.IsOfData (fault : Fault) : Prop :=
  fault = .wrongKind ∨ fault = .badValue ∨ ∃ numeral, fault = .badNumeral numeral

namespace Value

/-- The value is a number beyond every other one. -/
def IsInfinite (value : Value) : Prop := ∃ negative, value = .double (.infinite negative)

variable {value : Value} {entries : List (Value × Value)} {name : String}

private theorem failsOnly_readNumeral (datum : Value) (text : String) :
    FailsOnly Fault.IsOfData (datum.readNumeral text) := by
  unfold readNumeral
  split
  · exact .ok _
  · exact .error (.inr (.inr ⟨datum, rfl⟩))
  · exact .error (.inr (.inl rfl))

private theorem failsOnly_readInt (finite : ¬value.IsInfinite) :
    FailsOnly Fault.IsOfData value.readInt := by
  cases value with
  | int n => exact .ok n
  | bool b => exact .ok _
  | double x =>
      cases x with
      | nan => exact .error (.inr (.inl rfl))
      | infinite negative => exact absurd ⟨negative, rfl⟩ finite
      | finite negative mantissa exponent => exact .ok _
  | text s => exact failsOnly_readNumeral _ s
  | bytes data =>
      unfold readInt
      dsimp only
      split
      · exact failsOnly_readNumeral _ _
      · exact .error (.inr (.inr ⟨_, rfl⟩))
  | _ => exact .error (.inl rfl)

private theorem failsOnly_readEntry (element : Value) :
    FailsOnly Fault.IsOfData element.readEntry := by
  unfold readEntry
  split
  · exact .error (.inl rfl)
  · split
    · exact .ok _
    · exact .error (.inl rfl)
  · exact .error (.inr (.inl rfl))

private theorem failsOnly_readEntries (value : Value) :
    FailsOnly Fault.IsOfData value.readEntries := by
  unfold readEntries
  split
  · exact .ok _
  · split
    · exact .error (.inl rfl)
    · exact (FailsOnly.mapM fun element _ => failsOnly_readEntry element).map

private theorem mem_of_find? {key found : Value} (found_eq : find? key entries = some found) :
    ∃ entry ∈ entries, entry.2 = found := by
  induction entries with
  | nil => cases found_eq
  | cons entry rest ih =>
      unfold find? at found_eq
      split at found_eq
      · cases found_eq
        exact ⟨entry, List.mem_cons_self, rfl⟩
      · obtain ⟨other, member, other_eq⟩ := ih found_eq
        exact ⟨other, List.mem_cons_of_mem _ member, other_eq⟩

/-- The value of a field is that of an entry, or nothing. -/
theorem field_cases (name : String) (entries : List (Value × Value)) :
    (∃ entry ∈ entries, entry.2 = field name entries) ∨ field name entries = .null := by
  unfold field
  cases found : find? (.text name) entries with
  | none => exact .inr rfl
  | some value => exact .inl (mem_of_find? found)

/-- A field with a usual number has an infinite one only if it is set to it. -/
theorem not_isInfinite_fieldOr {n : Int} (finite : ¬(field name entries).IsInfinite) :
    ¬(fieldOr name (.int n) entries).IsInfinite := by
  unfold field at finite
  unfold fieldOr
  cases found : find? (.text name) entries with
  | none =>
      rintro ⟨negative, infinite⟩
      cases infinite
  | some value =>
      rw [found] at finite
      exact finite

/-- A text is put among texts. -/
theorem exists_insertSorted? (s : String) {done : List Value}
    (texts : ∀ value ∈ done, ∃ t, value = .text t) :
    ∃ longer, insertSorted? (.text s) done = some longer ∧ ∀ value ∈ longer, ∃ t, value = .text t := by
  induction done with
  | nil => exact ⟨[.text s], rfl, by simp⟩
  | cons first rest ih =>
      obtain ⟨⟨t, rfl⟩, others⟩ := List.forall_mem_cons.mp texts
      obtain ⟨longer, longer_eq, longer_texts⟩ := ih others
      have compared : less? (.text s) (.text t) = some (decide (s ≤ t) && !decide (t ≤ s)) := by
        simp [less?, atMost?]
      unfold insertSorted?
      rw [compared, longer_eq]
      cases decide (s ≤ t) && !decide (t ≤ s) with
      | true => exact ⟨_, rfl, List.forall_mem_cons.mpr ⟨⟨s, rfl⟩, texts⟩⟩
      | false => exact ⟨_, rfl, List.forall_mem_cons.mpr ⟨⟨t, rfl⟩, longer_texts⟩⟩

/-- Texts can be put in order. -/
theorem exists_sorted?_of_texts {values : List Value}
    (texts : ∀ value ∈ values, ∃ s, value = .text s) :
    ∃ sorted, sorted? values = some sorted ∧ ∀ value ∈ sorted, ∃ s, value = .text s := by
  have each : ∀ (values done : List Value), (∀ value ∈ values, ∃ s, value = .text s) →
      (∀ value ∈ done, ∃ s, value = .text s) →
      ∃ sorted, values.foldlM (fun done value => insertSorted? value done) done = some sorted ∧
        ∀ value ∈ sorted, ∃ s, value = .text s := by
    intro values
    induction values with
    | nil => exact fun done _ ordered => ⟨done, rfl, ordered⟩
    | cons first rest ih =>
        intro done texts ordered
        obtain ⟨⟨s, rfl⟩, others⟩ := List.forall_mem_cons.mp texts
        obtain ⟨longer, longer_eq, longer_texts⟩ := exists_insertSorted? s ordered
        rw [List.foldlM_cons, longer_eq]
        exact ih longer others longer_texts
  exact each values [] texts (by simp)

end Value

/-! ## Policies and schedules -/

/-- The fees are refused. -/
def Problem.IsOfFees (problem : Problem) : Prop := ∃ cause, problem = .ofCause (.fee cause)

/-- What is turned into a refusal of a schedule. -/
def Problem.IsOfSchedule (problem : Problem) : Prop :=
  (∃ cause, problem = .ofCause (.fee cause)) ∨ ∃ fault, fault.IsOfData ∧ problem = .fault fault

private theorem Fault.IsOfData.isOfSchedule {fault : Fault} (data : fault.IsOfData) :
    (Problem.fault fault).IsOfSchedule := .inr ⟨fault, data, rfl⟩

namespace Policy

/-- A policy is read from a table without infinite numbers, or from what counts as nothing. -/
def IsTable (config : Value) : Prop :=
  config.isTruthy = true → ∃ entries, config = .mapping entries ∧
    ∀ name ∈ fieldNames, ¬(Value.field name entries).IsInfinite

theorem failsOnly_ofCause {α : Type} (checked : Except FeeCause α) :
    FailsOnly Problem.IsOfFees (ofCause checked) := by
  cases checked with
  | error cause => exact .error ⟨cause, rfl⟩
  | ok value => exact .ok value

private theorem failsOnly_ofConfig {config : Value} (table : IsTable config) :
    FailsOnly Problem.IsOfSchedule (ofConfig config) := by
  have number (value : Value) (finite : ¬value.IsInfinite) :
      FailsOnly Problem.IsOfSchedule (value.readInt.mapError Problem.fault) :=
    (Value.failsOnly_readInt finite).mapError fun _ data => data.isOfSchedule
  have checked (answer : Except FeeCause Policy) : FailsOnly Problem.IsOfSchedule (ofCause answer) :=
    (failsOnly_ofCause answer).mono fun _ => .inl
  unfold ofConfig
  by_cases something : config.isTruthy = true
  · obtain ⟨entries, rfl, finite⟩ := table something
    have rate := finite "rate_bps" (by simp [fieldNames])
    have least := finite "min_fee" (by simp [fieldNames])
    have greatest := finite "max_fee" (by simp [fieldNames])
    rw [something]
    refine FailsOnly.bind (.ok entries) ?_
    rintro _ ⟨⟩
    refine (number _ (Value.not_isInfinite_fieldOr rate)).bind fun rate _ => ?_
    refine (number _ (Value.not_isInfinite_fieldOr least)).bind fun least _ => ?_
    dsimp only
    split
    · exact FailsOnly.bind (.ok _) fun greatest _ => checked _
    · exact FailsOnly.bind (number _ greatest).map fun greatest _ => checked _
  · rw [Bool.not_eq_true] at something
    rw [something]
    exact .ok free

end Policy

namespace Schedule

/-- A schedule is read from policies that are all tables, or from what is no list of entries at all. -/
def IsTable (config : Value) : Prop :=
  ∀ entries, config.readEntries = .ok entries → ∀ entry ∈ entries, Policy.IsTable entry.2

private theorem failsOnly_readPolicies {entries : List (Value × Value)}
    (tables : ∀ entry ∈ entries, Policy.IsTable entry.2) :
    FailsOnly Problem.IsOfSchedule (readPolicies Policy.ofConfig entries) := by
  induction entries with
  | nil => exact .ok []
  | cons entry rest ih =>
      rw [List.forall_mem_cons] at tables
      exact (Policy.failsOnly_ofConfig tables.1).bind fun policy _ =>
        (ih tables.2).bind fun others _ => .ok _

private theorem failsOnly_make (default : Policy) (overrides : List (Value × Policy)) :
    FailsOnly Problem.IsOfSchedule (make default overrides) := by
  unfold make
  split
  · exact .ok _
  · split
    · exact .error (.inl ⟨_, rfl⟩)
    · exact .error (Fault.IsOfData.isOfSchedule (.inl rfl))

private theorem failsOnly_ofConfig {config : Value} (table : IsTable config) :
    FailsOnly Problem.IsOfSchedule (ofConfig config) := by
  have read : FailsOnly Problem.IsOfSchedule (config.readEntries.mapError Problem.fault) :=
    (Value.failsOnly_readEntries config).mapError fun _ data => data.isOfSchedule
  have rest (entries : List (Value × Value)) (tables : ∀ entry ∈ entries, Policy.IsTable entry.2) :
      FailsOnly Problem.IsOfSchedule (do
        let default ← Policy.ofConfig (Value.field "default" entries)
        make default (← readPolicies Policy.ofConfig
          (entries.filter fun entry => !decide (entry.1 = .text "default")))) := by
    have usual : Policy.IsTable (Value.field "default" entries) := by
      rcases Value.field_cases "default" entries with ⟨entry, member, entry_eq⟩ | nothing
      · exact entry_eq ▸ tables entry member
      · rw [nothing]
        rintro ⟨⟩
    refine (Policy.failsOnly_ofConfig usual).bind fun default _ => ?_
    refine (failsOnly_readPolicies fun entry member => ?_).bind fun overrides _ =>
      failsOnly_make default overrides
    exact tables entry (List.mem_of_mem_filter member)
  unfold ofConfig
  split
  · refine read.bind fun entries entries_eq => rest entries ?_
    exact table entries (mapError_eq_ok_iff.mp entries_eq)
  · exact rest [] (by simp)

end Schedule

/-! ## Definitions -/

/-- The configuration is refused. -/
def Problem.IsOfSetup (problem : Problem) : Prop := ∃ cause, problem = .ofCause (.setup cause)

namespace Config

/-- The pools of a definition are built, or it is refused: if it is a mapping, its names can be written,
its policies are tables and its decimal places can be read. -/
structure IsSound (definition : Value) : Prop where
  identity : ∀ entries, definition = .mapping entries →
    ∀ name ∈ identityFields, (Value.field name entries).isWritable = true
  fees : ∀ entries, definition = .mapping entries → Schedule.IsTable (Value.field "fees" entries)
  decimals : ∀ entries, definition = .mapping entries →
    ∃ n, (Value.fieldOr "decimals" (.int 6) entries).readInt = .ok n

private theorem failsOnly_scheduleOf (pool : String) {fees : Value}
    (table : Schedule.IsTable fees) :
    FailsOnly Problem.IsOfSetup (scheduleOf pool fees) := by
  unfold scheduleOf
  rcases (Schedule.failsOnly_ofConfig table).result_or_failure with
    ⟨schedule, made⟩ | ⟨problem, ⟨cause, rfl⟩ | ⟨fault, data, rfl⟩, made⟩
  · rw [made]
    exact .ok schedule
  · rw [made]
    exact .error ⟨_, rfl⟩
  · rw [made]
    rcases data with rfl | rfl | ⟨text, rfl⟩ <;> exact .error ⟨_, rfl⟩

/-- A required field is there and can be written. -/
theorem required_eq_ok {definition : Value} {name text : String}
    (read : required definition name = .ok text) :
    ∃ entries value, definition = .mapping entries ∧
      Value.find? (.text name) entries = some value ∧ text = value.plain := by
  unfold required at read
  split at read
  · split at read
    · split at read <;> cases read
      rename_i entries _ value found _
      exact ⟨entries, value, rfl, found, rfl⟩
    · cases read
  · cases read

/-- What is no mapping has no identity. -/
theorem identityOf_eq_ok {index : Nat} {definition : Value} {identity : String × String × String}
    (named : identityOf index definition = .ok identity) :
    ∃ entries pool operator asset, definition = .mapping entries ∧
      Value.find? (.text "pool_id") entries = some pool ∧
      Value.find? (.text "operator") entries = some operator ∧
      Value.find? (.text "asset") entries = some asset ∧
      identity = (pool.plain, operator.plain, asset.plain) := by
  have named := mapError_eq_ok_iff.mp named
  obtain ⟨pool, pool_read, named⟩ := bind_eq_ok_iff.mp named
  obtain ⟨operator, operator_read, named⟩ := bind_eq_ok_iff.mp named
  obtain ⟨asset, asset_read, named⟩ := bind_eq_ok_iff.mp named
  obtain ⟨entries, value, rfl, pool_found, rfl⟩ := required_eq_ok pool_read
  obtain ⟨_, operatorValue, same, operator_found, rfl⟩ := required_eq_ok operator_read
  cases same
  obtain ⟨_, assetValue, same, asset_found, rfl⟩ := required_eq_ok asset_read
  cases same
  exact ⟨entries, value, operatorValue, assetValue, rfl, pool_found, operator_found, asset_found,
    (pure_eq_ok_iff.mp named).symm⟩

/-- Nothing is wrong with a required field that can be written but that it may be missing. -/
theorem failsOnly_required {definition : Value} (sound : IsSound definition) {name : String}
    (member : name ∈ identityFields) :
    FailsOnly (fun fault => fault = .wrongKind ∨ ∃ key, fault = .missingKey key)
      (required definition name) := by
  unfold required
  split
  · rename_i entries
    have writable := sound.identity entries rfl name member
    unfold Value.field at writable
    split
    · rename_i value found
      rw [found, Option.getD_some] at writable
      rw [if_pos writable]
      exact .ok _
    · exact .error (.inr ⟨name, rfl⟩)
  · exact .error (.inl rfl)

private theorem failsOnly_identityOf {definition : Value} (sound : IsSound definition)
    (index : Nat) :
    FailsOnly Problem.IsOfSetup (identityOf index definition) := by
  have read {name : String} (member : name ∈ identityFields) := failsOnly_required sound member
  unfold identityOf
  refine FailsOnly.mapError ((read (by decide)).bind fun pool _ =>
    (read (by decide)).bind fun operator _ => (read (by decide)).bind fun asset _ => .ok _) ?_
  rintro fault (rfl | ⟨key, rfl⟩)
  · exact ⟨_, rfl⟩
  · exact ⟨_, rfl⟩

private theorem failsOnly_poolOf {definition : Value} (sound : IsSound definition) (index : Nat)
    (taken : List String) : FailsOnly Problem.IsOfSetup (poolOf index taken definition) := by
  unfold poolOf
  refine (failsOnly_identityOf sound index).bind fun identity identity_eq => ?_
  obtain ⟨entries, pool, operator, asset, rfl, -, -, -, rfl⟩ := identityOf_eq_ok identity_eq
  obtain ⟨n, read⟩ := sound.decimals entries rfl
  dsimp only
  split
  · exact .error ⟨_, rfl⟩
  · refine (failsOnly_scheduleOf _ (sound.fees entries rfl)).bind fun schedule _ => ?_
    rw [read]
    exact .ok _

private theorem failsOnly_poolsOf {definitions : List Value}
    (sound : ∀ definition ∈ definitions, IsSound definition) (index : Nat) (taken : List String) :
    FailsOnly Problem.IsOfSetup (poolsOf index taken definitions) := by
  induction definitions generalizing index taken with
  | nil => exact .ok []
  | cons definition rest ih =>
      rw [List.forall_mem_cons] at sound
      exact (failsOnly_poolOf sound.1 index taken).bind fun _ _ =>
        (ih sound.2 _ _).bind fun _ _ => .ok _

/-- The pool has the terms of its definition, and the usual ones where the definition sets none. -/
def Builds (definition : Value) (pool : Pool) : Prop :=
  ∃ entries id operator asset decimals, definition = .mapping entries ∧
    Value.find? (.text "pool_id") entries = some id ∧
    Value.find? (.text "operator") entries = some operator ∧
    Value.find? (.text "asset") entries = some asset ∧
    (Value.fieldOr "decimals" (.int 6) entries).readInt = .ok decimals ∧
    Schedule.ofConfig (Value.field "fees" entries) = .ok pool.schedule ∧
    pool = .make (.text id.plain) (.text operator.plain) (.text asset.plain)
      (Value.field "authority" entries) (Value.field "custody" entries) (.int decimals)
      pool.schedule

private theorem schedule_of_scheduleOf {pool : String} {fees : Value} {schedule : Schedule}
    (made : scheduleOf pool fees = .ok schedule) : Schedule.ofConfig fees = .ok schedule := by
  unfold scheduleOf at made
  split at made
  · rename_i read
    exact read.trans made
  · cases made
  · split at made <;> cases made
  · cases made

private theorem poolOf_eq_ok {index : Nat} {taken : List String} {definition : Value} {id : String}
    {pool : Pool} (made : poolOf index taken definition = .ok (id, pool)) :
    id ∉ taken ∧ pool.id = .text id ∧ Builds definition pool := by
  obtain ⟨identity, identity_eq, made⟩ := bind_eq_ok_iff.mp made
  obtain ⟨entries, idValue, operator, asset, rfl, id_found, operator_found, asset_found, rfl⟩ :=
    identityOf_eq_ok identity_eq
  dsimp only at made
  split at made
  · exact absurd made (throw_bind_ne_ok _ _ _)
  · rename_i free
    obtain ⟨schedule, schedule_eq, made⟩ := bind_eq_ok_iff.mp made
    obtain ⟨decimals, decimals_eq, made⟩ := bind_eq_ok_iff.mp made
    obtain ⟨rfl, rfl⟩ := Prod.mk.inj (pure_eq_ok_iff.mp made)
    exact ⟨free, rfl, ⟨entries, idValue, operator, asset, decimals, rfl, id_found, operator_found,
      asset_found, mapError_eq_ok_iff.mp decimals_eq, schedule_of_scheduleOf schedule_eq, rfl⟩⟩

/-- Pools are built one by one, in the order of their definitions, under ids that differ. -/
theorem poolsOf_eq_ok {definitions : List Value} {index : Nat} {taken : List String}
    {pools : List Pool} (made : poolsOf index taken definitions = .ok pools) :
    List.Forall₂ Builds definitions pools ∧ (pools.map Pool.id).Nodup ∧
      ∀ pool ∈ pools, ∀ id ∈ taken, pool.id ≠ .text id := by
  induction definitions generalizing index taken pools with
  | nil =>
      cases made
      exact ⟨.nil, .nil, by simp⟩
  | cons definition rest ih =>
      obtain ⟨⟨id, pool⟩, first, made⟩ := bind_eq_ok_iff.mp made
      obtain ⟨others, rest_made, made⟩ := bind_eq_ok_iff.mp made
      obtain rfl := pure_eq_ok_iff.mp made
      obtain ⟨free, id_eq, builds⟩ := poolOf_eq_ok first
      obtain ⟨each, distinct, fresh⟩ := ih rest_made
      refine ⟨.cons builds each, ?_, ?_⟩
      · rw [List.map_cons, List.nodup_cons]
        refine ⟨fun again => ?_, distinct⟩
        obtain ⟨other, member, same⟩ := List.mem_map.mp again
        exact fresh other member id List.mem_cons_self (same.trans id_eq)
      · rw [List.forall_mem_cons]
        refine ⟨fun other member same => ?_, fun other member id there =>
          fresh other member id (List.mem_cons_of_mem _ there)⟩
        rw [id_eq] at same
        exact free (Value.text.inj same ▸ member)

/-! ## Settings -/

/-- The settings show the value of a name, or do not show the name. -/
def Shows (name : String) : Value → Prop
  | .mapping _ => True
  | .list items => ∀ item ∈ items, item.same (.text name) = false
  | .tuple items => ∀ item ∈ items, item.same (.text name) = false
  | .set members => ∀ member ∈ members, member.same (.text name) = false
  | .text s => Text.occurs name.toList s.toList = false
  | _ => False

/-- The names among the settings can be told apart and be put in order and written where they are
unknown, and the values of the known ones can be looked up. -/
structure HasNames (settings : Value) : Prop where
  sorted : ∃ names sorted, settings.elements? = some names ∧ names.all Value.isKey = true ∧
    Value.sorted? (distinct (names.filter fun name =>
      !(name.same (.text memoLimitName) || name.same (.text historyPathName)))) = some sorted ∧
    sorted.all Value.isWritable = true
  memoLimit : Shows memoLimitName settings
  historyPath : Shows historyPathName settings

variable {settings : Value}

private theorem exists_setting {name : String} (shows : Shows name settings) (usual : Value) :
    ∃ value, setting name usual settings = .ok value := by
  have absent {items : List Value} (other : ∀ item ∈ items, item.same (.text name) = false) :
      (items.any fun item => item.same (.text name)) = false :=
    List.any_eq_false.mpr fun item member => by simp [other item member]
  unfold setting
  cases settings with
  | mapping entries => exact ⟨_, rfl⟩
  | list items => simp [absent shows]
  | tuple items => simp [absent shows]
  | set members => simp [absent shows]
  | text s =>
      have absent : Text.occurs name.toList s.toList = false := shows
      simp [absent]
  | _ => cases shows

private theorem HasNames.exists_unknownNames (known : HasNames settings) :
    ∃ names, unknownNames settings = .ok names := by
  obtain ⟨names, sorted, elements, keys, sorted_eq, writable⟩ := known.sorted
  unfold unknownNames
  simp only [elements, keys, sorted_eq, writable]
  exact ⟨sorted, rfl⟩

/-- A value behind others, unless it is among them. -/
def addNew (done : List Value) (value : Value) : List Value :=
  if done.any (·.same value) then done else done ++ [value]

private theorem mem_of_mem_foldl_addNew {values done : List Value} {value : Value}
    (member : value ∈ values.foldl addNew done) : value ∈ done ∨ value ∈ values := by
  induction values generalizing done with
  | nil => exact .inl member
  | cons first rest ih =>
      rcases ih member with earlier | later
      · unfold addNew at earlier
        split at earlier
        · exact .inl earlier
        · refine (List.mem_append.mp earlier).imp_right fun same => ?_
          rw [List.mem_singleton.mp same]
          exact List.mem_cons_self
      · exact .inr (List.mem_cons_of_mem _ later)

private theorem mem_of_mem_distinct {values : List Value} {value : Value}
    (member : value ∈ distinct values) : value ∈ values := by
  have member : value ∈ values.foldl addNew [] := member
  exact (mem_of_mem_foldl_addNew member).resolve_left (by simp)

/-- The names of settings that are texts can be put in order. -/
theorem hasNames_of_texts {entries : List (Value × Value)}
    (texts : ∀ entry ∈ entries, ∃ name, entry.1 = .text name) : HasNames (.mapping entries) where
  sorted := by
    have named : ∀ value ∈ entries.map Prod.fst, ∃ name, value = .text name := by
      simpa using texts
    obtain ⟨sorted, sorted_eq, sorted_texts⟩ := Value.exists_sorted?_of_texts fun value member =>
      named value (List.mem_of_mem_filter (mem_of_mem_distinct member))
    refine ⟨_, sorted, rfl, List.all_eq_true.mpr fun value member => ?_, sorted_eq,
      List.all_eq_true.mpr fun value member => ?_⟩
    · obtain ⟨name, rfl⟩ := named value member
      exact Value.isKey_text name
    · obtain ⟨name, rfl⟩ := sorted_texts value member
      exact Value.isWritable_text name
  memoLimit := trivial
  historyPath := trivial

/-! ## Configurations -/

/-- The settings can be looked up and the definitions be gone through, and each of these is sound. -/
structure IsReadable (entries : List (Value × Value)) : Prop where
  settings : HasNames ((Value.field "engine" entries).orElse (.mapping []))
  definitions : ∃ definitions,
    ((Value.field "pools" entries).orElse (.list [])).elements? = some definitions ∧
      ∀ definition ∈ definitions, IsSound definition

variable {entries : List (Value × Value)}

private theorem ofValue_mapping (entries : List (Value × Value)) :
    ofValue (.mapping entries) = (do
      let settings := (Value.field "engine" entries).orElse (.mapping [])
      let _ ← (unknownNames settings).mapError .fault
      let memoLimit ← (setting memoLimitName (.int defaultMemoLimit) settings).mapError .fault
      let historyPath ←
        (setting historyPathName (.text defaultHistoryPath) settings).mapError .fault
      let checked ← (make memoLimit historyPath []).mapError fun cause => .ofCause (.setup cause)
      match ((Value.field "pools" entries).orElse (.list [])).elements? with
      | some definitions => return { checked with definitions := definitions }
      | none => throw (.fault .wrongKind)) := by
  cases entries with
  | nil => rfl
  | cons entry rest => rfl

/-- The definitions of a configuration are what its section is gone through. -/
theorem elements?_of_ofValue {config : Config} (made : ofValue (.mapping entries) = .ok config) :
    ((Value.field "pools" entries).orElse (.list [])).elements? = some config.definitions := by
  rw [ofValue_mapping] at made
  obtain ⟨names, -, made⟩ := bind_eq_ok_iff.mp made
  obtain ⟨memoLimit, -, made⟩ := bind_eq_ok_iff.mp made
  obtain ⟨historyPath, -, made⟩ := bind_eq_ok_iff.mp made
  obtain ⟨checked, -, made⟩ := bind_eq_ok_iff.mp made
  split at made
  · rename_i definitions listed
    rw [← pure_eq_ok_iff.mp made]
    exact listed
  · cases made

private theorem IsReadable.failsOnly_ofValue (readable : IsReadable entries) :
    FailsOnly Problem.IsOfSetup (ofValue (.mapping entries)) := by
  rw [ofValue_mapping]
  obtain ⟨names, names_eq⟩ := readable.settings.exists_unknownNames
  obtain ⟨limit, limit_eq⟩ := exists_setting readable.settings.memoLimit (.int defaultMemoLimit)
  obtain ⟨path, path_eq⟩ :=
    exists_setting readable.settings.historyPath (.text defaultHistoryPath)
  obtain ⟨definitions, listed, -⟩ := readable.definitions
  dsimp only
  rw [names_eq, limit_eq, path_eq, listed]
  change FailsOnly _ ((make limit path []).mapError _ >>= fun checked => _)
  refine FailsOnly.bind ?_ fun _ _ => .ok _
  cases make limit path [] with
  | error cause => exact .error ⟨cause, rfl⟩
  | ok checked => exact .ok checked

/-- From a configuration, if it is readable, a pool is built for each definition, in their order and
under ids that differ, or it is refused as a configuration. -/
theorem built_or_refused (readable : IsReadable entries) :
    (∃ config built, ofValue (.mapping entries) = .ok config ∧ config.pools = .ok built ∧
      ((Value.field "pools" entries).orElse (.list [])).elements? = some config.definitions ∧
      List.Forall₂ Builds config.definitions built ∧ (built.map Pool.id).Nodup) ∨
      ∃ refusal, (ofValue (.mapping entries) >>= pools) = .error (.refused refusal) ∧
        refusal.cause.kind = .configuration := by
  rcases readable.failsOnly_ofValue.result_or_failure with
    ⟨config, config_eq⟩ | ⟨problem, ⟨cause, rfl⟩, failed⟩
  · have listed := elements?_of_ofValue config_eq
    obtain ⟨definitions, listed', sound⟩ := readable.definitions
    obtain rfl := Option.some.inj (listed.symm.trans listed')
    rw [config_eq]
    rcases (failsOnly_poolsOf sound 0 []).result_or_failure with
      ⟨built, built_eq⟩ | ⟨problem, ⟨cause, rfl⟩, failed⟩
    · obtain ⟨each, distinct, -⟩ := poolsOf_eq_ok built_eq
      exact .inl ⟨config, built, rfl, built_eq, listed, each, distinct⟩
    · exact .inr ⟨_, failed, rfl⟩
  · rw [failed]
    exact .inr ⟨_, rfl, rfl⟩

/-- The entries of a definition with the given decimal places and fees. -/
def definitionSample (id : String) (decimals fees : Value) : List (Value × Value) :=
  [(.text "pool_id", .text id), (.text "operator", .text "olga"), (.text "asset", .text "USD"),
    (.text "decimals", decimals), (.text "fees", fees)]

/-- Decimal places in words are a fault, though the configuration holds nothing else that is wrong. -/
theorem escaping_sample :
    (ofValue (.mapping [(.text "pools",
      .list [.mapping (definitionSample "p" (.text "six") .null)])]) >>= pools).map List.length =
        .error (.fault (.badNumeral (.text "six"))) := by
  decide +kernel

/-- A configuration with a setting that is unknown, two definitions, one of them with its decimal places
as a text and an empty policy, and further definitions. -/
def setupSample (further : List Value) : List (Value × Value) :=
  [(.text "engine", .mapping [(.text "speed", .int 3)]),
    (.text "pools", .list
      (.mapping (definitionSample "p" (.text "8") (.mapping [(.text "expired", .null)])) ::
        .mapping (definitionSample "q" (.int 2) .null) :: further))]

private theorem isSound_sample {id : String} {decimals fees : Value} {n : Int}
    (read : decimals.readInt = .ok n) (tables : Schedule.IsTable fees) :
    IsSound (.mapping (definitionSample id decimals fees)) := by
  constructor
  · rintro _ ⟨⟩
    simp [identityFields, definitionSample, Value.field, Value.find?]
  · rintro _ ⟨⟩
    simpa [definitionSample, Value.field, Value.find?] using tables
  · rintro _ ⟨⟩
    exact ⟨n, by simpa [definitionSample, Value.fieldOr, Value.find?] using read⟩

private theorem elements?_sample (further : List Value) :
    ((Value.field "pools" (setupSample further)).orElse (.list [])).elements? = some
      (.mapping (definitionSample "p" (.text "8") (.mapping [(.text "expired", .null)])) ::
        .mapping (definitionSample "q" (.int 2) .null) :: further) := by
  simp [setupSample, Value.field, Value.find?, Value.orElse, Value.isTruthy, Value.elements?]

private theorem isReadable_sample {further : List Value}
    (rest : ∀ definition ∈ further, IsSound definition) : IsReadable (setupSample further) where
  settings := by
    have settings_eq : (Value.field "engine" (setupSample further)).orElse (.mapping []) =
        .mapping [(.text "speed", .int 3)] := by
      simp [setupSample, Value.field, Value.find?, Value.orElse, Value.isTruthy]
    rw [settings_eq]
    exact hasNames_of_texts (by simp)
  definitions := by
    have free : Schedule.IsTable .null := by rintro _ ⟨⟩
    have empty : Schedule.IsTable (.mapping [(.text "expired", .null)]) := by
      rintro _ ⟨⟩ entry member
      rw [List.mem_singleton.mp member]
      rintro ⟨⟩
    have eight : (Value.text "8").readInt = .ok 8 := by decide +kernel
    refine ⟨_, elements?_sample further, ?_⟩
    rw [List.forall_mem_cons, List.forall_mem_cons]
    exact ⟨isSound_sample eight empty, isSound_sample (n := 2) rfl free, rest⟩

/-- Both pools are built; with a third definition that is a mere number the configuration is refused. -/
theorem built_or_refused_sample :
    (IsReadable (setupSample []) ∧ ∃ config built,
      ofValue (.mapping (setupSample [])) = .ok config ∧ config.pools = .ok built ∧
        built.length = 2 ∧ (built.map Pool.id).Nodup) ∧
    IsReadable (setupSample [.int 5]) ∧ ∃ refusal,
      (ofValue (.mapping (setupSample [.int 5])) >>= pools) = .error (.refused refusal) ∧
        refusal.cause.kind = .configuration := by
  have readable : IsReadable (setupSample []) := isReadable_sample (by simp)
  have mere : IsSound (.int 5) := ⟨by rintro _ ⟨⟩, by rintro _ ⟨⟩, by rintro _ ⟨⟩⟩
  have readable' : IsReadable (setupSample [.int 5]) := isReadable_sample (by simpa using mere)
  refine ⟨⟨readable, ?_⟩, readable', ?_⟩
  · have length_eq : (ofValue (.mapping (setupSample [])) >>= pools).map List.length = .ok 2 := by
      decide +kernel
    rcases built_or_refused readable with
      ⟨config, built, config_eq, built_eq, -, -, distinct⟩ | ⟨refusal, failed, -⟩
    · rw [config_eq] at length_eq
      change config.pools.map _ = _ at length_eq
      rw [built_eq] at length_eq
      exact ⟨config, built, config_eq, built_eq, Except.ok.inj length_eq, distinct⟩
    · rw [failed] at length_eq
      cases length_eq
  · rcases built_or_refused readable' with ⟨config, built, -, -, listed, each, -⟩ | refused
    · rw [← Option.some.inj ((elements?_sample [.int 5]).symm.trans listed)] at each
      obtain ⟨_, _, -, each, -⟩ := List.forall₂_cons_left_iff.mp each
      obtain ⟨_, _, -, each, -⟩ := List.forall₂_cons_left_iff.mp each
      obtain ⟨_, _, ⟨_, _, _, _, _, contrary, -⟩, -, -⟩ := List.forall₂_cons_left_iff.mp each
      cases contrary
    · exact refused

end Config
end Escrow
