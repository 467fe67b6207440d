import Mathlib
import Escrow.Table

/-!
# Tables as finite maps

What a table holds after a filter and after several writes, and sums over its entries.  A write
changes a sum by the weight of the written entry less the weight of the one that it replaces, which
is the form in which every total over pending transfers or pools is followed through a run.
-/

namespace Escrow
namespace Table

variable {κ α : Type} [DecidableEq κ]

theorem lookup_eq_none_of_not_mem {key : κ} {pairs : List (κ × α)}
    (absent : key ∉ pairs.map Prod.fst) : lookup key pairs = none := by
  induction pairs with
  | nil => rfl
  | cons head rest ih =>
      simp only [List.map_cons, List.mem_cons, not_or] at absent
      rw [lookup, if_neg (Ne.symm absent.1)]
      exact ih absent.2

theorem lookup_filter {pairs : List (κ × α)} (distinct : (pairs.map Prod.fst).Nodup)
    (keep : κ → α → Bool) (key : κ) :
    lookup key (pairs.filter fun pair => keep pair.1 pair.2) =
      (lookup key pairs).filter (keep key) := by
  induction pairs with
  | nil => rfl
  | cons head rest ih =>
      obtain ⟨first, value⟩ := head
      rw [List.map_cons, List.nodup_cons] at distinct
      have tail := ih distinct.2
      by_cases same : first = key
      · subst same
        have absent : lookup first rest = none := lookup_eq_none_of_not_mem distinct.1
        cases kept : keep first value with
        | true => simp [lookup, kept, Option.filter_some]
        | false => simp [lookup, kept, tail, absent, Option.filter_some]
      · cases kept : keep first value <;> simp [lookup, same, kept, tail]

@[simp]
theorem get?_filter (table : Table κ α) (keep : κ → α → Bool) (key : κ) :
    (table.filter keep).get? key = (table.get? key).filter (keep key) :=
  lookup_filter table.nodup keep key

theorem get?_erase (table : Table κ α) (key other : κ) :
    (table.erase key).get? other = if other = key then none else table.get? other := by
  rw [erase, get?_filter]
  by_cases same : other = key <;> cases table.get? other <;> simp [same]

theorem get?_set (table : Table κ α) (key other : κ) (value : α) :
    (table.set key value).get? other = if other = key then some value else table.get? other := by
  by_cases same : other = key
  · subst same
    simp
  · rw [if_neg same]
    exact get?_set_of_ne table (Ne.symm same) value

theorem contains_set (table : Table κ α) (key other : κ) (value : α) :
    (table.set key value).contains other = (decide (other = key) || table.contains other) := by
  by_cases same : other = key <;> simp [contains, get?_set, same]

theorem contains_of_get? {table : Table κ α} {key : κ} {value : α}
    (found : table.get? key = some value) : table.contains key = true := by
  simp [contains, found]

theorem mem_of_lookup {key : κ} {value : α} {pairs : List (κ × α)}
    (found : lookup key pairs = some value) : (key, value) ∈ pairs := by
  induction pairs with
  | nil => simp [lookup] at found
  | cons head rest ih =>
      obtain ⟨first, old⟩ := head
      by_cases same : first = key
      · rw [lookup, if_pos same] at found
        obtain rfl := Option.some.inj found
        simp [same]
      · rw [lookup, if_neg same] at found
        exact List.mem_cons_of_mem _ (ih found)

theorem lookup_of_mem {key : κ} {value : α} {pairs : List (κ × α)}
    (distinct : (pairs.map Prod.fst).Nodup) (member : (key, value) ∈ pairs) :
    lookup key pairs = some value := by
  induction pairs with
  | nil => simp at member
  | cons head rest ih =>
      rw [List.map_cons, List.nodup_cons] at distinct
      rcases List.mem_cons.mp member with rfl | member
      · simp [lookup]
      · have apart : head.1 ≠ key := by
          rintro rfl
          exact distinct.1 (List.mem_map.mpr ⟨_, member, rfl⟩)
        rw [lookup, if_neg apart]
        exact ih distinct.2 member

theorem mem_entries_iff {table : Table κ α} {key : κ} {value : α} :
    (key, value) ∈ table.entries ↔ table.get? key = some value :=
  ⟨lookup_of_mem table.nodup, mem_of_lookup⟩

theorem mem_values_iff {table : Table κ α} {value : α} :
    value ∈ table.values ↔ ∃ key, table.get? key = some value := by
  constructor
  · intro member
    obtain ⟨⟨key, value⟩, entry, rfl⟩ := List.mem_map.mp member
    exact ⟨key, mem_entries_iff.mp entry⟩
  · rintro ⟨key, found⟩
    exact List.mem_map.mpr ⟨(key, value), mem_entries_iff.mpr found, rfl⟩

theorem keys_write_of_mem {key : κ} {pairs : List (κ × α)} (there : key ∈ pairs.map Prod.fst)
    (value : α) : (write key value pairs).map Prod.fst = pairs.map Prod.fst := by
  induction pairs with
  | nil => simp at there
  | cons head rest ih =>
      by_cases same : head.1 = key
      · simp [write, same]
      · rw [List.map_cons, List.mem_cons] at there
        simp [write, same, ih (there.resolve_left (Ne.symm same))]

/-- A write at a key that is there adds no key. -/
theorem keys_set_of_get? {table : Table κ α} {key : κ} {old : α}
    (found : table.get? key = some old) (value : α) : (table.set key value).keys = table.keys :=
  keys_write_of_mem (List.mem_map.mpr ⟨_, mem_entries_iff.mpr found, rfl⟩) value

/-- A table is its keys and what it holds at them. -/
theorem eq_of_get? {left right : Table κ α} (keys : left.keys = right.keys)
    (held : ∀ key, left.get? key = right.get? key) : left = right := by
  have entries_eq (table : Table κ α) :
      table.entries.map (fun pair => (pair.1, some pair.2)) =
        table.keys.map fun key => (key, table.get? key) := by
    rw [Table.keys, List.map_map]
    apply List.map_congr_left
    rintro ⟨key, value⟩ member
    simp [mem_entries_iff.mp member]
  have entries : left.entries = right.entries := by
    have injective : Function.Injective fun pair : κ × α => (pair.1, some pair.2) := by
      rintro ⟨key, value⟩ ⟨other, given⟩ same
      simpa using same
    apply (List.map_injective_iff.mpr injective)
    rw [entries_eq, entries_eq, keys]
    exact List.map_congr_left fun key _ => by rw [held]
  cases left
  cases right
  cases entries
  rfl

theorem write_of_lookup_eq_none {key : κ} {pairs : List (κ × α)}
    (absent : lookup key pairs = none) (value : α) :
    write key value pairs = pairs ++ [(key, value)] := by
  induction pairs with
  | nil => rfl
  | cons head rest ih =>
      by_cases same : head.1 = key
      · simp [lookup, same] at absent
      · rw [lookup, if_neg same] at absent
        simp [write, same, ih absent]

/-- A new key comes last. -/
theorem keys_set_of_absent {table : Table κ α} {key : κ} (absent : table.get? key = none)
    (value : α) : (table.set key value).keys = table.keys ++ [key] := by
  simp [keys, set, write_of_lookup_eq_none absent]

/-- The value of a new key comes last. -/
theorem values_set_of_absent {table : Table κ α} {key : κ} (absent : table.get? key = none)
    (value : α) : (table.set key value).values = table.values ++ [value] := by
  simp [values, set, write_of_lookup_eq_none absent]

theorem write_write (key : κ) (value other : α) (pairs : List (κ × α)) :
    write key other (write key value pairs) = write key other pairs := by
  induction pairs with
  | nil => simp [write]
  | cons head rest ih => by_cases same : head.1 = key <;> simp [write, same, ih]

/-- The last one of two writes at a key is seen, and no other. -/
theorem set_set (table : Table κ α) (key : κ) (value other : α) :
    (table.set key value).set key other = table.set key other := by
  simp only [set, mk.injEq]
  exact write_write key value other table.entries

/-- Writing pairs with distinct keys into a table gives each key its pair, and leaves the others. -/
theorem get?_foldl_set (pairs : List (κ × α)) (distinct : (pairs.map Prod.fst).Nodup)
    (table : Table κ α) (key : κ) :
    (pairs.foldl (fun table pair => table.set pair.1 pair.2) table).get? key =
      (lookup key pairs).or (table.get? key) := by
  induction pairs generalizing table with
  | nil => simp [lookup]
  | cons head rest ih =>
      obtain ⟨first, value⟩ := head
      rw [List.map_cons, List.nodup_cons] at distinct
      rw [List.foldl_cons, ih distinct.2, get?_set]
      by_cases same : first = key
      · subst same
        rw [lookup_eq_none_of_not_mem distinct.1]
        simp [lookup]
      · simp [lookup, same, Ne.symm same]

/-! ## Filters that look at the keys -/

theorem filter_write_of_keep {keep : κ → Bool} {key : κ} (kept : keep key = true) (value : α)
    (pairs : List (κ × α)) :
    (write key value pairs).filter (fun pair => keep pair.1) =
      write key value (pairs.filter fun pair => keep pair.1) := by
  induction pairs with
  | nil => simp [write, kept]
  | cons head rest ih =>
      obtain ⟨first, old⟩ := head
      by_cases same : first = key
      · subst same
        simp [write, kept]
      · cases keeps : keep first <;> simp [write, same, keeps, ih]

/-- A write at a key that a filter keeps may be made before or after it. -/
theorem filter_set_of_keep {keep : κ → Bool} {key : κ} (kept : keep key = true)
    (table : Table κ α) (value : α) :
    (table.set key value).filter (fun key _ => keep key) =
      (table.filter fun key _ => keep key).set key value := by
  simp only [filter, set, mk.injEq]
  exact filter_write_of_keep kept value table.entries

theorem filter_write_of_drop {keep : κ → Bool} {key : κ} (dropped : keep key = false) (value : α)
    (pairs : List (κ × α)) :
    (write key value pairs).filter (fun pair => keep pair.1) =
      pairs.filter fun pair => keep pair.1 := by
  induction pairs with
  | nil => simp [write, dropped]
  | cons head rest ih =>
      obtain ⟨first, old⟩ := head
      by_cases same : first = key
      · subst same
        simp [write, dropped]
      · cases keeps : keep first <;> simp [write, same, keeps, ih]

/-- A filter does not show a write at a key that it drops. -/
theorem filter_set_of_drop {keep : κ → Bool} {key : κ} (dropped : keep key = false)
    (table : Table κ α) (value : α) :
    (table.set key value).filter (fun key _ => keep key) = table.filter fun key _ => keep key := by
  simp only [filter, set, mk.injEq]
  exact filter_write_of_drop dropped value table.entries

omit [DecidableEq κ] in
theorem filter_filter (table : Table κ α) (keep again : κ → α → Bool) :
    (table.filter keep).filter again =
      table.filter fun key value => keep key value && again key value := by
  simp [filter, List.filter_filter, Bool.and_comm]

theorem filter_congr {table : Table κ α} {keep other : κ → α → Bool}
    (agree : ∀ key value, table.get? key = some value → keep key value = other key value) :
    table.filter keep = table.filter other := by
  simp only [filter, mk.injEq]
  apply List.filter_congr
  rintro ⟨key, value⟩ member
  exact agree key value (mem_entries_iff.mp member)

/-! ## Sums over the entries -/

/-- The sum of the weights of all entries. -/
def total (table : Table κ α) (weight : κ → α → Int) : Int :=
  (table.entries.map fun pair => weight pair.1 pair.2).sum

theorem sum_write (key : κ) (value : α) (weight : κ → α → Int) (pairs : List (κ × α)) :
    ((write key value pairs).map fun pair => weight pair.1 pair.2).sum =
      (pairs.map fun pair => weight pair.1 pair.2).sum + weight key value -
        ((lookup key pairs).elim 0 (weight key)) := by
  induction pairs with
  | nil => simp [write, lookup]
  | cons head rest ih =>
      obtain ⟨first, old⟩ := head
      by_cases same : first = key
      · subst same
        simp only [write, lookup, if_true, List.map_cons, List.sum_cons, Option.elim_some]
        omega
      · simp only [write, lookup, same, if_false, List.map_cons, List.sum_cons, ih]
        omega

/-- A write adds the weight of the new entry and takes away that of the one it replaces. -/
theorem total_set (table : Table κ α) (key : κ) (value : α) (weight : κ → α → Int) :
    (table.set key value).total weight =
      table.total weight + weight key value - ((table.get? key).elim 0 (weight key)) :=
  sum_write key value weight table.entries

theorem total_set_of_get? {table : Table κ α} {key : κ} {old : α}
    (found : table.get? key = some old) (value : α) (weight : κ → α → Int) :
    (table.set key value).total weight =
      table.total weight + weight key value - weight key old := by
  rw [total_set, found, Option.elim_some]

theorem total_set_of_absent {table : Table κ α} {key : κ} (absent : table.get? key = none)
    (value : α) (weight : κ → α → Int) :
    (table.set key value).total weight = table.total weight + weight key value := by
  rw [total_set, absent, Option.elim_none, Int.sub_zero]

omit [DecidableEq κ] in
theorem sum_filter (keep : κ → α → Bool) (weight : κ → α → Int) (pairs : List (κ × α)) :
    ((pairs.filter fun pair => keep pair.1 pair.2).map fun pair => weight pair.1 pair.2).sum =
      (pairs.map fun pair => if keep pair.1 pair.2 then weight pair.1 pair.2 else 0).sum := by
  induction pairs with
  | nil => rfl
  | cons head rest ih => cases kept : keep head.1 head.2 <;> simp [kept, ih]

omit [DecidableEq κ] in
theorem total_filter (table : Table κ α) (keep : κ → α → Bool) (weight : κ → α → Int) :
    (table.filter keep).total weight =
      table.total fun key value => if keep key value then weight key value else 0 :=
  sum_filter keep weight table.entries

omit [DecidableEq κ] in
/-- A sum over the values that pass a test, as a total. -/
theorem sum_values_filter (table : Table κ α) (keep : α → Bool) (measure : α → Int) :
    ((table.values.filter keep).map measure).sum =
      table.total fun _ value => if keep value then measure value else 0 := by
  unfold values
  rw [List.filter_map, List.map_map]
  exact sum_filter (fun _ => keep) (fun _ => measure) table.entries

theorem total_congr {table : Table κ α} {weight other : κ → α → Int}
    (agree : ∀ key value, table.get? key = some value → weight key value = other key value) :
    table.total weight = table.total other := by
  unfold total
  congr 1
  apply List.map_congr_left
  rintro ⟨key, value⟩ member
  exact agree key value (mem_entries_iff.mp member)

theorem total_eq_zero {table : Table κ α} {weight : κ → α → Int}
    (weightless : ∀ key value, table.get? key = some value → weight key value = 0) :
    table.total weight = 0 := by
  have same : table.total weight = table.total fun _ _ => 0 := total_congr weightless
  rw [same]
  simp [total]

/-- No weight is above the total, if none is negative. -/
theorem le_total {table : Table κ α} {weight : κ → α → Int}
    (positive : ∀ key value, table.get? key = some value → 0 ≤ weight key value)
    {key : κ} {value : α} (found : table.get? key = some value) :
    weight key value ≤ table.total weight := by
  apply List.single_le_sum
  · intro share member
    obtain ⟨⟨key, value⟩, entry, rfl⟩ := List.mem_map.mp member
    exact positive key value (mem_entries_iff.mp entry)
  · exact List.mem_map.mpr ⟨(key, value), mem_entries_iff.mpr found, rfl⟩

end Table
end Escrow
