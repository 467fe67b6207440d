/-!
# Insertion-ordered tables

A finite map that remembers the order in which its keys first came.  Every register of the library
(pools, transfers, balances, fee overrides) is shown in this order, so the order belongs to the
type.  That no key occurs twice is a field, kept by every operation.
-/

namespace Escrow

/-- A finite map with its keys in the order of their first insertion. -/
structure Table (κ : Type) (α : Type) where
  /-- The pairs, oldest key first. -/
  entries : List (κ × α)
  /-- No key occurs twice. -/
  nodup : (entries.map Prod.fst).Nodup

namespace Table

variable {κ α β : Type}

/-- The table without any key. -/
def empty : Table κ α := ⟨[], List.nodup_nil⟩

instance : Inhabited (Table κ α) := ⟨empty⟩

instance [DecidableEq κ] [DecidableEq α] : DecidableEq (Table κ α) := fun left right =>
  match left, right with
  | ⟨leftEntries, _⟩, ⟨rightEntries, _⟩ =>
    if same : leftEntries = rightEntries then isTrue (by subst same; rfl)
    else isFalse (by intro equal; exact same (congrArg entries equal))

/-- The keys, oldest first. -/
def keys (table : Table κ α) : List κ := table.entries.map Prod.fst

/-- The values in the order of their keys. -/
def values (table : Table κ α) : List α := table.entries.map Prod.snd

/-- How many keys there are. -/
def size (table : Table κ α) : Nat := table.entries.length

/-- The value of the first pair with this key. -/
def lookup [DecidableEq κ] (key : κ) : List (κ × α) → Option α
  | [] => none
  | (k, value) :: rest => if k = key then some value else lookup key rest

/-- Write a value at a key: in place when the key is there, at the end otherwise. -/
def write [DecidableEq κ] (key : κ) (value : α) : List (κ × α) → List (κ × α)
  | [] => [(key, value)]
  | (k, old) :: rest => if k = key then (k, value) :: rest else (k, old) :: write key value rest

theorem mem_keys_write [DecidableEq κ] (key : κ) (value : α) (pairs : List (κ × α)) (k : κ) :
    k ∈ (write key value pairs).map Prod.fst ↔ k = key ∨ k ∈ pairs.map Prod.fst := by
  induction pairs with
  | nil => simp [write]
  | cons head rest ih =>
    obtain ⟨first, old⟩ := head
    by_cases same : first = key
    · subst same
      simp [write]
    · simp only [write, same, if_false, List.map_cons, List.mem_cons, ih]
      constructor
      · rintro (h | h | h)
        · exact Or.inr (Or.inl h)
        · exact Or.inl h
        · exact Or.inr (Or.inr h)
      · rintro (h | h | h)
        · exact Or.inr (Or.inl h)
        · exact Or.inl h
        · exact Or.inr (Or.inr h)

theorem nodup_write [DecidableEq κ] (key : κ) (value : α) (pairs : List (κ × α))
    (distinct : (pairs.map Prod.fst).Nodup) : ((write key value pairs).map Prod.fst).Nodup := by
  induction pairs with
  | nil => simp [write]
  | cons head rest ih =>
    obtain ⟨first, old⟩ := head
    rw [List.map_cons, List.nodup_cons] at distinct
    by_cases same : first = key
    · simpa [write, same] using distinct
    · rw [write, if_neg same, List.map_cons, List.nodup_cons, mem_keys_write, not_or]
      exact ⟨⟨same, distinct.1⟩, ih distinct.2⟩

/-- The value at a key. -/
def get? [DecidableEq κ] (table : Table κ α) (key : κ) : Option α := lookup key table.entries

/-- Is the key there? -/
def contains [DecidableEq κ] (table : Table κ α) (key : κ) : Bool := (table.get? key).isSome

/-- Put a value at a key, keeping the key's place if it has one. -/
def set [DecidableEq κ] (table : Table κ α) (key : κ) (value : α) : Table κ α :=
  ⟨write key value table.entries, nodup_write key value table.entries table.nodup⟩

/-- Keep the pairs that pass a test. -/
def filter (table : Table κ α) (keep : κ → α → Bool) : Table κ α :=
  ⟨table.entries.filter fun pair => keep pair.1 pair.2,
    (List.filter_sublist.map Prod.fst).nodup table.nodup⟩

/-- Remove one key. -/
def erase [DecidableEq κ] (table : Table κ α) (key : κ) : Table κ α :=
  table.filter fun k _ => !decide (k = key)

/-- The table that writing the pairs one after another gives: the last value of a key wins. -/
def ofList [DecidableEq κ] (pairs : List (κ × α)) : Table κ α :=
  pairs.foldl (fun table pair => table.set pair.1 pair.2) empty

@[simp]
theorem get?_empty [DecidableEq κ] (key : κ) : (empty : Table κ α).get? key = none := rfl

theorem lookup_write_self [DecidableEq κ] (key : κ) (value : α) (pairs : List (κ × α)) :
    lookup key (write key value pairs) = some value := by
  induction pairs with
  | nil => simp [write, lookup]
  | cons head rest ih =>
    by_cases same : head.1 = key <;> simp [write, lookup, same, ih]

theorem lookup_write_of_ne [DecidableEq κ] {key other : κ} (different : key ≠ other) (value : α)
    (pairs : List (κ × α)) : lookup other (write key value pairs) = lookup other pairs := by
  induction pairs with
  | nil => simp [write, lookup, different]
  | cons head rest ih =>
    by_cases same : head.1 = key
    · have apart : head.1 ≠ other := by rw [same]; exact different
      simp [write, lookup, same, different]
    · simp [write, lookup, same, ih]

@[simp]
theorem get?_set_self [DecidableEq κ] (table : Table κ α) (key : κ) (value : α) :
    (table.set key value).get? key = some value :=
  lookup_write_self key value table.entries

theorem get?_set_of_ne [DecidableEq κ] (table : Table κ α) {key other : κ} (different : key ≠ other)
    (value : α) : (table.set key value).get? other = table.get? other :=
  lookup_write_of_ne different value table.entries

end Table
end Escrow
