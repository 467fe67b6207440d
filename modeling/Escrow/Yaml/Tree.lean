import Escrow.Value.Basic

/-!
# Trees of a document

A value together with the nodes of the document that it came from.  A node may stand in several
places, and then the parts at these places have its number.  Only collections that are not empty
tuples, days and instants are told apart in this way: any other datum is the same wherever it is.
-/

namespace Escrow.Yaml

/-- A value whose parts may have the numbers of nodes. -/
inductive Tree where
  | datum (node : Option Nat) (value : Value)
  | list (node : Option Nat) (items : List Tree)
  | tuple (node : Option Nat) (items : List Tree)
  | set (node : Option Nat) (members : List Tree)
  | mapping (node : Option Nat) (entries : List (Tree × Tree))
  deriving Inhabited

namespace Tree

/-- The number of the node at the root. -/
def node : Tree → Option Nat
  | .datum node _ => node
  | .list node _ => node
  | .tuple node _ => node
  | .set node _ => node
  | .mapping node _ => node

mutual

/-- The value of a tree. -/
def value : Tree → Value
  | .datum _ value => value
  | .list _ items => .list (values items)
  | .tuple _ items => .tuple (values items)
  | .set _ members => .set (values members)
  | .mapping _ entries => .mapping (entryValues entries)

/-- The values of trees. -/
def values : List Tree → List Value
  | [] => []
  | tree :: rest => value tree :: values rest

/-- The values of entries. -/
def entryValues : List (Tree × Tree) → List (Value × Value)
  | [] => []
  | (key, tree) :: rest => (value key, value tree) :: entryValues rest

end

mutual

/-- The tree of a value none of whose parts stands in several places. -/
def ofValue : Value → Tree
  | .list items => .list none (ofValues items)
  | .tuple items => .tuple none (ofValues items)
  | .set members => .set none (ofValues members)
  | .mapping entries => .mapping none (ofEntries entries)
  | value => .datum none value

/-- The trees of values. -/
def ofValues : List Value → List Tree
  | [] => []
  | value :: rest => ofValue value :: ofValues rest

/-- The trees of entries. -/
def ofEntries : List (Value × Value) → List (Tree × Tree)
  | [] => []
  | (key, value) :: rest => (ofValue key, ofValue value) :: ofEntries rest

end

mutual

/-- A value has the value of its tree. -/
theorem value_ofValue : ∀ v : Value, (ofValue v).value = v
  | .null | .bool _ | .int _ | .double _ | .text _ | .bytes _ | .date _ | .moment _ => by
    simp [ofValue, value]
  | .list items => by simp [ofValue, value, values_ofValues items]
  | .tuple items => by simp [ofValue, value, values_ofValues items]
  | .set members => by simp [ofValue, value, values_ofValues members]
  | .mapping entries => by simp [ofValue, value, entryValues_ofEntries entries]

/-- Values have the values of their trees. -/
theorem values_ofValues : ∀ vs : List Value, values (ofValues vs) = vs
  | [] => rfl
  | v :: rest => by simp [ofValues, values, value_ofValue v, values_ofValues rest]

/-- Entries have the entries of their trees. -/
theorem entryValues_ofEntries : ∀ es : List (Value × Value), entryValues (ofEntries es) = es
  | [] => rfl
  | (k, v) :: rest => by
    simp [ofEntries, entryValues, value_ofValue k, value_ofValue v, entryValues_ofEntries rest]

end

/-- How deep collections are nested in a tree. -/
def depth : Tree → Nat
  | .datum _ _ => 0
  | .list _ items => ofItems items + 1
  | .tuple _ items => ofItems items + 1
  | .set _ members => ofItems members + 1
  | .mapping _ entries => ofPairs entries + 1
where
  /-- The greatest depth of trees. -/
  ofItems : List Tree → Nat
    | [] => 0
    | tree :: rest => max (depth tree) (ofItems rest)
  /-- The greatest depth of the trees of entries. -/
  ofPairs : List (Tree × Tree) → Nat
    | [] => 0
    | (key, tree) :: rest => max (max (depth key) (depth tree)) (ofPairs rest)

end Tree
end Escrow.Yaml
