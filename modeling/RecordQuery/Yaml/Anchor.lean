import RecordQuery.Yaml.Node

/-!
# Anchors and aliases

An alias refers to the latest anchor of its name before it. Anchors are known by numbers: a new
one gets the number of names that are in use. So an anchor that takes up an old name shares its
number with the next new name, and a number stands for the last node that bears it, wherever the
alias is.

* `Node.numbered?`: the tree with numbers for names; fails if an alias has no anchor.
* `Node.anchored`: the nodes with numbers in the order in which they start.
-/

namespace RecordQuery.Yaml

/-- The names in use with their numbers, each name once. -/
abbrev AnchorNames := List (String × Nat)

/-- The names after one more anchor, and its number. -/
def AnchorNames.add (names : AnchorNames) (name : String) : AnchorNames × Nat :=
  ((name, names.length) :: names.filter fun n => n.1 ≠ name, names.length)

/-- The names after an optional anchor, and its number. -/
def AnchorNames.addAll (names : AnchorNames) : Option String → AnchorNames × Option Nat
  | none => (names, none)
  | some name => ((names.add name).1, some (names.add name).2)

namespace Node

mutual

/-- A node with numbers for names, and the names in use after it. -/
def number (names : AnchorNames) : Written → Option (Node Nat × AnchorNames)
  | .scalar anchor tag text plain =>
    let (names, id) := names.addAll anchor
    some (.scalar id tag text plain, names)
  | .sequence anchor tag items =>
    let (names, id) := names.addAll anchor
    (numberItems names items).map fun (items, names) => (.sequence id tag items, names)
  | .mapping anchor tag entries =>
    let (names, id) := names.addAll anchor
    (numberEntries names entries).map fun (entries, names) => (.mapping id tag entries, names)
  | .alias name => (List.lookup name names).map fun id => (.alias id, names)

/-- The items of a sequence with numbers for names. -/
def numberItems (names : AnchorNames) : List Written → Option (List (Node Nat) × AnchorNames)
  | [] => some ([], names)
  | n :: ns => do
    let (n, names) ← number names n
    let (ns, names) ← numberItems names ns
    return (n :: ns, names)

/-- The entries of a mapping with numbers for names. -/
def numberEntries (names : AnchorNames) :
    List (Written × Written) → Option (List (Node Nat × Node Nat) × AnchorNames)
  | [] => some ([], names)
  | (k, v) :: es => do
    let (k, names) ← number names k
    let (v, names) ← number names v
    let (es, names) ← numberEntries names es
    return ((k, v) :: es, names)

end

/-- The tree with numbers for names. -/
def numbered? (root : Written) : Option (Node Nat) := (number [] root).map Prod.fst

/-- A node with its number, if it has one. -/
def withId (id : Option Nat) (n : Node Nat) : List (Nat × Node Nat) := (id.map (·, n)).toList

mutual

/-- The nodes with numbers in the order in which they start. -/
def anchored : Node Nat → List (Nat × Node Nat)
  | .scalar id tag text plain => withId id (.scalar id tag text plain)
  | .sequence id tag items => withId id (.sequence id tag items) ++ anchoredItems items
  | .mapping id tag entries => withId id (.mapping id tag entries) ++ anchoredEntries entries
  | .alias _ => []

/-- The nodes with numbers in the items of a sequence. -/
def anchoredItems : List (Node Nat) → List (Nat × Node Nat)
  | [] => []
  | n :: ns => anchored n ++ anchoredItems ns

/-- The nodes with numbers in the entries of a mapping. -/
def anchoredEntries : List (Node Nat × Node Nat) → List (Nat × Node Nat)
  | [] => []
  | (k, v) :: es => anchored k ++ anchored v ++ anchoredEntries es

end

mutual

/-- The marks of a tree: one for a scalar or an alias, and the two ends of a collection. -/
def size {ν : Type} : Node ν → Nat
  | .scalar .. | .alias _ => 1
  | .sequence _ _ items => 2 + itemsSize items
  | .mapping _ _ entries => 2 + entriesSize entries

/-- The marks of the items of a sequence. -/
def itemsSize {ν : Type} : List (Node ν) → Nat
  | [] => 0
  | n :: ns => size n + itemsSize ns

/-- The marks of the entries of a mapping. -/
def entriesSize {ν : Type} : List (Node ν × Node ν) → Nat
  | [] => 0
  | (k, v) :: es => size k + size v + entriesSize es

end

end Node

end RecordQuery.Yaml
