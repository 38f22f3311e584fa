import RecordQuery.Filter.Record
import RecordQuery.Text.Natural

/-!
# The order of property values

The order that sorting uses. Missing and null values come first, then booleans, numbers by value,
texts in natural order, and last everything else by its written form, which is a parameter here.

* `compareValues`: `compare_values`, by `rank` first; a total preorder for every written form.
-/

namespace RecordQuery

/-- The place of a value's kind in the order. -/
def rank : Option Value → Nat
  | none | some .null => 0
  | some (.bool _) => 1
  | some (.number _) => 2
  | some (.text _) => 3
  | some _ => 4

/-- The order of two property values, where `write` gives the written form of collections and
tagged values. -/
def compareValues (write : Value → String) (a b : Option Value) : Ordering :=
  match a, b with
  | some (.bool x), some (.bool y) => compare x y
  | some (.number x), some (.number y) => x.compareNumeric y
  | some (.text x), some (.text y) => Text.naturalCompare x y
  | some x, some y =>
    if rank (some x) = 4 ∧ rank (some y) = 4 then compare (write x).toList (write y).toList
    else compare (rank (some x)) (rank (some y))
  | _, _ => compare (rank a) (rank b)

end RecordQuery
