import RecordQuery.Filter.Record
import RecordQuery.Filter.Value

/-!
# Predicates

A predicate is a conjunction of fragments, each a test of one property; the empty one is always
true. Fragments are data, so a store can evaluate them in its own way. A test of a missing or null
property is false; a property that cannot be read as the kind of the test is a failure, and so is
the test.

* `dateOrder?`: `date_ordering`, the order of two texts that both write a date.
* `Fragment.holds`: the test of one property, by its `FragmentTest`.
* `Predicate.holds`, `Predicate.holdsOf`: `matches` and `matches_entity`, fragment by fragment, up
  to the first that is not true.
* `Predicate.toText`: the written form.
-/

namespace RecordQuery

/-- A relation between a property and a value. -/
inductive Relation where
  | eq
  | ge
  | le
  deriving DecidableEq

namespace Relation

/-- The relation holds of two things in this order. -/
def holds : Relation → Ordering → Bool
  | .eq, o => o == .eq
  | .ge, o => o != .lt
  | .le, o => o != .gt

/-- The mark of a relation in the written form. -/
def symbol : Relation → String
  | .eq => "="
  | .ge => ">="
  | .le => "<="

end Relation

/-- The test of a fragment. The values of a membership test share one kind. -/
inductive Test where
  | compare (relation : Relation) (value : FilterValue)
  | contains (needle : String)
  | among (values : List FilterValue)

/-- A test of one property. -/
structure Fragment where
  property : String
  test : Test

/-- `needle` occurs in a text. -/
def occursIn (needle : List Char) : List Char → Bool
  | [] => needle.isEmpty
  | c :: cs => needle.isPrefixOf (c :: cs) || occursIn needle cs

/-- The order of a property and a text by the dates they write. It is asked for by the two range
relations alone, and exists if both are texts that write dates. -/
def dateOrder? (relation : Relation) (value : FilterValue) (raw : Value) : Option Ordering :=
  match relation, value with
  | .eq, _ => none
  | _, .text s => do
    let expected ← DateTime.ofText? s
    let actual ← raw.asText?.bind DateTime.ofText?
    return actual.compare expected
  | _, _ => none

namespace Test

/-- The outcome of a test on a property that is present. -/
def run (property : String) (raw : Value) : Test → Except FilterError Bool
  | .compare relation value =>
    match dateOrder? relation value raw with
    | some o => .ok (relation.holds o)
    | none => (coerce property raw value.kind).map fun actual? =>
        match actual? with
        | some actual => (actual.compare? value).any relation.holds
        | none => false
  | .contains needle => (coerce property raw .text).map fun actual? =>
      match actual? with
      | some (.text s) => occursIn needle.toList s.toList
      | _ => false
  | .among [] => .ok false
  | .among (first :: rest) => (coerce property raw first.kind).map fun actual? =>
      match actual? with
      | some actual => (first :: rest).any fun v => actual.compare? v == some .eq
      | none => false

end Test

namespace Fragment

/-- The outcome of a fragment on a record; false if the property is missing. -/
def holds (f : Fragment) (r : Record) : Except FilterError Bool :=
  match r.find? f.property with
  | none => .ok false
  | some raw => f.test.run f.property raw

/-- A value as a predicate shows it: texts between quotes. -/
def valueText : FilterValue → String
  | .text s => Text.quoted s
  | v => v.toText

/-- The written form of a fragment. -/
def toText (f : Fragment) : String :=
  match f.test with
  | .compare relation value => f.property ++ " " ++ relation.symbol ++ " " ++ valueText value
  | .contains needle => f.property ++ " contains " ++ Text.quoted needle
  | .among values =>
    f.property ++ " in [" ++ String.intercalate ", " (values.map valueText) ++ "]"

end Fragment

/-- A conjunction of fragments. -/
structure Predicate where
  fragments : List Fragment

namespace Predicate

/-- The predicate has no fragment. -/
def isAlways (p : Predicate) : Bool := p.fragments.isEmpty

/-- The outcome of fragments in order: the first one that is not true decides. -/
def holdAll (r : Record) : List Fragment → Except FilterError Bool
  | [] => .ok true
  | f :: fs =>
    match f.holds r with
    | .ok true => holdAll r fs
    | outcome => outcome

/-- The outcome of a predicate on a record. -/
def holds (p : Predicate) (r : Record) : Except FilterError Bool := holdAll r p.fragments

/-- The outcome of a predicate on an entity, which is not looked at if the predicate is always
true. -/
def holdsOf {α : Type} [Entity α] (p : Predicate) (x : α) : Except FilterError Bool :=
  if p.isAlways then .ok true else (Record.ofEntity x).bind p.holds

/-- The written form of a predicate. -/
def toText (p : Predicate) : String :=
  if p.isAlways then "TRUE" else String.intercalate " AND " (p.fragments.map Fragment.toText)

end Predicate

end RecordQuery
