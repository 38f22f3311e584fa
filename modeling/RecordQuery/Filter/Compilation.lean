import RecordQuery.Filter.Binding
import RecordQuery.Filter.Predicate

/-!
# Compiling descriptors

Every descriptor becomes one fragment, and a predicate joins them in order. A scalar comparison
refuses a list; a membership test makes a list of what it is given, takes its integers as floats if
one of them is a float, and refuses a list of several kinds.

* `Predicate.compile`: `compile`, descriptor by descriptor.
* `Test.ofDescriptor`: `build_test`, and for lists `membership`.
-/

namespace RecordQuery

namespace Test

/-- The relation that a scalar comparison tests; none for the other comparisons. -/
def relation? : Comparison → Option Relation
  | .greaterOrEqual | .rangeOpenLow => some .ge
  | .lessOrEqual | .rangeOpenHigh => some .le
  | .equal => some .eq
  | .substringMatch | .membership => none

/-- A list where a scalar belongs. -/
def listRefused (d : Descriptor) : FilterError :=
  .coercionFailure d.property .list (.listValue d.comparison d.field)

/-- The non-blank parts of a text between commas, trimmed. -/
def commaParts (s : String) : List String :=
  (((Text.splitWhere (· = ',') s.toList).map Text.trim).filter fun part => !part.isEmpty).map
    String.ofList

/-- The values among which a property is looked for. -/
def members : FilterValue → List FilterValue
  | .list items => items
  | .text s => (commaParts s).map .text
  | scalar => [scalar]

/-- A list in which integers are taken as floats if it holds a float. -/
def promote (items : List FilterValue) : List FilterValue :=
  if items.any fun v => v.kind = .float then
    items.map fun v => match v with
      | .int n => .float (Double.ofInt n)
      | v => v
  else items

/-- The first item of another kind than the first one, and that kind. -/
def oddKind? : List FilterValue → Option (ValueKind × FilterValue)
  | [] => none
  | first :: rest =>
    (rest.find? fun v => v.kind ≠ first.kind).map fun odd => (first.kind, odd)

/-- The membership test of a descriptor. -/
def membership (d : Descriptor) : Except FilterError Test :=
  let items := promote (members d.value)
  match oddKind? items with
  | some (kind, odd) => .error (.coercionFailure d.property kind (.listElement odd.toText odd.kind))
  | none => .ok (.among items)

/-- The test of a descriptor. -/
def ofDescriptor (d : Descriptor) : Except FilterError Test :=
  match d.comparison with
  | .membership => membership d
  | .substringMatch =>
    match d.value with
    | .list _ => .error (listRefused d)
    | value => .ok (.contains value.toText)
  | comparison =>
    match d.value, relation? comparison with
    | .list _, _ | _, none => .error (listRefused d)
    | value, some relation => .ok (.compare relation value)

end Test

namespace Fragment

/-- The fragment of a descriptor, its property spelled as in the schema. -/
def ofDescriptor (schema : Schema) (d : Descriptor) : Except FilterError Fragment :=
  match schema.resolve? d.property with
  | none => .error (.coercionFailure d.property d.value.kind (.noProperty schema.name))
  | some property => (Test.ofDescriptor d).map fun test => { property, test }

end Fragment

namespace Predicate

/-- The conjunction of the fragments of the descriptors in order. -/
def compile (schema : Schema) (ds : List Descriptor) : Except FilterError Predicate :=
  (ds.mapM (Fragment.ofDescriptor schema)).map Predicate.mk

end Predicate

end RecordQuery
