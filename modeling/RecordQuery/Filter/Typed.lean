import RecordQuery.Calendar.Reading
import RecordQuery.Filter.Base
import RecordQuery.Filter.Record

/-!
# Filters and entities with declared fields

A filter whose own fields are declared with their types, on top of the shared base, and an entity
whose properties have types. Both are written as mappings in the order of declaration, after the
base's fields; an instant is written as its full text. They stand for the filters and entities
that callers declare themselves, with `QueryFilterBase` flattened into the filter.

* `TypedFilter.ofValue`: reads the declared fields; every one of them may be left out.
-/

namespace RecordQuery

/-- The type of a declared field. -/
inductive FieldType where
  | int
  | float
  | text
  | bool
  | date
  deriving DecidableEq

/-- A value of a declared field. -/
inductive FieldValue where
  | int (n : Int)
  | float (x : Double)
  | text (s : String)
  | bool (b : Bool)
  | date (t : DateTime)

namespace FieldValue

/-- The value as it is written. -/
def toValue : FieldValue → Value
  | .int n => Value.ofInt n
  | .float x => .number (.float x)
  | .text s => .text s
  | .bool b => .bool b
  | .date t => .text t.toIsoText

/-- The value of a type that is read from a document value. -/
def read? (v : Value) : FieldType → Option FieldValue
  | .int => (Shape.int? v).map .int
  | .float => (Shape.float? v).map .float
  | .text => (Shape.text? v).map .text
  | .bool => (Shape.bool? v).map .bool
  | .date => ((Shape.text? v).bind DateTime.ofIsoText?).map .date

end FieldValue

/-- Named values in the order of their declaration, unset ones included. -/
abbrev TypedFields := List (String × Option FieldValue)

/-- Named values as a mapping. -/
def TypedFields.toMapping (fields : TypedFields) : Mapping :=
  fields.map fun f => (.text f.1, FilterBase.orNull FieldValue.toValue f.2)

/-- A filter with the shared base and fields of its own. -/
structure TypedFilter where
  base : FilterBase
  own : TypedFields

namespace TypedFilter

/-- The fields of the filter: the base's, then its own. -/
def toMapping (f : TypedFilter) : Mapping := f.base.toMapping ++ f.own.toMapping

mutual

/-- No tag occurs in the value. What is not one of the declared fields is set aside before it is
read, and a tagged value cannot be set aside. -/
def isUntagged : Value → Bool
  | .tagged .. => false
  | .sequence items => areUntagged items
  | .mapping entries => entriesUntagged entries
  | _ => true

/-- No tag occurs in the values. -/
def areUntagged : List Value → Bool
  | [] => true
  | v :: vs => isUntagged v && areUntagged vs

/-- No tag occurs in the entries. -/
def entriesUntagged : List (Value × Value) → Bool
  | [] => true
  | (k, v) :: es => isUntagged k && isUntagged v && entriesUntagged es

end

/-- The filter with the declared fields that a list of fields gives. -/
def ofFields? (declared : List (String × FieldType)) (entries : List (String × Value)) :
    Option TypedFilter := do
  let own ← declared.mapM fun d => do
    let v ← Shape.field? entries [d.1] fun v => FieldValue.read? v d.2
    return (d.1, v)
  let others := entries.filter fun e => !(declared.map Prod.fst).contains e.1
  guard (others.all fun e => isUntagged e.2)
  let base ← FilterBase.ofFields? others
  return { base, own }

/-- The filter with the declared fields that a document value is read as. -/
def ofValue (declared : List (String × FieldType)) (v : Value) : Except FilterError TypedFilter :=
  match (Shape.fields? v).bind (ofFields? declared) with
  | some f => .ok f
  | none => .error (.serialization .misshapen)

end TypedFilter

instance : QueryFilter TypedFilter := ⟨TypedFilter.base, fun f => .ok f.toMapping⟩

/-- An entity with typed properties. -/
structure TypedEntity where
  properties : TypedFields

instance : Entity TypedEntity := ⟨fun x => .ok (.mapping x.properties.toMapping)⟩

end RecordQuery
