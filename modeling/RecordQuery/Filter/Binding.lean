import RecordQuery.Filter.Prefixes
import RecordQuery.Filter.Record
import RecordQuery.Filter.Value

/-!
# Binding filter fields to properties

Each filter field is bound to the property that its name refers to once the prefix is taken off.
A field that is null, whose key is no text or whose name resolves to no property is passed over
before its value is looked at.

* `Comparison.ofPrefix`: `for_prefix`, how a prefix compares.
* `Descriptor.ofFields`: `bind`, entry by entry.
-/

namespace RecordQuery

/-- The comparison that a prefix asks for; no prefix asks for equality. -/
def Comparison.ofPrefix : Option Prefix → Comparison
  | some .atMost => .lessOrEqual
  | some .atLeast => .greaterOrEqual
  | some .since => .rangeOpenLow
  | some .upTo => .rangeOpenHigh
  | some .containing => .substringMatch
  | some .among => .membership
  | none => .equal

/-- A filter field bound to a property, which is spelled as the schema spells it. -/
structure Descriptor where
  field : String
  stripped : Option Prefix
  property : String
  comparison : Comparison
  value : FilterValue

namespace Descriptor

/-- The prefix of a field and the name it refers to. -/
def split (table : PrefixTable) (field : String) : Option Prefix × String :=
  match table.strip? field with
  | some (p, rest) => (some p, rest)
  | none => (none, field)

/-- The binding of one filter entry; none if it is passed over. -/
def ofEntry (table : PrefixTable) (schema : Schema) (key raw : Value) :
    Except FilterError (Option Descriptor) :=
  match key.asText? with
  | none => .ok none
  | some field =>
    if raw.isNull then .ok none
    else
      let (stripped, candidate) := split table field
      match schema.resolve? candidate with
      | none => .ok none
      | some property =>
        (FilterValue.ofValue field raw).map fun value? => value?.map fun value =>
          { field, stripped, property, comparison := .ofPrefix stripped, value }

/-- The bindings of the entries of a filter in order, up to the first that fails. -/
def ofFields (table : PrefixTable) (schema : Schema) :
    Mapping → Except FilterError (List Descriptor)
  | [] => .ok []
  | (key, raw) :: rest =>
    match ofEntry table schema key raw with
    | .error e => .error e
    | .ok none => ofFields table schema rest
    | .ok (some d) => (ofFields table schema rest).map (d :: ·)

end Descriptor

end RecordQuery
