import RecordQuery.Filter.Error
import RecordQuery.Text.Lower

/-!
# Records and schemas

A record is a mapping whose properties are looked up without regard to case; a schema names the
properties that a filter may refer to. Both look a name up by its lower-case form, the record after
an exact match, and the first match wins.

* `Schema.resolve?`: `resolve`, the schema's own spelling of a property.
* `Schema.ofRecords`: `from_records`, the text keys of the records, each once, in the order of first
  appearance.
* `Record.ofEntity`: `from_entity`, which fails where an entity cannot be written.
* `Record.find?`: `get`, the value of a property.
-/

namespace RecordQuery

/-- Whatever can be tested by a filter: it may be written as a document value. -/
class Entity (α : Type) where
  /-- The document value of an entity, or the reason why it cannot be written. -/
  serialize : α → Except String Value

/-- A mapping with properties. -/
structure Record where
  entries : Mapping

namespace Record

/-- The record that a value is, if it is a mapping. -/
def ofValue? : Value → Option Record
  | .mapping entries => some ⟨entries⟩
  | _ => none

/-- The record as a value. -/
def toValue (r : Record) : Value := .mapping r.entries

/-- The record that an entity is written as. -/
def ofEntity {α : Type} [Entity α] (x : α) : Except FilterError Record :=
  match Entity.serialize x with
  | .error reason => .error (.serialization (.unwritable reason))
  | .ok v =>
    match ofValue? v with
    | some r => .ok r
    | none => .error (.notAMapping .entity)

/-- The value of a property: of the key spelled exactly so, else of the first text key that is the
same in lower case. -/
def find? (r : Record) (property : String) : Option Value :=
  (r.entries.findText? property).orElse fun _ =>
    r.entries.findTextKey? fun k => Text.lower k == Text.lower property

/-- The text keys of a record in order. -/
def keys (r : Record) : List String := r.entries.filterMap fun e => e.1.asText?

end Record

instance : Entity Value := ⟨.ok⟩

instance : Entity Record := ⟨fun r => .ok r.toValue⟩

/-- The name of a type of entities and the properties that filters may refer to. -/
structure Schema where
  name : String
  properties : List String

namespace Schema

/-- The list with a name at its end, unless it holds it already. -/
def addName (names : List String) (name : String) : List String :=
  if names.contains name then names else names ++ [name]

/-- The schema of the text keys found in the records. -/
def ofRecords (name : String) (records : List Record) : Schema :=
  ⟨name, (records.flatMap Record.keys).foldl addName []⟩

/-- The first property that is the same in lower case. -/
def resolve? (s : Schema) (candidate : String) : Option String :=
  s.properties.find? fun p => Text.lower p == Text.lower candidate

end Schema

end RecordQuery
