import RecordQuery.Text.Quoted
import RecordQuery.Value.Basic

/-!
# Failures of a query

What can go wrong while a filter is bound and compiled, a record is tested or a result is cut into
pages. A failure is a cause; its wording is in `FilterError.message` alone. That a filter field
names no property is not a failure: such a field is passed over. Where the `FilterError` of the
program has the text of what was found, this one has a `Finding`.
-/

namespace RecordQuery

/-- The kinds of filter values, which are also the types that properties are compared as. -/
inductive ValueKind where
  | bool
  | int
  | float
  | text
  | date
  | list
  deriving DecidableEq

namespace ValueKind

/-- The word for a kind in messages. -/
def word : ValueKind → String
  | .bool => "bool"
  | .int => "int"
  | .float => "float"
  | .text => "text"
  | .date => "date"
  | .list => "list"

end ValueKind

/-- How a filter field compares a property with its value. -/
inductive Comparison where
  | greaterOrEqual
  | lessOrEqual
  | equal
  | rangeOpenLow
  | rangeOpenHigh
  | substringMatch
  | membership
  deriving DecidableEq

namespace Comparison

/-- The word for a comparison in messages. -/
def word : Comparison → String
  | .greaterOrEqual => "GreaterOrEqual"
  | .lessOrEqual => "LessOrEqual"
  | .equal => "Equal"
  | .rangeOpenLow => "RangeOpenLow"
  | .rangeOpenHigh => "RangeOpenHigh"
  | .substringMatch => "SubstringMatch"
  | .membership => "Membership"

end Comparison

/-- What stood where another kind of value was expected. -/
inductive Finding where
  | null
  | bool (b : Bool)
  | number (n : Number)
  | text (s : String)
  | sequence
  | mapping
  | nestedList
  | noProperty (entity : String)
  | listElement (item : String) (kind : ValueKind)
  | listValue (comparison : Comparison) (field : String)
  deriving DecidableEq

namespace Finding

/-- What a document value is found to be, tags aside: scalars with their value, collections
without. -/
def ofValue (v : Value) : Finding :=
  match v.untagged with
  | .bool b => .bool b
  | .number n => .number n
  | .text s => .text s
  | .sequence _ => .sequence
  | .mapping _ => .mapping
  | _ => .null

/-- The wording of a finding. -/
def message : Finding → String
  | .null => "null"
  | .bool b => "bool " ++ toString b
  | .number n => "number " ++ n.toText
  | .text s => "text " ++ Text.quoted s
  | .sequence => "sequence"
  | .mapping => "mapping"
  | .nestedList => "nested list"
  | .noProperty entity => "no such property on '" ++ entity ++ "'"
  | .listElement item kind => "list element " ++ item ++ " of kind " ++ kind.word
  | .listValue comparison field =>
    "list value for " ++ comparison.word ++ " filter field '" ++ field ++ "'"

end Finding

/-- The two numbers of a page request. -/
inductive PageField where
  | page
  | pageSize
  deriving DecidableEq

/-- The name of a page number in requests and messages. -/
def PageField.name : PageField → String
  | .page => "page"
  | .pageSize => "pageSize"

/-- What can be asked to turn into a mapping. -/
inductive MappingSource where
  | entity
  | queryFilter
  deriving DecidableEq

/-- The word for such a thing in messages. -/
def MappingSource.word : MappingSource → String
  | .entity => "entity"
  | .queryFilter => "query filter"

/-- Why a value cannot be turned into another form. -/
inductive SerializationFailure where
  /-- It cannot be written, for a reason of its own. -/
  | unwritable (reason : String)
  /-- It does not have the shape that is read from it. -/
  | misshapen
  deriving DecidableEq

/-- The wording of such a failure. The reader has one for each shape, which is left out. -/
def SerializationFailure.message : SerializationFailure → String
  | .unwritable reason => "serialization failed: " ++ reason
  | .misshapen => "serialization failed"

/-- A failure of a query. -/
inductive FilterError where
  /-- The sort property is not one of the entity. -/
  | unresolvableSortField (entity field : String)
  /-- The sort text is not a field with an optional direction. -/
  | invalidSortSpec (text : String)
  /-- A value cannot be compared as the expected kind. -/
  | coercionFailure (property : String) (expected : ValueKind) (found : Finding)
  /-- A page number or size is not positive. -/
  | invalidPageRequest (field : PageField) (value : Int)
  /-- An entity or a filter is not a mapping. -/
  | notAMapping (source : MappingSource)
  /-- A value does not have the shape that is read from it, or cannot be written. -/
  | serialization (cause : SerializationFailure)
  deriving DecidableEq

/-- The wording of a failure. -/
def FilterError.message : FilterError → String
  | .unresolvableSortField entity field =>
    "cannot sort by '" ++ field ++ "': entity '" ++ entity ++ "' has no such property"
  | .invalidSortSpec text =>
    "invalid sort specification '" ++ text ++ "', expected \"<field>[ asc|desc]\""
  | .coercionFailure property expected found =>
    "cannot compare property '" ++ property ++ "' as " ++ expected.word ++ ": found " ++
      found.message
  | .invalidPageRequest field value =>
    "invalid page request: " ++ field.name ++ " must be positive, got " ++ toString value
  | .notAMapping source => "expected " ++ source.word ++ " to serialize as a mapping"
  | .serialization cause => cause.message

end RecordQuery
