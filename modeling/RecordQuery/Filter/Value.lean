import RecordQuery.Calendar.Reading
import RecordQuery.Filter.Error
import RecordQuery.Text.Lower

/-!
# Filter values

The value of a filter field: a scalar of a declared kind, or a list of scalars. A document value
becomes a filter value by dropping its tags; null means that the field is not filtered on, and a
list drops its nulls. The other direction, `coerce`, reads a property of a record as a wanted kind.

* `FilterValue.ofValue`: `from_yaml`, which refuses mappings and nested lists, and nothing else.
* `FilterValue.compare?`: `compare`, which orders values of one kind; NaN and unlike kinds are
  unordered.
* `coerce`: reads a property as a kind, or says what was found in its place.
-/

namespace RecordQuery

/-- A value that a filter field holds. -/
inductive FilterValue where
  | bool (b : Bool)
  | int (n : Int)
  | float (x : Double)
  | text (s : String)
  | date (t : DateTime)
  | list (items : List FilterValue)

namespace FilterValue

/-- The kind of a value. -/
def kind : FilterValue → ValueKind
  | .bool _ => .bool
  | .int _ => .int
  | .float _ => .float
  | .text _ => .text
  | .date _ => .date
  | .list _ => .list

/-- Predicates and messages show a float positionally, and no point in a whole number. -/
def floatStyle : FloatStyle where
  plain := none
  pointZero := false
  plusSign := false
  tie := .up
  nan := "NaN"
  infinity := "inf"

mutual

/-- The text of a value, as substring matching looks for it. -/
def toText : FilterValue → String
  | .bool b => toString b
  | .int n => toString n
  | .float x => floatStyle.render x
  | .text s => s
  | .date t => t.toText
  | .list items => "[" ++ String.intercalate ", " (itemTexts items) ++ "]"

/-- The texts of the items of a list. -/
def itemTexts : List FilterValue → List String
  | [] => []
  | v :: vs => toText v :: itemTexts vs

end

/-- The instant that a value is, or that its text writes. -/
def asDate? : FilterValue → Option DateTime
  | .date t => some t
  | .text s => DateTime.ofText? s
  | _ => none

/-- The order of two values of one kind; none across kinds, for lists and for NaN. -/
def compare? : FilterValue → FilterValue → Option Ordering
  | .bool a, .bool b => some (compare a b)
  | .int a, .int b => some (compare a b)
  | .float a, .float b => a.compare? b
  | .text a, .text b => some (compare a.toList b.toList)
  | .date a, .date b => some (a.compare b)
  | _, _ => none

/-! ## From document values -/

/-- The number as a filter value: an integer if it fits 64 signed bits, else a float. -/
def ofNumber (n : Number) : FilterValue :=
  match n.asInt64? with
  | some i => .int i
  | none => .float n.toDouble

mutual

/-- The filter value of a document value, none for null. -/
def ofValue (field : String) : Value → Except FilterError (Option FilterValue)
  | .null => .ok none
  | .bool b => .ok (some (.bool b))
  | .number n => .ok (some (ofNumber n))
  | .text s => .ok (some (.text s))
  | .sequence items => (ofItems field items).map fun vs => some (.list vs)
  | .mapping _ => .error (.coercionFailure field .text .mapping)
  | .tagged _ v => ofValue field v

/-- The items of a list without its nulls; a list among them is refused. -/
def ofItems (field : String) : List Value → Except FilterError (List FilterValue)
  | [] => .ok []
  | v :: vs =>
    match ofValue field v with
    | .error e => .error e
    | .ok (some (.list _)) => .error (.coercionFailure field .list .nestedList)
    | .ok none => ofItems field vs
    | .ok (some x) => (ofItems field vs).map (x :: ·)

end

end FilterValue

/-! ## Coercion -/

/-- The integer that a float is read as: it must have no fraction and lie between the bounds of
64 signed bits taken as floats, and the upper one, which is one too many, is lowered. -/
def wholeInt64? (x : Double) : Option Int :=
  match x.toInt? with
  | some n =>
    if Numeral.int64Min ≤ n ∧ n ≤ Numeral.int64Max + 1 then some (min n Numeral.int64Max)
    else none
  | none => none

/-- The boolean that a text writes, in any case. -/
def readBool? (s : String) : Option Bool :=
  if Text.lower s = "true" then some true
  else if Text.lower s = "false" then some false
  else none

/-- A number as a kind, if it can be. -/
def coerceNumber? (n : Number) : ValueKind → Option FilterValue
  | .int =>
    match n.asInt64? with
    | some i => some (.int i)
    | none => (wholeInt64? n.toDouble).map .int
  | .float => some (.float n.toDouble)
  | .text => some (.text n.toText)
  | _ => none

/-- A text as a kind, if it can be. -/
def coerceText? (s : String) : ValueKind → Option FilterValue
  | .bool => (readBool? s).map .bool
  | .int => (Numeral.readInt64? (Text.trim s.toList)).map .int
  | .float => (Numeral.readDouble? (Text.trim s.toList)).map .float
  | .text => some (.text s)
  | .date => (DateTime.ofText? s).map .date
  | .list => none

/-- A boolean as a kind, if it can be. -/
def coerceBool? (b : Bool) : ValueKind → Option FilterValue
  | .bool => some (.bool b)
  | .text => some (.text (toString b))
  | _ => none

/-- A value as a kind, if it can be. -/
def coerce? (v : Value) (kind : ValueKind) : Option FilterValue :=
  match v.untagged with
  | .number n => coerceNumber? n kind
  | .text s => coerceText? s kind
  | .bool b => coerceBool? b kind
  | _ => none

/-- A property value as a wanted kind; none for null. -/
def coerce (property : String) (v : Value) (kind : ValueKind) :
    Except FilterError (Option FilterValue) :=
  if v.isNull then .ok none
  else match coerce? v kind with
    | some x => .ok (some x)
    | none => .error (.coercionFailure property kind (Finding.ofValue v))

end RecordQuery
