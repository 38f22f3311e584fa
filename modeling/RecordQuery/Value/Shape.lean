import RecordQuery.Value.Basic

/-!
# Reading shapes from values

How typed fields are read from document values. A scalar is read under any tags; null stands for an
absent field only where it has no tag. A structure is read from a mapping whose keys are all texts,
or from null as from the empty mapping; fields it does not know are passed over, and a field given
twice is a failure.
-/

namespace RecordQuery.Shape

/-- A signed 64-bit integer; floats are refused, whole or not. -/
def int? (v : Value) : Option Int :=
  match v.untagged with
  | .number n => n.asInt64?
  | _ => none

/-- A number of either sort as a float. -/
def float? (v : Value) : Option Double :=
  match v.untagged with
  | .number n => some n.toDouble
  | _ => none

/-- A boolean. -/
def bool? (v : Value) : Option Bool := v.asBool?

/-- A text. -/
def text? (v : Value) : Option String := v.asText?

/-- A list of integers; null is the empty one. -/
def intList? (v : Value) : Option (List Int) :=
  match v.untagged with
  | .sequence items => items.mapM int?
  | .null => some []
  | _ => none

/-- An optional field that is present: plain null leaves it unset. -/
def optional? {α : Type} (read? : Value → Option α) : Value → Option (Option α)
  | .null => some none
  | v => (read? v).map some

/-- The entries of a structure by the texts of their keys. -/
def fields? (v : Value) : Option (List (String × Value)) :=
  match v.untagged with
  | .mapping entries => entries.mapM fun e => e.1.asText?.map fun k => (k, e.2)
  | .null => some []
  | _ => none

/-- The optional field that any of the names gives; unset if none is present. -/
def field? {α : Type} (entries : List (String × Value)) (names : List String)
    (read? : Value → Option α) : Option (Option α) :=
  match entries.filter fun e => names.contains e.1 with
  | [] => some none
  | [e] => optional? read? e.2
  | _ => none

end RecordQuery.Shape
