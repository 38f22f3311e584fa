import RecordQuery.Value.Number

/-!
# Document values

The values of YAML and JSON documents: null, booleans, numbers, texts, sequences, mappings whose
keys are values in turn and keep their order, and values under a tag. A tag is held by its name,
without the exclamation mark it is written with.

* `Value.same`: equality of values as keys; a mapping is compared without regard to order.
* `Value.untagged`: the value under any number of tags.
* `Mapping.insert`: a present key keeps its place and takes the new value, a new one goes last.
-/

namespace RecordQuery

/-- A value of a document. -/
inductive Value where
  | null
  | bool (b : Bool)
  | number (n : Number)
  | text (s : String)
  | sequence (items : List Value)
  | mapping (entries : List (Value × Value))
  | tagged (tag : String) (value : Value)

/-- The entries of a mapping in order. -/
abbrev Mapping := List (Value × Value)

namespace Value

/-- A tag without one leading exclamation mark; a lone mark stays. -/
def tagName (tag : String) : String :=
  match tag.toList with
  | '!' :: c :: cs => String.ofList (c :: cs)
  | _ => tag

mutual

/-- Equality of values as keys of a mapping. -/
def same : Value → Value → Bool
  | .null, .null => true
  | .bool a, .bool b => a == b
  | .number a, .number b => a.same b
  | .text a, .text b => a == b
  | .sequence a, .sequence b => sameItems a b
  | .mapping a, .mapping b => a.length == b.length && sameEntries a b
  | .tagged s a, .tagged t b => s == t && same a b
  | _, _ => false

/-- Equality of sequences, item by item. -/
def sameItems : List Value → List Value → Bool
  | [], [] => true
  | a :: as, b :: bs => same a b && sameItems as bs
  | _, _ => false

/-- Every entry on the left has an equal one on the right. -/
def sameEntries : List (Value × Value) → List (Value × Value) → Bool
  | [], _ => true
  | (k, v) :: es, bs => bs.any (fun e => same k e.1 && same v e.2) && sameEntries es bs

end

/-- The value under its tags. -/
def untagged : Value → Value
  | .tagged _ v => untagged v
  | v => v

/-- The text that the value is, tags aside. -/
def asText? (v : Value) : Option String :=
  match v.untagged with
  | .text s => some s
  | _ => none

/-- The boolean that the value is, tags aside. -/
def asBool? (v : Value) : Option Bool :=
  match v.untagged with
  | .bool b => some b
  | _ => none

/-- The value is null, tags aside. -/
def isNull (v : Value) : Bool :=
  match v.untagged with
  | .null => true
  | _ => false

/-- The integer as a value; `null` for one that fits no word. -/
def ofInt (n : Int) : Value :=
  match Number.ofInt? n with
  | some m => .number m
  | none => .null

end Value

namespace Mapping

/-- The value of a key. -/
def find? (m : Mapping) (key : Value) : Option Value :=
  (List.find? (fun e => e.1.same key) m).map (·.2)

/-- The value of a text key, spelled exactly so and without a tag. -/
def findText? (m : Mapping) (key : String) : Option Value := find? m (.text key)

/-- The key is present. -/
def holds (m : Mapping) (key : Value) : Bool := m.any fun e => e.1.same key

/-- The mapping with a key set to a value: in its place if it is present, else at the end. -/
def insert (m : Mapping) (key value : Value) : Mapping :=
  if holds m key then m.map fun e => if e.1.same key then (e.1, value) else e
  else m ++ [(key, value)]

/-- The first value whose text key satisfies `p`. -/
def findTextKey? (m : Mapping) (p : String → Bool) : Option Value :=
  (List.find? (fun e => e.1.asText?.any p) m).map (·.2)

end Mapping

end RecordQuery
