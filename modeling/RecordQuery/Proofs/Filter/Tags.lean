import RecordQuery.Filter.Binding
import RecordQuery.Filter.Predicate

/-!
# Tags

A filter sees through tags. The value of a field is read by dropping the tag of each value that is
come upon, down to the items of lists; a property is tested without the tags around it, be it read
as a kind, searched, or taken for a date before anything is read. What a test sees of a property is
no more than a failure would report of it: a scalar by its value, a collection by its sort.

* `FilterValue.ofValue_eraseTags`: what a field is read as, or why it is refused.
* `Test.run_congr`: properties that are found to be the same have the same outcome in every test.
* `ofFields_and_holds_eraseTags`: a filter and a record without their tags.
-/

namespace RecordQuery

/-! ## Values without tags -/

namespace Value

mutual

/-- The value without its tags and those of its parts. -/
def eraseTags : Value → Value
  | .tagged _ v => eraseTags v
  | .sequence items => .sequence (eraseItemTags items)
  | .mapping entries => .mapping (eraseEntryTags entries)
  | v => v

/-- The items of a sequence without their tags. -/
def eraseItemTags : List Value → List Value
  | [] => []
  | v :: vs => eraseTags v :: eraseItemTags vs

/-- The entries of a mapping without the tags of their keys and values. -/
def eraseEntryTags : List (Value × Value) → List (Value × Value)
  | [] => []
  | (k, v) :: es => (eraseTags k, eraseTags v) :: eraseEntryTags es

end

end Value

/-- The mapping with a change made to each value, under the same keys. -/
def Mapping.mapValues (change : Value → Value) (m : Mapping) : Mapping :=
  m.map fun e => (e.1, change e.2)

/-- The record with a change made to the value of each property. -/
def Record.mapValues (change : Value → Value) (r : Record) : Record :=
  ⟨r.entries.mapValues change⟩

/-! ## What is found -/

namespace Finding

variable {v w : Value}

theorem ofValue_untagged : ∀ v : Value, ofValue v.untagged = ofValue v
  | .tagged _ v => ofValue_untagged v
  | .null | .bool _ | .number _ | .text _ | .sequence _ | .mapping _ => rfl

theorem ofValue_eraseTags : ∀ v : Value, ofValue v.eraseTags = ofValue v
  | .tagged _ v => ofValue_eraseTags v
  | .null | .bool _ | .number _ | .text _ | .sequence _ | .mapping _ => rfl

/-- Null is found iff the value is null. -/
theorem ofValue_eq_null_iff : ∀ {v : Value}, ofValue v = .null ↔ v.isNull = true
  | .tagged _ v => ofValue_eq_null_iff (v := v)
  | .null | .bool _ | .number _ | .text _ | .sequence _ | .mapping _ => by
    simp [ofValue, Value.isNull, Value.untagged]

theorem ofValue_eq_text_iff {s : String} : ofValue v = .text s ↔ v.asText? = some s := by
  unfold ofValue Value.asText?
  cases v.untagged <;> simp

/-- What is found as a kind, if it can be. -/
def coerce? : Finding → ValueKind → Option FilterValue
  | .number n, kind => coerceNumber? n kind
  | .text s, kind => coerceText? s kind
  | .bool b, kind => coerceBool? b kind
  | _, _ => none

theorem coerce?_ofValue (v : Value) (kind : ValueKind) :
    (ofValue v).coerce? kind = RecordQuery.coerce? v kind := by
  unfold ofValue RecordQuery.coerce?
  cases v.untagged <;> rfl

end Finding

theorem Value.isNull_congr {v w : Value} (h : Finding.ofValue v = Finding.ofValue w) :
    v.isNull = w.isNull := by
  rw [Bool.eq_iff_iff, ← Finding.ofValue_eq_null_iff, ← Finding.ofValue_eq_null_iff, h]

theorem Value.asText?_congr {v w : Value} (h : Finding.ofValue v = Finding.ofValue w) :
    v.asText? = w.asText? := by
  ext s
  rw [← Finding.ofValue_eq_text_iff, ← Finding.ofValue_eq_text_iff, h]

/-! ## Fields of a filter -/

namespace FilterValue

mutual

/-- **A field is read without tags** as it is with them, or refused for the same reason. -/
theorem ofValue_eraseTags (field : String) : ∀ v : Value, ofValue field v.eraseTags = ofValue field v
  | .tagged _ v => ofValue_eraseTags field v
  | .sequence items => by
    rw [Value.eraseTags, ofValue, ofValue, ofItems_eraseItemTags]
  | .null | .bool _ | .number _ | .text _ | .mapping _ => rfl

theorem ofItems_eraseItemTags (field : String) :
    ∀ items : List Value, ofItems field (Value.eraseItemTags items) = ofItems field items
  | [] => rfl
  | v :: vs => by
    simp only [Value.eraseItemTags, ofItems, ofValue_eraseTags field v,
      ofItems_eraseItemTags field vs]

end

end FilterValue

namespace Descriptor

variable {table : PrefixTable} {schema : Schema}

theorem ofEntry_eraseTags (key raw : Value) :
    ofEntry table schema key raw.eraseTags = ofEntry table schema key raw := by
  have hnull : raw.eraseTags.isNull = raw.isNull :=
    Value.isNull_congr (Finding.ofValue_eraseTags raw)
  simp only [ofEntry, hnull, FilterValue.ofValue_eraseTags]

/-- **A filter is bound without tags** as it is with them. -/
theorem ofFields_eraseTags (m : Mapping) :
    ofFields table schema (m.mapValues Value.eraseTags) = ofFields table schema m := by
  induction m with
  | nil => rfl
  | cons e m ih =>
    obtain ⟨key, raw⟩ := e
    show ofFields table schema ((key, raw.eraseTags) :: Mapping.mapValues Value.eraseTags m) = _
    rw [ofFields, ofFields, ofEntry_eraseTags, ih]

end Descriptor

/-! ## Properties of a record -/

section Properties

variable {v w : Value} (h : Finding.ofValue v = Finding.ofValue w)

include h

theorem coerce_congr (property : String) (kind : ValueKind) :
    coerce property v kind = coerce property w kind := by
  rw [coerce, coerce, Value.isNull_congr h, ← Finding.coerce?_ofValue, ← Finding.coerce?_ofValue, h]

theorem dateOrder?_congr (relation : Relation) (value : FilterValue) :
    dateOrder? relation value v = dateOrder? relation value w := by
  simp only [dateOrder?, Value.asText?_congr h]

/-- **Properties that are found to be the same** have the same outcome in every test. -/
theorem Test.run_congr (property : String) (t : Test) : t.run property v = t.run property w := by
  match t with
  | .compare relation value => rw [run, run, dateOrder?_congr h, coerce_congr h]
  | .contains needle => rw [run, run, coerce_congr h]
  | .among [] => rfl
  | .among (first :: rest) => rw [run, run, coerce_congr h]

end Properties

section Change

variable {change : Value → Value}

/-- An entry is looked for by its key alone. -/
theorem Mapping.find?_mapValues (m : Mapping) (q : Value → Bool) :
    (List.find? (fun e => q e.1) (m.mapValues change)).map Prod.snd =
      ((List.find? (fun e => q e.1) m).map Prod.snd).map change := by
  rw [mapValues, List.find?_map, Option.map_map, Option.map_map]
  rfl

theorem Record.find?_mapValues (r : Record) (property : String) :
    (r.mapValues change).find? property = (r.find? property).map change := by
  have hexact : (r.mapValues change).entries.findText? property =
      (r.entries.findText? property).map change :=
    Mapping.find?_mapValues r.entries fun key => key.same (.text property)
  have hlower : ((r.mapValues change).entries.findTextKey? fun k =>
        Text.lower k == Text.lower property) =
      (r.entries.findTextKey? fun k => Text.lower k == Text.lower property).map change :=
    Mapping.find?_mapValues r.entries fun key =>
      key.asText?.any fun k => Text.lower k == Text.lower property
  rw [find?, find?, hexact, hlower]
  cases r.entries.findText? property <;> rfl

variable (hchange : ∀ v, Finding.ofValue (change v) = Finding.ofValue v)

include hchange

theorem Fragment.holds_mapValues (f : Fragment) (r : Record) :
    f.holds (r.mapValues change) = f.holds r := by
  rw [holds, holds, Record.find?_mapValues]
  cases r.find? f.property with
  | none => rfl
  | some raw => exact f.test.run_congr (hchange raw) f.property

/-- **A change after which the same is found** changes no outcome of a predicate. -/
theorem Predicate.holds_mapValues (p : Predicate) (r : Record) :
    p.holds (r.mapValues change) = p.holds r := by
  unfold holds
  induction p.fragments with
  | nil => rfl
  | cons f fs ih => rw [holdAll, holdAll, f.holds_mapValues hchange, ih]

end Change

/-- **Tags are transparent to filters.** A filter is bound to the same descriptors, or refused for
the same reason, if all tags of its values are erased, those of list items and tags under tags
included; and no predicate, whatever its tests, has another outcome on a record, failures included,
if the tags around the values of its properties are erased, or all tags of these values. -/
theorem ofFields_and_holds_eraseTags (table : PrefixTable) (schema : Schema) (fields : Mapping)
    (p : Predicate) (r : Record) :
    Descriptor.ofFields table schema (fields.mapValues Value.eraseTags) =
      Descriptor.ofFields table schema fields ∧
    p.holds (r.mapValues Value.untagged) = p.holds r ∧
    p.holds (r.mapValues Value.eraseTags) = p.holds r :=
  ⟨Descriptor.ofFields_eraseTags fields, p.holds_mapValues Finding.ofValue_untagged r,
    p.holds_mapValues Finding.ofValue_eraseTags r⟩

/-- A date under two tags bounds a property as it does without them. -/
example : (Fragment.mk "Due" (.compare .ge (.text "2024-01-02"))).holds
    ⟨[(.text "due", .tagged "a" (.tagged "b" (.text "2024-01-03T00:00:00")))]⟩ = .ok true := by cbv

end RecordQuery
