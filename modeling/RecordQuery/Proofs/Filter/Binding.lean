import RecordQuery.Filter.Binding
import RecordQuery.Proofs.Filter.Prefixes
import RecordQuery.Proofs.Outcome

/-!
# What binding gives

A filter field that is bound has been looked up in the schema and its value has been read. Both
leave a mark on the descriptor that the later stages rely on without checking it again: its property
is spelled as the schema spells it, so that looking it up once more finds the same spelling, and its
value is a scalar or a list of scalars, none of them a date.

* `Schema.resolve?_resolved`: looking up a spelling that was found finds it again, also where
  several properties of the schema differ in case alone.
* `FilterValue.ofValue_isRead`: what a document value is read as.
* `Descriptor.ofFields_isBound`, `Descriptor.ofFields_sublist`: what every descriptor of a filter
  satisfies, and that descriptors stand in the order of the fields.
-/

namespace RecordQuery

/-! ## Looking a property up -/

namespace Schema

variable {schema : Schema} {candidate property : String}

/-- A spelling that is found is one of the schema's and is the candidate in lower case. -/
theorem resolve?_eq_some (h : schema.resolve? candidate = some property) :
    property ∈ schema.properties ∧ Text.lower property = Text.lower candidate :=
  have hsame := List.find?_some h
  ⟨List.mem_of_find?_eq_some h, beq_iff_eq.mp hsame⟩

/-- A look-up depends on the lower-case form of the candidate alone. -/
theorem resolve?_congr {other : String} (h : Text.lower candidate = Text.lower other) :
    schema.resolve? candidate = schema.resolve? other := by
  unfold resolve?
  rw [h]

/-- **Looking up a spelling that was found finds it again.** -/
theorem resolve?_resolved (h : schema.resolve? candidate = some property) :
    schema.resolve? property = some property := by
  rw [resolve?_congr (resolve?_eq_some h).2, h]

end Schema

/-! ## Reading a value -/

namespace FilterValue

/-- The value is neither a list nor a date. -/
def IsScalar (v : FilterValue) : Prop := v.kind ≠ .list ∧ v.kind ≠ .date

/-- The value is a scalar or a list of scalars. -/
def IsRead : FilterValue → Prop
  | .list items => ∀ v ∈ items, v.IsScalar
  | v => v.IsScalar

/-- Tags around a value do not matter to what it is read as. -/
theorem ofValue_untagged (field : String) : ∀ v : Value, ofValue field v = ofValue field v.untagged
  | .tagged _ v => ofValue_untagged field v
  | .null | .bool _ | .number _ | .text _ | .sequence _ | .mapping _ => rfl

theorem isRead_ofNumber (n : Number) : (ofNumber n).IsRead := by
  unfold ofNumber
  split <;> simp [IsRead, IsScalar, kind]

/-- What is read and is no list is a scalar. -/
theorem IsRead.isScalar {v : FilterValue} (h : v.IsRead) (hlist : ∀ items, v ≠ .list items) :
    v.IsScalar := by
  cases v with
  | list items => exact absurd rfl (hlist items)
  | _ => exact h

variable {field : String}

/-- A null among the items of a list is left out. -/
theorem ofItems_cons_of_null {raw : Value} (h : ofValue field raw = .ok none) (raws : List Value) :
    ofItems field (raw :: raws) = ofItems field raws := by
  rw [ofItems, h]

/-- An item that is read and is no list stands before what is read of the others. -/
theorem ofItems_cons_of_scalar {raw : Value} {x : FilterValue}
    (h : ofValue field raw = .ok (some x)) (hlist : x.kind ≠ .list) (raws : List Value) :
    ofItems field (raw :: raws) = (ofItems field raws).map (x :: ·) := by
  rw [ofItems, h]
  cases x with
  | list items => exact absurd rfl hlist
  | _ => rfl

mutual

/-- **A document value is read as a scalar or as a list of scalars.** -/
theorem ofValue_isRead : ∀ {raw : Value} {v : FilterValue},
    ofValue field raw = .ok (some v) → v.IsRead
  | .null, _, h => by simp [ofValue] at h
  | .bool b, _, h => by
    obtain rfl := Option.some.inj (Except.ok.inj h)
    simp [IsRead, IsScalar, kind]
  | .number n, _, h => by
    obtain rfl := Option.some.inj (Except.ok.inj h)
    exact isRead_ofNumber n
  | .text s, _, h => by
    obtain rfl := Option.some.inj (Except.ok.inj h)
    simp [IsRead, IsScalar, kind]
  | .sequence items, _, h => by
    rw [ofValue] at h
    obtain ⟨vs, hvs, hv⟩ := map_eq_ok_iff.mp h
    obtain rfl := Option.some.inj hv
    exact ofItems_isScalar hvs
  | .mapping _, _, h => by simp [ofValue] at h
  | .tagged _ raw, _, h => ofValue_isRead (show ofValue field raw = _ from h)

/-- The items that a list is read as are scalars. -/
theorem ofItems_isScalar : ∀ {raws : List Value} {vs : List FilterValue},
    ofItems field raws = .ok vs → ∀ v ∈ vs, v.IsScalar
  | [], vs, h, v, hv => by
    obtain rfl := Except.ok.inj h
    exact absurd hv List.not_mem_nil
  | raw :: raws, vs, h, v, hv => by
    rw [ofItems] at h
    split at h
    · cases h
    · cases h
    · exact ofItems_isScalar h v hv
    · rename_i x hlist hx
      obtain ⟨rest, hrest, rfl⟩ := map_eq_ok_iff.mp h
      rcases List.mem_cons.mp hv with rfl | hv
      · exact (ofValue_isRead hx).isScalar hlist
      · exact ofItems_isScalar hrest v hv

end

end FilterValue

/-! ## Binding the fields -/

namespace Descriptor

variable {table : PrefixTable} {schema : Schema}

/-- A name that starts with no spelling is taken whole. -/
theorem split_of_plain {name : String} (h : ∀ p, ¬ table.Starts p name) :
    split table name = (none, name) := by
  unfold split
  rw [PrefixTable.strip?_eq_none_iff.mpr h]

/-- A name with a prefix in front is taken apart again. -/
theorem split_spelling_append (h : table.IsPrefixFree) (p : Prefix) (name : String) :
    split table (table.spelling p ++ name) = (some p, name) := by
  unfold split
  rw [PrefixTable.strip?_spelling_append h p name]

/-- What a descriptor that comes from binding satisfies. -/
structure IsBound (schema : Schema) (d : Descriptor) : Prop where
  resolved : schema.resolve? d.property = some d.property
  value : d.value.IsRead

/-- **One step of binding**: the entry fails, is passed over or gives a descriptor, whatever
follows. -/
theorem ofFields_cons_eq_ok_iff {entry : Value × Value} {m : Mapping} {ds : List Descriptor} :
    ofFields table schema (entry :: m) = .ok ds ↔
      ∃ d? rest, ofEntry table schema entry.1 entry.2 = .ok d? ∧
        ofFields table schema m = .ok rest ∧ ds = d?.toList ++ rest := by
  cases hentry : ofEntry table schema entry.1 entry.2 with
  | error e => simp [ofFields, hentry]
  | ok d? =>
    cases d? with
    | none => simp [ofFields, hentry]
    | some d =>
      rw [ofFields, hentry]
      simp only [map_eq_ok_iff, Except.ok.injEq, exists_eq_left', exists_and_left]
      exact exists_congr fun rest => and_congr_right fun _ => eq_comm

/-- **When an entry gives a descriptor, and which.** -/
theorem ofEntry_eq_some_iff {key raw : Value} {d : Descriptor} :
    ofEntry table schema key raw = .ok (some d) ↔
      ∃ field property value, key.asText? = some field ∧ raw.isNull = false ∧
        schema.resolve? (split table field).2 = some property ∧
        FilterValue.ofValue field raw = .ok (some value) ∧
        d = ⟨field, (split table field).1, property, .ofPrefix (split table field).1, value⟩ := by
  unfold ofEntry
  cases hkey : key.asText? with
  | none => simp
  | some field =>
    cases hnull : raw.isNull with
    | true => simp
    | false =>
      cases hresolve : schema.resolve? (split table field).2 with
      | none => simp [hresolve]
      | some property =>
        simp only [hresolve, map_eq_ok_iff, Bool.false_eq_true, if_false]
        constructor
        · rintro ⟨value?, hvalue, hd⟩
          obtain ⟨value, rfl, rfl⟩ := Option.map_eq_some_iff.mp hd
          exact ⟨field, property, value, rfl, trivial, hresolve, hvalue, rfl⟩
        · rintro ⟨_, _, value, hfield, -, hproperty, hvalue, rfl⟩
          obtain rfl := Option.some.inj hfield
          obtain rfl := Option.some.inj (hresolve.symm.trans hproperty)
          exact ⟨some value, hvalue, rfl⟩

/-- The descriptor of a field that has been taken apart, looked up and read. -/
theorem ofEntry_of_split {field name property : String} {stripped : Option Prefix} {raw : Value}
    {value : FilterValue} (hsplit : split table field = (stripped, name))
    (hnull : raw.isNull = false) (hresolve : schema.resolve? name = some property)
    (hvalue : FilterValue.ofValue field raw = .ok (some value)) :
    ofEntry table schema (.text field) raw =
      .ok (some ⟨field, stripped, property, .ofPrefix stripped, value⟩) := by
  rw [ofEntry_eq_some_iff]
  exact ⟨field, property, value, rfl, hnull, by rw [hsplit]; exact hresolve, hvalue, by rw [hsplit]⟩

theorem ofEntry_isBound {key raw : Value} {d : Descriptor}
    (h : ofEntry table schema key raw = .ok (some d)) : d.IsBound schema := by
  obtain ⟨field, property, value, -, -, hresolve, hvalue, rfl⟩ := ofEntry_eq_some_iff.mp h
  exact ⟨Schema.resolve?_resolved hresolve, FilterValue.ofValue_isRead hvalue⟩

/-- **The descriptors of a filter are those of its entries.** -/
theorem mem_ofFields_iff {m : Mapping} {ds : List Descriptor} {d : Descriptor}
    (h : ofFields table schema m = .ok ds) :
    d ∈ ds ↔ ∃ entry ∈ m, ofEntry table schema entry.1 entry.2 = .ok (some d) := by
  induction m generalizing ds with
  | nil =>
    obtain rfl := Except.ok.inj h
    simp
  | cons entry m ih =>
    obtain ⟨d?, rest, hentry, hrest, rfl⟩ := ofFields_cons_eq_ok_iff.mp h
    rw [List.mem_append, ih hrest, Option.mem_toList, List.exists_mem_cons_iff, hentry,
      Except.ok.injEq]

/-- **Every descriptor of a filter is bound.** -/
theorem ofFields_isBound {m : Mapping} {ds : List Descriptor}
    (h : ofFields table schema m = .ok ds) : ∀ d ∈ ds, d.IsBound schema := by
  intro d hd
  obtain ⟨entry, -, hentry⟩ := (mem_ofFields_iff h).mp hd
  exact ofEntry_isBound hentry

/-- **The descriptors stand in the order of the fields**, and each comes from one of its own. -/
theorem ofFields_sublist {m : Mapping} {ds : List Descriptor}
    (h : ofFields table schema m = .ok ds) :
    (ds.map field).Sublist (m.filterMap fun entry => entry.1.asText?) := by
  induction m generalizing ds with
  | nil =>
    obtain rfl := Except.ok.inj h
    exact List.Sublist.refl []
  | cons entry m ih =>
    obtain ⟨d?, rest, hentry, hrest, rfl⟩ := ofFields_cons_eq_ok_iff.mp h
    cases d? with
    | none => exact (ih hrest).trans ((List.sublist_cons_self entry m).filterMap _)
    | some d =>
      obtain ⟨field, property, value, hkey, -, -, -, rfl⟩ := ofEntry_eq_some_iff.mp hentry
      rw [List.filterMap_cons, hkey]
      exact (ih hrest).cons_cons field

end Descriptor

end RecordQuery
