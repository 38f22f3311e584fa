import RecordQuery.Proofs.Filter.Document
import RecordQuery.Proofs.Text.Lower
import RecordQuery.Query.Service

/-!
# What the base shows and what is bound

The base of a document filter shows two of its fields, the list of identifiers and the mark of
disabled records. It shows what stands under the first key with such a name, whatever the case of
its ASCII letters, and it does so after every field that is set. Binding goes its own way: it takes
a prefix off in its exact spelling and looks the rest up in lower case, for all fields in turn.

`Disabled` has no prefix, so what the base shows is what is bound. `ListId` has one. Where the first
such key starts with `List` as it stands, the identifiers that the base shows are those that are
asked for; where it does not, as in `listid`, the base shows them all the same and that key asks for
none of them.

* `DocumentFilter.isSynced_setFields`: the base shows the fields as they are, after any fields that
  are set.
* `FilterValue.ofValue_of_intList?`: a list of integers is read as the same list.
* `DocumentFilter.bound_of_shown`: what is bound, given what the base shows.
-/

namespace RecordQuery

/-! ## Names up to the case of ASCII letters -/

/-- What precedes two texts does not matter to whether they are the same. -/
theorem Text.sameAscii_append_left {lead a b : String} :
    sameAscii (lead ++ a) (lead ++ b) = sameAscii a b := by
  rw [Bool.eq_iff_iff, sameAscii_iff, sameAscii_iff, String.toList_append, String.toList_append,
    List.map_append, List.map_append, List.append_cancel_left_eq]

namespace PrefixTable

variable {t : PrefixTable} {p : Prefix} {field name : String}

/-- A field that starts with a prefix has a name that does, up to case. -/
theorem Starts.of_sameAscii (h : t.Starts p field) (hname : Text.sameAscii field name = true) :
    (t.spelling p).toList.map Text.asciiLower <+: name.toList.map Text.asciiLower := by
  rw [← Text.sameAscii_iff.mp hname]
  exact List.IsPrefix.map Text.asciiLower h

/-- A field that starts with a prefix is taken apart there, and the rest of its name is the rest of
the name that it has up to case. -/
theorem Starts.exists_rest (h : t.Starts p field)
    (hname : Text.sameAscii field (t.spelling p ++ name) = true) :
    ∃ rest, field = t.spelling p ++ rest ∧ Text.sameAscii rest name = true := by
  obtain ⟨rest, hrest⟩ := h
  have hfield : field = t.spelling p ++ String.ofList rest := by
    rw [← String.toList_inj, String.toList_append, String.toList_ofList, hrest]
  exact ⟨String.ofList rest, hfield, by rwa [hfield, Text.sameAscii_append_left] at hname⟩

end PrefixTable

/-- The schema has a property of this name, and no other one that is the same in lower case. -/
def Schema.HasAlone (schema : Schema) (name : String) : Prop :=
  name ∈ schema.properties ∧
    ∀ property ∈ schema.properties, Text.lower property = Text.lower name → property = name

/-- **A property that is alone is found** under every spelling of its name. -/
theorem Schema.HasAlone.resolve?_eq {schema : Schema} {name candidate : String}
    (h : schema.HasAlone name) (hcandidate : Text.lower candidate = Text.lower name) :
    schema.resolve? candidate = some name := by
  cases hresolve : schema.resolve? candidate with
  | none =>
    have hne := List.find?_eq_none.mp hresolve name h.1
    exact absurd (beq_iff_eq.mpr hcandidate.symm) hne
  | some property =>
    obtain ⟨hmem, hlower⟩ := resolve?_eq_some hresolve
    rw [h.2 property hmem (hlower.trans hcandidate)]

/-! ## Lists of integers -/

namespace FilterValue

variable {field : String} {v : Value}

theorem ofValue_of_int? {n : Int} (h : Shape.int? v = some n) :
    ofValue field v = .ok (some (.int n)) := by
  rw [ofValue_untagged]
  unfold Shape.int? at h
  split at h
  · rename_i m hm
    rw [hm, ofValue, ofNumber, h]
  · cases h

theorem ofItems_of_ints {items : List Value} {ids : List Int}
    (h : items.mapM Shape.int? = some ids) : ofItems field items = .ok (ids.map .int) := by
  induction items generalizing ids with
  | nil =>
    obtain rfl := Option.some.inj h
    rfl
  | cons item items ih =>
    rw [List.mapM_cons] at h
    obtain ⟨n, hn, h⟩ := Option.bind_eq_some_iff.mp h
    obtain ⟨rest, hrest, h⟩ := Option.bind_eq_some_iff.mp h
    obtain rfl := Option.some.inj h
    rw [ofItems_cons_of_scalar (ofValue_of_int? hn) ValueKind.noConfusion, ih hrest]
    rfl

/-- **A list of integers is read as the same list**, unless it is null and stands for the empty one.
-/
theorem ofValue_of_intList? {ids : List Int} (h : Shape.intList? v = some ids)
    (hnull : v.isNull = false) : ofValue field v = .ok (some (.list (ids.map .int))) := by
  rw [ofValue_untagged]
  unfold Shape.intList? at h
  split at h
  · rename_i items hitems
    rw [hitems, ofValue, ofItems_of_ints h]
    rfl
  · rename_i hv
    simp [Value.isNull, hv] at hnull
  · cases h

/-- A boolean is read as the same boolean. -/
theorem ofValue_of_bool? {b : Bool} (h : Shape.bool? v = some b) :
    ofValue field v = .ok (some (.bool b)) ∧ v.isNull = false := by
  rw [ofValue_untagged]
  unfold Shape.bool? Value.asBool? at h
  split at h
  · rename_i c hc
    obtain rfl := Option.some.inj h
    exact ⟨by rw [hc, ofValue], by rw [Value.isNull, hc]⟩
  · cases h

end FilterValue

namespace DocumentFilter

variable {document : Mapping} {f : DocumentFilter}

/-! ## What the base shows -/

/-- The base shows the two fields as they are. -/
def IsSynced (f : DocumentFilter) : Prop :=
  f.base.listId = (field? f.fields "ListId").bind Shape.intList? ∧
    f.base.disabled = (field? f.fields "Disabled").bind Shape.bool?

theorem isSynced_synced (f : DocumentFilter) : f.synced.IsSynced := ⟨rfl, rfl⟩

theorem isSynced_of_ofMapping (h : ofMapping document = .ok f) : f.IsSynced := by
  obtain ⟨base, -, rfl⟩ := ofMapping_eq_ok_iff.mp h
  exact isSynced_synced _

/-- **The base shows the fields as they are, after any fields that are set.** -/
theorem isSynced_setFields (h : f.IsSynced) (pairs : List (String × Value)) :
    (f.setFields pairs).IsSynced := by
  induction pairs generalizing f with
  | nil => exact h
  | cons pair pairs ih =>
    rw [setFields_cons]
    exact ih (isSynced_synced _)

/-- The first entry under a name, up to the case of ASCII letters: the one that the base shows. -/
def firstNamed? (fields : Mapping) (name : String) : Option (Value × Value) :=
  List.find? (fun e => e.1.asText?.any fun k => Text.sameAscii k name) fields

/-- What the base shows is read from an entry under the name. -/
theorem exists_of_field?_bind {α : Type} {read? : Value → Option α} {fields : Mapping}
    {name : String} {x : α} (h : (field? fields name).bind read? = some x) :
    ∃ key v spelled, firstNamed? fields name = some (key, v) ∧ (key, v) ∈ fields ∧
      key.asText? = some spelled ∧ Text.sameAscii spelled name = true ∧ read? v = some x := by
  obtain ⟨v, hv, hread⟩ := Option.bind_eq_some_iff.mp h
  obtain ⟨⟨key, _⟩, hfirst, rfl⟩ := Option.map_eq_some_iff.mp hv
  have hany := List.find?_some hfirst
  obtain ⟨spelled, hspelled, hsame⟩ := (Option.any_eq_true _ _).mp hany
  exact ⟨key, _, spelled, hfirst, List.mem_of_find?_eq_some hfirst, hspelled, hsame, hread⟩

/-! ## What is bound -/

section Bound

variable {schema : Schema} {ds : List Descriptor} {fields : Mapping}
  (hbind : Descriptor.ofFields .standard schema fields = .ok ds)
  {key v : Value} {spelled : String} (hmem : (key, v) ∈ fields) (hkey : key.asText? = some spelled)

include hbind hmem hkey

/-- A list under a key that starts with `List` is bound as it stands. -/
theorem mem_of_shown_list {ids : List Int} (hid : schema.HasAlone "Id")
    (hsame : Text.sameAscii spelled "ListId" = true)
    (hstarts : PrefixTable.standard.Starts .among spelled)
    (hread : Shape.intList? v = some ids) (hnull : v.isNull = false) :
    ⟨spelled, some .among, "Id", .membership, .list (ids.map .int)⟩ ∈ ds := by
  have hname : Text.sameAscii spelled (PrefixTable.standard.spelling .among ++ "Id") = true := hsame
  obtain ⟨rest, hspelled, hrest⟩ := hstarts.exists_rest hname
  have hsplit : Descriptor.split .standard spelled = (some .among, rest) := by
    rw [hspelled]
    exact Descriptor.split_spelling_append PrefixTable.isPrefixFree_standard .among rest
  have hresolve := hid.resolve?_eq (Text.lower_eq_of_sameAscii (by decide) hrest)
  refine (Descriptor.mem_ofFields_iff hbind).mpr ⟨(key, v), hmem, ?_⟩
  refine Descriptor.ofEntry_eq_some_iff.mpr ⟨spelled, "Id", _, hkey, hnull, ?_,
    FilterValue.ofValue_of_intList? hread hnull, ?_⟩
  · rw [hsplit]
    exact hresolve
  · rw [hsplit]
    rfl

/-- The mark of disabled records is bound as it stands. -/
theorem mem_of_shown_disabled {b : Bool} (hdisabled : schema.HasAlone "Disabled")
    (hsame : Text.sameAscii spelled "Disabled" = true) (hread : Shape.bool? v = some b) :
    ⟨spelled, none, "Disabled", .equal, .bool b⟩ ∈ ds := by
  have hplain : ∀ p, ¬ PrefixTable.standard.Starts p spelled := by
    intro p hstarts
    have hprefix := hstarts.of_sameAscii hsame
    revert hprefix
    cases p <;> decide
  obtain ⟨hvalue, hnull⟩ : FilterValue.ofValue spelled v = .ok (some (.bool b)) ∧ _ :=
    FilterValue.ofValue_of_bool? hread
  have hresolve := hdisabled.resolve?_eq (Text.lower_eq_of_sameAscii (by decide) hsame)
  have hsplit := Descriptor.split_of_plain hplain
  refine (Descriptor.mem_ofFields_iff hbind).mpr ⟨(key, v), hmem, ?_⟩
  refine Descriptor.ofEntry_eq_some_iff.mpr ⟨spelled, "Disabled", _, hkey, hnull, ?_, hvalue, ?_⟩
  · rw [hsplit]
    exact hresolve
  · rw [hsplit]
    rfl

end Bound

/-- A key under the name `ListId` that does not start with `List` asks for no list. -/
theorem comparison_of_not_starts {schema : Schema} {fields : Mapping} {ds : List Descriptor}
    (hbind : Descriptor.ofFields .standard schema fields = .ok ds) {spelled : String}
    (hsame : Text.sameAscii spelled "ListId" = true)
    (hstarts : ¬ PrefixTable.standard.Starts .among spelled) :
    ∀ d ∈ ds, d.field = spelled → d.comparison = .equal := by
  have hplain : ∀ p, ¬ PrefixTable.standard.Starts p spelled := by
    intro p hp
    have hprefix := hp.of_sameAscii hsame
    cases p with
    | among => exact hstarts hp
    | atMost | atLeast | since | upTo | containing => exact absurd hprefix (by decide)
  rintro d hd rfl
  obtain ⟨entry, -, hentry⟩ := (Descriptor.mem_ofFields_iff hbind).mp hd
  obtain ⟨field, property, value, -, -, -, -, rfl⟩ := Descriptor.ofEntry_eq_some_iff.mp hentry
  rw [Descriptor.split_of_plain hplain]
  rfl

/-- **What is bound, given what the base shows.** Let a filter be read from a document and fields be
set on it, in any number, and let it bind to a schema in which `Id` and `Disabled` are alone. If its
base shows identifiers, they stand under the first key with the name `ListId`. Where this key starts
with `List` as it stands and its value is not null, the identifiers are asked for, exactly they;
where it starts otherwise, nothing that is bound from it is a membership test. If the base shows a
mark of disabled records, that mark is asked for. -/
theorem bound_of_shown {schema : Schema} {ds : List Descriptor} (pairs : List (String × Value))
    (hread : ofMapping document = .ok f) (hid : schema.HasAlone "Id")
    (hdisabled : schema.HasAlone "Disabled")
    (hbind : QueryService.standard.bindFilter (f.setFields pairs) schema = .ok ds) :
    (∀ ids, (f.setFields pairs).base.listId = some ids →
      ∃ key v spelled, firstNamed? (f.setFields pairs).fields "ListId" = some (key, v) ∧
        key.asText? = some spelled ∧
        (PrefixTable.standard.Starts .among spelled → v.isNull = false →
          ⟨spelled, some .among, "Id", .membership, .list (ids.map .int)⟩ ∈ ds) ∧
        (¬ PrefixTable.standard.Starts .among spelled →
          ∀ d ∈ ds, d.field = spelled → d.comparison = .equal)) ∧
    ∀ b, (f.setFields pairs).base.disabled = some b →
      ∃ spelled, ⟨spelled, none, "Disabled", .equal, .bool b⟩ ∈ ds := by
  have hfields : Descriptor.ofFields .standard schema (f.setFields pairs).fields = .ok ds := hbind
  obtain ⟨hlist, hmark⟩ := isSynced_setFields (isSynced_of_ofMapping hread) pairs
  constructor
  · intro ids hids
    obtain ⟨key, v, spelled, hfirst, hmem, hkey, hsame, hshown⟩ :=
      exists_of_field?_bind (hlist.symm.trans hids)
    refine ⟨key, v, spelled, hfirst, hkey, ?_, comparison_of_not_starts hfields hsame⟩
    intro hstarts hnull
    exact mem_of_shown_list hfields hmem hkey hid hsame hstarts hshown hnull
  · intro b hb
    obtain ⟨key, v, spelled, -, hmem, hkey, hsame, hshown⟩ :=
      exists_of_field?_bind (hmark.symm.trans hb)
    exact ⟨spelled, mem_of_shown_disabled hfields hmem hkey hdisabled hsame hshown⟩

/-- A schema in which both names are alone. -/
def shownSchema : Schema := ⟨"Doc", ["Id", "Disabled"]⟩

theorem hasAlone_shownSchema : shownSchema.HasAlone "Id" ∧ shownSchema.HasAlone "Disabled" := by
  unfold Schema.HasAlone
  decide +kernel

/-- A document with the list under a tagged key, in a case of its own, and a mark. -/
def shownDocument : Mapping :=
  [(.text "Disabled", .bool false),
    (.tagged "key" (.text "ListID"), .sequence [.ofInt 2, .tagged "id" (.ofInt 4)])]

/-- The filter that the document is read as. -/
def shownFilter : DocumentFilter := ⟨⟨some [2, 4], some false, none, none, none⟩, shownDocument⟩

/-- The list is asked for as the base shows it. So is the mark, the first of two. -/
theorem bound_of_shown_first : ofMapping shownDocument = .ok shownFilter ∧
    shownSchema.HasAlone "Id" ∧ shownSchema.HasAlone "Disabled" ∧
    ∃ ds, QueryService.standard.bindFilter (shownFilter.setFields [("DISABLED", .bool true)])
        shownSchema = .ok ds ∧
      ⟨"ListID", some .among, "Id", .membership, .list [.int 2, .int 4]⟩ ∈ ds ∧
      ∃ spelled, ⟨spelled, none, "Disabled", .equal, .bool false⟩ ∈ ds := by
  have hread : ofMapping shownDocument = .ok shownFilter := by cbv
  have hbind : QueryService.standard.bindFilter (shownFilter.setFields [("DISABLED", .bool true)])
      shownSchema = .ok [⟨"Disabled", none, "Disabled", .equal, .bool false⟩,
        ⟨"ListID", some .among, "Id", .membership, .list [.int 2, .int 4]⟩,
        ⟨"DISABLED", none, "Disabled", .equal, .bool true⟩] := by cbv
  have hlisted : firstNamed? (shownFilter.setFields [("DISABLED", .bool true)]).fields "ListId" =
      some (.tagged "key" (.text "ListID"), .sequence [.ofInt 2, .tagged "id" (.ofInt 4)]) := by cbv
  obtain ⟨hid, hdisabled⟩ := hasAlone_shownSchema
  obtain ⟨hlist, hmark⟩ := bound_of_shown [("DISABLED", .bool true)] hread hid hdisabled hbind
  obtain ⟨key, v, spelled, hfirst, hkey, hmem, -⟩ := hlist [2, 4] (by cbv)
  obtain ⟨rfl, rfl⟩ := Prod.mk.inj (Option.some.inj (hfirst.symm.trans hlisted))
  obtain rfl := Option.some.inj hkey
  exact ⟨hread, hid, hdisabled, _, hbind, hmem (by decide) rfl, hmark false (by cbv)⟩

/-- The base shows the list under a key that is not bound at all. -/
theorem exists_shown_not_bound : ∃ f, ofMapping [(.text "listid", .sequence [.ofInt 1])] = .ok f ∧
    f.base.listId = some [1] ∧ shownSchema.HasAlone "Id" ∧ shownSchema.HasAlone "Disabled" ∧
    QueryService.standard.bindFilter f shownSchema = .ok [] := by
  have hread : ofMapping [(.text "listid", .sequence [.ofInt 1])] =
      .ok ⟨⟨some [1], none, none, none, none⟩, [(.text "listid", .sequence [.ofInt 1])]⟩ := by cbv
  exact ⟨_, hread, rfl, hasAlone_shownSchema.1, hasAlone_shownSchema.2, by cbv⟩

end DocumentFilter

end RecordQuery
