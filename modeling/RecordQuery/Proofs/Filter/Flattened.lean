import RecordQuery.Filter.Typed
import RecordQuery.Proofs.Filter.Base
import RecordQuery.Proofs.Filter.Document
import RecordQuery.Proofs.Query.Fields

/-!
# Declared filters and documents

A filter with fields of its own and the shared base flattened among them is written as a mapping
without its paging fields. With these put back that mapping is a document, and the filter that is
read from it is the same one: it has the same fields in the same order, it asks for the same order
and page, and so it selects the same candidates. The two ways to the base agree but for one field:
a list of ids that is unset is written as null, and a document's null is the empty list. What a query
gives does not depend on it, since the ids reach the query as a field.

* `Flattens.ofMapping_eq`: the filter that is read from what was written.
* `Flattens.reads_back`: it agrees with the filter that was written in all but an unset list of ids.
-/

namespace RecordQuery

/-- A filter with the shared base among fields of its own, those in front of it and those after it.
The names of its own fields are different from one another and from those of the base, up to the
case of ASCII letters. -/
structure Flattens {φ : Type} [QueryFilter φ] (f : φ) (before after : List (String × Value)) : Prop
    where
  fields : QueryFilter.fields f =
    .ok (Mapping.ofTexts before ++ (QueryFilter.base f).toMapping ++ Mapping.ofTexts after)
  distinct : ((before ++ after).map Prod.fst).Nodup
  own : ∀ field ∈ before ++ after, ∀ name ∈ FilterBase.names,
    Text.sameAscii name field.1 = false
  signed : (QueryFilter.base f).IsSigned

namespace DocumentFilter

/-! ## Looking a field up -/

theorem field?_cons (name other : String) (v : Value) (m : Mapping) :
    field? ((.text other, v) :: m) name =
      if Text.sameAscii other name then some v else field? m name := by
  unfold field? Mapping.findTextKey?
  rw [List.find?_cons]
  show Option.map _ (match Text.sameAscii other name with
    | true => some (.text other, v)
    | false => List.find? _ m) = _
  cases Text.sameAscii other name <;> rfl

theorem field?_ofTexts_append {own : List (String × Value)} {name : String} (m : Mapping)
    (h : ∀ field ∈ own, Text.sameAscii name field.1 = false) :
    field? (Mapping.ofTexts own ++ m) name = field? m name := by
  induction own with
  | nil => rfl
  | cons field own ih =>
    obtain ⟨hfield, hown⟩ := List.forall_mem_cons.mp h
    show field? ((.text field.1, field.2) :: (Mapping.ofTexts own ++ m)) name = _
    rw [field?_cons, Text.sameAscii_comm, hfield, if_neg Bool.false_ne_true, ih hown]

end DocumentFilter

namespace Flattens

variable {φ : Type} [QueryFilter φ] {f : φ} {before after : List (String × Value)}

/-- The fields that the filter is written with. -/
def written (f : φ) (before after : List (String × Value)) : Mapping :=
  Mapping.ofTexts before ++ (QueryFilter.base f).toMapping ++ Mapping.ofTexts after

/-- The names that the filter is written with. -/
def names (before after : List (String × Value)) : List String :=
  before.map Prod.fst ++ ["ListId", "Disabled"] ++ after.map Prod.fst

theorem keys_written (f : φ) (before after : List (String × Value)) :
    (written f before after).keys = (names before after).map .text := by
  rw [written, Mapping.keys, List.map_append, List.map_append, names, List.map_append,
    List.map_append]
  exact congrArg₂ _ (congrArg₂ _ (Mapping.keys_ofTexts before) rfl) (Mapping.keys_ofTexts after)

theorem nodup_names (h : Flattens f before after) : (names before after).Nodup := by
  have hne : ∀ name ∈ FilterBase.names, ∀ own ∈ (before ++ after).map Prod.fst, name ≠ own := by
    rintro name hname own hown rfl
    obtain ⟨field, hfield, rfl⟩ := List.mem_map.mp hown
    cases (Text.sameAscii_refl field.1).symm.trans (h.own field hfield field.1 hname)
  have hperm : (names before after).Perm
      (["ListId", "Disabled"] ++ (before ++ after).map Prod.fst) := by
    rw [names, List.map_append, ← List.append_assoc]
    exact List.perm_append_comm.append_right _
  rw [hperm.nodup_iff, List.nodup_append]
  refine ⟨by decide, h.distinct, fun name hname own hown => hne name ?_ own hown⟩
  simp only [List.mem_cons, List.not_mem_nil, or_false] at hname
  rcases hname with rfl | rfl <;> decide

theorem pairwise_keys (h : Flattens f before after) :
    (written f before after).keys.Pairwise fun a b => a.same b = false := by
  rw [keys_written, List.pairwise_map]
  refine h.nodup_names.imp fun {a b} hab => ?_
  rw [Bool.eq_false_iff, ne_eq, Value.same_text_iff]
  exact fun htext => hab (Value.text.inj htext)

theorem isPagingFree_written (h : Flattens f before after) :
    (written f before after).IsPagingFree := by
  have hbase : ∀ name ∈ ["ListId", "Disabled"], ¬ PagingKey.IsSpelled name := by
    intro name hname
    refine PagingKey.ofKey?_text_eq_none_iff.mp ?_
    simp only [List.mem_cons, List.not_mem_nil, or_false] at hname
    rcases hname with rfl | rfl <;> rfl
  have hown : ∀ field ∈ before ++ after, ¬ PagingKey.IsSpelled field.1 := by
    rintro field hfield ⟨k, hk⟩
    have hname : k.spelling ∈ FilterBase.names := by cases k <;> decide
    cases hk.symm.trans (h.own field hfield k.spelling hname)
  intro key hkey name hname
  rw [keys_written] at hkey
  obtain ⟨name', hmem, rfl⟩ := List.mem_map.mp hkey
  obtain rfl := Option.some.inj hname
  simp only [names, List.mem_append, List.mem_map] at hmem
  rcases hmem with (⟨field, hfield, rfl⟩ | hmem) | ⟨field, hfield, rfl⟩
  · exact hown field (List.mem_append_left after hfield)
  · exact hbase _ hmem
  · exact hown field (List.mem_append_right before hfield)

/-- The paging values of a base are read back. -/
theorem toBase?_pagingMapping {b : FilterBase} (h : b.IsSigned) :
    (PagingEntries.addAll .empty (DocumentFilter.pagingEntries b.pagingMapping)).toBase? =
      some { b with listId := none, disabled := none } := by
  have hsorting : PagingEntries.read? Shape.text? (some (FilterBase.orNull .text b.sorting)) =
      some b.sorting := Shape.optional?_orNull rfl fun _ _ => rfl
  have hpage : PagingEntries.read? Shape.int? (some (FilterBase.orNull Value.ofInt b.page)) =
      some b.page := Shape.optional?_orNull rfl fun n hn => Shape.int?_ofInt (h.page n hn)
  have hsize : PagingEntries.read? Shape.int? (some (FilterBase.orNull Value.ofInt b.pageSize)) =
      some b.pageSize := Shape.optional?_orNull rfl fun n hn => Shape.int?_ofInt (h.pageSize n hn)
  exact PagingEntries.toBase?_eq_some_iff.mpr ⟨_, _, _, hsorting, hpage, hsize, rfl⟩

/-- **The filter that is read from what was written**: its fields are those that were written, and
its base is the same but for an unset list of ids, which is read as the empty one. -/
theorem ofMapping_eq (h : Flattens f before after) :
    DocumentFilter.ofMapping (written f before after ++ (QueryFilter.base f).pagingMapping) =
      .ok ⟨{ QueryFilter.base f with listId := some ((QueryFilter.base f).listId.getD []) },
        written f before after⟩ := by
  obtain ⟨hnone, hall⟩ := DocumentFilter.entries_of_isPagingFree h.isPagingFree_written
  have hpaging : DocumentFilter.paging
      (written f before after ++ (QueryFilter.base f).pagingMapping) =
        .addAll .empty (DocumentFilter.pagingEntries (QueryFilter.base f).pagingMapping) := by
    rw [DocumentFilter.paging, DocumentFilter.pagingEntries_append, hnone, List.nil_append]
  have hfields : DocumentFilter.ownFields
      (written f before after ++ (QueryFilter.base f).pagingMapping) = written f before after := by
    rw [DocumentFilter.ownFields, DocumentFilter.fieldEntries_append, hall]
    show Mapping.insertAll [] (written f before after ++ []) = _
    rw [List.append_nil]
    exact Mapping.insertAll_eq_append h.pairwise_keys
  have hlist : DocumentFilter.field? (written f before after) "ListId" =
      some (FilterBase.orNull (fun ids => .sequence (ids.map Value.ofInt))
        (QueryFilter.base f).listId) := by
    rw [written, List.append_assoc, DocumentFilter.field?_ofTexts_append]
    · rfl
    · exact fun field hfield => h.own field (List.mem_append_left after hfield) _ (by decide)
  have hdisabled : DocumentFilter.field? (written f before after) "Disabled" =
      some (FilterBase.orNull .bool (QueryFilter.base f).disabled) := by
    rw [written, List.append_assoc, DocumentFilter.field?_ofTexts_append]
    · rfl
    · exact fun field hfield => h.own field (List.mem_append_left after hfield) _ (by decide)
  refine DocumentFilter.ofMapping_eq_ok_iff.mpr
    ⟨{ QueryFilter.base f with listId := none, disabled := none }, ?_, ?_⟩
  · rw [hpaging]
    exact toBase?_pagingMapping h.signed
  · rw [hfields, DocumentFilter.synced, hlist, hdisabled, Option.bind_some, Option.bind_some,
      Shape.intList?_orNull h.signed.listId, Shape.bool?_orNull]

/-- **A filter is read back from what it was written as**, with its paging values put to its fields.
The two have the same fields, and the same base iff the list of ids was set: an unset one is read as
the empty list, and the rest of the base is the same in any case. Over every schema they have the
same predicate, or fail alike, and over all candidates their queries have the same outcome. -/
theorem reads_back (h : Flattens f before after) :
    ∃ m g, QueryFilter.fields f = .ok m ∧
      DocumentFilter.ofMapping (m ++ (QueryFilter.base f).pagingMapping) = .ok g ∧
      QueryFilter.fields g = .ok m ∧
      QueryFilter.base g =
        { QueryFilter.base f with listId := some ((QueryFilter.base f).listId.getD []) } ∧
      (QueryFilter.base g = QueryFilter.base f ↔ (QueryFilter.base f).listId ≠ none) ∧
      ∀ (s : QueryService) (schema : Schema),
        s.compileFilter g schema = s.compileFilter f schema ∧
        ∀ (α : Type) [Entity α] (candidates : List α),
          s.query g schema candidates = s.query f schema candidates := by
  refine ⟨written f before after, _, h.fields, h.ofMapping_eq, rfl, rfl, ?_, fun s schema => ?_⟩
  · constructor
    · intro hbase hnone
      have hlist := congrArg FilterBase.listId hbase
      rw [hnone] at hlist
      cases hlist
    · intro hsome
      obtain ⟨ids, hids⟩ := Option.ne_none_iff_exists'.mp hsome
      show { QueryFilter.base f with listId := some ((QueryFilter.base f).listId.getD []) } =
        QueryFilter.base f
      rw [hids, Option.getD_some, ← hids]
  · have hcompile : s.compileFilter
        (⟨{ QueryFilter.base f with listId := some ((QueryFilter.base f).listId.getD []) },
          written f before after⟩ : DocumentFilter) schema = s.compileFilter f schema := by
      rw [QueryService.compileFilter_eq_ofFields h.fields, QueryService.compileFilter_eq_ofFields rfl]
      rfl
    exact ⟨hcompile, fun α _ candidates => QueryService.query_congr hcompile rfl rfl⟩

end Flattens

/-! ## Declared filters -/

namespace TypedFilter

/-- The fields of its own that a declared filter is written with. -/
def ownWritten (f : TypedFilter) : List (String × Value) :=
  f.own.map fun field => (field.1, FilterBase.orNull FieldValue.toValue field.2)

/-- A declared filter has the base in front of its own fields. -/
theorem flattens {f : TypedFilter} (hdistinct : (f.own.map Prod.fst).Nodup)
    (hown : ∀ field ∈ f.own, ∀ name ∈ FilterBase.names, Text.sameAscii name field.1 = false)
    (hsigned : f.base.IsSigned) : Flattens f [] f.ownWritten where
  fields := by
    show Except.ok (f.base.toMapping ++ f.own.toMapping) = _
    rw [Mapping.ofTexts, Mapping.ofTexts, ownWritten, List.map_map]
    rfl
  distinct := by
    rw [List.nil_append, ownWritten, List.map_map]
    exact hdistinct
  own := by
    intro field hfield
    obtain ⟨declared, hdeclared, rfl⟩ := List.mem_map.mp hfield
    exact hown declared hdeclared
  signed := hsigned

end TypedFilter

/-- A filter of two fields of its own, one of them unset, with the given list of ids. -/
def sampleTyped (listId : Option (List Int)) : TypedFilter :=
  ⟨⟨listId, some true, some "Id desc", some 2, none⟩, [("MaxId", some (.int 3)), ("Name", none)]⟩

theorem sampleTyped_flattens (listId : Option (List Int))
    (h : ∀ ids ∈ listId, ∀ n ∈ ids, Numeral.isInt64 n = true) :
    Flattens (sampleTyped listId) [] (sampleTyped listId).ownWritten := by
  refine TypedFilter.flattens ?_ ?_ ⟨h, ?_, ?_⟩
  · show ["MaxId", "Name"].Nodup
    decide
  · show ∀ field ∈ [("MaxId", some (FieldValue.int 3)), ("Name", none)], _
    simp only [List.forall_mem_cons, List.not_mem_nil, false_implies, implies_true, and_true]
    decide
  · intro n hn
    obtain rfl := Option.some.inj hn
    decide
  · intro n hn
    cases hn

/-- With ids that are set the base is read back as it was. -/
theorem reads_back_ids :
    Flattens (sampleTyped (some [4, -7])) [] (sampleTyped (some [4, -7])).ownWritten ∧
      ∃ m g, QueryFilter.fields (sampleTyped (some [4, -7])) = .ok m ∧
        DocumentFilter.ofMapping (m ++ (sampleTyped (some [4, -7])).base.pagingMapping) = .ok g ∧
        QueryFilter.base g = (sampleTyped (some [4, -7])).base := by
  have hflattens := sampleTyped_flattens (some [4, -7]) fun ids hids => by
    obtain rfl := Option.some.inj hids
    decide
  obtain ⟨m, g, hm, hg, -, -, hbase, -⟩ := hflattens.reads_back
  exact ⟨hflattens, m, g, hm, hg, hbase.mpr (Option.some_ne_none _)⟩

/-- Ids that are unset are read back as a list without ids. -/
theorem exists_reads_back_other_base :
    ∃ (f : TypedFilter) (own : List (String × Value)) (m : Mapping) (g : DocumentFilter),
      Flattens f [] own ∧ QueryFilter.fields f = .ok m ∧
      DocumentFilter.ofMapping (m ++ (QueryFilter.base f).pagingMapping) = .ok g ∧
      (QueryFilter.base f).listId = none ∧ (QueryFilter.base g).listId = some [] := by
  have hflattens := sampleTyped_flattens none fun ids hids => by cases hids
  exact ⟨sampleTyped none, _, _, _, hflattens, hflattens.fields, hflattens.ofMapping_eq, rfl, rfl⟩

end RecordQuery
