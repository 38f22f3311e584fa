import Mathlib
import RecordQuery.Filter.Document
import RecordQuery.Proofs.Filter.Binding
import RecordQuery.Proofs.Value.Mapping

/-!
# What becomes of the entries of a document

A document is gone through entry by entry. An entry whose key spells a paging key is taken in for
paging, the others are inserted as fields, and the two do not meet again: a filter is what its paging
entries and its other entries come to, each in their own order.

A filter that was read can be changed afterwards, by setting fields and by assigning its base. That
no field has the name of a paging key is true of a filter that was read and of every assignment to
its base, but a field is set under whatever name is given: a paging key that is set stays a field,
and is bound to a property of its name like any other.

* `DocumentFilter.split_eq`: the paging entries and the fields of a document.
* `DocumentFilter.ofMapping_insert`: a field that is set afterwards may as well be in the document.
* `DocumentFilter.mem_keys_run`: the keys of the fields after any changes.
* `DocumentFilter.isPagingFree_run_iff`: no field has the name of a paging key iff none was set
  under such a name.
-/

namespace RecordQuery

/-! ## Paging keys -/

namespace PagingKey

/-- The name is that of a paging key, up to the case of ASCII letters. -/
def IsSpelled (name : String) : Prop := ∃ k : PagingKey, Text.sameAscii k.spelling name = true

theorem mem_all (k : PagingKey) : k ∈ all := by cases k <;> decide

/-- **A key is taken for paging** iff it is a text that spells a paging key. -/
theorem ofKey?_eq_none_iff {key : Value} :
    ofKey? key = none ↔ ∀ name, key.asText? = some name → ¬ IsSpelled name := by
  rw [ofKey?, Option.bind_eq_none_iff]
  refine forall_congr' fun name => imp_congr_right fun _ => ?_
  rw [List.find?_eq_none, IsSpelled, not_exists]
  exact ⟨fun h k => h k (mem_all k), fun h k _ => h k⟩

theorem ofKey?_text_eq_none_iff {name : String} :
    ofKey? (.text name) = none ↔ ¬ IsSpelled name := by
  rw [ofKey?_eq_none_iff]
  exact ⟨fun h => h name rfl, fun h _ hname => Option.some.inj hname ▸ h⟩

theorem ofKey?_spelling (k : PagingKey) : ofKey? (.text k.spelling) = some k := by cases k <;> rfl

end PagingKey

/-- No text among the keys spells a paging key. -/
def Mapping.IsPagingFree (m : Mapping) : Prop :=
  ∀ key ∈ m.keys, ∀ name, key.asText? = some name → ¬ PagingKey.IsSpelled name

/-- The paging values found so far and more entries on top of them. -/
def PagingEntries.addAll (e : PagingEntries) (entries : List (PagingKey × Value)) : PagingEntries :=
  entries.foldl (fun e p => e.add p.2 p.1) e

/-- The base of paging entries, each of them read on its own. -/
theorem PagingEntries.toBase?_eq_some_iff {e : PagingEntries} {base : FilterBase} :
    e.toBase? = some base ↔
      ∃ sorting page pageSize, read? Shape.text? e.sorting = some sorting ∧
        read? Shape.int? e.page = some page ∧ read? Shape.int? e.pageSize = some pageSize ∧
        base = { FilterBase.empty with sorting, page, pageSize } := by
  unfold toBase?
  cases read? Shape.text? e.sorting with
  | none => simp
  | some sorting =>
    cases read? Shape.int? e.page with
    | none => simp
    | some page =>
      cases read? Shape.int? e.pageSize with
      | none => simp
      | some pageSize => simp [eq_comm]

namespace DocumentFilter

open Mapping (keys insertAll)

/-! ## The two parts of a document -/

/-- The key is not taken for paging. -/
def isField (key : Value) : Bool := (PagingKey.ofKey? key).isNone

/-- The entries of a document that are fields. -/
def fieldEntries (document : Mapping) : Mapping := document.filter fun e => isField e.1

/-- The entries of a document that are taken for paging. -/
def pagingEntries (document : Mapping) : List (PagingKey × Value) :=
  document.filterMap fun e => (PagingKey.ofKey? e.1).map fun k => (k, e.2)

variable {document : Mapping} {f : DocumentFilter}

/-- **A document is split into its paging entries and its fields**, on top of what was there. -/
theorem split_eq (paging : PagingEntries) (fields document : Mapping) :
    split paging fields document =
      (paging.addAll (pagingEntries document), insertAll fields (fieldEntries document)) := by
  induction document generalizing paging fields with
  | nil => rfl
  | cons e document ih =>
    rw [split, pagingEntries, fieldEntries]
    cases hkey : PagingKey.ofKey? e.1 with
    | some k =>
      rw [List.filterMap_cons, List.filter_cons_of_neg (by simp [isField, hkey]), hkey]
      exact ih (paging.add e.2 k) fields
    | none =>
      rw [List.filterMap_cons, List.filter_cons_of_pos (by simp [isField, hkey]), hkey]
      exact ih paging (fields.insert e.1 e.2)

/-- The paging values of a document. -/
def paging (document : Mapping) : PagingEntries := .addAll .empty (pagingEntries document)

/-- The fields of a document. -/
def ownFields (document : Mapping) : Mapping := insertAll [] (fieldEntries document)

/-- **When a document is a filter, and which.** -/
theorem ofMapping_eq_ok_iff :
    ofMapping document = .ok f ↔
      ∃ base, (paging document).toBase? = some base ∧ f = synced ⟨base, ownFields document⟩ := by
  have hsplit : split .empty [] document = (paging document, ownFields document) := split_eq ..
  rw [ofMapping, hsplit]
  dsimp only
  cases (paging document).toBase? with
  | none => simp
  | some base => simp [eq_comm]

theorem pagingEntries_append (m n : Mapping) :
    pagingEntries (m ++ n) = pagingEntries m ++ pagingEntries n := List.filterMap_append

theorem fieldEntries_append (m n : Mapping) :
    fieldEntries (m ++ n) = fieldEntries m ++ fieldEntries n := List.filter_append m n

/-- Entries without a paging key are fields, all of them. -/
theorem entries_of_isPagingFree {m : Mapping} (h : m.IsPagingFree) :
    pagingEntries m = [] ∧ fieldEntries m = m := by
  have hnone : ∀ e ∈ m, PagingKey.ofKey? e.1 = none := fun e he =>
    PagingKey.ofKey?_eq_none_iff.mpr (h e.1 (List.mem_map_of_mem he))
  constructor
  · exact List.filterMap_eq_nil_iff.mpr fun e he => by rw [hnone e he]; rfl
  · exact List.filter_eq_self.mpr fun e he => by rw [isField, hnone e he]; rfl

theorem isPagingFree_ownFields (document : Mapping) : (ownFields document).IsPagingFree := by
  intro key hkey
  have hmem : key ∈ keys (fieldEntries document) := by
    rcases Mapping.mem_keys_insertAll hkey with hnil | hmem
    · exact absurd hnil List.not_mem_nil
    · exact hmem
  obtain ⟨e, he, rfl⟩ := List.mem_map.mp hmem
  exact PagingKey.ofKey?_eq_none_iff.mp (Option.isNone_iff_eq_none.mp (List.mem_filter.mp he).2)

/-- The fields of a filter that was read are free of paging keys. -/
theorem isPagingFree_of_ofMapping (h : ofMapping document = .ok f) : f.fields.IsPagingFree := by
  obtain ⟨base, -, rfl⟩ := ofMapping_eq_ok_iff.mp h
  exact isPagingFree_ownFields document

/-! ## A field in the document or set afterwards -/

section Insert

variable {name : String} {v : Value} (hname : ¬ PagingKey.IsSpelled name)

include hname

theorem pagingEntries_insert :
    pagingEntries (document.insert (.text name) v) = pagingEntries document := by
  have hkept (d : Mapping) : pagingEntries d =
      pagingEntries (d.filter fun e => (PagingKey.ofKey? e.1).isSome) := by
    rw [pagingEntries, pagingEntries, List.filterMap_filter]
    congr 1
    funext e
    cases PagingKey.ofKey? e.1 <;> rfl
  have hnone : ¬ (PagingKey.ofKey? (.text name)).isSome = true := by
    rw [PagingKey.ofKey?_text_eq_none_iff.mpr hname]
    simp
  rw [hkept, Mapping.filter_insert_of_neg (q := fun key => (PagingKey.ofKey? key).isSome) hnone,
    ← hkept]

theorem ownFields_insert :
    ownFields (document.insert (.text name) v) = (ownFields document).insert (.text name) v := by
  have hfield : isField (.text name) = true :=
    Option.isNone_iff_eq_none.mpr (PagingKey.ofKey?_text_eq_none_iff.mpr hname)
  rw [ownFields, fieldEntries, Mapping.filter_insert_of_pos hfield, Mapping.insertAll_insert]
  rfl

/-- **A field that is set afterwards may as well be in the document.** -/
theorem ofMapping_insert (h : ofMapping document = .ok f) :
    ofMapping (document.insert (.text name) v) = .ok (f.setField name v) := by
  obtain ⟨base, hbase, rfl⟩ := ofMapping_eq_ok_iff.mp h
  refine ofMapping_eq_ok_iff.mpr ⟨base, ?_, ?_⟩
  · rw [paging, pagingEntries_insert hname]
    exact hbase
  · rw [ownFields_insert hname]
    rfl

end Insert

/-! ## Changes -/

/-- What can be done to a filter after it was read: a field is set, or the base is assigned. -/
inductive Change where
  | setField (name : String) (v : Value)
  | setBase (base : FilterBase)

/-- The filter after a change. -/
def Change.apply (f : DocumentFilter) : Change → DocumentFilter
  | .setField name v => f.setField name v
  | .setBase base => { f with base }

/-- The filter after changes in their order. -/
def run (f : DocumentFilter) (changes : List Change) : DocumentFilter :=
  changes.foldl Change.apply f

/-- The filter with fields set in their order. -/
def setFields (f : DocumentFilter) (pairs : List (String × Value)) : DocumentFilter :=
  f.run (pairs.map fun pair => .setField pair.1 pair.2)

theorem setFields_cons (pair : String × Value) (pairs : List (String × Value)) :
    f.setFields (pair :: pairs) = (f.setField pair.1 pair.2).setFields pairs := rfl

/-- One change adds the key that it sets. -/
theorem mem_keys_apply {key : Value} {change : Change} :
    key ∈ keys (change.apply f).fields ↔
      key ∈ keys f.fields ∨ ∃ name v, change = .setField name v ∧ key = .text name := by
  cases change with
  | setField name v =>
    show key ∈ keys (f.fields.insert (.text name) v) ↔ _
    simp [Mapping.mem_keys_insert_text]
  | setBase base => simp [Change.apply]

/-- **The keys of the fields after any changes**: those that were read and those that were set. -/
theorem mem_keys_run {key : Value} {changes : List Change} :
    key ∈ keys (f.run changes).fields ↔
      key ∈ keys f.fields ∨ ∃ name v, .setField name v ∈ changes ∧ key = .text name := by
  induction changes generalizing f with
  | nil => simp [run]
  | cons change changes ih =>
    show key ∈ keys ((change.apply f).run changes).fields ↔ _
    rw [ih, mem_keys_apply, or_assoc]
    refine or_congr_right ?_
    simp only [List.mem_cons, or_and_right, exists_or, eq_comm]

/-- **When no field has the name of a paging key.** After any changes to a filter that was read, the
fields, which are also what the filter is written as, are free of paging keys iff none was set under
such a name; a name of a paging key is among the fields iff it was set; and only a field that was set
under such a name is bound. -/
theorem isPagingFree_run_iff (h : ofMapping document = .ok f) (changes : List Change) :
    ∃ m, QueryFilter.fields (f.run changes) = .ok m ∧ (f.run changes).toValue = .mapping m ∧
      (m.IsPagingFree ↔ ∀ name v, .setField name v ∈ changes → ¬ PagingKey.IsSpelled name) ∧
      (∀ name, PagingKey.IsSpelled name →
        (.text name ∈ keys m ↔ ∃ v, .setField name v ∈ changes)) ∧
      ∀ table schema ds, Descriptor.ofFields table schema m = .ok ds →
        ∀ d ∈ ds, PagingKey.IsSpelled d.field → ∃ v, .setField d.field v ∈ changes := by
  have hfree := isPagingFree_of_ofMapping h
  -- a text key that spells a paging key is not one of those that were read
  have hset : ∀ key ∈ keys (f.run changes).fields, ∀ name, key.asText? = some name →
      PagingKey.IsSpelled name → ∃ v, .setField name v ∈ changes := by
    intro key hkey name hname hspelled
    rcases mem_keys_run.mp hkey with hread | ⟨name', v, hchange, rfl⟩
    · exact absurd hspelled (hfree key hread name hname)
    · obtain rfl := Option.some.inj hname
      exact ⟨v, hchange⟩
  have hmem (name : String) (v : Value) (hchange : Change.setField name v ∈ changes) :
      .text name ∈ keys (f.run changes).fields :=
    mem_keys_run.mpr (.inr ⟨name, v, hchange, rfl⟩)
  refine ⟨(f.run changes).fields, rfl, rfl, ⟨?_, ?_⟩, ?_, ?_⟩
  · intro hpaging name v hchange
    exact hpaging _ (hmem name v hchange) name rfl
  · intro hnames key hkey name hname hspelled
    obtain ⟨v, hchange⟩ := hset key hkey name hname hspelled
    exact hnames name v hchange hspelled
  · intro name hspelled
    exact ⟨fun hkey => hset _ hkey name rfl hspelled, fun ⟨v, hchange⟩ => hmem name v hchange⟩
  · intro table schema ds hds d hd hspelled
    have hfield := (Descriptor.ofFields_sublist hds).subset (List.mem_map_of_mem hd)
    obtain ⟨entry, hentry, hname⟩ := List.mem_filterMap.mp hfield
    exact hset entry.1 (List.mem_map_of_mem hentry) d.field hname hspelled

/-- A document with a page and a field. -/
def pagedDocument : Mapping := [(.text "PAGE", .ofInt 3), (.text "MinId", .ofInt 2)]

/-- The filter that the document is read as. -/
def pagedFilter : DocumentFilter :=
  ⟨{ FilterBase.empty with page := some 3 }, [(.text "MinId", .ofInt 2)]⟩

/-- A group set after reading, and another base, bring no paging key among the fields. -/
theorem isPagingFree_run_iff_group :
    ofMapping pagedDocument = .ok pagedFilter ∧
      (∀ name v, .setField name v ∈ [Change.setField "Group" (.text "b"), .setBase .empty] →
        ¬ PagingKey.IsSpelled name) ∧
      (pagedFilter.run [.setField "Group" (.text "b"), .setBase .empty]).fields.IsPagingFree := by
  have hread : ofMapping pagedDocument = .ok pagedFilter := by cbv
  have hnames : ∀ name v, .setField name v ∈ [Change.setField "Group" (.text "b"), .setBase .empty] →
      ¬ PagingKey.IsSpelled name := by
    intro name v hchange
    obtain ⟨rfl, -⟩ : name = "Group" ∧ v = .text "b" := by simpa using hchange
    exact PagingKey.ofKey?_text_eq_none_iff.mp (by cbv)
  obtain ⟨m, hm, -, hfree, -⟩ :=
    isPagingFree_run_iff hread [.setField "Group" (.text "b"), .setBase .empty]
  obtain rfl := Except.ok.inj hm
  exact ⟨hread, hnames, hfree.mpr hnames⟩

/-- A page that is set as a field stays one, and is bound where the schema has such a property. -/
theorem exists_run_binds_page :
    ∃ f ds d, ofMapping [] = .ok f ∧
      ¬ (f.run [.setField "Page" (.ofInt 1)]).fields.IsPagingFree ∧
      Descriptor.ofFields .standard ⟨"Row", ["Id", "Page"]⟩
        (f.run [.setField "Page" (.ofInt 1)]).fields = .ok ds ∧
      d ∈ ds ∧ d.field = "Page" ∧ PagingKey.IsSpelled d.field := by
  have hspelled : PagingKey.IsSpelled "Page" := ⟨.page, Text.sameAscii_refl "Page"⟩
  have hread : ofMapping [] = .ok ⟨.empty, []⟩ := by cbv
  have hbound : Descriptor.ofFields .standard ⟨"Row", ["Id", "Page"]⟩ [(.text "Page", .ofInt 1)] =
      .ok [⟨"Page", none, "Page", .equal, .int 1⟩] := by cbv
  refine ⟨⟨.empty, []⟩, _, _, hread, ?_, hbound, List.mem_cons_self, rfl, hspelled⟩
  intro hfree
  exact hfree (.text "Page") List.mem_cons_self "Page" rfl hspelled

end DocumentFilter

end RecordQuery
