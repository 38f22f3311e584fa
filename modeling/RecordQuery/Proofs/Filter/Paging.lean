import RecordQuery.Proofs.Filter.Base
import RecordQuery.Proofs.Filter.Document

/-!
# Paging values in a document and assigned to a filter

A paging value of a filter that was read can be assigned afterwards. The same filter is read from
the document in which every key for that value is left out, whatever its spelling, and the value
stands under its own key: what was found for one paging value has no say in another, and what was
found for the value itself is replaced. The sort text has two keys, and both of them go.

* `PagingEntries.put_addAll`: a value that is assigned replaces what was found for it.
* `DocumentFilter.paging_setPaging`: the paging values of a document with one of them set.
* `DocumentFilter.ofMapping_setSorting`, `ofMapping_setPage`, `ofMapping_setPageSize`: the filter
  of such a document.
-/

namespace RecordQuery

namespace PagingKey

/-- The paging key under whose name a value is kept: the sort text answers to two keys. -/
def target : PagingKey → PagingKey
  | .sortBy => .sortingFields
  | k => k

/-- The document key is one for the paging value of `k`. -/
def isNamedBy (k : PagingKey) (key : Value) : Bool :=
  (ofKey? key).any fun l => l.target == k.target

theorem isNamedBy_spelling (k : PagingKey) : k.isNamedBy (.text k.spelling) = true := by
  rw [isNamedBy, ofKey?_spelling]
  exact beq_self_eq_true k.target

end PagingKey

/-! ## Values found and values assigned -/

namespace PagingEntries

/-- The paging entries with one value assigned, whatever was found for it. -/
def put (e : PagingEntries) (v : Value) : PagingKey → PagingEntries
  | .sortingFields | .sortBy => { e with sorting := some v }
  | .page => { e with page := some v }
  | .pageSize => { e with pageSize := some v }

variable {e : PagingEntries} {base : FilterBase} {v w : Value} {k l : PagingKey}

/-- An entry that is found under a key of its own replaces what was found before. -/
theorem add_eq_put (h : k ≠ .sortBy) : e.add v k = e.put v k := by
  cases k with
  | sortBy => exact absurd rfl h
  | sortingFields | page | pageSize => rfl

theorem put_add_of_target_eq (h : l.target = k.target) : (e.add w l).put v k = e.put v k := by
  cases k <;> cases l <;> simp_all [PagingKey.target, add, put]

theorem put_add_of_target_ne (h : l.target ≠ k.target) :
    (e.add w l).put v k = (e.put v k).add w l := by
  cases k <;> cases l <;> simp_all [PagingKey.target, add, put]

/-- The entries that are not for the value of `k`. -/
def others (k : PagingKey) (entries : List (PagingKey × Value)) : List (PagingKey × Value) :=
  entries.filter fun p => !(p.1.target == k.target)

/-- **A value that is assigned** replaces what was found for it, and what was found for the others
stays. -/
theorem put_addAll (entries : List (PagingKey × Value)) :
    (e.addAll entries).put v k = (e.put v k).addAll (others k entries) := by
  induction entries generalizing e with
  | nil => rfl
  | cons p entries ih =>
    show ((e.add p.2 p.1).addAll entries).put v k = _
    rw [ih]
    by_cases h : p.1.target = k.target
    · rw [put_add_of_target_eq h, others, others, List.filter_cons_of_neg (by simp [h])]
    · rw [put_add_of_target_ne h, others, others, List.filter_cons_of_pos (by simp [h])]
      rfl

theorem put_addAll_others (entries : List (PagingKey × Value)) :
    (e.addAll (others k entries)).put v k = (e.addAll entries).put v k := by
  have hothers : others k (others k entries) = others k entries := by
    rw [others, others, List.filter_filter]
    simp only [Bool.and_self]
  rw [put_addAll, put_addAll, hothers]

theorem toBase?_put_sorting (h : e.toBase? = some base) (s : String) :
    (e.put (.text s) .sortingFields).toBase? = some { base with sorting := some s } := by
  obtain ⟨_, page, pageSize, -, hpage, hsize, rfl⟩ := toBase?_eq_some_iff.mp h
  exact toBase?_eq_some_iff.mpr ⟨some s, page, pageSize, rfl, hpage, hsize, rfl⟩

theorem read?_ofInt {n : Int} (h : Numeral.isInt64 n = true) :
    read? Shape.int? (some (Value.ofInt n)) = some (some n) := by
  show Shape.optional? Shape.int? (FilterBase.orNull Value.ofInt (some n)) = some (some n)
  refine Shape.optional?_orNull rfl fun m hm => ?_
  obtain rfl := Option.some.inj hm
  exact Shape.int?_ofInt h

theorem toBase?_put_page (h : e.toBase? = some base) {n : Int} (hn : Numeral.isInt64 n = true) :
    (e.put (.ofInt n) .page).toBase? = some { base with page := some n } := by
  obtain ⟨sorting, _, pageSize, hsorting, -, hsize, rfl⟩ := toBase?_eq_some_iff.mp h
  exact toBase?_eq_some_iff.mpr ⟨sorting, some n, pageSize, hsorting, read?_ofInt hn, hsize, rfl⟩

theorem toBase?_put_pageSize (h : e.toBase? = some base) {n : Int}
    (hn : Numeral.isInt64 n = true) :
    (e.put (.ofInt n) .pageSize).toBase? = some { base with pageSize := some n } := by
  obtain ⟨sorting, page, _, hsorting, hpage, -, rfl⟩ := toBase?_eq_some_iff.mp h
  exact toBase?_eq_some_iff.mpr ⟨sorting, page, some n, hsorting, hpage, read?_ofInt hn, rfl⟩

end PagingEntries

/-! ## A document with a paging value set -/

namespace DocumentFilter

/-- The document in which a paging value stands under its own key, and under no other spelling. -/
def setPaging (document : Mapping) (k : PagingKey) (v : Value) : Mapping :=
  Mapping.insert (document.filter fun e => !k.isNamedBy e.1) (.text k.spelling) v

variable {document : Mapping} {f : DocumentFilter} {k : PagingKey} {v : Value}

theorem setPaging_eq_append :
    setPaging document k v =
      (document.filter fun e => !k.isNamedBy e.1) ++ [(.text k.spelling, v)] := by
  refine Mapping.insert_of_not_holds ?_
  rw [Mapping.holds_text_iff, Mapping.text_mem_keys_filter (q := fun key => !k.isNamedBy key),
    k.isNamedBy_spelling]
  simp

theorem pagingEntries_setPaging :
    pagingEntries (setPaging document k v) =
      PagingEntries.others k (pagingEntries document) ++ [(k, v)] := by
  rw [setPaging_eq_append, pagingEntries_append]
  congr 1
  · rw [pagingEntries, pagingEntries, PagingEntries.others, List.filterMap_filter,
      List.filter_filterMap]
    refine List.filterMap_congr fun e _ => ?_
    rw [PagingKey.isNamedBy]
    cases PagingKey.ofKey? e.1 with
    | none => rfl
    | some l => cases h : l.target == k.target <;> simp [Option.filter, h]
  · rw [pagingEntries, List.filterMap_cons, k.ofKey?_spelling]
    rfl

/-- The fields of a document do not depend on its paging values. -/
theorem fieldEntries_setPaging : fieldEntries (setPaging document k v) = fieldEntries document := by
  have hkey : isField (.text k.spelling) = false := by
    rw [isField, k.ofKey?_spelling]
    rfl
  rw [setPaging_eq_append, fieldEntries_append, fieldEntries, fieldEntries, fieldEntries,
    List.filter_filter, List.filter_cons_of_neg (by simp [hkey]), List.filter_nil, List.append_nil]
  refine List.filter_congr fun e _ => ?_
  rw [isField, PagingKey.isNamedBy]
  cases PagingKey.ofKey? e.1 <;> simp

/-- **The paging values of a document with one of them set.** -/
theorem paging_setPaging (hk : k ≠ .sortBy) :
    paging (setPaging document k v) = (paging document).put v k := by
  rw [paging, pagingEntries_setPaging, PagingEntries.addAll, List.foldl_append]
  show PagingEntries.add (PagingEntries.addAll _ _) v k = _
  rw [PagingEntries.add_eq_put hk, PagingEntries.put_addAll_others]
  rfl

/-- A filter whose document has another paging value is read as the base of these values says. -/
theorem ofMapping_setPaging (hk : k ≠ .sortBy) {fields : Mapping} {base : FilterBase}
    (hfields : ownFields document = fields)
    (hbase : ((paging document).put v k).toBase? = some base) :
    ofMapping (setPaging document k v) = .ok (synced ⟨base, fields⟩) := by
  refine ofMapping_eq_ok_iff.mpr ⟨base, ?_, ?_⟩
  · rw [paging_setPaging hk, hbase]
  · rw [ownFields, fieldEntries_setPaging, ← ownFields, hfields]

/-- **A sort text that is assigned afterwards may as well be in the document**, in place of all that
its two keys give. -/
theorem ofMapping_setSorting (h : ofMapping document = .ok f) (s : String) :
    ofMapping (setPaging document .sortingFields (.text s)) = .ok (f.withSorting (some s)) := by
  obtain ⟨base, hbase, rfl⟩ := ofMapping_eq_ok_iff.mp h
  exact ofMapping_setPaging (by decide) rfl (PagingEntries.toBase?_put_sorting hbase s)

/-- **A page that is assigned afterwards may as well be in the document.** -/
theorem ofMapping_setPage (h : ofMapping document = .ok f) {n : Int}
    (hn : Numeral.isInt64 n = true) :
    ofMapping (setPaging document .page (.ofInt n)) = .ok (f.withPage (some n)) := by
  obtain ⟨base, hbase, rfl⟩ := ofMapping_eq_ok_iff.mp h
  exact ofMapping_setPaging (by decide) rfl (PagingEntries.toBase?_put_page hbase hn)

/-- **A page size that is assigned afterwards may as well be in the document.** -/
theorem ofMapping_setPageSize (h : ofMapping document = .ok f) {n : Int}
    (hn : Numeral.isInt64 n = true) :
    ofMapping (setPaging document .pageSize (.ofInt n)) = .ok (f.withPageSize (some n)) := by
  obtain ⟨base, hbase, rfl⟩ := ofMapping_eq_ok_iff.mp h
  exact ofMapping_setPaging (by decide) rfl (PagingEntries.toBase?_put_pageSize hbase hn)

end DocumentFilter

end RecordQuery
