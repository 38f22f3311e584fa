import Mathlib
import RecordQuery.CommandLine.Run
import RecordQuery.Proofs.CommandLine.Options
import RecordQuery.Proofs.Filter.Paging

/-!
# The layers of a filter

The filter of a run is made in layers: it is read from a document, then the fields of the arguments
are set one by one, then the paging options are assigned. The same filter is read in one go from a
document that has all of it: the fields of the arguments are inserted into the document, and each
paging option that is given stands in place of every spelling of its key. So it does not matter in
which layer a field or a paging value stands, as long as the arguments set no paging key as a field.

* `DocumentFilter.ofMapping_insertAll`: fields that are set one by one.
* `ofMapping_overridden`: paging options that are assigned.
* `foldlM_addField_eq`: the fields of the arguments, if all of them can be read.
* `ofMapping_layered`: the filter of a run is read from one document.
-/

namespace RecordQuery

/-! ## Fields -/

namespace DocumentFilter

variable {document : Mapping} {f : DocumentFilter}

/-- **Fields that are set one by one may as well be in the document.** -/
theorem ofMapping_insertAll {pairs : List (String × Value)}
    (hnames : ∀ pair ∈ pairs, ¬ PagingKey.IsSpelled pair.1) (h : ofMapping document = .ok f) :
    ofMapping (document.insertAll (Mapping.ofTexts pairs)) = .ok (f.setFields pairs) := by
  induction pairs generalizing document f with
  | nil => exact h
  | cons pair pairs ih =>
    obtain ⟨hname, hrest⟩ := List.forall_mem_cons.mp hnames
    rw [setFields_cons]
    exact ih hrest (ofMapping_insert hname h)

end DocumentFilter

namespace CommandLine

open DocumentFilter (ofMapping setPaging)

variable {o : Options} {document : Mapping} {f : DocumentFilter}

/-! ## Options -/

/-- The document with the paging options that are given in place of its own values. -/
def overridden (o : Options) (document : Mapping) : Mapping :=
  let d := match o.sort with
    | some s => setPaging document .sortingFields (.text s)
    | none => document
  let d := match o.page with
    | some n => setPaging d .page (.ofInt n)
    | none => d
  match o.pageSize with
  | some n => setPaging d .pageSize (.ofInt n)
  | none => d

/-- **Paging options that are assigned may as well be in the document.** -/
theorem ofMapping_overridden (ho : o.HasSignedPages) (h : ofMapping document = .ok f) :
    ofMapping (overridden o document) = .ok (withPaging o f) := by
  have hsort : ofMapping (match o.sort with
      | some s => setPaging document .sortingFields (.text s)
      | none => document) = .ok (if o.sort.isSome then f.withSorting o.sort else f) := by
    cases o.sort with
    | none => exact h
    | some s => exact DocumentFilter.ofMapping_setSorting h s
  have hpaged {d : Mapping} {g : DocumentFilter} (hd : ofMapping d = .ok g) :
      ofMapping (match o.page with
        | some n => setPaging d .page (.ofInt n)
        | none => d) = .ok (if o.page.isSome then g.withPage o.page else g) := by
    cases hp : o.page with
    | none => exact hd
    | some n => exact DocumentFilter.ofMapping_setPage hd (ho.1 n hp)
  have hsized {d : Mapping} {g : DocumentFilter} (hd : ofMapping d = .ok g) :
      ofMapping (match o.pageSize with
        | some n => setPaging d .pageSize (.ofInt n)
        | none => d) = .ok (if o.pageSize.isSome then g.withPageSize o.pageSize else g) := by
    cases hp : o.pageSize with
    | none => exact hd
    | some n => exact DocumentFilter.ofMapping_setPageSize hd (ho.2 n hp)
  exact hsized (hpaged hsort)

/-! ## Runs -/

/-- The fields of arguments that can all be read are set in their order. -/
theorem foldlM_addField_eq {arguments : List String} {pairs : List (String × Value)}
    (h : arguments.mapM parseField = .ok pairs) :
    arguments.foldlM addField f = .ok (f.setFields pairs) := by
  induction arguments generalizing f pairs with
  | nil =>
    obtain rfl := Except.ok.inj h
    rfl
  | cons argument arguments ih =>
    obtain ⟨pair, rest, hpair, hrest, rfl⟩ := mapM_cons_eq_ok_iff.mp h
    have hfirst : addField f argument = .ok (f.setField pair.1 pair.2) := by
      rw [addField, hpair]
      rfl
    rw [List.foldlM_cons, hfirst, DocumentFilter.setFields_cons]
    exact ih hrest

/-- The one document that has all layers: the fields of the arguments are inserted into the
document, and the paging options stand in place of its own values. -/
def layered (o : Options) (pairs : List (String × Value)) (document : Mapping) : Mapping :=
  overridden o (document.insertAll (Mapping.ofTexts pairs))

/-- **The filter of a run is read from one document.** Where a document is read as a filter and the
fields that are set have no paging key for a name, the filter with these fields and with the paging
options on top, which is what a run builds from the document and such arguments, is read from the
document that has all layers: the base is the same, and so are the fields, in the same order. -/
theorem ofMapping_layered {pairs : List (String × Value)} (ho : o.HasSignedPages)
    (hnames : ∀ pair ∈ pairs, ¬ PagingKey.IsSpelled pair.1) (hdocument : ofMapping document = .ok f) :
    ofMapping (layered o pairs document) = .ok (withPaging o (f.setFields pairs)) ∧
      ∀ s : Surroundings, readFilter s o.filter = .ok document →
        o.fields.mapM parseField = .ok pairs →
          buildFilter s o = .ok (withPaging o (f.setFields pairs)) := by
  constructor
  · exact ofMapping_overridden ho (DocumentFilter.ofMapping_insertAll hnames hdocument)
  · intro s hread hfields
    rw [buildFilter, hread]
    show ((ofMapping document).mapError .query >>= fun base =>
      o.fields.foldlM addField base >>= fun g => pure (withPaging o g)) = _
    rw [hdocument]
    show (o.fields.foldlM addField f >>= fun g => pure (withPaging o g)) = _
    rw [foldlM_addField_eq hfields]
    rfl

/-- A document that spells its paging keys otherwise, with a bound that a field replaces. -/
def sampleDocument : Mapping :=
  [(.text "SORTBY", .text "Id"), (.text "page", .ofInt 7), (.text "MinId", .ofInt 2)]

/-- Fields of arguments: one that the document has, one that it lacks, and a field of the base. -/
def sampleFields : List (String × Value) :=
  [("MinId", .ofInt 3), ("Group", .text "b"), ("disabled", .bool true)]

/-- Options of the order and the page. -/
def sampleOptions : Options := { Options.none with sort := some "Id desc", page := some 2 }

/-- The fields and the options of the sample on top of its document. -/
theorem ofMapping_layered_sample : ∃ f, ofMapping sampleDocument = .ok f ∧
    layered sampleOptions sampleFields sampleDocument =
      [(.text "MinId", .ofInt 3), (.text "Group", .text "b"), (.text "disabled", .bool true),
        (.text "SortingFields", .text "Id desc"), (.text "Page", .ofInt 2)] ∧
    ofMapping (layered sampleOptions sampleFields sampleDocument) =
      .ok (withPaging sampleOptions (f.setFields sampleFields)) := by
  have hread : Options.ofArguments ["--sort", "Id desc", "--page=2"] [] = .ok sampleOptions := by cbv
  have ho : sampleOptions.HasSignedPages := Options.hasSignedPages_of_ofArguments hread
  have hnames : ∀ pair ∈ sampleFields, ¬ PagingKey.IsSpelled pair.1 := by
    simp only [sampleFields, List.forall_mem_cons, List.not_mem_nil, false_implies, implies_true,
      and_true]
    refine ⟨?_, ?_, ?_⟩ <;> exact PagingKey.ofKey?_text_eq_none_iff.mp (by cbv)
  have hdocument : ofMapping sampleDocument =
      .ok ⟨⟨none, none, some "Id", some 7, none⟩, [(.text "MinId", .ofInt 2)]⟩ := by cbv
  exact ⟨_, hdocument, by cbv, (ofMapping_layered ho hnames hdocument).1⟩

end CommandLine

end RecordQuery
