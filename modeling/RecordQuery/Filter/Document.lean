import RecordQuery.Filter.Base

/-!
# Document filters

A filter whose fields are known only when it is read, such as the body of a request. The paging
keys are taken out of the document, whatever the case of their ASCII letters; the other entries are
the fields, in order. `ListId` and `Disabled` stay fields and are copied into the base if they have
the shape it wants. This is `DocumentFilter` with `from_mapping`, `sync_base` and `set_field`.

* `DocumentFilter.ofMapping`: `SortingFields` wins over its alias `SortBy` in either order.
* `DocumentFilter.setField`: sets a field by its exact name, a paging key being a field like others.
-/

namespace RecordQuery

/-- A key of a document that is taken out for paging. -/
inductive PagingKey where
  | sortingFields
  | sortBy
  | page
  | pageSize
  deriving DecidableEq

namespace PagingKey

/-- All paging keys. -/
def all : List PagingKey := [.sortingFields, .sortBy, .page, .pageSize]

/-- The spelling of a paging key, up to the case of its letters. -/
def spelling : PagingKey → String
  | .sortingFields => "SortingFields"
  | .sortBy => "SortBy"
  | .page => "Page"
  | .pageSize => "PageSize"

/-- The paging key that a document key spells. -/
def ofKey? (key : Value) : Option PagingKey :=
  key.asText?.bind fun k => all.find? fun p => Text.sameAscii p.spelling k

end PagingKey

/-- The paging values found so far. -/
structure PagingEntries where
  sorting : Option Value
  page : Option Value
  pageSize : Option Value

namespace PagingEntries

/-- Nothing is found yet. -/
def empty : PagingEntries := ⟨none, none, none⟩

/-- Takes in one more paging entry. The alias of the sort text counts only if nothing was found for
it before; otherwise a later entry replaces an earlier one. -/
def add (e : PagingEntries) (v : Value) : PagingKey → PagingEntries
  | .sortingFields => { e with sorting := some v }
  | .sortBy => { e with sorting := e.sorting.or (some v) }
  | .page => { e with page := some v }
  | .pageSize => { e with pageSize := some v }

/-- A paging value read as the base wants it. -/
def read? {α : Type} (read? : Value → Option α) : Option Value → Option (Option α)
  | some v => Shape.optional? read? v
  | none => some none

/-- The base with the paging values; none if one has the wrong shape. -/
def toBase? (e : PagingEntries) : Option FilterBase := do
  let sorting ← read? Shape.text? e.sorting
  let page ← read? Shape.int? e.page
  let pageSize ← read? Shape.int? e.pageSize
  return { FilterBase.empty with sorting, page, pageSize }

end PagingEntries

/-- A filter read from a document. -/
structure DocumentFilter where
  base : FilterBase
  fields : Mapping

namespace DocumentFilter

/-- The first field with a name, up to the case of ASCII letters. -/
def field? (fields : Mapping) (name : String) : Option Value :=
  fields.findTextKey? fun k => Text.sameAscii k name

/-- The filter with `ListId` and `Disabled` copied into its base as far as they have the shape. -/
def synced (f : DocumentFilter) : DocumentFilter :=
  { f with base := { f.base with
      listId := (field? f.fields "ListId").bind Shape.intList?
      disabled := (field? f.fields "Disabled").bind Shape.bool? } }

/-- The paging entries and the fields of a document, on top of those found so far. -/
def split (paging : PagingEntries) (fields : Mapping) : Mapping → PagingEntries × Mapping
  | [] => (paging, fields)
  | (key, v) :: rest =>
    match PagingKey.ofKey? key with
    | some p => split (paging.add v p) fields rest
    | none => split paging (fields.insert key v) rest

/-- The filter of a document; fails if a paging value has the wrong shape. -/
def ofMapping (document : Mapping) : Except FilterError DocumentFilter :=
  let (paging, fields) := split .empty [] document
  match paging.toBase? with
  | some base => .ok (synced ⟨base, fields⟩)
  | none => .error (.serialization .misshapen)

/-- The filter with a field set. -/
def setField (f : DocumentFilter) (name : String) (v : Value) : DocumentFilter :=
  synced { f with fields := f.fields.insert (.text name) v }

/-- The filter with its sort text assigned. -/
def withSorting (f : DocumentFilter) (sorting : Option String) : DocumentFilter :=
  { f with base := { f.base with sorting } }

/-- The filter with its page assigned. -/
def withPage (f : DocumentFilter) (page : Option Int) : DocumentFilter :=
  { f with base := { f.base with page } }

/-- The filter with its page size assigned. -/
def withPageSize (f : DocumentFilter) (pageSize : Option Int) : DocumentFilter :=
  { f with base := { f.base with pageSize } }

/-- The filter as a document value: its fields alone. -/
def toValue (f : DocumentFilter) : Value := .mapping f.fields

end DocumentFilter

instance : QueryFilter DocumentFilter := ⟨DocumentFilter.base, fun f => .ok f.fields⟩

end RecordQuery
