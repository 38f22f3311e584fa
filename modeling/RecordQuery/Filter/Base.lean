import RecordQuery.Query.Page
import RecordQuery.Value.Shape

/-!
# What every filter carries

Two fields that bind like any other, `ListId` and `Disabled`, and the paging fields, which the
pipeline reads and which never reach the binder. A filter is anything that has such a base and can
list its fields. These are `QueryFilterBase` and `QueryFilter`, whose `filter_fields` lists them.
-/

namespace RecordQuery

/-- The fields that all filters share. -/
structure FilterBase where
  listId : Option (List Int)
  disabled : Option Bool
  sorting : Option String
  page : Option Int
  pageSize : Option Int
  deriving DecidableEq

/-- A filter: its base, and its fields by name, unset ones included. -/
class QueryFilter (α : Type) where
  base : α → FilterBase
  fields : α → Except FilterError Mapping

/-- The page that a filter asks for. -/
def QueryFilter.pageRequest {α : Type} [QueryFilter α] (f : α) : PageRequest :=
  ⟨(QueryFilter.base f).page, (QueryFilter.base f).pageSize⟩

/-- The order that a filter asks for. -/
def QueryFilter.sortText {α : Type} [QueryFilter α] (f : α) : Option String :=
  (QueryFilter.base f).sorting

namespace FilterBase

/-- The base that sets nothing. -/
def empty : FilterBase := ⟨none, none, none, none, none⟩

/-- The names of the base's fields; the sort text answers to two. -/
def names : List String := ["ListId", "Disabled", "SortingFields", "SortBy", "Page", "PageSize"]

/-- The base that a list of fields gives. -/
def ofFields? (entries : List (String × Value)) : Option FilterBase := do
  let listId ← Shape.field? entries ["ListId"] Shape.intList?
  let disabled ← Shape.field? entries ["Disabled"] Shape.bool?
  let sorting ← Shape.field? entries ["SortingFields", "SortBy"] Shape.text?
  let page ← Shape.field? entries ["Page"] Shape.int?
  let pageSize ← Shape.field? entries ["PageSize"] Shape.int?
  return { listId, disabled, sorting, page, pageSize }

/-- The base that a document value is read as. -/
def ofValue (v : Value) : Except FilterError FilterBase :=
  match (Shape.fields? v).bind ofFields? with
  | some base => .ok base
  | none => .error (.serialization .misshapen)

/-- An optional value, null if unset. -/
def orNull {α : Type} (write : α → Value) : Option α → Value
  | some x => write x
  | none => .null

/-- The base's own fields; paging and sorting are not among them. -/
def toMapping (b : FilterBase) : Mapping :=
  [(.text "ListId", orNull (fun ids => .sequence (ids.map Value.ofInt)) b.listId),
   (.text "Disabled", orNull .bool b.disabled)]

end FilterBase

/-- The fields of a filter that is written as the given value. -/
def fieldsOfValue : Value → Except FilterError Mapping
  | .mapping entries => .ok entries
  | _ => .error (.notAMapping .queryFilter)

instance : QueryFilter FilterBase := ⟨id, fun b => .ok b.toMapping⟩

end RecordQuery
