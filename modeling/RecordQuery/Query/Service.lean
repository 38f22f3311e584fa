import RecordQuery.Filter.Compilation
import RecordQuery.Filter.Base
import RecordQuery.Query.Pagination

/-!
# The query service

One call that binds a filter to a schema, compiles it, selects the records, sorts them and cuts a
page; and the envelope that carries the outcome to a caller.

* `QueryService.compileFilter`: `compile_filter`, the predicate alone, for callers that evaluate it
  elsewhere.
* `QueryService.query`: compile, then parse the sort text, then paginate; the first failure wins.
* `Response.ofResult`: the `QueryResponse` of `from_result`; a failure is an empty envelope with a
  message.
-/

namespace RecordQuery

/-- A service for one table of prefixes. -/
structure QueryService where
  prefixes : PrefixTable

namespace QueryService

/-- The service with the standard prefixes. -/
def standard : QueryService := ⟨.standard⟩

/-- The service of a configuration, with standard spellings for what it leaves out. -/
def ofConfig (config : FilterConfig) : QueryService := ⟨config.table⟩

variable {α φ : Type} [QueryFilter φ] [Entity α]

/-- The fields of a filter bound to the properties of a schema. -/
def bindFilter (s : QueryService) (filter : φ) (schema : Schema) :
    Except FilterError (List Descriptor) := do
  let fields ← QueryFilter.fields filter
  Descriptor.ofFields s.prefixes schema fields

/-- The predicate of a filter. -/
def compileFilter (s : QueryService) (filter : φ) (schema : Schema) :
    Except FilterError Predicate := do
  let descriptors ← s.bindFilter filter schema
  Predicate.compile schema descriptors

/-- The sort specification of a filter. -/
def sortSpec (filter : φ) : Except FilterError (Option SortSpec) :=
  match QueryFilter.sortText filter with
  | some text => SortSpec.parse text
  | none => .ok none

/-- The page of candidates that a filter selects. -/
def query (s : QueryService) (filter : φ) (schema : Schema) (candidates : List α) :
    Except FilterError (ResultPage α) := do
  let p ← s.compileFilter filter schema
  let sort? ← sortSpec filter
  paginate candidates p schema sort? (QueryFilter.pageRequest filter)

end QueryService

/-- The envelope of an outcome. -/
structure Response (α : Type) where
  items : List α
  page : Int
  pageSize : Int
  totalCount : Nat
  failure : Option FilterError

namespace Response

/-- The envelope of a result, or of a failure, whose numbers are zero. -/
def ofResult {α : Type} : Except FilterError (ResultPage α) → Response α
  | .ok page => ⟨page.items, page.page, page.pageSize, page.totalCount, none⟩
  | .error e => ⟨[], 0, 0, 0, some e⟩

/-- The envelope holds no items. -/
def isEmpty {α : Type} (r : Response α) : Bool := r.items.isEmpty

end Response

end RecordQuery
