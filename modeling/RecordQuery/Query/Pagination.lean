import RecordQuery.Filter.Predicate
import RecordQuery.Query.Order
import RecordQuery.Query.Page
import RecordQuery.Yaml.Printer

/-!
# Selecting, sorting and cutting

The candidates that satisfy a predicate are collected in their order, sorted by one property, and
cut to a page. Every candidate is tested before anything is cut, so a failing one is never hidden
by a small page.

* `matching`: the candidates that match, each with its record; the first failure is the outcome.
* `SortKey.resolve`: `resolve_sort`, the property that a sort text names.
* `SortKey.sort`: a stable sort by `compare_property`; ties keep their order in both directions.
* `paginate`: the request is validated first, then the sort property, then the candidates.
-/

namespace RecordQuery

/-- The order of the values of a property, absent ones included. -/
def propertyOrder (a b : Option Value) : Ordering := compareValues Value.written a b

/-- A property of a schema to sort by, and the direction. -/
structure SortKey where
  property : String
  descending : Bool
  deriving DecidableEq

namespace SortKey

/-- The sort key of a specification, whose property must be one of the schema. -/
def resolve (schema : Schema) (spec : SortSpec) : Except FilterError SortKey :=
  match schema.resolve? spec.property with
  | some property => .ok ⟨property, spec.descending⟩
  | none => .error (.unresolvableSortField schema.name spec.property)

/-- The sort key of an optional specification. -/
def resolveAll (schema : Schema) : Option SortSpec → Except FilterError (Option SortKey)
  | none => .ok none
  | some spec => (resolve schema spec).map some

/-- The order of two records by the key. -/
def compare (key : SortKey) (a b : Record) : Ordering :=
  let o := propertyOrder (a.find? key.property) (b.find? key.property)
  if key.descending then o.swap else o

/-- Things with their records, sorted by the key. -/
def sort {α : Type} (key : SortKey) (found : List (α × Record)) : List (α × Record) :=
  found.mergeSort fun a b => key.compare a.2 b.2 != .gt

end SortKey

/-- The candidates that match with their records, up to the first failure. -/
def matching {α : Type} [Entity α] (p : Predicate) : List α → Except FilterError (List (α × Record))
  | [] => .ok []
  | x :: xs =>
    match Record.ofEntity x with
    | .error e => .error e
    | .ok r =>
      match p.holds r with
      | .error e => .error e
      | .ok true => (matching p xs).map ((x, r) :: ·)
      | .ok false => matching p xs

/-- The candidates that match in the order that is asked for. Without a sort key a predicate that
is always true selects all candidates without a look at them. -/
def select {α : Type} [Entity α] (p : Predicate) (key? : Option SortKey) (candidates : List α) :
    Except FilterError (List α) :=
  match key? with
  | some key => (matching p candidates).map fun found => (key.sort found).map Prod.fst
  | none =>
    if p.isAlways then .ok candidates
    else (matching p candidates).map fun found => found.map Prod.fst

/-- The page of a result that a request asks for; without both numbers nothing is cut. -/
def PageRequest.apply {α : Type} (r : PageRequest) (items : List α) : ResultPage α :=
  match r.slice? with
  | some (page, size) => ⟨PageRequest.cut page size items, page, size, items.length⟩
  | none => ⟨items, PageRequest.defaultPage, PageRequest.defaultPageSize, items.length⟩

/-- Filters, counts, sorts and cuts the candidates. -/
def paginate {α : Type} [Entity α] (candidates : List α) (p : Predicate) (schema : Schema)
    (sort? : Option SortSpec) (request : PageRequest) : Except FilterError (ResultPage α) := do
  request.validate
  let key? ← SortKey.resolveAll schema sort?
  let found ← select p key? candidates
  return request.apply found

end RecordQuery
