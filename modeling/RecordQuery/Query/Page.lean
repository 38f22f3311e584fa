import RecordQuery.Filter.Error
import RecordQuery.Text.Blank
import RecordQuery.Text.Lower

/-!
# Sort specifications and page requests

What a query asks for beside its predicate: an order by one property, and a page. Pages are counted
from one. A page is cut only if both its number and its size are given.

* `SortSpec.parse`: a field, and a direction in any case.
* `PageRequest.slice?`: `slice`, the page that is asked for.
* `PageRequest.cut`: the items of a page; bounds past the largest signed 64-bit integer are taken
  as that integer.
-/

namespace RecordQuery

/-- A property to sort by and the direction. -/
structure SortSpec where
  property : String
  descending : Bool
  deriving DecidableEq

/-- The specification that a text writes: a field alone, or a field and `asc` or `desc`. A blank
text asks for no order. -/
def SortSpec.parse (text : String) : Except FilterError (Option SortSpec) :=
  match (Text.words text.toList).map String.ofList with
  | [] => .ok none
  | [field] => .ok (some ⟨field, false⟩)
  | [field, direction] =>
    if Text.sameAscii direction "asc" then .ok (some ⟨field, false⟩)
    else if Text.sameAscii direction "desc" then .ok (some ⟨field, true⟩)
    else .error (.invalidSortSpec text)
  | _ => .error (.invalidSortSpec text)

/-- A requested page: its number and its size, each of which may be left open. -/
structure PageRequest where
  page : Option Int
  pageSize : Option Int
  deriving DecidableEq

namespace PageRequest

/-- The request that leaves both open. -/
def unpaged : PageRequest := ⟨none, none⟩

/-- The page number reported for a result that is not cut. -/
def defaultPage : Int := 1

/-- The page size reported for a result that is not cut. -/
def defaultPageSize : Int := 50

/-- A given number has to be positive; the page is looked at first. -/
def validate (r : PageRequest) : Except FilterError Unit :=
  match r.page.filter (· ≤ 0) with
  | some page => .error (.invalidPageRequest .page page)
  | none =>
    match r.pageSize.filter (· ≤ 0) with
    | some size => .error (.invalidPageRequest .pageSize size)
    | none => .ok ()

/-- The page and the size, if both are given. -/
def slice? (r : PageRequest) : Option (Int × Int) :=
  match r.page, r.pageSize with
  | some page, some size => some (page, size)
  | _, _ => none

/-- The number of items before a page, no more than the largest signed 64-bit integer. -/
def start (page size : Int) : Nat := (min ((page - 1) * size) Numeral.int64Max).toNat

/-- The items of a page. -/
def cut {α : Type} (page size : Int) (items : List α) : List α :=
  (items.drop (start page size)).take size.toNat

end PageRequest

/-- The items of a page with what the caller needs to ask for the next one. -/
structure ResultPage (α : Type) where
  items : List α
  page : Int
  pageSize : Int
  /-- The number of matches on all pages. -/
  totalCount : Nat

end RecordQuery
