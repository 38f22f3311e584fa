import RecordQuery.Filter.Base
import RecordQuery.Proofs.Outcome

/-!
# What a base writes is read back

The fields of a base are written as document values, null where one is unset, and read from such
values. Integers of a base have 64 signed bits; all of these are numbers of a document, and a
document number is read as such an integer only if it is one.

A list of integers is the exception: null is read as the empty list. So an optional list is read
back only through the type of optional lists, for which null is unset.

* `Shape.int?_ofInt`, `Shape.intList?_ofInts`: integers and lists of them are read back.
* `Shape.intList?_orNull`: a list that is unset is read back as the empty one.
* `Shape.optional?_orNull`: an optional field is read back, unset or not.
-/

namespace RecordQuery

/-! ## Integers -/

theorem fitsWord_of_isInt64 {n : Int} (h : Numeral.isInt64 n = true) : FitsWord n := by
  unfold Numeral.isInt64 Numeral.int64Min Numeral.int64Max at h
  unfold FitsWord
  simp only [Bool.and_eq_true, decide_eq_true_eq] at h
  omega

namespace Shape

theorem int?_ofInt {n : Int} (h : Numeral.isInt64 n = true) : int? (Value.ofInt n) = some n := by
  have hfits := fitsWord_of_isInt64 h
  have hmax : n ≤ Numeral.int64Max := by
    unfold Numeral.isInt64 at h
    simp only [Bool.and_eq_true, decide_eq_true_eq] at h
    exact h.2
  have hvalue : Value.ofInt n = .number (.int n hfits) := by
    rw [Value.ofInt, Number.ofInt?, dif_pos hfits]
  rw [hvalue]
  exact if_pos hmax

theorem mapM_int?_ofInts {ids : List Int} (h : ∀ n ∈ ids, Numeral.isInt64 n = true) :
    (ids.map Value.ofInt).mapM int? = some ids := by
  induction ids with
  | nil => rfl
  | cons n ids ih =>
    obtain ⟨hn, hids⟩ := List.forall_mem_cons.mp h
    rw [List.map_cons, List.mapM_cons, int?_ofInt hn, ih hids]
    rfl

theorem intList?_ofInts {ids : List Int} (h : ∀ n ∈ ids, Numeral.isInt64 n = true) :
    intList? (.sequence (ids.map Value.ofInt)) = some ids := mapM_int?_ofInts h

/-- **A list that is unset is read back as the empty one**: null is a list of nothing. -/
theorem intList?_orNull {ids? : Option (List Int)}
    (h : ∀ ids ∈ ids?, ∀ n ∈ ids, Numeral.isInt64 n = true) :
    intList? (FilterBase.orNull (fun ids => .sequence (ids.map Value.ofInt)) ids?) =
      some (ids?.getD []) := by
  cases ids? with
  | none => rfl
  | some ids => exact intList?_ofInts (h ids rfl)

theorem bool?_orNull (b? : Option Bool) : bool? (FilterBase.orNull .bool b?) = b? := by
  cases b? <;> rfl

/-- **An optional field is read back, unset or not**, if its values are and null is none of them. -/
theorem optional?_orNull {α : Type} {write : α → Value} {read? : Value → Option α}
    {x? : Option α} (hnull : read? .null = none) (hread : ∀ x ∈ x?, read? (write x) = some x) :
    optional? read? (FilterBase.orNull write x?) = some x? := by
  cases x? with
  | none => rfl
  | some x =>
    have hx := hread x rfl
    show optional? read? (write x) = some (some x)
    unfold optional?
    split
    · rename_i hwritten
      rw [hwritten, hnull] at hx
      cases hx
    · rw [hx]
      rfl

end Shape

/-! ## The integers and the paging fields of a base -/

/-- The integers of the base have 64 signed bits. -/
structure FilterBase.IsSigned (b : FilterBase) : Prop where
  listId : ∀ ids ∈ b.listId, ∀ n ∈ ids, Numeral.isInt64 n = true
  page : ∀ n ∈ b.page, Numeral.isInt64 n = true
  pageSize : ∀ n ∈ b.pageSize, Numeral.isInt64 n = true

/-- The paging fields of a base under their own names, null where unset. -/
def FilterBase.pagingMapping (b : FilterBase) : Mapping :=
  [(.text "SortingFields", orNull .text b.sorting), (.text "Page", orNull Value.ofInt b.page),
    (.text "PageSize", orNull Value.ofInt b.pageSize)]

end RecordQuery
