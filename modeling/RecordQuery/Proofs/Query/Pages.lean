import RecordQuery.Proofs.Query.Selection

/-!
# Pages

A page is cut with bounds that are no larger than the largest signed 64-bit integer, and every page
is computed by a run of its own. Both are immaterial: the bounds agree with those of unbounded
arithmetic as long as the matches can be counted in 64 bits, since a bound that was lowered lies at
or past the end of the list, and what is chosen does not depend on the page.

* `PageRequest.cut_eq_segment`: the items of a page stand from `(page - 1) * size` to `page * size`.
* `flatMap_segment`: pages of one size, one after the other, make up the start of the list.
* `paginate_pages`: a run for a page gives a segment of the run without one, or fails alike, and
  the pages that have items make up that run's result.
-/

namespace RecordQuery

variable {α : Type}

/-- The items at the positions from `(page - 1) * size` up to, but not at, `page * size`, as far as
there are any; the bounds are not limited. -/
def segment (page size : Int) (items : List α) : List α :=
  items.extract ((page - 1) * size).toNat (page * size).toNat

/-- The number of pages of a size that `n` items fill, the last one perhaps not quite. -/
def pageCount (size : Int) (n : Nat) : Nat := (n + size.toNat - 1) / size.toNat

/-! ## One page -/

namespace PageRequest

theorem validate_of_pos {page size : Int} (hpage : 1 ≤ page) (hsize : 1 ≤ size) :
    validate ⟨some page, some size⟩ = .ok () := by
  have hp : ¬ page ≤ 0 := by omega
  have hs : ¬ size ≤ 0 := by omega
  simp [validate, Option.filter, hp, hs]

/-- **The bounds of a page are those of unbounded arithmetic.** A bound past the largest signed
64-bit integer is lowered to it, and a list that is not longer ends there anyway. -/
theorem cut_eq_segment {page size : Int} (hpage : 1 ≤ page) (hsize : 1 ≤ size) {items : List α}
    (hitems : (items.length : Int) ≤ Numeral.int64Max) :
    cut page size items = segment page size items := by
  have hstart : 0 ≤ (page - 1) * size := Int.mul_nonneg (by omega) (by omega)
  have hstop : page * size = (page - 1) * size + size := by ring
  have hlen : (page * size).toNat - ((page - 1) * size).toNat = size.toNat := by omega
  have hdrop : items.drop (start page size) = items.drop ((page - 1) * size).toNat := by
    unfold start
    by_cases hmax : (page - 1) * size ≤ Numeral.int64Max
    · rw [min_eq_left hmax]
    · rw [min_eq_right (by omega), List.drop_eq_nil_of_le (by omega),
        List.drop_eq_nil_of_le (by omega)]
  rw [cut, segment, List.extract_eq_take_drop, hlen, hdrop]

end PageRequest

/-! ## All pages -/

theorem segment_succ {size : Int} (hsize : 1 ≤ size) (k : Nat) (items : List α) :
    segment (k + 1) size items = (items.drop (k * size.toNat)).take size.toNat := by
  obtain ⟨s, rfl⟩ := Int.eq_ofNat_of_zero_le (show 0 ≤ size by omega)
  have hstart : (((k : Int) + 1 - 1) * (s : Int)).toNat = k * s := by
    rw [Int.add_sub_cancel]
    exact_mod_cast rfl
  have hstop : (((k : Int) + 1) * (s : Int)).toNat = k * s + s := by
    rw [← Nat.succ_mul]
    exact_mod_cast rfl
  rw [segment, List.extract_eq_take_drop, hstart, hstop, Int.toNat_natCast, Nat.add_sub_cancel_left]

/-- **Pages of one size, one after the other**, make up the start of the list. -/
theorem flatMap_segment {size : Int} (hsize : 1 ≤ size) (items : List α) (n : Nat) :
    ((List.range n).flatMap fun k : Nat => segment (k + 1) size items) =
      items.take (n * size.toNat) := by
  induction n with
  | zero => simp
  | succ n ih =>
    rw [List.range_succ, List.flatMap_append, ih, List.flatMap_singleton, segment_succ hsize,
      ← List.take_add, Nat.succ_mul]

theorem le_pageCount_mul {size : Int} (hsize : 1 ≤ size) (n : Nat) :
    n ≤ pageCount size n * size.toNat := by
  have h := Nat.div_add_mod (n + size.toNat - 1) size.toNat
  have hmod : (n + size.toNat - 1) % size.toNat < size.toNat := Nat.mod_lt _ (by omega)
  rw [pageCount, Nat.mul_comm]
  omega

/-- A page after the last one that has items has none. -/
theorem segment_of_pageCount_lt {page size : Int} (hsize : 1 ≤ size) {items : List α}
    (h : pageCount size items.length < page) : segment page size items = [] := by
  obtain ⟨k, rfl⟩ : ∃ k : Nat, page = k + 1 := ⟨(page - 1).toNat, by omega⟩
  have hk : pageCount size items.length * size.toNat ≤ k * size.toNat :=
    Nat.mul_le_mul_right _ (by omega)
  rw [segment_succ hsize, List.drop_eq_nil_of_le ((le_pageCount_mul hsize _).trans hk),
    List.take_nil]

/-! ## Runs -/

variable [Entity α]

/-- **A run for a page gives a page of the run without one**, or fails as that run fails. -/
theorem paginate_eq_segment {candidates : List α} {p : Predicate} {schema : Schema}
    {sort? : Option SortSpec} {page size : Int} (hpage : 1 ≤ page) (hsize : 1 ≤ size)
    (hcount : ((p.accepted candidates).length : Int) ≤ Numeral.int64Max) :
    paginate candidates p schema sort? ⟨some page, some size⟩ =
      (paginate candidates p schema sort? .unpaged).map fun all =>
        ⟨segment page size all.items, page, size, all.totalCount⟩ := by
  have hunpaged : PageRequest.unpaged.validate = .ok () := rfl
  rw [paginate_of_valid (PageRequest.validate_of_pos hpage hsize), paginate_of_valid hunpaged]
  cases hrun : chosen candidates p schema sort? with
  | error e => rfl
  | ok items =>
    obtain ⟨key?, -, rfl⟩ := chosen_eq_ok hrun
    have hitems := (SortKey.arrange_perm key? (p.accepted candidates)).length_eq
    show Except.ok (ResultPage.mk _ page size _) = Except.ok (ResultPage.mk _ page size _)
    rw [PageRequest.cut_eq_segment hpage hsize (hitems ▸ hcount)]
    rfl

/-- **Pages are segments of the result that is not cut, and make it up.** A run for a page fails
as the run without one fails; otherwise it has the same count, repeats its request, and holds the
items of its segment. Pages of one size up to the last one that has items, each from a run of its
own, are together all items; every later page is empty. -/
theorem paginate_pages {candidates : List α} {p : Predicate} {size : Int} (hsize : 1 ≤ size)
    (hcount : ((p.accepted candidates).length : Int) ≤ Numeral.int64Max)
    (schema : Schema) (sort? : Option SortSpec) :
    (∀ page, 1 ≤ page →
      paginate candidates p schema sort? ⟨some page, some size⟩ =
        (paginate candidates p schema sort? .unpaged).map fun all =>
          ⟨segment page size all.items, page, size, all.totalCount⟩) ∧
    ∀ all, paginate candidates p schema sort? .unpaged = .ok all →
      ((List.range (pageCount size all.items.length)).mapM fun k : Nat =>
          paginate candidates p schema sort? ⟨some (k + 1), some size⟩).map
            (fun pages => pages.flatMap ResultPage.items) = .ok all.items ∧
      ∀ page : Int, pageCount size all.items.length < page → ∃ result,
        paginate candidates p schema sort? ⟨some page, some size⟩ = .ok result ∧
          result.items = [] := by
  refine ⟨fun page hpage => paginate_eq_segment hpage hsize hcount, fun all hall => ⟨?_, ?_⟩⟩
  · have hpages : ∀ k ∈ List.range (pageCount size all.items.length),
        paginate candidates p schema sort? ⟨some ((k : Int) + 1), some size⟩ =
          .ok ⟨segment (k + 1) size all.items, k + 1, size, all.totalCount⟩ := by
      intro k _
      rw [paginate_eq_segment (by omega) hsize hcount, hall]
      rfl
    rw [mapM_eq_ok_map hpages]
    show Except.ok (List.flatMap ResultPage.items (List.map _ _)) = _
    rw [List.flatMap_map]
    exact congrArg Except.ok ((flatMap_segment hsize all.items _).trans
      (List.take_of_length_le (le_pageCount_mul hsize _)))
  · intro page hpage
    refine ⟨⟨segment page size all.items, page, size, all.totalCount⟩, ?_,
      segment_of_pageCount_lt hsize hpage⟩
    rw [paginate_eq_segment (by omega) hsize hcount, hall]
    rfl

/-- The number of items before this page is past the largest signed 64-bit integer by far. -/
theorem paginate_pages_past_int64 :
    (1 : Int) ≤ Numeral.int64Max ∧
      ((samplePredicate.accepted sampleRows).length : Int) ≤ Numeral.int64Max ∧
      paginate sampleRows samplePredicate sampleSchema (some ⟨"group", true⟩)
          ⟨some Numeral.int64Max, some Numeral.int64Max⟩ =
        (paginate sampleRows samplePredicate sampleSchema (some ⟨"group", true⟩) .unpaged).map
          fun all => ⟨segment Numeral.int64Max Numeral.int64Max all.items, Numeral.int64Max,
            Numeral.int64Max, all.totalCount⟩ := by
  have hsize : (1 : Int) ≤ Numeral.int64Max := by decide
  have hcount : ((samplePredicate.accepted sampleRows).length : Int) ≤ Numeral.int64Max := by
    decide +kernel
  exact ⟨hsize, hcount, (paginate_pages hsize hcount _ _).1 _ hsize⟩

end RecordQuery
