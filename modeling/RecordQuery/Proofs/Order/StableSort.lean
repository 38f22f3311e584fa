import Mathlib.Data.List.Basic
import RecordQuery.Proofs.Order.Preorder

/-!
# Stable sorting

A stable sort of a list is a rearrangement that is in order and leaves the items that compare equal
in the order they had. For a total preorder there is exactly one, so it is a matter of the order
alone, not of the algorithm; and sorting commutes with leaving items out.

* `isStableSort_mergeSort`: merging sorts stably.
* `IsStableSort.unique`: two stable sorts of one list are equal.
* `IsStableSort.filter`, `mergeSort_filter`: the stable sort of what is kept is what is kept of the
  stable sort.
-/

namespace RecordQuery

open scoped List

variable {α : Type} {cmp : α → α → Ordering} {xs ys zs : List α}

/-- The items of a list that compare equal to `z`, in order. -/
def ties (cmp : α → α → Ordering) (z : α) (xs : List α) : List α :=
  xs.filter fun a => cmp z a == .eq

/-- `ys` is the stable sort of `xs`. -/
structure IsStableSort (cmp : α → α → Ordering) (xs ys : List α) : Prop where
  /-- Nothing is lost and nothing is added. -/
  perm : ys.Perm xs
  /-- No item stands before a lesser one. -/
  ordered : ys.Pairwise fun a b => cmp a b ≠ .gt
  /-- Items that compare equal stand as they stood. -/
  stable : ∀ z, ties cmp z ys = ties cmp z xs

theorem mem_ties {z a : α} : a ∈ ties cmp z xs ↔ a ∈ xs ∧ cmp z a = .eq := by
  simp [ties]

theorem ties_cons_of_eq {z a : α} (h : cmp z a = .eq) (xs : List α) :
    ties cmp z (a :: xs) = a :: ties cmp z xs := List.filter_cons_of_pos (by simp [h])

theorem self_mem_ties [h : Std.ReflCmp cmp] (a : α) (xs : List α) : a ∈ ties cmp a (a :: xs) :=
  mem_ties.mpr ⟨List.mem_cons_self, h.compare_self⟩

/-- What is left of equal ties once the same item is taken from both lists is equal. -/
theorem ties_tail_eq {z a : α} (h : ties cmp z (a :: xs) = ties cmp z (a :: ys)) :
    ties cmp z xs = ties cmp z ys := by
  simp only [ties, List.filter_cons] at h
  split at h
  · exact (List.cons.inj h).2
  · exact h

/-! ## Merging sorts stably -/

/-- Items that compare equal to one thing are in order, whatever their order is. -/
theorem ties_ordered [h : Std.TransCmp cmp] (z : α) (xs : List α) :
    (ties cmp z xs).Pairwise fun a b => (cmp a b != .gt) = true := by
  refine List.pairwise_of_forall_mem_list fun a ha b hb => ?_
  rw [ne_gt_eq_isLE]
  have hza : (cmp a z).isLE = true :=
    Ordering.isLE_of_eq_eq (h.eq_symm (mem_ties.mp ha).2)
  have hzb : (cmp z b).isLE = true := Ordering.isLE_of_eq_eq (mem_ties.mp hb).2
  exact h.isLE_trans hza hzb

/-- **Merging sorts stably.** -/
theorem isStableSort_mergeSort [Std.TransCmp cmp] (xs : List α) :
    IsStableSort cmp xs (xs.mergeSort fun a b => cmp a b != .gt) where
  perm := List.mergeSort_perm xs _
  ordered := by
    refine (List.pairwise_mergeSort ne_gt_trans ne_gt_total xs).imp ?_
    intro a b hab
    exact bne_iff_ne.mp hab
  stable z := by
    -- The ties of the input are in order, so they are a subsequence of the output, and of the
    -- ties of the output. Both have the same number of items.
    have hsub : ties cmp z xs <+ xs.mergeSort fun a b => cmp a b != .gt :=
      List.sublist_mergeSort ne_gt_trans ne_gt_total (ties_ordered z xs) List.filter_sublist
    have hties : ties cmp z xs <+ ties cmp z (xs.mergeSort fun a b => cmp a b != .gt) := by
      have hf := hsub.filter fun a => cmp z a == .eq
      rwa [ties, List.filter_filter, funext fun a => Bool.and_self (cmp z a == .eq)] at hf
    have hlen := ((List.mergeSort_perm xs fun a b => cmp a b != .gt).filter
      fun a => cmp z a == .eq).length_eq
    exact (hties.eq_of_length hlen.symm).symm

/-! ## There is one stable sort -/

namespace IsStableSort

theorem mem_iff (h : IsStableSort cmp xs ys) {a : α} : a ∈ ys ↔ a ∈ xs := h.perm.mem_iff

/-- The head of a list in order precedes all items. -/
theorem head_isLE [h : Std.ReflCmp cmp] {a b : α}
    (hl : (a :: xs).Pairwise fun a b => cmp a b ≠ .gt) (hb : b ∈ a :: xs) :
    (cmp a b).isLE = true := by
  rcases List.mem_cons.mp hb with rfl | hb
  · exact Ordering.isLE_of_eq_eq h.compare_self
  · exact Ordering.isLE_iff_ne_gt.mpr (List.rel_of_pairwise_cons hl hb)

/-- Lists in order that have the same ties are equal: their heads precede each other, so the heads
are ties, and each is the first of them. -/
theorem eq_of_ties [h : Std.TransCmp cmp] : ∀ {ys zs : List α},
    (ys.Pairwise fun a b => cmp a b ≠ .gt) → (zs.Pairwise fun a b => cmp a b ≠ .gt) →
    (∀ c, ties cmp c ys = ties cmp c zs) → ys = zs
  | [], [], _, _, _ => rfl
  | [], z :: zs, _, _, ht => absurd (ht z ▸ self_mem_ties z zs) List.not_mem_nil
  | y :: ys, [], _, _, ht => absurd ((ht y).symm ▸ self_mem_ties y ys) List.not_mem_nil
  | y :: ys, z :: zs, hys, hzs, ht => by
    have hz : z ∈ y :: ys := (mem_ties.mp (ht z ▸ self_mem_ties z zs)).1
    have hy : y ∈ z :: zs := (mem_ties.mp (ht y ▸ self_mem_ties y ys)).1
    have hyz : cmp y z = .eq := h.isLE_antisymm (head_isLE hys hz) (head_isLE hzs hy)
    have hheads := ht y
    rw [ties_cons_of_eq Std.ReflCmp.compare_self, ties_cons_of_eq hyz] at hheads
    obtain ⟨rfl, -⟩ := List.cons.inj hheads
    have htails : ys = zs := eq_of_ties hys.tail hzs.tail fun c => ties_tail_eq (ht c)
    rw [htails]

/-- **There is one stable sort** of a list. -/
theorem unique [Std.TransCmp cmp] (hy : IsStableSort cmp xs ys) (hz : IsStableSort cmp xs zs) :
    ys = zs :=
  eq_of_ties hy.ordered hz.ordered fun c => (hy.stable c).trans (hz.stable c).symm

/-- **Sorting commutes with leaving items out.** -/
theorem filter (h : IsStableSort cmp xs ys) (q : α → Bool) :
    IsStableSort cmp (xs.filter q) (ys.filter q) where
  perm := h.perm.filter q
  ordered := h.ordered.filter q
  stable z := by
    have hswap : ∀ l : List α, ties cmp z (l.filter q) = (ties cmp z l).filter q := by
      intro l
      simp only [ties, List.filter_filter, Bool.and_comm]
    rw [hswap, hswap, h.stable z]

end IsStableSort

theorem mergeSort_filter [Std.TransCmp cmp] (xs : List α) (q : α → Bool) :
    (xs.filter q).mergeSort (fun a b => cmp a b != .gt) =
      (xs.mergeSort fun a b => cmp a b != .gt).filter q :=
  (isStableSort_mergeSort (xs.filter q)).unique ((isStableSort_mergeSort xs).filter q)

end RecordQuery
