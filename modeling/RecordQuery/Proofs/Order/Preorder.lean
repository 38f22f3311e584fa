import Mathlib.Order.Basic

/-!
# Total preorders given by comparisons

Sorting is by functions into `Ordering`, and `Std.TransCmp` says that such a function is a total
preorder. The two ways in which the library makes one from another keep this: comparing things by
something they have, and turning the direction around. The Boolean `cmp a b != .gt` is the `≤` that
sorting uses.

* `transCmp_comap`, `transCmp_directed`: the derived comparisons are total preorders.
* `ne_gt_trans`, `ne_gt_total`: so is the Boolean `≤`.
-/

namespace RecordQuery

variable {α β : Type} {cmp : α → α → Ordering}

/-- Things compared by what they are mapped to. -/
theorem transCmp_comap (cmp : α → α → Ordering) [h : Std.TransCmp cmp] (f : β → α) :
    Std.TransCmp fun a b => cmp (f a) (f b) where
  eq_swap := h.eq_swap
  isLE_trans := h.isLE_trans

/-- The comparison, turned around if `descending`. -/
theorem transCmp_directed (cmp : α → α → Ordering) [h : Std.TransCmp cmp] (descending : Bool) :
    Std.TransCmp fun a b => if descending then (cmp a b).swap else cmp a b := by
  cases descending with
  | false => exact h
  | true =>
    have hswap : (fun a b => if true then (cmp a b).swap else cmp a b) = fun a b => cmp b a := by
      funext a b
      exact h.eq_swap.symm
    rw [hswap]
    exact Std.TransCmp.opposite

theorem ne_gt_eq_isLE (o : Ordering) : (o != .gt) = o.isLE := by cases o <;> rfl

theorem ne_gt_trans [Std.TransCmp cmp] (a b c : α) (hab : (cmp a b != .gt) = true)
    (hbc : (cmp b c != .gt) = true) : (cmp a c != .gt) = true := by
  rw [ne_gt_eq_isLE] at *
  exact Std.TransCmp.isLE_trans hab hbc

theorem ne_gt_total [h : Std.OrientedCmp cmp] (a b : α) :
    ((cmp a b != .gt) || (cmp b a != .gt)) = true := by
  have hswap : cmp b a = (cmp a b).swap := h.eq_swap
  rw [hswap]
  cases cmp a b <;> rfl

end RecordQuery
