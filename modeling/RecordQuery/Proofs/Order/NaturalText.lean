import Mathlib.Data.Char
import RecordQuery.Proofs.Order.Preorder
import RecordQuery.Text.Natural

/-!
# Natural order is a total preorder

Two digit runs compare by value and any other two runs by code points, so it is not evident that
the two rules fit together. They do because the digits are consecutive code points: a run that does
not start with a digit lies below all digit runs or above all of them. `runPlace` says where, and
runs are in the order of their places.

* `compareRun_eq_place`: the order of runs is the order of their places.
* `Std.TransCmp naturalCompare`: the natural order of texts is a total preorder, as the order of
  their runs is one, item by item, and the order of code points decides the rest.
* `naturalCompare_eq_iff`: and it tells any two texts apart.
-/

namespace RecordQuery.Text

/-! ## Sides -/

/-- The side of the digits that a character is on: below them, one of them, or above them. -/
def side (c : Char) : Nat := if c < '0' then 0 else if c ≤ '9' then 1 else 2

theorem side_eq_one_iff (c : Char) : side c = 1 ↔ c.isDigit = true := by
  have hd : c.isDigit = true ↔ ¬ c < '0' ∧ c ≤ '9' := by
    simp [Char.isDigit, Char.le_def, not_lt]
  rw [hd]
  unfold side
  split_ifs with h0 h9 <;> simp_all

theorem side_mono {c d : Char} (h : c ≤ d) : side c ≤ side d := by
  unfold side
  simp only [Char.lt_def, Char.le_def, UInt32.lt_iff_toNat_lt, UInt32.le_iff_toNat_le] at h ⊢
  split_ifs <;> omega

/-- Characters on different sides of the digits are in the order of the sides. -/
theorem compare_of_side_ne {c d : Char} (h : side c ≠ side d) :
    compare c d = compare (side c) (side d) := by
  rcases lt_trichotomy c d with hlt | rfl | hgt
  · rw [compare_lt_iff_lt.mpr hlt, compare_lt_iff_lt.mpr]
    exact lt_of_le_of_ne (side_mono (le_of_lt hlt)) h
  · exact absurd rfl h
  · rw [compare_gt_iff_gt.mpr hgt, compare_gt_iff_gt.mpr]
    exact lt_of_le_of_ne (side_mono (le_of_lt hgt)) (Ne.symm h)

/-! ## Runs -/

/-- Where a run lies: its side of the digits; among the digit runs the length of the significant
digits and then these; elsewhere the code points alone. The empty run comes first. -/
def runPlace : List Char → Nat × Nat × List Char
  | [] => (0, 0, [])
  | c :: cs =>
    if c.isDigit then (1, (significant (c :: cs)).length, significant (c :: cs))
    else (side c, 0, c :: cs)

/-- The order of places: by side, then by length, then by code points. -/
def comparePlaces (p q : Nat × Nat × List Char) : Ordering :=
  (compare p.1 q.1).then ((compare p.2.1 q.2.1).then (compare p.2.2 q.2.2))

theorem runPlace_fst_cons (c : Char) (cs : List Char) : (runPlace (c :: cs)).1 = side c := by
  rw [runPlace]
  split_ifs with h
  · exact ((side_eq_one_iff c).mpr h).symm
  · rfl

/-- Runs that start on different sides of the digits compare by code points, and so by side. -/
theorem compareRun_of_side_ne {c d : Char} (h : side c ≠ side d) (cs ds : List Char) :
    compareRun (c :: cs) (d :: ds) = compare (side c) (side d) := by
  have hn : (c.isDigit && d.isDigit) = false := by
    rw [Bool.and_eq_false_iff]
    by_contra hcon
    simp only [not_or, Bool.not_eq_false, ← side_eq_one_iff] at hcon
    exact h (hcon.1.trans hcon.2.symm)
  have hne : compare (side c) (side d) ≠ .eq := fun he => h (compare_eq_iff_eq.mp he)
  simp only [compareRun, isNumeral, hn, List.compare_cons_cons, compare_of_side_ne h]
  cases hs : compare (side c) (side d)
  · rfl
  · exact absurd hs hne
  · rfl

/-- Runs that start on one side of the digits compare as on that side. -/
theorem compareRun_of_side_eq {c d : Char} (h : side c = side d) (cs ds : List Char) :
    compareRun (c :: cs) (d :: ds) =
      (compare (runPlace (c :: cs)).2.1 (runPlace (d :: ds)).2.1).then
        (compare (runPlace (c :: cs)).2.2 (runPlace (d :: ds)).2.2) := by
  have hdigit : c.isDigit = d.isDigit := by
    rw [Bool.eq_iff_iff, ← side_eq_one_iff, ← side_eq_one_iff, h]
  cases hc : c.isDigit with
  | true => simp [compareRun, isNumeral, runPlace, compareNumerals, ← hdigit, hc]
  | false => simp [compareRun, isNumeral, runPlace, ← hdigit, hc]

/-- The place of the empty run comes before all others. -/
theorem comparePlaces_nil_cons (d : Char) (ds : List Char) :
    comparePlaces (runPlace []) (runPlace (d :: ds)) = .lt := by
  rw [runPlace, runPlace]
  split_ifs with h
  · rfl
  · unfold side
    split_ifs <;> rfl

theorem comparePlaces_swap (p q : Nat × Nat × List Char) :
    (comparePlaces p q).swap = comparePlaces q p := by
  simp only [comparePlaces, Ordering.swap_then, ← Std.OrientedOrd.eq_swap]

/-- **The order of runs is the order of their places.** -/
theorem compareRun_eq_place (x y : List Char) :
    compareRun x y = comparePlaces (runPlace x) (runPlace y) := by
  rcases x with _ | ⟨c, cs⟩ <;> rcases y with _ | ⟨d, ds⟩
  · rfl
  · rw [comparePlaces_nil_cons]
    rfl
  · rw [← comparePlaces_swap, comparePlaces_nil_cons]
    simp only [compareRun, isNumeral, Bool.and_false]
    rfl
  · rw [comparePlaces, runPlace_fst_cons, runPlace_fst_cons]
    by_cases h : side c = side d
    · rw [compareRun_of_side_eq h, compare_eq_iff_eq.mpr h]
      rfl
    · rw [compareRun_of_side_ne h]
      cases hs : compare (side c) (side d)
      · rfl
      · exact absurd (compare_eq_iff_eq.mp hs) h
      · rfl

/-- The order of runs is a total preorder. -/
instance : Std.TransCmp compareRun := by
  have h : compareRun = compareLex (compareOn fun r => (runPlace r).1)
      (compareLex (compareOn fun r => (runPlace r).2.1) (compareOn fun r => (runPlace r).2.2)) := by
    funext x y
    exact compareRun_eq_place x y
  rw [h]
  infer_instance

/-! ## Texts -/

theorem compareRuns_eq_compareLex (xs ys : List (List Char)) :
    compareRuns xs ys = List.compareLex compareRun xs ys := by
  induction xs generalizing ys with
  | nil => cases ys <;> rfl
  | cons x xs ih =>
    cases ys with
    | nil => rfl
    | cons y ys => rw [compareRuns, List.compareLex_cons_cons, ih]

/-- The natural order is a total preorder. -/
instance : Std.TransCmp naturalCompare := by
  have hruns : Std.TransCmp fun a b : String =>
      List.compareLex compareRun (runs a.toList) (runs b.toList) :=
    transCmp_comap (List.compareLex compareRun) fun s : String => runs s.toList
  have h : naturalCompare = compareLex
      (fun a b : String => List.compareLex compareRun (runs a.toList) (runs b.toList))
      (compareOn String.toList) := by
    funext a b
    simp only [naturalCompare, compareRuns_eq_compareLex, compareLex, compareOn]
  rw [h]
  infer_instance

/-- Only identical texts are equal: what their runs leave open the code points decide. -/
theorem naturalCompare_eq_iff {a b : String} : naturalCompare a b = .eq ↔ a = b := by
  constructor
  · intro h
    have hlists : compare a.toList b.toList = .eq := (Ordering.then_eq_eq.mp h).2
    exact String.toList_inj.mp (Std.LawfulEqCmp.compare_eq_iff_eq.mp hlists)
  · rintro rfl
    exact Std.ReflCmp.compare_self

end RecordQuery.Text
