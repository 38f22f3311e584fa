import Mathlib.Algebra.Order.Ring.Int
import RecordQuery.Value.Number

/-!
# The whole part of a number

A finite number is a significand times a power of two, so the digits of its significand after the
point are known from its exponent, and without them the number is whole. An integer of 128 bits is
compared with the whole part first, and only if the two are equal with what is left of the fraction.
That gives the order of the exact values: the whole part lies less than one from the number, so an
integer on either side of it lies on that side of the number as well.

* `units_trunc`: without its fraction a number is the integer next to it towards zero.
* `compareInt_of_isFinite`: an integer of a document and a finite number compare as their values in
  units do, also past the bounds of the integers of 128 bits.
-/

namespace RecordQuery.Double

/-! ## Units -/

theorem unitsPerOne_pos : (0 : Int) < unitsPerOne := by
  have h : 0 < unitsPerOne := by
    rw [unitsPerOne, Nat.one_shiftLeft]
    exact Nat.two_pow_pos 1074
  exact Int.natCast_pos.mpr h

/-- The binary digits of a float after the point. -/
def unitDigits : Nat := 1074

theorem unitsPerOne_eq : unitsPerOne = 2 ^ unitDigits := Nat.one_shiftLeft unitDigits

/-- Integers in units are in the order of the integers. -/
theorem compare_units (a b : Int) :
    compare (a * (unitsPerOne : Int)) (b * unitsPerOne) = compare a b := by
  rw [← cmp_eq_compare, cmp_mul_pos_right unitsPerOne_pos, cmp_eq_compare]

theorem units_finite (s : Bool) (e : Fin 2047) (f : Fin fractionCount) :
    (Double.finite s e f).units = if s then -(magnitude e f : Int) else magnitude e f := by
  cases s <;> rfl

theorem compare?_of_isFinite {x y : Double} (hx : x.isFinite = true) (hy : y.isFinite = true) :
    x.compare? y = some (compare x.units y.units) := by
  cases x with
  | nan => cases hx
  | infinite negative => cases hx
  | finite s e f =>
    cases y with
    | nan => cases hy
    | infinite negative => cases hy
    | finite t g h => rfl

/-! ## The number without its fraction -/

theorem magnitude_eq (e : Fin 2047) (f : Fin fractionCount) :
    magnitude e f = significand e f * 2 ^ (e.val - 1) := Nat.shiftLeft_eq _ _

theorem significand_lt (e : Fin 2047) (f : Fin fractionCount) : significand e f < 2 ^ 53 := by
  have hf := f.isLt
  unfold significand fractionCount at *
  split_ifs <;> omega

/-- A number with an exponent below that of one is less than one. -/
theorem magnitude_lt_unitsPerOne {e : Fin 2047} (he : e.val < 1023) (f : Fin fractionCount) :
    magnitude e f < unitsPerOne := by
  have hexp : 53 + (e.val - 1) ≤ unitDigits := by
    unfold unitDigits
    omega
  rw [magnitude_eq, unitsPerOne_eq]
  calc significand e f * 2 ^ (e.val - 1) < 2 ^ 53 * 2 ^ (e.val - 1) :=
        Nat.mul_lt_mul_of_pos_right (significand_lt e f) (Nat.two_pow_pos _)
    _ = 2 ^ (53 + (e.val - 1)) := (Nat.pow_add ..).symm
    _ ≤ 2 ^ unitDigits := Nat.pow_le_pow_right (by decide) hexp

/-- Clearing the last binary digits of the fraction clears them in the significand. -/
theorem significand_clear {e : Fin 2047} (he : e.val ≠ 0) (f : Fin fractionCount) {k : Nat}
    (hk : k ≤ 52) (h : f.val - f.val % 2 ^ k < fractionCount) :
    significand e ⟨f.val - f.val % 2 ^ k, h⟩ = significand e f / 2 ^ k * 2 ^ k := by
  have hdvd : 2 ^ k ∣ fractionCount := Nat.pow_dvd_pow 2 hk
  rw [significand, significand, if_neg he, if_neg he, Nat.div_mul_self_eq_mod_sub_self]
  rw [Nat.add_mod, Nat.mod_eq_zero_of_dvd hdvd, Nat.zero_add, Nat.mod_mod,
    Nat.add_sub_assoc (Nat.mod_le _ _)]

/-- What is left is the greatest multiple of one up to the magnitude. -/
theorem magnitude_trunc (s : Bool) (e : Fin 2047) (f : Fin fractionCount) :
    ∃ e' f', trunc (.finite s e f) = .finite s e' f' ∧
      magnitude e' f' = magnitude e f / unitsPerOne * unitsPerOne := by
  by_cases hsmall : e.val < 1023
  · refine ⟨0, 0, if_pos hsmall, ?_⟩
    rw [Nat.div_eq_of_lt (magnitude_lt_unitsPerOne hsmall f), Nat.zero_mul]
    rfl
  · refine ⟨e, ⟨_, Nat.lt_of_le_of_lt (Nat.sub_le ..) f.isLt⟩, if_neg hsmall, ?_⟩
    have hclear : significand e ⟨f.val - f.val % Nat.pow 2 (1075 - e.val), _⟩ = _ :=
      significand_clear (by omega) f (by omega) (Nat.lt_of_le_of_lt (Nat.sub_le ..) f.isLt)
    rw [magnitude_eq, magnitude_eq, hclear, unitsPerOne_eq]
    rcases Nat.le_total e.val 1075 with hle | hge
    · -- the digits after the point and the exponent make up the units of one
      have hunits : 2 ^ unitDigits = 2 ^ (1075 - e.val) * 2 ^ (e.val - 1) := by
        rw [← Nat.pow_add]
        congr 1
        unfold unitDigits
        omega
      rw [hunits, Nat.mul_div_mul_right _ _ (Nat.two_pow_pos _), Nat.mul_assoc]
    · -- there is no digit after the point
      have hexp : 2 ^ (e.val - 1) = 2 ^ (e.val - 1075) * 2 ^ unitDigits := by
        rw [← Nat.pow_add]
        congr 1
        unfold unitDigits
        omega
      rw [Nat.sub_eq_zero_of_le hge, Nat.pow_zero, Nat.div_one, Nat.mul_one, hexp, ← Nat.mul_assoc,
        Nat.mul_div_cancel _ (Nat.two_pow_pos _)]

theorem isFinite_trunc (x : Double) : x.trunc.isFinite = x.isFinite := by
  cases x with
  | nan => rfl
  | infinite negative => rfl
  | finite s e f =>
    obtain ⟨e', f', htrunc, -⟩ := magnitude_trunc s e f
    rw [htrunc]
    rfl

/-- **Without its fraction a number is the integer next to it towards zero.** -/
theorem units_trunc (x : Double) :
    x.trunc.units = x.units.tdiv unitsPerOne * unitsPerOne := by
  cases x with
  | nan => rfl
  | infinite negative => rfl
  | finite s e f =>
    obtain ⟨e', f', htrunc, hvalue⟩ := magnitude_trunc s e f
    rw [htrunc, units_finite, units_finite, hvalue]
    cases s with
    | false => rfl
    | true =>
      simp only [if_true, Int.neg_tdiv, Int.neg_mul]
      rfl

/-! ## Comparing by the whole part -/

/-- An integer next to `u`, or `u` itself, decides a comparison up to what lies between them. -/
theorem compare_then_of_whole {n w u d : Int} (hlow : (w - 1) * d < u) (hhigh : u < (w + 1) * d) :
    (compare n w).then (compare (w * d) u) = compare (n * d) u := by
  have hd : 0 < d := by
    rw [Int.sub_mul, Int.add_mul] at *
    omega
  rcases lt_trichotomy n w with hlt | rfl | hgt
  · have hle : n * d ≤ (w - 1) * d := Int.mul_le_mul_of_nonneg_right (by omega) hd.le
    rw [compare_lt_iff_lt.mpr hlt, compare_lt_iff_lt.mpr (hle.trans_lt hlow)]
    rfl
  · rw [compare_eq_iff_eq.mpr rfl]
    rfl
  · have hle : (w + 1) * d ≤ n * d := Int.mul_le_mul_of_nonneg_right (by omega) hd.le
    rw [compare_gt_iff_gt.mpr hgt, compare_gt_iff_gt.mpr (hhigh.trans_le hle)]
    rfl

theorem units_int128Bound (negative : Bool) : (int128Bound negative).units =
    (if negative then int128Min else int128Max + 1) * unitsPerOne := by
  cases negative <;> decide +kernel

/-- In range the integer part is what the number is without its fraction. -/
theorem toIntWithin_of_units {x : Double} (hx : x.isFinite = true) {n low high : Int}
    (hunits : x.units = n * unitsPerOne) (hn : low ≤ n ∧ n ≤ high) :
    x.toIntWithin low high = n := by
  have hquot : x.units.tdiv unitsPerOne = n := by
    rw [hunits, Int.mul_tdiv_cancel _ unitsPerOne_pos.ne']
  cases x with
  | nan => cases hx
  | infinite negative => cases hx
  | finite s e f =>
    show max low (min high ((Double.finite s e f).units.tdiv unitsPerOne)) = n
    rw [hquot]
    omega

/-- A quotient lies less than one from the exact one. -/
theorem tdiv_bounds (u : Int) {d : Int} (hd : 0 < d) :
    (u.tdiv d - 1) * d < u ∧ u < (u.tdiv d + 1) * d := by
  have hsplit := Int.tmod_add_tdiv_mul u d
  have habs := Int.natAbs_tmod u d
  have hlt := Nat.mod_lt u.natAbs (Int.natAbs_pos.mpr hd.ne')
  rw [Int.sub_mul, Int.add_mul]
  omega

/-- The quotient of what lies between two multiples lies between their factors. -/
theorem tdiv_le_of_lt {u d low high : Int} (hd : 0 < d) (hhigh0 : 0 ≤ high) (hlow : low * d ≤ u)
    (hhigh : u < (high + 1) * d) : low ≤ u.tdiv d ∧ u.tdiv d ≤ high := by
  constructor
  · calc low = (low * d).tdiv d := (Int.mul_tdiv_cancel low hd.ne').symm
      _ ≤ u.tdiv d := Int.tdiv_le_tdiv hd hlow
  · rcases Int.le_total 0 u with hu | hu
    · rw [Int.tdiv_eq_ediv_of_nonneg hu]
      exact Int.lt_add_one_iff.mp (Int.ediv_lt_of_lt_mul hd hhigh)
    · calc u.tdiv d ≤ (0 : Int).tdiv d := Int.tdiv_le_tdiv hd hu
        _ = 0 := Int.zero_tdiv d
        _ ≤ high := hhigh0

theorem compareInt_nan (n : Int) : compareInt n .nan = .lt := rfl

/-- The comparison between and past the bounds, on the values in units. -/
theorem compareInt_eq_ite (n : Int) {x : Double} (hx : x.isFinite = true) :
    x.compareInt n =
      if (int128Max + 1) * unitsPerOne ≤ x.units then .lt
      else if x.units < int128Min * unitsPerOne then .gt
      else (compare n (x.trunc.toIntWithin int128Min int128Max)).then
        (compare x.trunc.units x.units) := by
  have hnan : x.isNaN = false := by
    cases x with
    | nan => cases hx
    | infinite negative => rfl
    | finite s e f => rfl
  have htrunc : x.trunc.isFinite = true := (isFinite_trunc x).trans hx
  have hpos : (int128Bound false).units = (int128Max + 1) * unitsPerOne := units_int128Bound false
  have hneg : (int128Bound true).units = int128Min * unitsPerOne := units_int128Bound true
  simp only [compareInt, hnan, compare?_of_isFinite hx (rfl : (int128Bound _).isFinite = true),
    compare?_of_isFinite htrunc hx, hpos, hneg, Bool.false_or, Option.any_some, bne_iff_ne,
    beq_iff_eq, Option.some.injEq, Option.getD_some, compare_lt_iff_lt, ne_eq, not_lt]

/-- **An integer against a finite number** compares as both do in units. -/
theorem compareInt_of_isFinite {n : Int} (h : FitsWord n) {x : Double} (hx : x.isFinite = true) :
    x.compareInt n = compare (n * unitsPerOne) x.units := by
  obtain ⟨hnlow, hnhigh⟩ := h
  have hd := unitsPerOne_pos
  have hscale : ∀ {a b : Int}, a ≤ b → a * (unitsPerOne : Int) ≤ b * unitsPerOne :=
    fun hab => Int.mul_le_mul_of_nonneg_right hab hd.le
  rw [compareInt_eq_ite n hx]
  split_ifs with hpast hunder
  · have hint : (n + 1) * (unitsPerOne : Int) ≤ (int128Max + 1) * unitsPerOne :=
      hscale (by unfold int128Max; omega)
    have hlt : n * (unitsPerOne : Int) < (n + 1) * unitsPerOne := by
      rw [Int.add_mul]
      omega
    exact (compare_lt_iff_lt.mpr (hlt.trans_le (hint.trans hpast))).symm
  · have hint : int128Min * (unitsPerOne : Int) ≤ n * unitsPerOne :=
      hscale (by unfold int128Min; omega)
    exact (compare_gt_iff_gt.mpr (hunder.trans_le hint)).symm
  · have hrange := tdiv_le_of_lt hd (by decide) (not_lt.mp hunder) (not_le.mp hpast)
    have htrunc : x.trunc.isFinite = true := (isFinite_trunc x).trans hx
    obtain ⟨hlow, hhigh⟩ := tdiv_bounds x.units hd
    rw [toIntWithin_of_units htrunc (units_trunc x) hrange, units_trunc]
    exact compare_then_of_whole hlow hhigh

end RecordQuery.Double
