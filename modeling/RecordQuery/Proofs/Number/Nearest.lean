import RecordQuery.Proofs.Number.Rounding

/-!
# The nearest float keeps the order

An integer is taken as a float by rounding it to 53 binary digits. Here the same rounding is applied
to every value in units, negative ones included. It keeps the order and leaves every float where it
is, so numbers in their exact order, integers and floats together, have nearest floats in the same
order: an integer may be moved onto a float but never past one.

* `Double.roundUnits_mono`, `Double.roundUnits_units`: the two laws of rounding.
* `Number.place_toDouble`: the nearest float has the rounded place.
* `Number.compareFloats_toDouble_ne_gt`: nearest floats are in the order of the numbers.
-/

namespace RecordQuery

namespace Double

/-- A value in units, rounded to 53 binary digits on either side of zero. -/
def roundUnits (u : Int) : Int :=
  if u < 0 then -(roundDigits u.natAbs : Int) else roundDigits u.natAbs

/-- **Rounding keeps the order** on both sides of zero. -/
theorem roundUnits_mono {u v : Int} (h : u ≤ v) : roundUnits u ≤ roundUnits v := by
  unfold roundUnits
  split_ifs with hu hv
  · have hround := roundDigits_mono (show v.natAbs ≤ u.natAbs by omega)
    omega
  · omega
  · omega
  · have hround := roundDigits_mono (show u.natAbs ≤ v.natAbs by omega)
    omega

/-- The significand of a float has 53 digits, so its magnitude is not rounded. -/
theorem roundDigits_magnitude (e : Fin 2047) (f : Fin fractionCount) :
    roundDigits (magnitude e f) = magnitude e f := by
  rw [magnitude_eq]
  refine roundDigits_of_dvd (k := e.val - 1) (Nat.dvd_mul_left _ _) ?_
  rw [Nat.pow_add]
  exact Nat.mul_lt_mul_of_pos_right (significand_lt e f) (Nat.two_pow_pos _)

/-- **A float is not rounded.** -/
theorem roundUnits_units (x : Double) : roundUnits x.units = x.units := by
  cases x with
  | nan => rfl
  | infinite negative => cases negative <;> rfl
  | finite s e f =>
    have hround := roundDigits_magnitude e f
    rw [units_finite, roundUnits]
    cases s <;> simp only [if_true, Bool.false_eq_true, if_false, Int.natAbs_neg, Int.natAbs_natCast,
      hround] <;> split_ifs <;> omega

theorem units_ofInt_eq_roundUnits {n : Int} (h : FitsWord n) :
    (ofInt n).units = roundUnits (n * unitsPerOne) := by
  have hneg : n * (unitsPerOne : Int) < 0 ↔ n < 0 := by
    rw [← not_le, ← not_le, mul_nonneg_iff_of_pos_right unitsPerOne_pos]
  rw [units_ofInt h, roundUnits, Int.natAbs_mul, Int.natAbs_natCast]
  simp only [hneg]

end Double

namespace Number

/-- **The nearest float has the rounded place.** -/
theorem place_toDouble (n : Number) :
    n.toDouble.place = (n.place.1, Double.roundUnits n.place.2) := by
  cases n with
  | int n hn =>
    obtain ⟨e, f, hfinite, -⟩ := Double.ofInt_eq_finite hn
    have hplace : (Double.ofInt n).place = (1, (Double.ofInt n).units) := by
      rw [hfinite]
      rfl
    rw [toDouble, hplace, Double.units_ofInt_eq_roundUnits hn]
    rfl
  | float x =>
    have hround := Double.roundUnits_units x
    rcases x with _ | (_ | _) | ⟨s, e, f⟩
    · rfl
    · rfl
    · rfl
    · exact congrArg (Prod.mk 1) hround.symm

/-- Rounding keeps the order of places. -/
theorem comparePlace_round_ne_gt {p q : Nat × Int} (h : comparePlace p q ≠ .gt) :
    comparePlace (p.1, Double.roundUnits p.2) (q.1, Double.roundUnits q.2) ≠ .gt := by
  unfold comparePlace at *
  rcases lt_trichotomy p.1 q.1 with hlt | heq | hgt
  · simp [compare_lt_iff_lt.mpr hlt]
  · have hle : p.2 ≤ q.2 := by
      simpa [heq, compare_gt_iff_gt] using h
    simpa [heq, compare_gt_iff_gt] using Double.roundUnits_mono hle
  · simp [compare_gt_iff_gt.mpr hgt] at h

/-- **Nearest floats are in the order of the numbers**, integers and floats together. -/
theorem compareFloats_toDouble_ne_gt {m n : Number} (h : m.compareNumeric n ≠ .gt) :
    compareFloats m.toDouble n.toDouble ≠ .gt := by
  rw [compareNumeric_eq_place] at h
  rw [compareFloats_eq_place, place_toDouble, place_toDouble]
  exact comparePlace_round_ne_gt h

end Number

end RecordQuery
