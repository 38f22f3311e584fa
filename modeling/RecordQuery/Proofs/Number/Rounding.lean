import RecordQuery.Proofs.Order.Numeric

/-!
# Integers as floats

A float is made of an integer by rounding its absolute value, in units, to 53 binary digits. Rounding
keeps the order of integers without keeping them apart, and leaves an integer that has 53 digits at
most as it is. The two facts together say how far an integer can move: it does not get past an
integer that is a float itself.

* `roundDigits_mono`, `roundDigits_of_dvd`: rounding to 53 digits.
* `units_ofInt`: the float of an integer is finite and has the rounded value.
* `units_ofInt_mono`, `units_ofInt_of_dvd`: floats of integers are in the order of the integers, and
  those of 53 digits are exact.
* `eq_of_compare?_ofInt`: so an integer below `2 ^ 53` is kept apart from every other integer.
-/

namespace RecordQuery.Double

/-! ## Nearest quotients -/

theorem roundQuotient_eq (n d : Nat) :
    roundQuotient n d =
      if 2 * (n % d) < d then n / d
      else if d < 2 * (n % d) then n / d + 1 else n / d + n / d % 2 := by
  unfold roundQuotient
  dsimp only
  rw [Nat.compare_eq_ite_lt]
  split_ifs <;> rfl

theorem div_le_roundQuotient (n d : Nat) : n / d ≤ roundQuotient n d := by
  rw [roundQuotient_eq]
  split_ifs <;> omega

theorem roundQuotient_le (n d : Nat) : roundQuotient n d ≤ n / d + 1 := by
  rw [roundQuotient_eq]
  split_ifs <;> omega

/-- A multiple of the divisor is not rounded. -/
theorem roundQuotient_mul_right (n : Nat) {d : Nat} (hd : 0 < d) : roundQuotient (n * d) d = n := by
  rw [roundQuotient_eq, Nat.mul_mod_left, Nat.mul_zero, if_pos hd, Nat.mul_div_cancel n hd]

/-- Nearest quotients by one divisor are in the order of the dividends. -/
theorem roundQuotient_mono {m n : Nat} (d : Nat) (h : m ≤ n) :
    roundQuotient m d ≤ roundQuotient n d := by
  rcases (Nat.div_le_div_right h : m / d ≤ n / d).lt_or_eq with hlt | heq
  · calc roundQuotient m d ≤ m / d + 1 := roundQuotient_le m d
      _ ≤ n / d := hlt
      _ ≤ roundQuotient n d := div_le_roundQuotient n d
  · -- of two dividends with one quotient the greater has the greater remainder
    have hm := Nat.div_add_mod m d
    have hn := Nat.div_add_mod n d
    rw [heq] at hm
    have hmod : m % d ≤ n % d := by omega
    rw [roundQuotient_eq, roundQuotient_eq, heq]
    split_ifs <;> omega

/-! ## 53 binary digits -/

/-- The binary digits of a natural past the first 53. -/
def extraDigits (n : Nat) : Nat := n.log2 - 52

/-- A natural rounded to 53 binary digits. -/
def roundDigits (n : Nat) : Nat := roundQuotient n (2 ^ extraDigits n) * 2 ^ extraDigits n

theorem div_lt_of_extraDigits (n : Nat) : n / 2 ^ extraDigits n < 2 ^ 53 := by
  rw [Nat.div_lt_iff_lt_mul (Nat.two_pow_pos _), ← Nat.pow_add]
  refine Nat.lt_of_lt_of_le Nat.lt_log2_self (Nat.pow_le_pow_right (by decide) ?_)
  unfold extraDigits
  omega

theorem le_div_of_extraDigits {n : Nat} (h : extraDigits n ≠ 0) :
    2 ^ 52 ≤ n / 2 ^ extraDigits n := by
  have hn : n ≠ 0 := by
    rintro rfl
    exact h rfl
  rw [Nat.le_div_iff_mul_le (Nat.two_pow_pos _), ← Nat.pow_add]
  have hlog : 52 + extraDigits n = n.log2 := by
    unfold extraDigits at h ⊢
    omega
  rw [hlog]
  exact Nat.log2_self_le hn

/-- The first 53 digits, rounded, may be one more than 53 digits can say, and no less than 53
digits unless there are no others. -/
theorem roundQuotient_bounds (n : Nat) :
    roundQuotient n (2 ^ extraDigits n) ≤ 2 ^ 53 ∧
      (2 ^ 52 ≤ roundQuotient n (2 ^ extraDigits n) ∨ extraDigits n = 0) := by
  have hlow := div_le_roundQuotient n (2 ^ extraDigits n)
  refine ⟨(roundQuotient_le _ _).trans (div_lt_of_extraDigits n), ?_⟩
  by_cases h : extraDigits n = 0
  · exact .inr h
  · exact .inl ((le_div_of_extraDigits h).trans hlow)

theorem extraDigits_mono {m n : Nat} (h : m ≤ n) : extraDigits m ≤ extraDigits n := by
  by_cases hm : m = 0
  · rw [hm]
    exact Nat.zero_le _
  · have hlog : m.log2 ≤ n.log2 :=
      (Nat.le_log2 (by omega)).mpr ((Nat.log2_self_le hm).trans h)
    exact Nat.sub_le_sub_right hlog 52

theorem extraDigits_two_pow (k : Nat) : extraDigits (2 ^ k) = k - 52 := by
  rw [extraDigits, Nat.log2_two_pow]

/-- **Rounding keeps the order.** -/
theorem roundDigits_mono {m n : Nat} (h : m ≤ n) : roundDigits m ≤ roundDigits n := by
  rcases (extraDigits_mono h).lt_or_eq with hlt | heq
  · have hlow : 2 ^ 52 ≤ roundQuotient n (2 ^ extraDigits n) :=
      (roundQuotient_bounds n).2.resolve_right (by omega)
    calc roundDigits m ≤ 2 ^ 53 * 2 ^ extraDigits m :=
          Nat.mul_le_mul_right _ (roundQuotient_bounds m).1
      _ = 2 ^ 52 * 2 ^ (extraDigits m + 1) := by rw [← Nat.pow_add, ← Nat.pow_add]; congr 1; omega
      _ ≤ 2 ^ 52 * 2 ^ extraDigits n :=
          Nat.mul_le_mul_left _ (Nat.pow_le_pow_right (by decide) hlt)
      _ ≤ roundDigits n := Nat.mul_le_mul_right _ hlow
  · unfold roundDigits
    rw [heq]
    exact Nat.mul_le_mul_right _ (roundQuotient_mono _ h)

/-- **A natural whose digits past the first 53 are zeros is not rounded.** -/
theorem roundDigits_of_dvd {n k : Nat} (hdvd : 2 ^ k ∣ n) (hlt : n < 2 ^ (53 + k)) :
    roundDigits n = n := by
  have hextra : extraDigits n ≤ k := by
    by_cases hn : n = 0
    · rw [hn]
      exact Nat.zero_le _
    · have hlog := (Nat.log2_lt hn).mpr hlt
      unfold extraDigits
      omega
  obtain ⟨c, hc⟩ := (Nat.pow_dvd_pow 2 hextra).trans hdvd
  have hround : roundQuotient n (2 ^ extraDigits n) = c := by
    rw [congrArg (roundQuotient · _) (hc.trans (Nat.mul_comm _ _))]
    exact roundQuotient_mul_right c (Nat.two_pow_pos _)
  rw [roundDigits, hround, Nat.mul_comm]
  exact hc.symm

/-! ## The float of an integer -/

/-- The float at a place is finite, and its value is a significand times a power of two; a
significand that is one too many counts as well. -/
theorem ofPlace_eq_finite (negative : Bool) {shift q : Nat} (hq : q ≤ 2 ^ 53)
    (hnormal : 2 ^ 52 ≤ q ∨ shift = 0) (hshift : shift < 2045) :
    ∃ e f, ofPlace negative (shift * fractionCount + q) = .finite negative e f ∧
      magnitude e f = q * 2 ^ shift := by
  have hplace : (shift * fractionCount + q) / fractionCount < 2047 := by
    unfold fractionCount
    omega
  refine ⟨⟨_, hplace⟩, ⟨(shift * fractionCount + q) % fractionCount, Nat.mod_lt _ (by decide)⟩, ?_, ?_⟩
  · rw [ofPlace, dif_pos hplace]
  · have hdiv : (shift * fractionCount + q) / fractionCount = q / fractionCount + shift := by
      rw [Nat.add_comm, Nat.add_mul_div_right _ _ (by decide)]
    have hmod : (shift * fractionCount + q) % fractionCount = q % fractionCount := by
      rw [Nat.add_comm, Nat.add_mul_mod_self_right]
    simp only [magnitude, significand, Nat.shiftLeft_eq, hdiv, hmod]
    rcases Nat.lt_or_ge q fractionCount with hsmall | hlarge
    · -- a subnormal number
      have hzero : shift = 0 := hnormal.resolve_left (by unfold fractionCount at hsmall; omega)
      rw [Nat.div_eq_of_lt hsmall, Nat.mod_eq_of_lt hsmall, hzero]
      rfl
    · rcases Nat.lt_or_ge q (2 * fractionCount) with hsingle | hdouble
      · have hdiv : q / fractionCount = 1 := Nat.div_eq_of_lt_le (by omega) (by omega)
        have hmod : q % fractionCount = q - fractionCount := by
          have := Nat.div_add_mod q fractionCount
          rw [hdiv] at this
          omega
        rw [hdiv, hmod, if_neg (by omega), Nat.add_sub_cancel' hlarge, Nat.add_sub_cancel_left]
      · have heq : q = 2 * fractionCount := by
          unfold fractionCount at hdouble ⊢
          omega
        rw [heq, Nat.mul_div_cancel _ (by decide), Nat.mul_mod_left, if_neg (by omega)]
        have hpow : 2 + shift - 1 = shift + 1 := by omega
        rw [hpow, Nat.pow_succ]
        unfold fractionCount
        omega

/-- An integer of a document in units has few digits past the first 53. -/
theorem extraDigits_units_lt {n : Int} (h : FitsWord n) :
    extraDigits (n.natAbs * unitsPerOne) < 2045 := by
  obtain ⟨hlow, hhigh⟩ := h
  have habs : n.natAbs ≤ 2 ^ 64 := by omega
  have hle : n.natAbs * unitsPerOne ≤ 2 ^ (64 + unitDigits) := by
    rw [unitsPerOne_eq, Nat.pow_add]
    generalize unitDigits = d
    exact Nat.mul_le_mul_right (2 ^ d) habs
  have hextra := (extraDigits_mono hle).trans_eq (extraDigits_two_pow _)
  exact Nat.lt_of_le_of_lt hextra (by decide)

/-- **The float of an integer** is finite, and its value is the integer rounded to 53 digits. -/
theorem ofInt_eq_finite {n : Int} (h : FitsWord n) :
    ∃ e f, ofInt n = .finite (n < 0) e f ∧
      magnitude e f = roundDigits (n.natAbs * unitsPerOne) := by
  obtain ⟨hq, hnormal⟩ := roundQuotient_bounds (n.natAbs * unitsPerOne)
  obtain ⟨e, f, hplace, hvalue⟩ :=
    ofPlace_eq_finite (decide (n < 0)) hq hnormal (extraDigits_units_lt h)
  refine ⟨e, f, ?_, hvalue⟩
  rw [← hplace, ofInt, ofRatio]
  simp only [Nat.div_one, Nat.one_shiftLeft]
  rfl

theorem units_ofInt {n : Int} (h : FitsWord n) :
    (ofInt n).units =
      if n < 0 then -(roundDigits (n.natAbs * unitsPerOne) : Int)
      else roundDigits (n.natAbs * unitsPerOne) := by
  obtain ⟨e, f, hfinite, hvalue⟩ := ofInt_eq_finite h
  rw [hfinite, ← hvalue]
  by_cases hn : n < 0
  · rw [if_pos hn, decide_eq_true hn]
    rfl
  · rw [if_neg hn, decide_eq_false hn]
    rfl

/-- **Floats of integers are in the order of the integers.** -/
theorem units_ofInt_mono {m n : Int} (hm : FitsWord m) (hn : FitsWord n) (h : m ≤ n) :
    (ofInt m).units ≤ (ofInt n).units := by
  rw [units_ofInt hm, units_ofInt hn]
  split_ifs with hmneg hnneg
  · have habs : n.natAbs ≤ m.natAbs := by omega
    have hround := roundDigits_mono (Nat.mul_le_mul_right unitsPerOne habs)
    omega
  · omega
  · omega
  · have habs : m.natAbs ≤ n.natAbs := by omega
    have hround := roundDigits_mono (Nat.mul_le_mul_right unitsPerOne habs)
    omega

/-- **An integer of 53 binary digits and zeros after them is a float.** -/
theorem units_ofInt_of_dvd {n : Int} (h : FitsWord n) {k : Nat} (hdvd : 2 ^ k ∣ n.natAbs)
    (hlt : n.natAbs < 2 ^ (53 + k)) : (ofInt n).units = n * unitsPerOne := by
  have hround : roundDigits (n.natAbs * unitsPerOne) = n.natAbs * unitsPerOne := by
    rw [unitsPerOne_eq]
    refine roundDigits_of_dvd (k := k + unitDigits) ?_ ?_
    · rw [Nat.pow_add]
      exact Nat.mul_dvd_mul_right hdvd _
    · rw [← Nat.add_assoc, Nat.pow_add _ _ unitDigits]
      exact Nat.mul_lt_mul_of_pos_right hlt (Nat.two_pow_pos _)
  rw [units_ofInt h, hround]
  split_ifs with hn
  · rw [Int.natCast_mul, ← Int.neg_mul]
    congr 1
    omega
  · rw [Int.natCast_mul]
    congr 1
    omega

/-- Every integer up to `2 ^ 53` is a float. -/
theorem units_ofInt_of_le {n : Int} (h : n.natAbs ≤ 2 ^ 53) : (ofInt n).units = n * unitsPerOne := by
  have hfits : FitsWord n := by
    unfold FitsWord
    omega
  rcases h.lt_or_eq with hlt | heq
  · exact units_ofInt_of_dvd (k := 0) hfits (Nat.one_dvd _) hlt
  · exact units_ofInt_of_dvd (k := 1) hfits (by omega) (by omega)

/-- Where two integers have whole floats, these are in the order of the integers. -/
theorem le_of_units_ofInt {m n i j : Int} (hm : FitsWord m) (hn : FitsWord n) (h : m ≤ n)
    (hi : (ofInt m).units = i * unitsPerOne) (hj : (ofInt n).units = j * unitsPerOne) : i ≤ j := by
  have hmono := units_ofInt_mono hm hn h
  rw [hi, hj] at hmono
  exact Int.le_of_mul_le_mul_right hmono unitsPerOne_pos

/-! ## Comparing with the float of an integer -/

theorem isFinite_ofInt {n : Int} (h : FitsWord n) : (ofInt n).isFinite = true := by
  obtain ⟨e, f, hfinite, -⟩ := ofInt_eq_finite h
  rw [hfinite]
  rfl

/-- Two integers have equal floats iff the values of these are equal. -/
theorem compare?_ofInt_eq_iff {m n : Int} (hm : FitsWord m) (hn : FitsWord n) :
    (ofInt m).compare? (ofInt n) = some .eq ↔ (ofInt m).units = (ofInt n).units := by
  rw [compare?_of_isFinite (isFinite_ofInt hm) (isFinite_ofInt hn), Option.some.injEq,
    compare_eq_iff_eq]

/-- **An integer below `2 ^ 53` is kept apart** from every other integer. -/
theorem eq_of_compare?_ofInt {m n : Int} (hm : FitsWord m) (hn : n.natAbs < 2 ^ 53)
    (h : (ofInt n).compare? (ofInt m) = some .eq) : n = m := by
  have hfits : ∀ k : Int, k.natAbs ≤ 2 ^ 53 → FitsWord k := by
    intro k hk
    unfold FitsWord
    omega
  have hunits := (compare?_ofInt_eq_iff (hfits n (by omega)) hm).mp h
  have hpos := unitsPerOne_pos
  rcases lt_trichotomy n m with hlt | heq | hgt
  · -- the neighbour of `n` on the side of `m` is a float too, and lies between the two
    have hmono := units_ofInt_mono (hfits (n + 1) (by omega)) hm hlt
    rw [← hunits, units_ofInt_of_le (by omega), units_ofInt_of_le (by omega), Int.add_mul] at hmono
    omega
  · exact heq
  · have hmono := units_ofInt_mono hm (hfits (n - 1) (by omega)) (by omega)
    rw [← hunits, units_ofInt_of_le (by omega), units_ofInt_of_le (by omega), Int.sub_mul] at hmono
    omega

/-- An integer that is a float compares as the integer that it is. -/
theorem compare?_ofInt_of_le {n : Int} (hn : n.natAbs ≤ 2 ^ 53) {x : Double} (hx : x ≠ .nan) :
    (ofInt n).compare? x = some (x.compareInt n) := by
  have hfits : FitsWord n := by
    unfold FitsWord
    omega
  have hunits := units_ofInt_of_le hn
  obtain ⟨e, f, hfinite, -⟩ := ofInt_eq_finite hfits
  cases x with
  | nan => exact absurd rfl hx
  | infinite negative =>
    rw [hfinite]
    cases negative <;> rfl
  | finite t g h =>
    rw [compare?_of_isFinite (isFinite_ofInt hfits) rfl, hunits, compareInt_of_isFinite hfits rfl]

/-- A float is an integer iff it is finite and has its value. -/
theorem toInt?_eq_some_iff {x : Double} {n : Int} :
    x.toInt? = some n ↔ x.isFinite = true ∧ x.units = n * unitsPerOne := by
  cases x with
  | nan => simp [toInt?, isFinite]
  | infinite negative => simp [toInt?, isFinite]
  | finite s e f =>
    have hpos := unitsPerOne_pos
    simp only [toInt?, isFinite, true_and]
    generalize (Double.finite s e f).units = u
    generalize (unitsPerOne : Int) = d at hpos ⊢
    constructor
    · intro h
      split_ifs at h with hmod
      obtain rfl := Option.some.inj h
      exact (Int.ediv_mul_cancel_of_emod_eq_zero hmod).symm
    · rintro rfl
      rw [if_pos (Int.mul_emod_left n d), Int.mul_ediv_cancel n hpos.ne']

end RecordQuery.Double
