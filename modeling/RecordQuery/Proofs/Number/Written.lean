import RecordQuery.Filter.Value
import RecordQuery.Proofs.Number.Rounding
import RecordQuery.Proofs.Number.Shortest

/-!
# The texts of a float

Predicates write a float without an exponent and without the fraction of a whole number. Documents
write very large and very small floats with an exponent, end a whole number with `.0`, and where two
shortest decimals are equally near take the other one. So the two texts of a float agree up to `.0`
if documents write it without an exponent, which is decided by its size, and if its shortest decimal
is the only one.

* `FloatStyle.isPrefix_positional`: the fraction of a whole number is all that is added.
* `Double.isPrefix_render_of_isPlain`: the text of a float starts the text that documents write.
* `Double.infix_render_ofInt_iff`: the text of the float of a large integer and its digits.
-/

namespace RecordQuery

/-! ## Layouts without an exponent -/

/-- Zeros after the digits of a natural. -/
theorem toDigits_mul_pow {n : Nat} (hn : 0 < n) (k : Nat) :
    Nat.toDigits 10 (n * 10 ^ k) = Nat.toDigits 10 n ++ List.replicate k '0' := by
  induction k with
  | zero => rw [Nat.pow_zero, Nat.mul_one, List.replicate_zero, List.append_nil]
  | succ k ih =>
    have hpos : 0 < n * 10 ^ k := Nat.mul_pos hn (Nat.pow_pos (by decide))
    have hnext : n * 10 ^ (k + 1) = 10 * (n * 10 ^ k) + 0 := by
      rw [Nat.pow_succ, ← Nat.mul_assoc, Nat.mul_comm, Nat.add_zero]
    rw [hnext, ← Nat.toDigits_append_toDigits (by decide) hpos (by decide), ih,
      List.replicate_succ', List.append_assoc]
    rfl

/-- A numeral occurs in one that is not longer only if it is the same. -/
theorem infix_toDigits_iff {m n q : Nat} (hq : 0 < q) (hm : 10 ^ q ≤ m) (hn : n < 10 ^ (q + 1)) :
    Nat.toDigits 10 m <:+: Nat.toDigits 10 n ↔ m = n := by
  constructor
  · intro h
    have hlong : ¬ (Nat.toDigits 10 m).length ≤ q :=
      (Nat.length_toDigits_le_iff (by decide) hq).not.mpr (Nat.not_lt.mpr hm)
    have hshort := (Nat.length_toDigits_le_iff (by decide) (Nat.succ_pos q)).mpr hn
    have hsame := congrArg (Nat.ofDigitChars 10 · 0) (h.eq_of_length_le (by omega))
    simpa only [Nat.ofDigitChars_toDigits (by decide : 1 < 10) le_rfl] using hsame
  · rintro rfl
    exact List.infix_rfl

namespace FloatStyle

variable {style : FloatStyle} {d : Decimal}

theorem layout_of_plain_none (h : style.plain = none) :
    style.layout d = style.positional (Nat.toDigits 10 d.digits) (d.leading + 1) := by
  rw [layout, h, Decimal.leading, Int.sub_add_cancel]
  rfl

theorem layout_of_leading {first last : Int} (h : style.plain = some (first, last))
    (hfirst : first ≤ d.leading) (hlast : d.leading ≤ last) :
    style.layout d = style.positional (Nat.toDigits 10 d.digits) (d.leading + 1) := by
  have hpoint : d.leading + 1 = (Nat.toDigits 10 d.digits).length + d.exponent :=
    Int.sub_add_cancel _ _
  rw [layout, h, hpoint]
  exact if_pos ⟨by omega, by omega⟩

/-- A style that writes no `.0` writes what every style starts with. -/
theorem isPrefix_positional (hbare : style.pointZero = false) (other : FloatStyle)
    (digits : List Char) (point : Int) :
    style.positional digits point <+: other.positional digits point := by
  rw [positional, positional, hbare, if_neg Bool.false_ne_true, List.append_nil]
  split
  · exact List.prefix_rfl
  · split
    · exact List.prefix_rfl
    · exact List.prefix_append _ _

/-- A whole number is written with its digits. -/
theorem layout_of_whole (hplain : style.plain = none) (hbare : style.pointZero = false)
    (hd : 0 < d.digits) (hwhole : 0 ≤ d.exponent) :
    style.layout d = Nat.toDigits 10 (d.digits * 10 ^ d.exponent.toNat) := by
  have hlength : 0 < (Nat.toDigits 10 d.digits).length :=
    List.length_pos_iff.mpr Nat.toDigits_ne_nil
  have hpoint : d.leading + 1 = (Nat.toDigits 10 d.digits).length + d.exponent :=
    Int.sub_add_cancel _ _
  rw [layout_of_plain_none hplain, positional, hpoint, if_neg (by omega), if_neg (by omega), hbare,
    if_neg Bool.false_ne_true, List.append_nil, add_sub_cancel_left, toDigits_mul_pow hd]

end FloatStyle

/-! ## The two texts of a float -/

namespace Double

theorem abs_rational (s : Bool) (e : Fin 2047) (f : Fin fractionCount) :
    |rational s e f| = rational false e f := by
  have hnonneg : 0 ≤ rational false e f := by
    rw [rational_false_eq]
    exact div_nonneg (Nat.cast_nonneg _) cast_unitsPerOne_pos.le
  cases s with
  | false => exact abs_of_nonneg hnonneg
  | true =>
    have hneg : rational true e f = -rational false e f := by
      rw [rational, rational, if_pos rfl, if_neg Bool.false_ne_true]
      ring
    rw [hneg, abs_neg, abs_of_nonneg hnonneg]

/-- Documents write the float without an exponent, and no other decimal is as short and as near. -/
def IsPlain : Double → Prop
  | .finite s e f =>
    shortest .even e f = shortest .up e f ∧
      (rational s e f = 0 ∨ 10 ^ (-5 : ℤ) ≤ |rational s e f| ∧ |rational s e f| < 10 ^ 16)
  | _ => False

/-- The leading digit of such a float stands where documents write no exponent. -/
theorem leading_of_isPlain {s : Bool} {e : Fin 2047} {f : Fin fractionCount}
    (h : IsPlain (.finite s e f)) :
    -5 ≤ (shortest .up e f).leading ∧ (shortest .up e f).leading ≤ 15 := by
  obtain ⟨-, hsize⟩ := h
  rw [← abs_eq_zero, abs_rational] at hsize
  rcases Nat.eq_zero_or_pos (magnitude e f) with hzero | hpos
  · rw [shortest, if_pos hzero]
    decide
  · have hne : rational false e f ≠ 0 := by
      rw [rational_false_eq]
      exact div_ne_zero (by exact_mod_cast hpos.ne') cast_unitsPerOne_pos.ne'
    obtain ⟨hle, hlt⟩ := hsize.resolve_left hne
    obtain ⟨hlow, hhigh⟩ := leading_shortest_mem .up (by decide) hpos hle hlt
    exact ⟨hlow, Int.lt_add_one_iff.mp hhigh⟩

/-- **The two texts of a float** that is written plainly: a document adds `.0` at most. -/
theorem isPrefix_render_of_isPlain {x : Double} (hx : x.IsPlain) :
    (FilterValue.floatStyle.render x).toList <+: (Number.floatStyle.render x).toList := by
  cases x with
  | nan => exact hx.elim
  | infinite s => exact hx.elim
  | finite s e f =>
    obtain ⟨hfirst, hlast⟩ := leading_of_isPlain hx
    have hneedle : FilterValue.floatStyle.layout (shortest .up e f) =
        FilterValue.floatStyle.positional _ _ := FloatStyle.layout_of_plain_none rfl
    have htext : Number.floatStyle.layout (shortest .up e f) = Number.floatStyle.positional _ _ :=
      FloatStyle.layout_of_leading rfl hfirst hlast
    show ((if s then "-" else "") ++
        String.ofList (FilterValue.floatStyle.layout (shortest .up e f))).toList <+:
      ((if s then "-" else "") ++
        String.ofList (Number.floatStyle.layout (shortest .even e f))).toList
    rw [hx.1, hneedle, htext, String.toList_append, String.toList_append, String.toList_ofList,
      String.toList_ofList, List.prefix_append_right_inj]
    exact FloatStyle.isPrefix_positional rfl _ _ _

/-! ## The float of a large integer -/

/-- The value of the shortest decimal of a finite float, `0` for the others. -/
def written (tie : DecimalTie) : Double → ℚ
  | .finite s e f => (if s then -1 else 1) * (shortest tie e f).value
  | _ => 0

/-- The float of an integer is not below a power of ten that the integer is not below: all powers of
ten that fit a word are floats. -/
theorem pow_le_rational_of_ofInt {n : Int} {e : Fin 2047} {f : Fin fractionCount} {k : Nat}
    (hn : FitsWord n) (hk : k ≤ 19) (hle : 10 ^ k ≤ n) (hfinite : ofInt n = .finite false e f) :
    10 ^ k ≤ rational false e f := by
  have hfits : FitsWord (10 ^ k) :=
    ⟨(by decide : _ ≤ (0 : Int)).trans (by positivity), hle.trans_lt hn.2⟩
  have habs : (10 ^ k : Int).natAbs = 5 ^ k * 2 ^ k := by
    rw [Int.natAbs_pow, ← Nat.mul_pow]
    rfl
  have hfive : 5 ^ k < 2 ^ 53 := (Nat.pow_le_pow_right (by decide) hk).trans_lt (by decide)
  have hexact := units_ofInt_of_dvd (k := k) hfits (habs ▸ Nat.dvd_mul_left _ _) <| by
    rw [habs, Nat.pow_add]
    exact Nat.mul_lt_mul_of_pos_right hfive (Nat.two_pow_pos k)
  have hunits := units_ofInt_mono hfits hn hle
  rw [hexact, hfinite, units_finite, if_neg Bool.false_ne_true] at hunits
  rw [rational_false_eq, le_div_iff₀ cast_unitsPerOne_pos]
  exact_mod_cast hunits

/-- The float of a large integer has as many digits before the point as the integer. -/
theorem exists_ofInt_large {n : Int} (hn : FitsWord n) (hlarge : Numeral.int64Max < n) :
    ∃ e f, ofInt n = .finite false e f ∧ 0 < magnitude e f ∧
      18 < decimalPoint (magnitude e f) ∧ (n : ℚ) < 10 ^ decimalPoint (magnitude e f) := by
  have hten : (1 : ℚ) < 10 := by norm_num
  have hleast : 10 ^ 18 ≤ n := by
    unfold Numeral.int64Max at hlarge
    omega
  obtain ⟨e, f, hfinite, -⟩ := ofInt_eq_finite hn
  rw [decide_eq_false (by omega)] at hfinite
  have hle := pow_le_rational_of_ofInt hn (by decide) hleast hfinite
  have hpos : 0 < magnitude e f := by
    rw [rational_false_eq, le_div_iff₀ cast_unitsPerOne_pos] at hle
    exact Nat.cast_pos.mp ((mul_pos (by positivity) cast_unitsPerOne_pos).trans_le hle)
  have hpoint := (decimalPoint_bounds hpos).2
  have hdecade : 18 < decimalPoint (magnitude e f) := by
    rw [← zpow_natCast] at hle
    exact (zpow_lt_zpow_iff_right₀ hten).mp (hle.trans_lt hpoint)
  refine ⟨e, f, hfinite, hpos, hdecade, ?_⟩
  rcases (Int.add_one_le_iff.mpr hdecade).eq_or_lt with heq | hlt
  · -- an integer of twenty digits would have a float of twenty digits
    rw [← heq] at hpoint ⊢
    by_contra hge
    have htwenty : 10 ^ 19 ≤ n := by exact_mod_cast not_lt.mp hge
    exact absurd hpoint (not_lt.mpr (pow_le_rational_of_ofInt hn le_rfl htwenty hfinite))
  · have hword : (n : ℚ) < 10 ^ (20 : ℤ) := by exact_mod_cast hn.2.trans (by norm_num)
    exact hword.trans_le (zpow_le_zpow_right₀ hten.le (by omega))

/-- **The text of the float of a large integer** occurs in the digits of the integer iff it writes
the integer. -/
theorem infix_render_ofInt_iff {n : Int} (hn : FitsWord n) (hlarge : Numeral.int64Max < n) :
    (FilterValue.floatStyle.render (ofInt n)).toList <:+: (toString n).toList ↔
      (ofInt n).written .up = n := by
  obtain ⟨e, f, hfinite, hpos, hdecade, hlt⟩ := exists_ofInt_large hn hlarge
  obtain ⟨-, hdigits, hexponent, hlow, -⟩ := shortest_spec .up hpos
  rw [hfinite, written, if_neg Bool.false_ne_true, one_mul]
  show ("" ++ String.ofList (FilterValue.floatStyle.layout (shortest .up e f))).toList <:+: _ ↔ _
  generalize shortest .up e f = d at *
  generalize decimalPoint (magnitude e f) = point at *
  obtain ⟨q, rfl⟩ : ∃ q : ℕ, point = (q + 1 : ℕ) := ⟨(point - 1).toNat, by omega⟩
  obtain ⟨k, rfl⟩ : ∃ k : ℕ, n = k := ⟨n.toNat, by unfold Numeral.int64Max at hlarge; omega⟩
  have hwhole : 0 ≤ d.exponent := by omega
  have hvalue := Decimal.value_of_whole hwhole
  have hm : 10 ^ q ≤ d.digits * 10 ^ d.exponent.toNat := by
    rw [hvalue, Nat.cast_succ, add_sub_cancel_right, zpow_natCast] at hlow
    exact_mod_cast hlow
  have hk : k < 10 ^ (q + 1) := by
    rw [zpow_natCast, Int.cast_natCast] at hlt
    exact_mod_cast hlt
  have htext : (toString (k : Int)).toList = Nat.toDigits 10 k := Nat.toList_repr
  rw [String.empty_append, String.toList_ofList, FloatStyle.layout_of_whole rfl rfl
    (Nat.pos_of_ne_zero hdigits) hwhole, htext, infix_toDigits_iff (by omega) hm hk, hvalue]
  exact_mod_cast Iff.rfl

end Double

end RecordQuery
