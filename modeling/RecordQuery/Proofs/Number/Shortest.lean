import Mathlib.Algebra.Order.Field.Power
import Mathlib.Algebra.Order.Floor.Semifield
import Mathlib.Data.Rat.Floor
import Mathlib.Tactic.FieldSimp
import Mathlib.Tactic.Linarith
import Mathlib.Tactic.Positivity
import RecordQuery.Proofs.Order.Exact

/-!
# The shortest decimal reads back

A float is written with the fewest digits that are read back as it, and they are looked for on ever
finer grids, seventeen of them. Here the search is shown to succeed. A decimal reads as a float if
it lies within one part in `2 ^ 54` of it, whatever the three fields are, and a grid of seventeen
digits has a decimal as near as that, since `10 ^ 16` is more than `2 ^ 53`.

* `reads_iff`: the interval of a float, in rational numbers.
* `reads_of_near`, `isSome_onGrid?_of_fine`: what is near reads back, and seventeen digits are near.
* `decimalPoint_bounds`: the first grid has one digit of the number.
* `shortest_spec`: the shortest decimal reads back, and has the size of the number.
* `leading_shortest_mem`: its leading digit stays below every power of ten that is a float.
-/

namespace RecordQuery

/-- The rational number that a decimal is. -/
def Decimal.value (d : Decimal) : ℚ := d.digits * 10 ^ d.exponent

/-- A whole decimal is a natural. -/
theorem Decimal.value_of_whole {d : Decimal} (h : 0 ≤ d.exponent) :
    d.value = (d.digits * 10 ^ d.exponent.toNat : ℕ) := by
  obtain ⟨k, hk⟩ := Int.eq_ofNat_of_zero_le h
  rw [value, hk, zpow_natCast, Int.toNat_natCast]
  push_cast
  rfl

theorem zpow_mul_pow_toNat (k : ℤ) : (10 : ℚ) ^ k * 10 ^ (-k).toNat = 10 ^ k.toNat := by
  obtain ⟨n, rfl | rfl⟩ := k.eq_nat_or_neg
  · simp
  · simp

namespace Double

variable {e : Fin 2047} {f : Fin fractionCount}

/-! ## The numbers that a decimal reads as -/

/-- The distance to the next number away from zero. -/
def ulp (e : Fin 2047) : ℚ := 2 ^ (e.val - 1) / unitsPerOne

theorem cast_unitsPerOne_pos : (0 : ℚ) < unitsPerOne := by
  exact_mod_cast unitsPerOne_pos

theorem ulp_pos (e : Fin 2047) : 0 < ulp e := div_pos (by positivity) cast_unitsPerOne_pos

theorem rational_false_eq (e : Fin 2047) (f : Fin fractionCount) :
    rational false e f = (magnitude e f : ℚ) / unitsPerOne := by
  rw [rational_eq_units, units_finite, if_neg Bool.false_ne_true, Int.cast_natCast]

theorem rational_eq_ulp (e : Fin 2047) (f : Fin fractionCount) :
    rational false e f = significand e f * ulp e := by
  rw [rational_false_eq, magnitude_eq, ulp]
  push_cast
  rw [mul_div_assoc]

/-- Decimals are compared by their values. -/
theorem compareDecimal_eq (d : Decimal) (q : Nat) :
    compareDecimal d q = cmp d.value (q / quartersPerOne) := by
  have hq : (0 : ℚ) < quartersPerOne := by
    rw [quartersPerOne]
    push_cast
    have := cast_unitsPerOne_pos
    positivity
  have hn : (0 : ℚ) < 10 ^ (-d.exponent).toNat := by positivity
  have hleft : d.value * (10 ^ (-d.exponent).toNat * quartersPerOne) =
      (d.digits * 10 ^ d.exponent.toNat * quartersPerOne : ℕ) := by
    rw [Decimal.value]
    push_cast
    rw [← zpow_mul_pow_toNat d.exponent]
    ring
  have hright : (q / quartersPerOne : ℚ) * (10 ^ (-d.exponent).toNat * quartersPerOne) =
      (q * 10 ^ (-d.exponent).toNat : ℕ) := by
    push_cast
    field_simp
  rw [← cmp_mul_pos_right (mul_pos hn hq), hleft, hright, Nat.strictMono_cast.cmp_map_eq,
    cmp_eq_compare]
  rfl

/-- How far the interval of a number reaches below it: half-way to the number before, which is
nearer below a power of two. -/
def reachBelow (e : Fin 2047) (f : Fin fractionCount) : ℚ :=
  if f.val = 0 ∧ 1 < e.val then ulp e / 4 else ulp e / 2

/-- The upper end of the interval is half-way to the next number. -/
theorem highEnd_eq : ((4 * magnitude e f + 2 * 1 <<< (e.val - 1) : ℕ) : ℚ) / quartersPerOne =
    rational false e f + ulp e / 2 := by
  have hu := cast_unitsPerOne_pos
  rw [rational_eq_ulp, quartersPerOne, magnitude_eq, Nat.one_shiftLeft, ulp]
  push_cast
  field_simp
  ring

theorem lowEnd_eq (hpos : 0 < significand e f) :
    ((4 * magnitude e f - (if f.val = 0 ∧ 1 < e.val then 1 <<< (e.val - 1)
      else 2 * 1 <<< (e.val - 1)) : ℕ) : ℚ) / quartersPerOne =
      rational false e f - reachBelow e f := by
  have hu := cast_unitsPerOne_pos
  have hgap : 2 ^ (e.val - 1) ≤ magnitude e f := by
    rw [magnitude_eq]
    exact Nat.le_mul_of_pos_left _ hpos
  rw [rational_eq_ulp, quartersPerOne, Nat.one_shiftLeft, reachBelow, ulp]
  split_ifs
  · rw [Nat.cast_sub (by omega), magnitude_eq]
    push_cast
    field_simp
  · rw [Nat.cast_sub (by omega), magnitude_eq]
    push_cast
    field_simp
    ring

/-- **A decimal reads as a number** iff it lies in the interval of the number, whose ends belong to
it if the significand is even. -/
theorem reads_iff (hpos : 0 < significand e f) {d : Decimal} :
    reads e f d = true ↔
      (rational false e f - reachBelow e f < d.value ∨
        significand e f % 2 = 0 ∧ d.value = rational false e f - reachBelow e f) ∧
      (d.value < rational false e f + ulp e / 2 ∨
        significand e f % 2 = 0 ∧ d.value = rational false e f + ulp e / 2) := by
  rw [reads]
  simp only [Bool.and_eq_true, Bool.or_eq_true, beq_iff_eq]
  rw [compareDecimal_eq, compareDecimal_eq, lowEnd_eq hpos, highEnd_eq, cmp_eq_gt_iff,
    cmp_eq_lt_iff, cmp_eq_eq_iff, cmp_eq_eq_iff]

theorem significand_pos (hpos : 0 < magnitude e f) : 0 < significand e f := by
  rw [magnitude_eq] at hpos
  exact Nat.pos_of_mul_pos_right hpos

/-- The significand of a number with an exponent other than the least has 53 digits. -/
theorem le_significand (he : e.val ≠ 0) (f : Fin fractionCount) : 2 ^ 52 ≤ significand e f := by
  rw [significand, if_neg he]
  exact Nat.le_add_right _ _

/-- The interval of a number reaches to all that is nearer than one in `2 ^ 54`. -/
theorem near_le_reach (e : Fin 2047) (f : Fin fractionCount) :
    rational false e f / 2 ^ 54 ≤ reachBelow e f ∧ rational false e f / 2 ^ 54 < ulp e / 2 := by
  have hulp := ulp_pos e
  have hlt : rational false e f < 2 ^ 53 * ulp e := by
    rw [rational_eq_ulp]
    exact mul_lt_mul_of_pos_right (by exact_mod_cast significand_lt e f) hulp
  have hhalf : rational false e f / 2 ^ 54 < ulp e / 2 := by linarith
  refine ⟨?_, hhalf⟩
  rw [reachBelow]
  split_ifs with hnarrow
  · have hsig : significand e f = 2 ^ 52 := by
      rw [significand, if_neg (by omega), hnarrow.1]
      rfl
    rw [rational_eq_ulp, hsig]
    push_cast
    linarith
  · exact hhalf.le

/-- **A decimal near a number reads as it.** -/
theorem reads_of_near (hpos : 0 < significand e f) {d : Decimal}
    (hlow : rational false e f - rational false e f / 2 ^ 54 < d.value)
    (hhigh : d.value < rational false e f + rational false e f / 2 ^ 54) : reads e f d = true := by
  obtain ⟨hbelow, habove⟩ := near_le_reach e f
  exact (reads_iff hpos).mpr ⟨.inl (by linarith), .inl (by linarith)⟩

/-! ## Decimal grids -/

/-- The number in steps of a grid, rounded down. -/
theorem gridFloor_eq (e : Fin 2047) (f : Fin fractionCount) (k : Int) :
    gridFloor e f k = ⌊rational false e f / 10 ^ k⌋₊ := by
  have hu := cast_unitsPerOne_pos
  have hk : (0 : ℚ) < 10 ^ k := by positivity
  have hquotient : rational false e f / 10 ^ k =
      ((magnitude e f * 10 ^ (-k).toNat : ℕ) : ℚ) / (10 ^ k.toNat * unitsPerOne : ℕ) := by
    rw [rational_false_eq]
    push_cast
    rw [← zpow_mul_pow_toNat k]
    field_simp
  rw [hquotient, Nat.floor_div_eq_div]
  rfl

/-- The number lies between its two neighbours on a grid. -/
theorem gridFloor_bounds (e : Fin 2047) (f : Fin fractionCount) (k : Int) :
    Decimal.value ⟨gridFloor e f k, k⟩ ≤ rational false e f ∧
      rational false e f < Decimal.value ⟨gridFloor e f k + 1, k⟩ := by
  have hk : (0 : ℚ) < 10 ^ k := by positivity
  have hnonneg : 0 ≤ rational false e f / 10 ^ k := by
    rw [rational_eq_ulp]
    have := ulp_pos e
    positivity
  rw [gridFloor_eq, Decimal.value, Decimal.value, ← le_div_iff₀ hk, ← div_lt_iff₀ hk]
  push_cast
  exact ⟨Nat.floor_le hnonneg, Nat.lt_floor_add_one _⟩

/-- What is taken of two neighbours is one that reads back. -/
theorem nearer?_eq_some {tie : DecimalTie} {lower upper d : Decimal} {middle : Ordering}
    {readsLower readsUpper : Bool}
    (h : nearer? tie lower upper middle readsLower readsUpper = some d) :
    d = lower ∧ readsLower = true ∨ d = upper ∧ readsUpper = true := by
  unfold nearer? at h
  split at h
  · split at h <;> cases h
    · exact .inl ⟨rfl, rfl⟩
    · exact .inr ⟨rfl, rfl⟩
    · exact .inr ⟨rfl, rfl⟩
    · split_ifs
      · exact .inl ⟨rfl, rfl⟩
      · exact .inr ⟨rfl, rfl⟩
  · cases h
    exact .inl ⟨rfl, rfl⟩
  · cases h
    exact .inr ⟨rfl, rfl⟩
  · cases h

theorem isSome_nearer? (tie : DecimalTie) (lower upper : Decimal) (middle : Ordering)
    (readsLower readsUpper : Bool) :
    (nearer? tie lower upper middle readsLower readsUpper).isSome = (readsLower || readsUpper) := by
  cases readsLower <;> cases readsUpper <;> try rfl
  cases middle <;> cases tie <;> rfl

/-- What is taken from a grid is a neighbour of the number and reads as it. -/
theorem onGrid?_eq_some {tie : DecimalTie} {k : Int} {d : Decimal}
    (h : onGrid? tie e f k = some d) :
    reads e f d = true ∧ d.exponent = k ∧
      (d.digits = gridFloor e f k ∨ d.digits = gridFloor e f k + 1) := by
  rw [onGrid?] at h
  rcases nearer?_eq_some h with ⟨rfl, hreads⟩ | ⟨rfl, hreads⟩
  · exact ⟨hreads, rfl, .inl rfl⟩
  · exact ⟨hreads, rfl, .inr rfl⟩

theorem isSome_onGrid?_iff {tie : DecimalTie} {k : Int} :
    (onGrid? tie e f k).isSome = true ↔
      reads e f ⟨gridFloor e f k, k⟩ = true ∨ reads e f ⟨gridFloor e f k + 1, k⟩ = true := by
  rw [onGrid?, isSome_nearer?, Bool.or_eq_true]

/-- **A grid of seventeen digits is fine enough** for every number. -/
theorem isSome_onGrid?_of_fine (tie : DecimalTie) (hpos : 0 < significand e f) {k : Int}
    (hfine : 10 ^ 16 * 10 ^ k ≤ rational false e f) : (onGrid? tie e f k).isSome = true := by
  have hk : (0 : ℚ) < 10 ^ k := by positivity
  obtain ⟨hlower, hupper⟩ := gridFloor_bounds e f k
  have hstep : Decimal.value ⟨gridFloor e f k + 1, k⟩ =
      Decimal.value ⟨gridFloor e f k, k⟩ + 10 ^ k := by
    simp only [Decimal.value]
    push_cast
    ring
  -- half a step is less than what reads back
  have hhalf : (10 : ℚ) ^ k / 2 < rational false e f / 2 ^ 54 := by linarith
  rw [isSome_onGrid?_iff]
  rcases le_total (rational false e f) (Decimal.value ⟨gridFloor e f k, k⟩ + 10 ^ k / 2) with h | h
  · exact .inl (reads_of_near hpos (by linarith) (by linarith))
  · exact .inr (reads_of_near hpos (by linarith) (by linarith))

/-! ## The leading digit -/

/-- The number of digits before the point. -/
theorem digitCount_floor_bounds {x : ℚ} (hx : 1 ≤ x) :
    10 ^ ((digitCount ⌊x⌋₊ : ℤ) - 1) ≤ x ∧ x < 10 ^ (digitCount ⌊x⌋₊ : ℤ) := by
  have hfloor : 1 ≤ ⌊x⌋₊ := Nat.le_floor (by exact_mod_cast hx)
  obtain ⟨c, hc⟩ : ∃ c, digitCount ⌊x⌋₊ = c + 1 :=
    Nat.exists_eq_succ_of_ne_zero (List.length_eq_zero_iff.not.mpr Nat.toDigits_ne_nil)
  have hhigh : ⌊x⌋₊ < 10 ^ (c + 1) :=
    (Nat.length_toDigits_le_iff (by decide) (Nat.succ_pos c)).mp hc.le
  have hlow : 10 ^ c ≤ ⌊x⌋₊ := by
    rcases Nat.eq_zero_or_pos c with rfl | hcpos
    · exact hfloor
    · by_contra hlt
      have := (Nat.length_toDigits_le_iff (by decide) hcpos).mpr (Nat.not_le.mp hlt)
      unfold digitCount at hc
      omega
  rw [hc]
  constructor
  · have hle : ((10 ^ c : ℕ) : ℚ) ≤ x := (Nat.le_floor_iff (by linarith)).mp hlow
    push_cast at hle ⊢
    simpa using hle
  · have hlt : x < ((10 ^ (c + 1) : ℕ) : ℚ) := (Nat.floor_lt (by linarith)).mp hhigh
    exact_mod_cast hlt

/-- The same after a shift that makes the number one at least. -/
theorem digitCount_shift_bounds {x : ℚ} {n : ℕ} (hx : 1 ≤ x * 10 ^ n) :
    10 ^ ((digitCount ⌊x * 10 ^ n⌋₊ : ℤ) - n - 1) ≤ x ∧
      x < 10 ^ ((digitCount ⌊x * 10 ^ n⌋₊ : ℤ) - n) := by
  obtain ⟨hlow, hhigh⟩ := digitCount_floor_bounds hx
  have hpow : (0 : ℚ) < 10 ^ (n : ℤ) := by positivity
  rw [sub_right_comm, zpow_sub₀ (by norm_num) _ (n : ℤ), zpow_sub₀ (by norm_num) _ (n : ℤ),
    div_le_iff₀ hpow, lt_div_iff₀ hpow, zpow_natCast]
  exact ⟨hlow, by simpa using hhigh⟩

/-- Naturals over the units of one, shifted and rounded down. -/
theorem shifted_div_eq (e : Fin 2047) (f : Fin fractionCount) (n : ℕ) :
    magnitude e f * Nat.pow 10 n / unitsPerOne = ⌊rational false e f * 10 ^ n⌋₊ := by
  have hshift : rational false e f * 10 ^ n =
      ((magnitude e f * 10 ^ n : ℕ) : ℚ) / (unitsPerOne : ℕ) := by
    rw [rational_false_eq]
    push_cast
    ring
  rw [hshift, Nat.floor_div_eq_div]
  rfl

/-- The shift by which digits are counted makes every number but zero one at least. -/
theorem one_le_shifted (hpos : 0 < magnitude e f) {n : ℕ} (hn : unitDigits ≤ 3 * n) :
    1 ≤ rational false e f * 10 ^ n := by
  have hle : unitsPerOne ≤ magnitude e f * 10 ^ n :=
    calc unitsPerOne = 2 ^ unitDigits := unitsPerOne_eq
      _ ≤ 2 ^ (3 * n) := Nat.pow_le_pow_right (by decide) hn
      _ = 8 ^ n := Nat.pow_mul 2 3 n
      _ ≤ 10 ^ n := Nat.pow_le_pow_left (by decide) n
      _ ≤ magnitude e f * 10 ^ n := Nat.le_mul_of_pos_left _ hpos
  rw [rational_false_eq, div_mul_eq_mul_div, one_le_div cast_unitsPerOne_pos]
  exact_mod_cast hle

/-- **The decimal point stands after the leading digit** of the number. -/
theorem decimalPoint_bounds (hpos : 0 < magnitude e f) :
    10 ^ (decimalPoint (magnitude e f) - 1) ≤ rational false e f ∧
      rational false e f < 10 ^ decimalPoint (magnitude e f) := by
  have hwhole : magnitude e f / unitsPerOne = ⌊rational false e f⌋₊ := by
    rw [rational_false_eq, Nat.floor_div_eq_div]
  rw [decimalPoint, shifted_div_eq, hwhole]
  split_ifs with hzero
  · exact digitCount_shift_bounds (one_le_shifted hpos (by decide))
  · exact digitCount_floor_bounds ((Nat.one_le_floor_iff _).mp (Nat.one_le_iff_ne_zero.mpr hzero))

/-! ## The shortest decimal -/

/-- Trailing zeros are no part of the value. -/
theorem stripZeros_spec (fuel : Nat) (d : Decimal) (hd : d.digits ≠ 0) :
    (stripZeros fuel d).value = d.value ∧ (stripZeros fuel d).digits ≠ 0 ∧
      d.exponent ≤ (stripZeros fuel d).exponent := by
  induction fuel generalizing d with
  | zero => exact ⟨rfl, hd, le_rfl⟩
  | succ fuel ih =>
    rw [stripZeros]
    split_ifs with hzero
    · obtain ⟨hvalue, hdigits, hexponent⟩ := ih ⟨d.digits / 10, d.exponent + 1⟩
        (Nat.div_ne_zero_iff_of_dvd (Nat.dvd_of_mod_eq_zero hzero.2) |>.mpr ⟨hd, by decide⟩)
      refine ⟨hvalue.trans ?_, hdigits, (Int.le.intro 1 rfl).trans hexponent⟩
      have hten : d.digits = d.digits / 10 * 10 :=
        (Nat.div_mul_cancel (Nat.dvd_of_mod_eq_zero hzero.2)).symm
      rw [Decimal.value, Decimal.value, zpow_add_one₀ (by norm_num)]
      conv_rhs => rw [hten]
      push_cast
      ring
    · exact ⟨rfl, hd, le_rfl⟩

/-- A neighbour of the number on a grid finer than it lies in its decade, ends included. -/
theorem value_bounds_of_grid (hpos : 0 < magnitude e f) {d : Decimal} {n : ℕ}
    (hexponent : d.exponent + (n + 1) = decimalPoint (magnitude e f))
    (hdigits : d.digits = gridFloor e f d.exponent ∨ d.digits = gridFloor e f d.exponent + 1) :
    10 ^ (decimalPoint (magnitude e f) - 1) ≤ d.value ∧
      d.value ≤ 10 ^ decimalPoint (magnitude e f) := by
  obtain ⟨hlow, hhigh⟩ := decimalPoint_bounds hpos
  have hk : (0 : ℚ) < 10 ^ d.exponent := by positivity
  have hpoint : (10 : ℚ) ^ decimalPoint (magnitude e f) = 10 ^ (n + 1) * 10 ^ d.exponent := by
    rw [← hexponent, zpow_add₀ (by norm_num), mul_comm]
    norm_cast
  have hfirst : (10 : ℚ) ^ (decimalPoint (magnitude e f) - 1) = 10 ^ n * 10 ^ d.exponent := by
    rw [zpow_sub_one₀ (by norm_num), hpoint]
    ring
  have hfloor : 10 ^ n ≤ gridFloor e f d.exponent ∧ gridFloor e f d.exponent < 10 ^ (n + 1) := by
    rw [gridFloor_eq]
    constructor
    · refine Nat.le_floor ?_
      rw [le_div_iff₀ hk]
      push_cast
      exact hfirst ▸ hlow
    · refine (Nat.floor_lt' (by positivity)).mpr ?_
      rw [div_lt_iff₀ hk]
      push_cast
      exact hpoint ▸ hhigh
  have hbounds : 10 ^ n ≤ d.digits ∧ d.digits ≤ 10 ^ (n + 1) := by omega
  rw [hpoint, hfirst, Decimal.value]
  exact ⟨mul_le_mul_of_nonneg_right (by exact_mod_cast hbounds.1) hk.le,
    mul_le_mul_of_nonneg_right (by exact_mod_cast hbounds.2) hk.le⟩

theorem reads_congr {d d' : Decimal} (h : d.value = d'.value) : reads e f d = reads e f d' := by
  have hcompare : ∀ q, compareDecimal d q = compareDecimal d' q := fun q => by
    rw [compareDecimal_eq, compareDecimal_eq, h]
  simp only [reads, hcompare]

/-- The first grid with a hit has seventeen digits at most. -/
theorem exists_grid (tie : DecimalTie) (hpos : 0 < magnitude e f) :
    ∃ (d : Decimal) (n : ℕ), n < 17 ∧ d.exponent + (n + 1) = decimalPoint (magnitude e f) ∧
      onGrid? tie e f d.exponent = some d ∧ shortest tie e f = stripZeros 17 d := by
  have hsig := significand_pos hpos
  have hfine := (decimalPoint_bounds hpos).1
  have hlast : (onGrid? tie e f (decimalPoint (magnitude e f) - (16 + 1))).isSome = true := by
    refine isSome_onGrid?_of_fine tie hsig (le_trans (le_of_eq ?_) hfine)
    have hten : (10 : ℚ) ^ 16 = 10 ^ (16 : ℤ) := by norm_cast
    rw [hten, ← zpow_add₀ (by norm_num)]
    congr 1
    ring
  have hsome : (((List.range 17).map fun n : ℕ => decimalPoint (magnitude e f) - (n + 1)).findSome?
      (onGrid? tie e f)).isSome = true :=
    List.findSome?_isSome_iff.mpr
      ⟨_, List.mem_map.mpr ⟨16, List.mem_range.mpr (by decide), rfl⟩, hlast⟩
  obtain ⟨d, hd⟩ := Option.isSome_iff_exists.mp hsome
  obtain ⟨k, hk, hgrid⟩ := List.exists_of_findSome?_eq_some hd
  obtain ⟨n, hn, rfl⟩ := List.mem_map.mp hk
  obtain ⟨-, hexponent, -⟩ := onGrid?_eq_some hgrid
  refine ⟨d, n, List.mem_range.mp hn, ?_, hexponent ▸ hgrid, ?_⟩
  · rw [hexponent, sub_add_cancel]
  · simp only [shortest, if_neg hpos.ne', hd, Option.getD_some]

/-- **The shortest decimal** of a number other than zero reads back as the number. It lies in the
decade of the number, ends included, and has seventeen digits at most. -/
theorem shortest_spec (tie : DecimalTie) (hpos : 0 < magnitude e f) :
    reads e f (shortest tie e f) = true ∧ (shortest tie e f).digits ≠ 0 ∧
      decimalPoint (magnitude e f) - 17 ≤ (shortest tie e f).exponent ∧
      10 ^ (decimalPoint (magnitude e f) - 1) ≤ (shortest tie e f).value ∧
      (shortest tie e f).value ≤ 10 ^ decimalPoint (magnitude e f) := by
  obtain ⟨d, n, hn, hexponent, hgrid, hshortest⟩ := exists_grid tie hpos
  obtain ⟨hreads, -, hdigits⟩ := onGrid?_eq_some hgrid
  have hbounds := value_bounds_of_grid hpos hexponent hdigits
  have hne : d.digits ≠ 0 := fun hzero => by
    have hvalue : d.value = 0 := by rw [Decimal.value, hzero, Nat.cast_zero, zero_mul]
    have hfirst : (0 : ℚ) < 10 ^ (decimalPoint (magnitude e f) - 1) := by positivity
    exact absurd (hvalue ▸ hbounds.1) (not_le.mpr hfirst)
  obtain ⟨hvalue, hstripped, hle⟩ := stripZeros_spec 17 d hne
  rw [hshortest, hvalue, reads_congr hvalue]
  exact ⟨hreads, hstripped, by omega, hbounds⟩

end Double

/-! ## The exponent of the leading digit -/

/-- The exponent of the leading digit. -/
def Decimal.leading (d : Decimal) : Int := Double.digitCount d.digits + d.exponent - 1

theorem Decimal.leading_bounds {d : Decimal} (hd : d.digits ≠ 0) :
    10 ^ d.leading ≤ d.value ∧ d.value < 10 ^ (d.leading + 1) := by
  have hone : (1 : ℚ) ≤ d.digits := by exact_mod_cast Nat.one_le_iff_ne_zero.mpr hd
  have hk : (0 : ℚ) < 10 ^ d.exponent := by positivity
  obtain ⟨hlow, hhigh⟩ := Double.digitCount_floor_bounds hone
  rw [Nat.floor_natCast] at hlow hhigh
  have hleading : d.leading = (Double.digitCount d.digits - 1) + d.exponent := by
    unfold leading
    ring
  rw [hleading, add_right_comm, sub_add_cancel, zpow_add₀ (by norm_num), zpow_add₀ (by norm_num),
    value]
  exact ⟨mul_le_mul_of_nonneg_right hlow hk.le, mul_lt_mul_of_pos_right hhigh hk⟩

namespace Double

/-- The leading digit is that of the number, or the one of the next power of ten. -/
theorem leading_shortest (tie : DecimalTie) (hpos : 0 < magnitude e f) :
    decimalPoint (magnitude e f) - 1 ≤ (shortest tie e f).leading ∧
      (shortest tie e f).leading ≤ decimalPoint (magnitude e f) := by
  obtain ⟨-, hdigits, -, hlow, hhigh⟩ := shortest_spec tie hpos
  obtain ⟨hleast, hpast⟩ := Decimal.leading_bounds hdigits
  have hten : (1 : ℚ) < 10 := by norm_num
  have hlt := (zpow_lt_zpow_iff_right₀ hten).mp (hlow.trans_lt hpast)
  have hle := (zpow_le_zpow_iff_right₀ hten).mp (hleast.trans hhigh)
  exact ⟨by omega, hle⟩

/-- Below a power of ten that is a float there is room for the next float. -/
theorem add_ulp_le {n : ℕ} (hn : 5 ^ n ≤ 2 ^ 52) (h : rational false e f < 10 ^ n) :
    rational false e f + ulp e ≤ 10 ^ n := by
  have hu := cast_unitsPerOne_pos
  have hten : 10 ^ n * unitsPerOne = 5 ^ n * 2 ^ (unitDigits + n) := by
    rw [unitsPerOne_eq, Nat.pow_add, show 10 = 5 * 2 from rfl, Nat.mul_pow]
    ring
  rw [rational_false_eq, div_lt_iff₀ hu] at h
  have hlt : magnitude e f < 10 ^ n * unitsPerOne := by exact_mod_cast h
  have hle : magnitude e f + 2 ^ (e.val - 1) ≤ 10 ^ n * unitsPerOne := by
    rw [hten, magnitude_eq] at hlt
    rw [hten, magnitude_eq]
    rcases Nat.le_total (e.val - 1) (unitDigits + n) with hexp | hexp
    · -- the power of ten is a multiple of the distance to the next float
      obtain ⟨c, hc⟩ : 2 ^ (e.val - 1) ∣ 5 ^ n * 2 ^ (unitDigits + n) :=
        (Nat.pow_dvd_pow 2 hexp).mul_left _
      rw [hc, Nat.mul_comm] at hlt
      rw [hc, Nat.mul_comm (2 ^ (e.val - 1)) c, ← Nat.succ_mul]
      exact Nat.mul_le_mul_right _ (Nat.lt_of_mul_lt_mul_left hlt)
    · -- a float with such an exponent is not below it
      have hsig : 5 ^ n ≤ significand e f :=
        hn.trans (le_significand (by unfold unitDigits at hexp; omega) f)
      have hpow := Nat.pow_le_pow_right (by decide : 0 < 2) hexp
      exact absurd hlt (Nat.not_lt.mpr (Nat.mul_le_mul hsig hpow))
  rw [rational_false_eq, ulp, ← add_div, div_le_iff₀ hu]
  exact_mod_cast hle

/-- **The leading digit of the shortest decimal** is where that of the number is, also below a power
of ten that is a float: the number is not rounded up to it. -/
theorem leading_shortest_mem (tie : DecimalTie) {low : ℤ} {high : ℕ}
    (hhigh : 5 ^ high ≤ 2 ^ 52) (hpos : 0 < magnitude e f)
    (hle : 10 ^ low ≤ rational false e f) (hlt : rational false e f < 10 ^ high) :
    low ≤ (shortest tie e f).leading ∧ (shortest tie e f).leading < high := by
  have hten : (1 : ℚ) < 10 := by norm_num
  have hsig := significand_pos hpos
  obtain ⟨hreads, hdigits, -, -, -⟩ := shortest_spec tie hpos
  obtain ⟨hfirst, hpoint⟩ := decimalPoint_bounds hpos
  obtain ⟨hleast, hpast⟩ := Decimal.leading_bounds hdigits
  have hlow := (zpow_lt_zpow_iff_right₀ hten).mp (hle.trans_lt hpoint)
  have hvalue : (shortest tie e f).value < 10 ^ high := by
    have hulp := ulp_pos e
    have hroom := add_ulp_le hhigh hlt
    rcases ((reads_iff hsig).mp hreads).2 with h | ⟨-, h⟩ <;> linarith
  rw [← zpow_natCast] at hvalue
  exact ⟨by have := (leading_shortest tie hpos).1; omega,
    (zpow_lt_zpow_iff_right₀ hten).mp (hleast.trans_lt hvalue)⟩

end Double

end RecordQuery
