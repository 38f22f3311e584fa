import Mathlib.Algebra.Order.Field.Power
import Mathlib.Algebra.Order.Field.Rat
import Mathlib.Order.WithBotTop
import RecordQuery.Proofs.Order.Numeric
import RecordQuery.Query.Order

/-!
# Numbers are sorted by their exact values

A finite float denotes a rational number, its significand times a power of two, and an integer
denotes itself. Here the order of numbers is compared with the order of these values, in which
nothing is rounded, cut or cast: an integer and a float that differ by less than the float can say
are still told apart, on the right side.

* `Double.rational_eq_units`: the units in which numbers are compared are those of the value.
* `Number.compareNumeric_eq_exact`: the numeric order is the order of exact values.
* `compareValues_number_eq_exact`: so is the order in which a property that holds numbers is sorted.
-/

namespace RecordQuery

/-! ## Exact values -/

/-- The rational number that a finite float denotes: its significand with the sign, times a power of
two. The numbers without the implicit one share the least exponent. -/
def Double.rational (negative : Bool) (e : Fin 2047) (f : Fin fractionCount) : ℚ :=
  (if negative then -1 else 1) * Double.significand e f * 2 ^ ((max e.val 1 : ℤ) - 1075)

/-- The exact value of a float, the infinities being below and above all rationals; none for NaN. -/
def Double.exactValue? : Double → Option (WithBotTop ℚ)
  | .nan => none
  | .infinite true => some ⊥
  | .infinite false => some ⊤
  | .finite s e f => some (Double.rational s e f : WithBotTop ℚ)

/-- The value of a finite float is its number of units over the units of one. -/
theorem Double.rational_eq_units (s : Bool) (e : Fin 2047) (f : Fin fractionCount) :
    Double.rational s e f = (Double.finite s e f).units / unitsPerOne := by
  have hexp : ((max e.val 1 : ℤ) - 1075) = ((e.val - 1 : ℕ) : ℤ) - (unitDigits : ℤ) := by
    unfold unitDigits
    omega
  have hpow : (2 : ℚ) ^ ((max e.val 1 : ℤ) - 1075) = 2 ^ (e.val - 1) / (unitsPerOne : ℚ) := by
    rw [hexp, zpow_sub₀ two_ne_zero, zpow_natCast, zpow_natCast, unitsPerOne_eq, Nat.cast_pow,
      Nat.cast_ofNat]
  rw [Double.rational, hpow, units_finite, magnitude_eq]
  cases s with
  | false => simp [mul_div_assoc]
  | true => simp [mul_div_assoc, neg_div]

namespace Number

/-- The exact value of a number; none for NaN. -/
def exactValue? : Number → Option (WithBotTop ℚ)
  | .int n _ => some ((n : ℚ) : WithBotTop ℚ)
  | .float x => x.exactValue?

/-- The order of exact values. What has none comes after them, and is equal to its like. -/
def compareExact : Option (WithBotTop ℚ) → Option (WithBotTop ℚ) → Ordering
  | some a, some b => cmp a b
  | some _, none => .lt
  | none, some _ => .gt
  | none, none => .eq

/-! ## The numeric order -/

/-- A number is NaN, an infinity or a rational, and its place says which. -/
theorem exactValue?_place (x : Number) :
    (x.exactValue? = none ∧ x.place = (3, 0)) ∨ (x.exactValue? = some ⊥ ∧ x.place = (0, 0)) ∨
      (x.exactValue? = some ⊤ ∧ x.place = (2, 0)) ∨
      ∃ u : Int, x.exactValue? = some ((u / Double.unitsPerOne : ℚ) : WithBotTop ℚ) ∧
        x.place = (1, u) := by
  have hd : (Double.unitsPerOne : ℚ) ≠ 0 := by
    exact_mod_cast Double.unitsPerOne_pos.ne'
  rcases x with ⟨n, hn⟩ | _ | (_ | _) | ⟨s, e, f⟩
  · refine .inr (.inr (.inr ⟨n * Double.unitsPerOne, ?_, rfl⟩))
    rw [exactValue?, Int.cast_mul, Int.cast_natCast, mul_div_cancel_right₀ _ hd]
  · exact .inl ⟨rfl, rfl⟩
  · exact .inr (.inr (.inl ⟨rfl, rfl⟩))
  · exact .inr (.inl ⟨rfl, rfl⟩)
  · refine .inr (.inr (.inr ⟨_, ?_, rfl⟩))
    rw [exactValue?, Double.exactValue?, Double.rational_eq_units]

theorem cmp_div_unitsPerOne (u v : Int) :
    cmp ((u / Double.unitsPerOne : ℚ) : WithBotTop ℚ) ((v / Double.unitsPerOne : ℚ)) =
      compare u v := by
  have hd : (0 : ℚ) < Double.unitsPerOne := by
    exact_mod_cast Double.unitsPerOne_pos
  rw [WithBotTop.coe_strictMono.cmp_map_eq, div_eq_mul_inv, div_eq_mul_inv,
    cmp_mul_pos_right (inv_pos.mpr hd), Int.cast_strictMono.cmp_map_eq, cmp_eq_compare]

/-- **The numeric order is the order of exact values.** -/
theorem compareNumeric_eq_exact (x y : Number) :
    x.compareNumeric y = compareExact x.exactValue? y.exactValue? := by
  rw [compareNumeric_eq_place]
  rcases exactValue?_place x with ⟨hx, hpx⟩ | ⟨hx, hpx⟩ | ⟨hx, hpx⟩ | ⟨u, hx, hpx⟩ <;>
    rcases exactValue?_place y with ⟨hy, hpy⟩ | ⟨hy, hpy⟩ | ⟨hy, hpy⟩ | ⟨v, hy, hpy⟩ <;>
    rw [hx, hy, hpx, hpy]
  -- between two rationals their values decide, elsewhere the sections do
  case inr.inr.inr.inr.inr.inr => exact (cmp_div_unitsPerOne u v).symm
  all_goals rfl

end Number

/-- **A property that holds numbers is sorted by their exact values**: every finite float counts as
the rational number that it denotes, so that the two zeros are equal, the infinities lie beyond all
of these, and NaN, equal to itself, comes after every other number. -/
theorem compareValues_number_eq_exact (write : Value → String) (x y : Number) :
    compareValues write (some (.number x)) (some (.number y)) =
      Number.compareExact x.exactValue? y.exactValue? :=
  Number.compareNumeric_eq_exact x y

/-- A negative fraction is cut towards zero, and still comes before the integer it is cut to. -/
example : compareValues (fun _ => "") (some (.number (.float (.finite true 1024 1125899906842624))))
    (some (.number (.int (-2) (by decide)))) = .lt := by decide +kernel

end RecordQuery
