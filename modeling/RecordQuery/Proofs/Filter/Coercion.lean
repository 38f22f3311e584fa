import RecordQuery.Proofs.Filter.Integers
import RecordQuery.Proofs.Order.Exact

/-!
# Numbers read as integers

A number of a property is read as a signed integer of 64 bits if its exact value is one, and cannot
be read otherwise. The test whether a float is in range has the upper bound itself as a float, and
the greatest signed integer, taken as a float, is `2 ^ 63`, one more than that integer. So `2 ^ 63`
passes, and the cast that follows lowers it: this float, and the unsigned integers whose nearest
float it is, are read as the greatest signed integer, which none of them is.

* `Double.exactValue?_eq_int_iff`: the floats that are integers are those without a fraction.
* `wholeInt64?_eq_some_iff_or`: what a float is read as.
* `coerceNumber?_int_eq_some_iff`: what a number is read as.
* `coerce_int_iff`: both, and the failure of all other numbers.
-/

namespace RecordQuery

/-! ## Numbers that are integers -/

/-- A finite float is an integer iff it has no fraction. -/
theorem Double.exactValue?_eq_int_iff {x : Double} {n : Int} :
    x.exactValue? = some ((n : ℚ) : WithBotTop ℚ) ↔ x.toInt? = some n := by
  rw [toInt?_eq_some_iff]
  rcases x with _ | (_ | _) | ⟨s, e, f⟩
  · simp [exactValue?, isFinite]
  · simp [exactValue?, isFinite, (WithBotTop.coe_ne_top (n : ℚ)).symm]
  · simp [exactValue?, isFinite, (WithBotTop.coe_ne_bot (n : ℚ)).symm]
  · have hd : (unitsPerOne : ℚ) ≠ 0 := by
      exact_mod_cast unitsPerOne_pos.ne'
    rw [exactValue?, rational_eq_units, Option.some.injEq, WithBotTop.coe_injective.eq_iff,
      div_eq_iff hd]
    simp only [isFinite, true_and]
    exact_mod_cast Iff.rfl

namespace Number

/-- The exact value of the number is the integer. -/
def IsInteger (n : Number) (i : Int) : Prop := n.exactValue? = some ((i : ℚ) : WithBotTop ℚ)

/-- The number is no signed integer, and is taken for `2 ^ 63` as a float. -/
def IsTakenForBound : Number → Prop
  | .int n _ => Numeral.int64Max < n ∧ n ≤ lastAtBound
  | .float x => (float x).IsInteger (Numeral.int64Max + 1)

theorem isInteger_int_iff {n i : Int} {hn : FitsWord n} : (int n hn).IsInteger i ↔ n = i := by
  rw [IsInteger, exactValue?, Option.some.injEq, WithBotTop.coe_injective.eq_iff, Int.cast_inj]

theorem isInteger_float_iff {x : Double} {i : Int} :
    (float x).IsInteger i ↔ x.toInt? = some i :=
  Double.exactValue?_eq_int_iff

end Number

/-! ## The bound -/

/-- Every integer from `2 ^ 63` to the last one at the bound has the float `2 ^ 63`. -/
theorem toInt?_ofInt_of_atBound {n : Int} (hn : FitsWord n) (hlarge : Numeral.int64Max < n)
    (hlast : n ≤ lastAtBound) : (Double.ofInt n).toInt? = some (Numeral.int64Max + 1) := by
  have hbound : FitsWord (Numeral.int64Max + 1) := by decide
  have hexact := Double.units_ofInt_of_dvd (k := 11) hbound (by decide) (by decide)
  have hsame : Double.ofInt lastAtBound = Double.ofInt (Numeral.int64Max + 1) := by decide +kernel
  -- the float lies between those of the two ends, which are one
  have hlow := Double.units_ofInt_mono hbound hn hlarge
  have hhigh := Double.units_ofInt_mono hn (by decide : FitsWord lastAtBound) hlast
  rw [hsame] at hhigh
  exact Double.toInt?_eq_some_iff.mpr
    ⟨Double.isFinite_ofInt hn, (le_antisymm hhigh hlow).trans hexact⟩

theorem wholeInt64?_ofInt_eq_some_iff {n i : Int} (hn : FitsWord n)
    (hlarge : Numeral.int64Max < n) :
    wholeInt64? (Double.ofInt n) = some i ↔ n ≤ lastAtBound ∧ i = Numeral.int64Max := by
  constructor
  · exact fun h => (wholeInt64?_ofInt hn hlarge h).symm
  · rintro ⟨hlast, rfl⟩
    exact wholeInt64?_eq_some_iff.mpr
      ⟨_, toInt?_ofInt_of_atBound hn hlarge hlast, by decide, by decide⟩

theorem isInt64_iff {i : Int} :
    Numeral.isInt64 i = true ↔ Numeral.int64Min ≤ i ∧ i ≤ Numeral.int64Max := by
  rw [Numeral.isInt64, Bool.and_eq_true, decide_eq_true_eq, decide_eq_true_eq]

/-- A float is read as the integer that it is, if that is signed, and `2 ^ 63` as the one before. -/
theorem wholeInt64?_eq_some_iff_or {x : Double} {i : Int} :
    wholeInt64? x = some i ↔ (x.toInt? = some i ∧ Numeral.isInt64 i = true) ∨
      x.toInt? = some (Numeral.int64Max + 1) ∧ i = Numeral.int64Max := by
  rw [wholeInt64?_eq_some_iff, isInt64_iff]
  constructor
  · rintro ⟨m, hm, ⟨hlow, hhigh⟩, rfl⟩
    rcases Int.lt_or_le Numeral.int64Max m with hlarge | hle
    · obtain rfl : m = Numeral.int64Max + 1 := by omega
      exact .inr ⟨hm, by decide⟩
    · rw [min_eq_left hle]
      exact .inl ⟨hm, hlow, hle⟩
  · rintro (⟨hi, hlow, hhigh⟩ | ⟨hbound, rfl⟩)
    · exact ⟨i, hi, ⟨hlow, by omega⟩, min_eq_left hhigh⟩
    · exact ⟨_, hbound, by decide, by decide⟩

/-! ## Coercion to an integer -/

/-- **A number is read as a signed integer iff that is its exact value**, but for the numbers that
are taken for `2 ^ 63`, which are read as the integer before. -/
theorem coerceNumber?_int_eq_some_iff {n : Number} {i : Int} :
    coerceNumber? n .int = some (.int i) ↔
      (n.IsInteger i ∧ Numeral.isInt64 i = true) ∨ n.IsTakenForBound ∧ i = Numeral.int64Max := by
  cases n with
  | float x =>
    rw [Number.IsTakenForBound, Number.isInteger_float_iff, Number.isInteger_float_iff,
      ← wholeInt64?_eq_some_iff_or]
    simp [coerceNumber?, Number.asInt64?, Number.toDouble]
  | int m hm =>
    rw [Number.isInteger_int_iff, Number.IsTakenForBound, isInt64_iff]
    rcases Int.lt_or_le Numeral.int64Max m with hlarge | hle
    · have hnone : (Number.int m hm).asInt64? = none := if_neg (Int.not_le.mpr hlarge)
      have hread : coerceNumber? (.int m hm) .int = some (.int i) ↔
          wholeInt64? (Double.ofInt m) = some i := by
        simp [coerceNumber?, hnone, Number.toDouble]
      rw [hread, wholeInt64?_ofInt_eq_some_iff hm hlarge]
      constructor
      · rintro ⟨hlast, hi⟩
        exact .inr ⟨⟨hlarge, hlast⟩, hi⟩
      · rintro (⟨rfl, -, hi⟩ | ⟨⟨-, hlast⟩, hi⟩)
        · exact absurd hlarge (Int.not_lt.mpr hi)
        · exact ⟨hlast, hi⟩
    · have hsome : (Number.int m hm).asInt64? = some m := if_pos hle
      rw [coerceNumber?, hsome, Option.some.injEq, FilterValue.int.injEq]
      constructor
      · rintro rfl
        exact .inl ⟨rfl, hm.1, hle⟩
      · rintro (⟨rfl, -⟩ | ⟨⟨hlarge, -⟩, -⟩)
        · rfl
        · exact absurd hlarge (Int.not_lt.mpr hle)

/-- A number that cannot be read as an integer is read as nothing at all. -/
theorem coerceNumber?_int_eq_none_iff {n : Number} :
    coerceNumber? n .int = none ↔ ∀ i, coerceNumber? n .int ≠ some (.int i) := by
  rw [coerceNumber?]
  cases n.asInt64? with
  | some i => simp
  | none => cases wholeInt64? n.toDouble <;> simp

theorem coerce_number_eq_error_iff {property : String} {n : Number} {kind : ValueKind} :
    coerce property (.number n) kind =
        .error (.coercionFailure property kind (Finding.ofValue (.number n))) ↔
      coerceNumber? n kind = none := by
  have hcoerce : coerce? (.number n) kind = coerceNumber? n kind := rfl
  have hnull : (Value.number n).isNull = false := rfl
  rw [coerce, hcoerce, hnull]
  cases coerceNumber? n kind <;> simp

/-- **Coercion of a number to an integer.** It gives a signed integer of 64 bits iff that integer is
the exact value of the number, and a failure that names the property, the kind and the number iff
there is no such integer: fractions, NaN, the infinities and all that is out of range. The numbers
that are taken for `2 ^ 63`, which are out of range, are let through as the greatest signed
integer. -/
theorem coerce_int_iff (property : String) (n : Number) :
    (∀ i, coerce property (.number n) .int = .ok (some (.int i)) ↔
        (n.IsInteger i ∧ Numeral.isInt64 i = true) ∨
          n.IsTakenForBound ∧ i = Numeral.int64Max) ∧
      (coerce property (.number n) .int =
          .error (.coercionFailure property .int (Finding.ofValue (.number n))) ↔
        (¬ ∃ i, n.IsInteger i ∧ Numeral.isInt64 i = true) ∧ ¬ n.IsTakenForBound) := by
  refine ⟨fun i => coerce_number_eq_ok_iff.trans coerceNumber?_int_eq_some_iff, ?_⟩
  rw [coerce_number_eq_error_iff, coerceNumber?_int_eq_none_iff]
  simp only [ne_eq, coerceNumber?_int_eq_some_iff, not_or, forall_and, ← not_exists,
    exists_and_left, exists_eq, and_true]

/-- The least unsigned integer that is not signed, and the float of the same value, are read as the
integer before. -/
theorem exists_coerce_past_range :
    ∃ n : Number, coerce "Id" (.number n) .int = .ok (some (.int 9223372036854775807)) ∧
      coerce "Id" (.number (.float n.toDouble)) .int = .ok (some (.int 9223372036854775807)) ∧
      n.IsInteger 9223372036854775808 ∧ (Number.float n.toDouble).IsInteger 9223372036854775808 ∧
      Numeral.isInt64 9223372036854775808 = false ∧
      ∀ i, n.IsInteger i → i = 9223372036854775808 := by
  have hfloat : (Number.float (Double.ofInt 9223372036854775808)).IsInteger 9223372036854775808 :=
    Number.isInteger_float_iff.mpr (by decide +kernel)
  have hcoerce (n : Number) (hn : n.IsTakenForBound) :
      coerce "Id" (.number n) .int = .ok (some (.int Numeral.int64Max)) :=
    coerce_number_eq_ok_iff.mpr (coerceNumber?_int_eq_some_iff.mpr (.inr ⟨hn, rfl⟩))
  refine ⟨.int 9223372036854775808 (by decide), ?_, ?_, ?_, hfloat, by decide, ?_⟩
  · exact hcoerce _ ⟨by decide, by decide⟩
  · exact hcoerce (.float _) hfloat
  · exact Number.isInteger_int_iff.mpr rfl
  · exact fun i hi => (Number.isInteger_int_iff.mp hi).symm

end RecordQuery
