import RecordQuery.Proofs.Filter.Compilation
import RecordQuery.Proofs.Number.Rounding

/-!
# Integers in filters

An integer of a document has 64 bits, signed or unsigned. A filter looks for it as a signed integer
of 64 bits; an integer above these is looked for as its nearest float, and so are all items of a list
with such an integer or a float in it. So the integer of a record is told from another one exactly
where both are signed integers, or where it is below `2 ^ 53`, and elsewhere as far as the nearest
floats tell the two apart.

* `Test.run_among_eq_true_iff`: what membership asks of a property.
* `Test.run_promote_signed`, `Test.run_promote_floats`, `Test.run_promote_small`: what a list of
  numbers asks of an integer.
* `Predicate.holds_integer_iff`: what a field with an integer, or with a list of numbers, selects.
-/

namespace RecordQuery

/-! ## Signed integers -/

theorem Number.asInt64?_eq_some_iff {n : Number} {i : Int} :
    n.asInt64? = some i ↔ i ≤ Numeral.int64Max ∧ ∃ h, n = .int i h := by
  cases n with
  | float x => simp [asInt64?]
  | int m hm =>
    simp only [asInt64?, Option.ite_none_right_eq_some, Option.some.injEq, Number.int.injEq]
    constructor
    · rintro ⟨hle, rfl⟩
      exact ⟨hle, hm, rfl⟩
    · rintro ⟨hle, -, rfl⟩
      exact ⟨hle, rfl⟩

/-- The last integer that is taken for the float `2 ^ 63`. -/
def lastAtBound : Int := 9223372036854776832

/-- The greatest signed integer is asked for, and the integer at hand is above it and taken for
`2 ^ 63`. -/
def IsAtBound (asked n : Int) : Prop :=
  asked = Numeral.int64Max ∧ Numeral.int64Max < n ∧ n ≤ lastAtBound

/-- The float of an integer above the signed ones is above them as well, and by more than one unless
it is at the bound. -/
theorem le_of_toInt?_ofInt {n m : Int} (hn : FitsWord n) (hlarge : Numeral.int64Max < n)
    (h : (Double.ofInt n).toInt? = some m) :
    Numeral.int64Max + 1 ≤ m ∧ (lastAtBound < n → lastAtBound + 1024 ≤ m) := by
  have hunits := (Double.toInt?_eq_some_iff.mp h).2
  constructor
  · have hbound : FitsWord (Numeral.int64Max + 1) := by decide
    have hexact := Double.units_ofInt_of_dvd (k := 11) hbound (by decide) (by decide)
    exact Double.le_of_units_ofInt hbound hn hlarge hexact hunits
  · intro hpast
    -- the next integer after the last one at the bound is taken for the next float
    have hnext : Double.ofInt (lastAtBound + 1) = Double.ofInt (lastAtBound + 1024) := by
      decide +kernel
    have hexact := Double.units_ofInt_of_dvd (n := lastAtBound + 1024) (k := 11) (by decide)
      (by decide) (by decide)
    exact Double.le_of_units_ofInt (by decide) hn hpast
      ((congrArg Double.units hnext).trans hexact) hunits

theorem wholeInt64?_eq_some_iff {x : Double} {i : Int} :
    wholeInt64? x = some i ↔
      ∃ m, x.toInt? = some m ∧ (Numeral.int64Min ≤ m ∧ m ≤ Numeral.int64Max + 1) ∧
        min m Numeral.int64Max = i := by
  unfold wholeInt64?
  cases x.toInt? <;> simp

/-- The float of an unsigned integer is read as a signed one only at the bound. -/
theorem wholeInt64?_ofInt {n i : Int} (hn : FitsWord n) (hlarge : Numeral.int64Max < n)
    (h : wholeInt64? (Double.ofInt n) = some i) : i = Numeral.int64Max ∧ n ≤ lastAtBound := by
  obtain ⟨m, hm, hrange, rfl⟩ := wholeInt64?_eq_some_iff.mp h
  obtain ⟨hlow, hhigh⟩ := le_of_toInt?_ofInt hn hlarge hm
  refine ⟨Int.min_eq_right (by omega), ?_⟩
  by_contra hpast
  have hvalues : Numeral.int64Max + 1 < lastAtBound + 1024 := by decide
  have hle := hhigh (Int.not_le.mp hpast)
  omega

theorem coerce_number_eq_ok_iff {property : String} {n : Number} {kind : ValueKind}
    {x : FilterValue} :
    coerce property (.number n) kind = .ok (some x) ↔ coerceNumber? n kind = some x := by
  have hcoerce : coerce? (.number n) kind = coerceNumber? n kind := rfl
  have hnull : (Value.number n).isNull = false := rfl
  rw [coerce, hcoerce, hnull]
  cases coerceNumber? n kind <;> simp

/-- **An integer of a record, read as a signed integer**, is itself or at the bound. -/
theorem coerceNumber?_int {n : Int} (hn : FitsWord n) {x : FilterValue}
    (h : coerceNumber? (.int n hn) .int = some x) :
    (x = .int n ∧ n ≤ Numeral.int64Max) ∨
      x = .int Numeral.int64Max ∧ Numeral.int64Max < n ∧ n ≤ lastAtBound := by
  rw [coerceNumber?] at h
  split at h
  · rename_i i hi
    obtain ⟨hle, hfits, hsame⟩ := Number.asInt64?_eq_some_iff.mp hi
    cases hsame
    exact .inl ⟨(Option.some.inj h).symm, hle⟩
  · rename_i hnone
    have hlarge : Numeral.int64Max < n := by
      by_contra hle
      cases hnone.symm.trans (Number.asInt64?_eq_some_iff.mpr ⟨by omega, hn, rfl⟩)
    obtain ⟨i, hi, rfl⟩ := Option.map_eq_some_iff.mp h
    obtain ⟨rfl, hlast⟩ := wholeInt64?_ofInt hn hlarge hi
    exact .inr ⟨rfl, hlarge, hlast⟩

/-! ## Lists of numbers -/

namespace Number

/-- One of the items is numerically equal to the number. -/
def IsAmong (n : Number) (items : List Number) : Prop :=
  ∃ item ∈ items, item.compareNumeric n = .eq

/-- The nearest float of one of the items is that of the number. -/
def IsNearOf (n : Number) (items : List Number) : Prop :=
  ∃ item ∈ items, n.toDouble.compare? item.toDouble = some .eq

/-- **Below `2 ^ 53` the nearest floats tell an integer** from every other number. -/
theorem isNearOf_iff_isAmong {n : Int} (hn : FitsWord n) (hsmall : n.natAbs < 2 ^ 53)
    (items : List Number) : (int n hn).IsNearOf items ↔ (int n hn).IsAmong items := by
  refine exists_congr fun item => and_congr_right fun _ => ?_
  cases item with
  | int m hm =>
    show (Double.ofInt n).compare? (Double.ofInt m) = some .eq ↔ compare m n = .eq
    rw [compare_eq_iff_eq]
    constructor
    · exact fun h => (Double.eq_of_compare?_ofInt hm hsmall h).symm
    · rintro rfl
      exact (Double.compare?_ofInt_eq_iff hm hm).mpr rfl
  | float x =>
    show (Double.ofInt n).compare? x = some .eq ↔ (x.compareInt n).swap = .eq
    rw [Ordering.swap_eq_eq]
    by_cases hx : x = .nan
    · rw [hx]
      cases Double.ofInt n <;> simp [Double.compare?, Double.compareInt_nan]
    · rw [Double.compare?_ofInt_of_le hsmall.le hx, Option.some.injEq]

end Number

namespace FilterValue

theorem isNumeric_ofNumber (n : Number) : (ofNumber n).IsNumeric := by
  unfold ofNumber
  split
  · exact .inl rfl
  · exact .inr rfl

theorem kind_ofNumber_ne_list (n : Number) : (ofNumber n).kind ≠ .list := by
  intro hlist
  rcases isNumeric_ofNumber n with hkind | hkind <;> cases hkind.symm.trans hlist

theorem ofNumber_of_signed {n : Int} (hn : FitsWord n) (hle : n ≤ Numeral.int64Max) :
    ofNumber (.int n hn) = .int n := by
  rw [ofNumber, Number.asInt64?_eq_some_iff.mpr ⟨hle, hn, rfl⟩]

/-- An integer above the signed ones becomes its nearest float. -/
theorem ofNumber_of_large {n : Int} (hn : FitsWord n) (hlarge : Numeral.int64Max < n) :
    ofNumber (.int n hn) = .float (Double.ofInt n) := by
  have hnone : (Number.int n hn).asInt64? = none := if_neg (Int.not_le.mpr hlarge)
  rw [ofNumber, hnone, Number.toDouble]

theorem widened_ofNumber (n : Number) : (ofNumber n).widened = .float n.toDouble := by
  unfold ofNumber
  split
  · rename_i i hi
    obtain ⟨-, hfits, rfl⟩ := Number.asInt64?_eq_some_iff.mp hi
    rfl
  · rfl

theorem kind_ofNumber_eq_float_iff {n : Number} :
    (ofNumber n).kind = .float ↔ n.asInt64? = none := by
  unfold ofNumber
  cases n.asInt64? <;> simp [kind]

theorem ofItems_numbers (field : String) (items : List Number) :
    ofItems field (items.map .number) = .ok (items.map ofNumber) := by
  induction items with
  | nil => rfl
  | cons n items ih =>
    rw [List.map_cons, ofItems_cons_of_scalar rfl (kind_ofNumber_ne_list n), ih]
    rfl

end FilterValue

namespace Test

/-- **What membership asks of a property**: read as the kind of the items, it is equal to one. -/
theorem run_among_eq_true_iff {property : String} {raw : Value} {values : List FilterValue}
    {kind : ValueKind} (hkind : ∀ v ∈ values, v.kind = kind) :
    run property raw (.among values) = .ok true ↔
      ∃ v ∈ values, ∃ x, coerce property raw kind = .ok (some x) ∧ x.compare? v = some .eq := by
  cases values with
  | nil => simp [run]
  | cons first rest =>
    rw [run, hkind first List.mem_cons_self, map_eq_ok_iff]
    constructor
    · rintro ⟨x?, hx, hany⟩
      cases x? with
      | none => cases hany
      | some x =>
        obtain ⟨v, hv, hvx⟩ := List.any_eq_true.mp hany
        exact ⟨v, hv, x, hx, beq_iff_eq.mp hvx⟩
    · rintro ⟨v, hv, x, hx, hvx⟩
      exact ⟨some x, hx, List.any_eq_true.mpr ⟨v, hv, beq_iff_eq.mpr hvx⟩⟩

/-- Equality with a value is membership in the list of it alone. -/
theorem run_compare_eq (property : String) (raw : Value) (value : FilterValue) :
    run property raw (.compare .eq value) = run property raw (.among [value]) := by
  rw [run, run]
  refine congrArg (fun f => Except.map f (coerce property raw value.kind)) (funext fun x? => ?_)
  cases x? with
  | none => rfl
  | some x =>
    simp only [List.any_cons, List.any_nil, Bool.or_false]
    cases x.compare? value <;> rfl

/-- A list of numbers mixes no kinds. -/
theorem not_mixesKinds_numbers (items : List Number) :
    ¬ MixesKinds (items.map FilterValue.ofNumber) := by
  rintro ⟨v, hv, w, hw, -, hnot⟩
  obtain ⟨n, -, rfl⟩ := List.mem_map.mp hv
  obtain ⟨m, -, rfl⟩ := List.mem_map.mp hw
  exact hnot ⟨FilterValue.isNumeric_ofNumber n, FilterValue.isNumeric_ofNumber m⟩

variable {property : String} {n : Int} {hn : FitsWord n} {items : List Number}

/-- A list of signed integers is asked for as it is. -/
theorem run_among_signed (hsigned : ∀ item ∈ items, item.asInt64? ≠ none)
    (hbound : ∀ asked h, .int asked h ∈ items → ¬ IsAtBound asked n) :
    run property (.number (.int n hn)) (.among (items.map FilterValue.ofNumber)) = .ok true ↔
      (Number.int n hn).IsAmong items := by
  have hitem : ∀ item ∈ items, ∃ i h, i ≤ Numeral.int64Max ∧ item = .int i h ∧
      FilterValue.ofNumber item = .int i := by
    intro item hmem
    obtain ⟨i, hi⟩ := Option.ne_none_iff_exists'.mp (hsigned item hmem)
    obtain ⟨hle, h, rfl⟩ := Number.asInt64?_eq_some_iff.mp hi
    exact ⟨i, h, hle, rfl, by rw [FilterValue.ofNumber, hi]⟩
  have hkind : ∀ v ∈ items.map FilterValue.ofNumber, v.kind = .int := by
    refine List.forall_mem_map.mpr fun item hmem => ?_
    obtain ⟨i, h, -, -, hvalue⟩ := hitem item hmem
    rw [hvalue]
    rfl
  rw [run_among_eq_true_iff hkind, Number.IsAmong]
  simp only [List.mem_map, exists_exists_and_eq_and, coerce_number_eq_ok_iff]
  refine exists_congr fun item => and_congr_right fun hmem => ?_
  obtain ⟨i, h, hle, rfl, hvalue⟩ := hitem item hmem
  show _ ↔ Ord.compare i n = Ordering.eq
  rw [hvalue, compare_eq_iff_eq]
  constructor
  · rintro ⟨x, hx, hcompare⟩
    rcases coerceNumber?_int hn hx with ⟨rfl, -⟩ | ⟨rfl, hlarge, hlast⟩
    · exact (compare_eq_iff_eq.mp (Option.some.inj hcompare)).symm
    · have hasked := compare_eq_iff_eq.mp (Option.some.inj hcompare)
      exact absurd ⟨hasked.symm, hlarge, hlast⟩ (hbound i h hmem)
  · rintro rfl
    refine ⟨.int i, ?_, congrArg some (compare_eq_iff_eq.mpr rfl)⟩
    rw [coerceNumber?, Number.asInt64?_eq_some_iff.mpr ⟨hle, hn, rfl⟩]

/-- A list of floats is compared with the nearest float. -/
theorem run_among_floats :
    run property (.number (.int n hn)) (.among (items.map fun item => .float item.toDouble)) =
        .ok true ↔ (Number.int n hn).IsNearOf items := by
  have hkind : ∀ v ∈ items.map fun item => FilterValue.float item.toDouble, v.kind = .float :=
    List.forall_mem_map.mpr fun _ _ => rfl
  rw [run_among_eq_true_iff hkind, Number.IsNearOf]
  simp only [List.mem_map, exists_exists_and_eq_and, coerce_number_eq_ok_iff]
  refine exists_congr fun item => and_congr_right fun _ => ?_
  constructor
  · rintro ⟨x, hx, hcompare⟩
    obtain rfl := Option.some.inj hx
    exact hcompare
  · exact fun h => ⟨_, rfl, h⟩

theorem exists_float_iff :
    (∃ v ∈ items.map FilterValue.ofNumber, v.kind = .float) ↔ ∃ item ∈ items, item.asInt64? = none := by
  simp only [List.mem_map, exists_exists_and_eq_and, FilterValue.kind_ofNumber_eq_float_iff]

/-- **A list of numbers that are not all signed integers** asks for the nearest floats. -/
theorem run_promote_floats (hfloat : ∃ item ∈ items, item.asInt64? = none) :
    run property (.number (.int n hn)) (.among (promote (items.map FilterValue.ofNumber))) =
        .ok true ↔ (Number.int n hn).IsNearOf items := by
  have hwidened : (items.map FilterValue.ofNumber).map FilterValue.widened =
      items.map fun item => .float item.toDouble := by
    rw [List.map_map]
    exact List.map_congr_left fun item _ => FilterValue.widened_ofNumber item
  rw [promote_of_float (exists_float_iff.mpr hfloat), hwidened]
  exact run_among_floats

/-- **A list of signed integers** asks for the integers themselves. -/
theorem run_promote_signed (hsigned : ∀ item ∈ items, item.asInt64? ≠ none)
    (hbound : ∀ asked h, .int asked h ∈ items → ¬ IsAtBound asked n) :
    run property (.number (.int n hn)) (.among (promote (items.map FilterValue.ofNumber))) =
        .ok true ↔ (Number.int n hn).IsAmong items := by
  have hfloat : ¬ ∃ item ∈ items, item.asInt64? = none := fun ⟨item, hmem, h⟩ => hsigned item hmem h
  rw [promote_of_no_float (fun h => hfloat (exists_float_iff.mp h))]
  exact run_among_signed hsigned hbound

/-- **Below `2 ^ 53` every list of numbers** asks for what is numerically equal. -/
theorem run_promote_small (hsmall : n.natAbs < 2 ^ 53) :
    run property (.number (.int n hn)) (.among (promote (items.map FilterValue.ofNumber))) =
        .ok true ↔ (Number.int n hn).IsAmong items := by
  by_cases hfloat : ∃ item ∈ items, item.asInt64? = none
  · exact (run_promote_floats hfloat).trans (Number.isNearOf_iff_isAmong hn hsmall items)
  · refine run_promote_signed (fun item hmem h => hfloat ⟨item, hmem, h⟩) ?_
    rintro asked h - ⟨-, hlarge, -⟩
    unfold Numeral.int64Max at hlarge
    omega

end Test

/-! ## Fields -/

namespace Predicate

variable {schema : Schema} {r : Record}

/-- A filter of one field, from the field to its test of a property that is present. -/
theorem exists_run_of_ofEntry {key raw v : Value} {d : Descriptor} {test : Test}
    (hentry : Descriptor.ofEntry .standard schema key raw = .ok (some d))
    (htest : Test.ofDescriptor d = .ok test) (hr : r.find? d.property = some v) :
    ∃ p, Descriptor.ofFields .standard schema [(key, raw)] = .ok [d] ∧ compile schema [d] = .ok p ∧
      p.holds r = test.run d.property v := by
  have hbound := List.forall_mem_singleton.mpr (Descriptor.ofEntry_isBound hentry)
  refine ⟨⟨[⟨d.property, test⟩]⟩, ?_, ?_, ?_⟩
  · exact Descriptor.ofFields_cons_eq_ok_iff.mpr ⟨some d, [], hentry, rfl, rfl⟩
  · exact (compile_eq_ok_iff_of_isBound hbound).mpr (.cons ⟨rfl, htest⟩ .nil)
  · rw [holds_singleton, Fragment.holds, hr]

variable {name property : String} {n : Int} {hn : FitsWord n}

/-- A field with an integer asks for the list of it alone. -/
theorem exists_run_equal (hproperty : schema.resolve? name = some property)
    (hr : r.find? property = some (.number (.int n hn)))
    (hplain : ∀ p, ¬ PrefixTable.standard.Starts p name) (a : Int) (ha : FitsWord a) :
    ∃ d p, Descriptor.ofFields .standard schema [(.text name, .number (.int a ha))] = .ok [d] ∧
      d.comparison = .equal ∧ compile schema [d] = .ok p ∧
      p.holds r = Test.run property (.number (.int n hn))
        (.among (Test.promote ([Number.int a ha].map FilterValue.ofNumber))) := by
  have hentry : Descriptor.ofEntry .standard schema (.text name) (.number (.int a ha)) =
      .ok (some ⟨name, none, property, .equal, FilterValue.ofNumber (.int a ha)⟩) :=
    Descriptor.ofEntry_of_split (Descriptor.split_of_plain hplain) rfl hproperty rfl
  have hkind := FilterValue.kind_ofNumber_ne_list (.int a ha)
  obtain ⟨p, hbind, hcompile, hholds⟩ := exists_run_of_ofEntry hentry
    (Test.ofDescriptor_of_relation (rfl : Test.relation? .equal = some .eq) hkind) hr
  refine ⟨_, p, hbind, rfl, hcompile, hholds.trans ?_⟩
  rw [List.map_singleton, Test.promote_singleton]
  exact Test.run_compare_eq _ _ _

/-- A field with a list of numbers asks for the list. -/
theorem exists_run_membership (hproperty : schema.resolve? name = some property)
    (hr : r.find? property = some (.number (.int n hn))) (items : List Number) :
    ∃ d p, Descriptor.ofFields .standard schema
        [(.text ("List" ++ name), .sequence (items.map .number))] = .ok [d] ∧
      d.comparison = .membership ∧ compile schema [d] = .ok p ∧
      p.holds r = Test.run property (.number (.int n hn))
        (.among (Test.promote (items.map FilterValue.ofNumber))) := by
  have hsplit : Descriptor.split .standard ("List" ++ name) = (some .among, name) :=
    Descriptor.split_spelling_append PrefixTable.isPrefixFree_standard .among name
  have hlist : FilterValue.ofValue ("List" ++ name) (.sequence (items.map .number)) =
      .ok (some (.list (items.map FilterValue.ofNumber))) := by
    rw [FilterValue.ofValue, FilterValue.ofItems_numbers]
    rfl
  have hentry : Descriptor.ofEntry .standard schema (.text ("List" ++ name))
        (.sequence (items.map .number)) =
      .ok (some ⟨"List" ++ name, some .among, property, .membership,
        .list (items.map FilterValue.ofNumber)⟩) :=
    Descriptor.ofEntry_of_split hsplit rfl hproperty hlist
  have htest : Test.membership ⟨"List" ++ name, some .among, property, .membership,
        .list (items.map FilterValue.ofNumber)⟩ =
      .ok (.among (Test.promote (items.map FilterValue.ofNumber))) :=
    Test.membership_eq_ok_iff.mpr
      ⟨Test.oddKind?_promote_eq_none_iff.mpr (Test.not_mixesKinds_numbers items), rfl⟩
  obtain ⟨p, hbind, hcompile, hholds⟩ := exists_run_of_ofEntry hentry htest hr
  exact ⟨_, p, hbind, rfl, hcompile, hholds⟩

/-- **What a field with an integer, or with a list of numbers, selects.** Both bind and compile.
Where all numbers that are asked for are signed integers of 64 bits, a record with an integer is
selected iff its integer is asked for; nothing is said of the greatest signed integer and the
integers above it that are taken for `2 ^ 63`. Where one of the numbers is a float, or an integer
above the signed ones, which is read as a float, the record is selected iff the nearest floats are
equal. An integer below `2 ^ 53` is selected iff a number of its value is asked for, in all cases. -/
theorem holds_integer_iff (hproperty : schema.resolve? name = some property)
    (hr : r.find? property = some (.number (.int n hn))) :
    ((∀ p, ¬ PrefixTable.standard.Starts p name) → ∀ a (ha : FitsWord a), ∃ d p,
      Descriptor.ofFields .standard schema [(.text name, .number (.int a ha))] = .ok [d] ∧
      d.comparison = .equal ∧ compile schema [d] = .ok p ∧
      (a ≤ Numeral.int64Max → ¬ IsAtBound a n → (p.holds r = .ok true ↔ a = n)) ∧
      (Numeral.int64Max < a →
        (p.holds r = .ok true ↔ (Double.ofInt n).compare? (Double.ofInt a) = some .eq)) ∧
      (n.natAbs < 2 ^ 53 → (p.holds r = .ok true ↔ a = n))) ∧
    ∀ items : List Number, ∃ d p,
      Descriptor.ofFields .standard schema
        [(.text ("List" ++ name), .sequence (items.map .number))] = .ok [d] ∧
      d.comparison = .membership ∧ compile schema [d] = .ok p ∧
      ((∀ item ∈ items, item.asInt64? ≠ none) →
        (∀ asked h, .int asked h ∈ items → ¬ IsAtBound asked n) →
        (p.holds r = .ok true ↔ (Number.int n hn).IsAmong items)) ∧
      ((∃ item ∈ items, item.asInt64? = none) →
        (p.holds r = .ok true ↔ (Number.int n hn).IsNearOf items)) ∧
      (n.natAbs < 2 ^ 53 → (p.holds r = .ok true ↔ (Number.int n hn).IsAmong items)) := by
  refine ⟨fun hplain a ha => ?_, fun items => ?_⟩
  · obtain ⟨d, p, hbind, hcomparison, hcompile, hholds⟩ := exists_run_equal hproperty hr hplain a ha
    have hamong : (Number.int n hn).IsAmong [.int a ha] ↔ a = n := by
      simp only [Number.IsAmong, List.mem_singleton, exists_eq_left]
      exact compare_eq_iff_eq
    refine ⟨d, p, hbind, hcomparison, hcompile, ?_⟩
    rw [← hamong, hholds]
    refine ⟨fun hle hbound => ?_, fun hlarge => ?_, Test.run_promote_small⟩
    · refine Test.run_promote_signed (List.forall_mem_singleton.mpr ?_) ?_
      · rw [Number.asInt64?_eq_some_iff.mpr ⟨hle, ha, rfl⟩]
        exact Option.some_ne_none a
      · intro asked h hmem
        cases List.mem_singleton.mp hmem
        exact hbound
    · refine (Test.run_promote_floats ⟨_, List.mem_singleton_self _, ?_⟩).trans ?_
      · rw [Number.asInt64?, if_neg (by omega)]
      · simp only [Number.IsNearOf, List.mem_singleton, exists_eq_left]
        exact Iff.rfl
  · obtain ⟨d, p, hbind, hcomparison, hcompile, hholds⟩ := exists_run_membership hproperty hr items
    refine ⟨d, p, hbind, hcomparison, hcompile, ?_⟩
    rw [hholds]
    exact ⟨Test.run_promote_signed, Test.run_promote_floats, Test.run_promote_small⟩

/-- The property that the fields below ask for. -/
def idSchema : Schema := ⟨"Entity", ["Id"]⟩

/-- A record of one integer. -/
def idRow (n : Int) (hn : FitsWord n) : Record := ⟨[(.text "Id", .number (.int n hn))]⟩

/-- The number one half. -/
def half : Double := .finite false ⟨1022, by decide⟩ ⟨0, by decide⟩

theorem resolve?_id : idSchema.resolve? "Id" = some "Id" := by cbv

theorem find?_idRow (n : Int) (hn : FitsWord n) :
    (idRow n hn).find? "Id" = some (.number (.int n hn)) := by
  simp [idRow, Record.find?, Mapping.findText?, Mapping.find?, Value.same]

theorem not_starts_id : ∀ p, ¬ PrefixTable.standard.Starts p "Id" := by
  intro p
  cases p <;> decide

/-- The least positive integer that is no float is told from every other signed integer. -/
theorem holds_integer_iff_no_float :
    idSchema.resolve? "Id" = some "Id" ∧ (∀ p, ¬ PrefixTable.standard.Starts p "Id") ∧
      ∀ a (ha : FitsWord a), ∃ d p,
        Descriptor.ofFields .standard idSchema [(.text "Id", .number (.int a ha))] = .ok [d] ∧
        compile idSchema [d] = .ok p ∧
        (a ≤ Numeral.int64Max →
          (p.holds (idRow 9007199254740993 (by decide)) = .ok true ↔ a = 9007199254740993)) := by
  refine ⟨resolve?_id, not_starts_id, fun a ha => ?_⟩
  obtain ⟨d, p, hbind, -, hcompile, hsigned, -, -⟩ :=
    (holds_integer_iff resolve?_id (find?_idRow 9007199254740993 (by decide))).1 not_starts_id a ha
  have hbound : ¬ IsAtBound a 9007199254740993 := fun h => absurd h.2.1 (by decide)
  exact ⟨d, p, hbind, hcompile, fun hle => hsigned hle hbound⟩

/-- Two unsigned integers have one nearest float, and one half makes a list ask for floats: in both
cases a record with another integer than the ones asked for is selected. -/
theorem exists_holds_of_unequal :
    (∃ d p, Descriptor.ofFields .standard idSchema
        [(.text "Id", .number (.int 18446744073709551615 (by decide)))] = .ok [d] ∧
      d.comparison = .equal ∧ compile idSchema [d] = .ok p ∧
      p.holds (idRow 18446744073709551614 (by decide)) = .ok true) ∧
    (18446744073709551615 : Int) ≠ 18446744073709551614 ∧
    (∃ d p, Descriptor.ofFields .standard idSchema [(.text ("List" ++ "Id"),
        .sequence ([Number.int 9007199254740993 (by decide), .float half].map .number))] = .ok [d] ∧
      d.comparison = .membership ∧ compile idSchema [d] = .ok p ∧
      p.holds (idRow 9007199254740992 (by decide)) = .ok true) ∧
    ¬ (Number.int 9007199254740992 (by decide)).IsAmong
      [.int 9007199254740993 (by decide), .float half] := by
  refine ⟨?_, by decide, ?_, ?_⟩
  · obtain ⟨d, p, hbind, hcomparison, hcompile, hholds⟩ := exists_run_equal resolve?_id
      (find?_idRow 18446744073709551614 (by decide)) not_starts_id 18446744073709551615 (by decide)
    refine ⟨d, p, hbind, hcomparison, hcompile, hholds.trans (Test.run_promote_floats ?_ |>.mpr ?_)⟩
    · exact ⟨_, List.mem_cons_self, by decide⟩
    · exact ⟨_, List.mem_cons_self, by decide +kernel⟩
  · obtain ⟨d, p, hbind, hcomparison, hcompile, hholds⟩ := exists_run_membership resolve?_id
      (find?_idRow 9007199254740992 (by decide))
      [.int 9007199254740993 (by decide), .float half]
    refine ⟨d, p, hbind, hcomparison, hcompile, hholds.trans (Test.run_promote_floats ?_ |>.mpr ?_)⟩
    · exact ⟨_, List.mem_cons_of_mem _ List.mem_cons_self, by decide⟩
    · exact ⟨_, List.mem_cons_self, by decide +kernel⟩
  · unfold Number.IsAmong
    decide +kernel

end Predicate

end RecordQuery
