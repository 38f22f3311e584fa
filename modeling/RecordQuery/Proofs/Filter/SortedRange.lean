import RecordQuery.Proofs.Filter.ByExample
import RecordQuery.Proofs.Filter.Coercion
import RecordQuery.Proofs.Number.Nearest
import RecordQuery.Proofs.Query.Selection

/-!
# Bounds cut the sorted order in one place

A bound reads a number as the kind of its value: as a signed integer, where floats are cast and
what is taken for `2 ^ 63` is lowered, or as the nearest float. Sorting compares numbers exactly.
The two agree on the direction: neither reading turns two numbers around, so what a lower bound
selects of a sorted list is an end of it, and what an upper bound selects is a beginning.

* `coerceNumber?_int_eq_min`: an integer is read as itself or lowered.
* `FilterValue.compare?_mono`: readings of numbers in order are in order with every value.
* `Test.run_range_mono`: bounds on numbers in order.
* `Predicate.accepted_range_of_sorted`: bounds on a sorted list.
-/

namespace RecordQuery

/-! ## Along a sorted list -/

section Sorted

variable {α : Type} {p : α → Bool} {l : List α}

/-- What holds of everything after something that it holds of, selects an end of the list. -/
theorem filter_suffix_of_pairwise (h : l.Pairwise fun a b => p a = true → p b = true) :
    l.filter p <:+ l := by
  induction l with
  | nil => exact List.suffix_rfl
  | cons a l ih =>
    obtain ⟨ha, hl⟩ := List.pairwise_cons.mp h
    by_cases hpa : p a = true
    · rw [List.filter_cons_of_pos hpa, List.filter_eq_self.mpr fun b hb => ha b hb hpa]
    · rw [List.filter_cons_of_neg hpa]
      exact (ih hl).trans (List.suffix_cons a l)

/-- What holds of everything before something that it holds of, selects a beginning. -/
theorem filter_prefix_of_pairwise (h : l.Pairwise fun a b => p b = true → p a = true) :
    l.filter p <+: l := by
  induction l with
  | nil => exact List.prefix_rfl
  | cons a l ih =>
    obtain ⟨ha, hl⟩ := List.pairwise_cons.mp h
    by_cases hpa : p a = true
    · rw [List.filter_cons_of_pos hpa]
      exact (List.prefix_cons_inj a).mpr (ih hl)
    · rw [List.filter_cons_of_neg hpa, List.filter_eq_nil_iff.mpr fun b hb hpb => hpa (ha b hb hpb)]
      exact List.nil_prefix

end Sorted

/-! ## Readings in order -/

namespace Relation

variable {α : Type} {cmp : α → α → Ordering} [Std.TransCmp cmp] {x y v : α}

/-- A lower bound of something is one of what comes after it. -/
theorem ge_holds_of_le (hxy : cmp x y ≠ .gt) (h : ge.holds (cmp x v) = true) :
    ge.holds (cmp y v) = true := by
  have hyx : (cmp y x).isGE = true :=
    Std.OrientedCmp.isGE_iff_isLE.mpr (Ordering.isLE_iff_ne_gt.mpr hxy)
  have hxv : (cmp x v).isGE = true := Ordering.isGE_iff_ne_lt.mpr (bne_iff_ne.mp h)
  exact bne_iff_ne.mpr (Ordering.isGE_iff_ne_lt.mp (Std.TransCmp.isGE_trans hyx hxv))

/-- An upper bound of something is one of what comes before it. -/
theorem le_holds_of_le (hxy : cmp x y ≠ .gt) (h : le.holds (cmp y v) = true) :
    le.holds (cmp x v) = true := by
  have hxy : (cmp x y).isLE = true := Ordering.isLE_iff_ne_gt.mpr hxy
  have hyv : (cmp y v).isLE = true := Ordering.isLE_iff_ne_gt.mpr (bne_iff_ne.mp h)
  exact bne_iff_ne.mpr (Ordering.isLE_iff_ne_gt.mp (Std.TransCmp.isLE_trans hxy hyv))

end Relation

instance : Std.TransCmp Number.compareFloats := transCmp_comap Number.compareNumeric Number.float

/-- **A number is read as a signed integer by lowering its exact value**, if anything. -/
theorem coerceNumber?_int_eq_min {n : Number} {i : Int}
    (h : coerceNumber? n .int = some (.int i)) :
    ∃ a, n.IsInteger a ∧ i = min a Numeral.int64Max := by
  rcases coerceNumber?_int_eq_some_iff.mp h with ⟨hi, hrange⟩ | ⟨hbound, rfl⟩
  · exact ⟨i, hi, (min_eq_left (isInt64_iff.mp hrange).2).symm⟩
  · cases n with
    | int m hm => exact ⟨m, Number.isInteger_int_iff.mpr rfl, (min_eq_right hbound.1.le).symm⟩
    | float x => exact ⟨Numeral.int64Max + 1, hbound, by decide⟩

/-- Integers in their exact order are in order. -/
theorem Number.IsInteger.le {m n : Number} {a b : Int} (hm : m.IsInteger a) (hn : n.IsInteger b)
    (h : m.compareNumeric n ≠ .gt) : a ≤ b := by
  rw [compareNumeric_eq_exact, hm, hn] at h
  by_contra hlt
  refine h (cmp_eq_gt_iff _ _ |>.mpr (WithBotTop.coe_strictMono ?_))
  exact_mod_cast not_le.mp hlt

/-- A number is read as an integer, or as nothing. -/
theorem exists_int_of_coerceNumber? {n : Number} {x : FilterValue}
    (h : coerceNumber? n .int = some x) : ∃ i, x = .int i := by
  rw [coerceNumber?] at h
  split at h
  · exact ⟨_, (Option.some.inj h).symm⟩
  · obtain ⟨i, -, rfl⟩ := Option.map_eq_some_iff.mp h
    exact ⟨i, rfl⟩

/-- **Readings of two numbers in order** are in order with every integer or float: the second is not
below what the first is not below, and the first is not above what the second is not above. -/
theorem FilterValue.compare?_mono {v x y : FilterValue} (hv : v.IsNumeric) {m n : Number}
    (hm : m ≠ .float .nan) (hn : n ≠ .float .nan) (h : m.compareNumeric n ≠ .gt)
    (hx : coerceNumber? m v.kind = some x) (hy : coerceNumber? n v.kind = some y) :
    ((x.compare? v).any Relation.ge.holds = true → (y.compare? v).any Relation.ge.holds = true) ∧
      ((y.compare? v).any Relation.le.holds = true →
        (x.compare? v).any Relation.le.holds = true) := by
  cases v with
  | int c =>
    obtain ⟨i, rfl⟩ := exists_int_of_coerceNumber? hx
    obtain ⟨j, rfl⟩ := exists_int_of_coerceNumber? hy
    obtain ⟨a, ha, rfl⟩ := coerceNumber?_int_eq_min hx
    obtain ⟨b, hb, rfl⟩ := coerceNumber?_int_eq_min hy
    have hle : compare (min a Numeral.int64Max) (min b Numeral.int64Max) ≠ .gt :=
      compare_le_iff_le.mpr (min_le_min_right _ (ha.le hb h))
    exact ⟨Relation.ge_holds_of_le hle, Relation.le_holds_of_le hle⟩
  | float z =>
    obtain rfl := Option.some.inj hx
    obtain rfl := Option.some.inj hy
    have hle := Number.compareFloats_toDouble_ne_gt h
    by_cases hz : z = .nan
    · -- nothing is in order with NaN
      have hnone : ∀ w : Double, w.compare? z = none :=
        fun w => Double.compare?_eq_none_iff.mpr (.inr hz)
      simp [compare?, hnone]
    · have hordered : ∀ k : Number, k ≠ .float .nan →
          k.toDouble.compare? z = some (Number.compareFloats k.toDouble z) :=
        fun k hk => Double.compare?_eq_some_iff.mpr ⟨Number.toDouble_ne_nan hk, hz, rfl⟩
      simp only [compare?, hordered m hm, hordered n hn, Option.any_some]
      exact ⟨Relation.ge_holds_of_le hle, Relation.le_holds_of_le hle⟩
  | _ => rcases hv with hkind | hkind <;> cases hkind

/-! ## Bounds -/

/-- A comparison of a number with an integer or a float never looks for a date. -/
theorem Test.run_numeric_eq_ok_iff {property : String} {n : Number} {relation : Relation}
    {v : FilterValue} (hv : v.IsNumeric) {b : Bool} :
    run property (.number n) (.compare relation v) = .ok b ↔
      ∃ x, coerceNumber? n v.kind = some x ∧ (x.compare? v).any relation.holds = b := by
  have hnone : dateOrder? relation v (.number n) = none := by
    cases v with
    | int a => cases relation <;> rfl
    | float x => cases relation <;> rfl
    | _ => rcases hv with hkind | hkind <;> cases hkind
  rw [run, hnone]
  show (coerce property (.number n) v.kind).map _ = .ok b ↔ _
  rw [map_eq_ok_iff]
  constructor
  · rintro ⟨x?, hx, hb⟩
    cases x? with
    | none =>
      have hnull : (Value.number n).isNull = false := rfl
      rw [coerce, hnull] at hx
      cases hread : coerce? (.number n) v.kind <;> simp [hread] at hx
    | some x => exact ⟨x, coerce_number_eq_ok_iff.mp hx, hb⟩
  · rintro ⟨x, hx, hb⟩
    exact ⟨some x, coerce_number_eq_ok_iff.mpr hx, hb⟩

/-- **Bounds on two numbers in order**, where both are read: a lower bound of the first is one of the
second, and an upper bound of the second is one of the first. -/
theorem Test.run_range_mono {property : String} {v : FilterValue} (hv : v.IsNumeric) {m n : Number}
    (hm : m ≠ .float .nan) (hn : n ≠ .float .nan) (h : m.compareNumeric n ≠ .gt) {b c : Bool} :
    (run property (.number m) (.compare .ge v) = .ok b →
      run property (.number n) (.compare .ge v) = .ok c → b = true → c = true) ∧
    (run property (.number m) (.compare .le v) = .ok b →
      run property (.number n) (.compare .le v) = .ok c → c = true → b = true) := by
  simp only [run_numeric_eq_ok_iff hv]
  constructor
  · rintro ⟨x, hx, rfl⟩ ⟨y, hy, rfl⟩
    exact (FilterValue.compare?_mono hv hm hn h hx hy).1
  · rintro ⟨x, hx, rfl⟩ ⟨y, hy, rfl⟩
    exact (FilterValue.compare?_mono hv hm hn h hx hy).2

/-! ## On sorted candidates -/

variable {α : Type} [Entity α]

/-- The property of the entity is a number other than NaN. -/
def HoldsNumber (property : String) (x : α) : Prop :=
  ∃ n : Number, n ≠ .float .nan ∧ propertyOf property x = some (.number n)

theorem HoldsNumber.exists_record {property : String} {x : α} (h : HoldsNumber property x) :
    ∃ r n, n ≠ .float .nan ∧ Record.ofEntity x = .ok r ∧ r.find? property = some (.number n) ∧
      propertyOf property x = some (.number n) := by
  obtain ⟨n, hn, hproperty⟩ := h
  cases hr : Record.ofEntity x with
  | error e => simp [propertyOf, hr] at hproperty
  | ok r => exact ⟨r, n, hn, rfl, by simpa [propertyOf, hr] using hproperty, hproperty⟩

namespace Predicate

/-- The predicate of one test. -/
def ofTest (property : String) (test : Test) : Predicate := ⟨[⟨property, test⟩]⟩

theorem holdsOf_ofTest {property : String} {x : α} {r : Record} {raw : Value}
    (hx : Record.ofEntity x = .ok r) (hraw : r.find? property = some raw) (test : Test) :
    (ofTest property test).holdsOf x = test.run property raw := by
  rw [ofTest, holdsOf_of_record _ hx, holds_singleton, Fragment.holds, hraw]

/-- **Bounds on two candidates in order**, where both are evaluated. -/
theorem accepts_range_mono {property : String} {v : FilterValue} (hv : v.IsNumeric) {x y : α}
    (hx : HoldsNumber property x) (hy : HoldsNumber property y)
    (hxy : compareEntities property false x y ≠ .gt) :
    ((∃ c, (ofTest property (.compare .ge v)).holdsOf y = .ok c) →
      (ofTest property (.compare .ge v)).accepts x = true →
        (ofTest property (.compare .ge v)).accepts y = true) ∧
    ((∃ b, (ofTest property (.compare .le v)).holdsOf x = .ok b) →
      (ofTest property (.compare .le v)).accepts y = true →
        (ofTest property (.compare .le v)).accepts x = true) := by
  obtain ⟨r, m, hm, hr, hrm, hxm⟩ := hx.exists_record
  obtain ⟨s, n, hn, hs, hsn, hyn⟩ := hy.exists_record
  have horder : m.compareNumeric n ≠ .gt := by
    rw [compareEntities, hxm, hyn] at hxy
    exact hxy
  simp only [accepts_iff, holdsOf_ofTest hr hrm, holdsOf_ofTest hs hsn]
  constructor
  · rintro ⟨c, hc⟩ htrue
    rw [hc, (Test.run_range_mono hv hm hn horder).1 htrue hc rfl]
  · rintro ⟨b, hb⟩ htrue
    rw [hb, (Test.run_range_mono hv hm hn horder).2 hb htrue rfl]

/-- **Bounds cut the sorted order in one place.** For an integer or a float as the bound, and numbers
other than NaN in the order that sorting puts them in: where the two tests can be evaluated, a lower
bound of the first number is one of the second, and an upper bound of the second is one of the first.
So of candidates that are sorted by the property, a lower bound selects an end and an upper bound
selects a beginning. -/
theorem accepted_range_of_sorted {property : String} {v : FilterValue} (hv : v.IsNumeric) :
    (∀ (r s : Record) (m n : Number), r.find? property = some (.number m) →
      s.find? property = some (.number n) → m ≠ .float .nan → n ≠ .float .nan →
      propertyOrder (some (.number m)) (some (.number n)) ≠ .gt → ∀ b c : Bool,
        (Fragment.holds ⟨property, .compare .ge v⟩ r = .ok b →
          Fragment.holds ⟨property, .compare .ge v⟩ s = .ok c → b = true → c = true) ∧
        (Fragment.holds ⟨property, .compare .le v⟩ r = .ok b →
          Fragment.holds ⟨property, .compare .le v⟩ s = .ok c → c = true → b = true)) ∧
    ∀ xs : List α, (∀ x ∈ xs, HoldsNumber property x) →
      (xs.Pairwise fun x y => compareEntities property false x y ≠ .gt) →
      ((∀ x ∈ xs, ∃ b, (ofTest property (.compare .ge v)).holdsOf x = .ok b) →
        (ofTest property (.compare .ge v)).accepted xs <:+ xs) ∧
      ((∀ x ∈ xs, ∃ b, (ofTest property (.compare .le v)).holdsOf x = .ok b) →
        (ofTest property (.compare .le v)).accepted xs <+: xs) := by
  refine ⟨fun r s m n hr hs hm hn horder b c => ?_, fun xs hnumber hsorted => ⟨fun heval => ?_,
    fun heval => ?_⟩⟩
  · simp only [Fragment.holds, hr, hs]
    exact Test.run_range_mono hv hm hn horder
  · refine filter_suffix_of_pairwise (hsorted.imp_of_mem fun {x y} hx hy hxy => ?_)
    exact (accepts_range_mono hv (hnumber x hx) (hnumber y hy) hxy).1 (heval y hy)
  · refine filter_prefix_of_pairwise (hsorted.imp_of_mem fun {x y} hx hy hxy => ?_)
    exact (accepts_range_mono hv (hnumber x hx) (hnumber y hy) hxy).2 (heval x hx)

/-- The last float below the greatest signed integer, and the unsigned integer after that, which is
lowered to it. -/
def boundRows : List Record :=
  [idRow 9223372036854774784 (by decide), idRow 9223372036854775808 (by decide)]

theorem propertyOf_idRow (n : Int) (hn : FitsWord n) :
    propertyOf "Id" (idRow n hn) = some (.number (.int n hn)) :=
  find?_idRow n hn

/-- An integer record that is read as a signed integer is evaluated. -/
theorem exists_holdsOf_idRow {n i : Int} {hn : FitsWord n}
    (h : coerceNumber? (.int n hn) .int = some (.int i)) :
    ∃ b, (ofTest "Id" (.compare .ge (.int Numeral.int64Max))).holdsOf (idRow n hn) = .ok b :=
  ⟨_, (holdsOf_ofTest rfl (find?_idRow n hn) _).trans
    ((Test.run_numeric_eq_ok_iff (.inl rfl)).mpr ⟨_, h, rfl⟩)⟩

/-- The lowered integer is selected as the greatest signed one, and stands at the end. -/
theorem accepted_range_of_sorted_lowered :
    (FilterValue.int Numeral.int64Max).IsNumeric ∧ (∀ r ∈ boundRows, HoldsNumber "Id" r) ∧
      (boundRows.Pairwise fun r s => compareEntities "Id" false r s ≠ .gt) ∧
      (∀ r ∈ boundRows,
        ∃ b, (ofTest "Id" (.compare .ge (.int Numeral.int64Max))).holdsOf r = .ok b) ∧
      (ofTest "Id" (.compare .ge (.int Numeral.int64Max))).accepted boundRows <:+ boundRows := by
  have hv : (FilterValue.int Numeral.int64Max).IsNumeric := .inl rfl
  have hnumber : ∀ r ∈ boundRows, HoldsNumber "Id" r :=
    List.forall_mem_cons.mpr ⟨⟨_, Number.noConfusion, propertyOf_idRow _ _⟩,
      List.forall_mem_singleton.mpr ⟨_, Number.noConfusion, propertyOf_idRow _ _⟩⟩
  have hsorted : boundRows.Pairwise fun r s => compareEntities "Id" false r s ≠ .gt := by
    refine List.pairwise_pair.mpr ?_
    rw [compareEntities, propertyOf_idRow, propertyOf_idRow]
    exact compare_le_iff_le.mpr (by decide)
  have hbelow : (Number.int 9223372036854774784 (by decide)).IsInteger 9223372036854774784 :=
    Number.isInteger_int_iff.mpr rfl
  have heval : ∀ r ∈ boundRows,
      ∃ b, (ofTest "Id" (.compare .ge (.int Numeral.int64Max))).holdsOf r = .ok b :=
    List.forall_mem_cons.mpr
      ⟨exists_holdsOf_idRow (coerceNumber?_int_eq_some_iff.mpr (.inl ⟨hbelow, by decide⟩)),
        List.forall_mem_singleton.mpr (exists_holdsOf_idRow
          (coerceNumber?_int_eq_some_iff.mpr (.inr ⟨⟨by decide, by decide⟩, rfl⟩)))⟩
  exact ⟨hv, hnumber, hsorted, heval,
    ((accepted_range_of_sorted hv).2 boundRows hnumber hsorted).1 heval⟩

end Predicate

end RecordQuery
