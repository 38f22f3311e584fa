import RecordQuery.Proofs.Filter.DateRange
import RecordQuery.Proofs.Query.Noninterference

/-!
# A lower bound, an upper bound and equality

One value can bound a property from below, bound it from above, or be asked for itself. The two
bounds have a way of their own, by instants, where the value and the property are texts of dates;
equality never takes it, so two texts of one instant pass both bounds without being equal. Apart
from that the three comparisons read the property in one way and compare it once: they fail
together, at least one bound holds, and both hold iff the two are equal. Nothing holds of a property
that is missing or null, or where the property and the value are floats and one of them is NaN.

* `dateOrder?_eq_some_iff`: where bounds compare instants.
* `FilterValue.compare?_eq_none_iff`: where a property that was read is in no order with the value.
* `Test.run_compare_cases`, `Test.run_compare_of_dates`: the three comparisons in either case.
* `Fragment.holds_trichotomy`: how the three outcomes hang together on every record.
-/

namespace RecordQuery

/-- Of two things in some order at least one bound holds, and both hold iff the two are equal. -/
theorem Relation.holds_bounds (o : Ordering) :
    (ge.holds o = true ∨ le.holds o = true) ∧
      (ge.holds o = true ∧ le.holds o = true ↔ eq.holds o = true) := by
  cases o <;> decide

/-! ## Texts of dates -/

/-- The value and the property are texts that write the instants `d` and `e`. -/
def FilterValue.WritesDates (v : FilterValue) (raw : Value) (d e : DateTime) : Prop :=
  ∃ s t, v = .text s ∧ raw.asText? = some t ∧ DateTime.ofText? s = some d ∧
    DateTime.ofText? t = some e

theorem FilterValue.WritesDates.unique {v : FilterValue} {raw : Value} {d e d' e' : DateTime}
    (h : v.WritesDates raw d e) (h' : v.WritesDates raw d' e') : d = d' ∧ e = e' := by
  obtain ⟨s, t, rfl, ht, hd, he⟩ := h
  obtain ⟨_, t', hs, ht', hd', he'⟩ := h'
  cases hs
  obtain rfl := Option.some.inj (ht.symm.trans ht')
  exact ⟨Option.some.inj (hd.symm.trans hd'), Option.some.inj (he.symm.trans he')⟩

/-- **Bounds compare instants** where the value and the property write them, and only there. -/
theorem dateOrder?_eq_some_iff {relation : Relation} {v : FilterValue} {raw : Value}
    {o : Ordering} :
    dateOrder? relation v raw = some o ↔
      relation ≠ .eq ∧ ∃ d e, v.WritesDates raw d e ∧ e.compare d = o := by
  unfold dateOrder?
  split
  · simp
  · rename_i s hrelation
    constructor
    · intro h
      obtain ⟨d, hd, h⟩ := Option.bind_eq_some_iff.mp h
      obtain ⟨e, he, h⟩ := Option.bind_eq_some_iff.mp h
      obtain ⟨t, ht, he⟩ := Option.bind_eq_some_iff.mp he
      exact ⟨hrelation, d, e, ⟨s, t, rfl, ht, hd, he⟩, Option.some.inj h⟩
    · rintro ⟨-, d, e, ⟨_, t, hs, ht, hd, he⟩, rfl⟩
      cases hs
      rw [hd, ht, Option.bind_some, he]
      rfl
  · rename_i hrelation htext
    constructor
    · rintro ⟨⟩
    · rintro ⟨-, d, e, ⟨s, t, hs, -⟩, -⟩
      exact (htext s hs).elim

/-! ## Values in no order -/

/-- The number is NaN, or the text is read as NaN, tags aside. -/
def Value.ReadsNaN (raw : Value) : Prop :=
  match raw.untagged with
  | .number n => n = .float .nan
  | .text s => Numeral.readDouble? (Text.trim s.toList) = some .nan
  | _ => False

theorem coerce?_eq_nan_iff {raw : Value} :
    coerce? raw .float = some (.float .nan) ↔ raw.ReadsNaN := by
  unfold coerce? Value.ReadsNaN
  cases raw.untagged with
  | number n =>
    cases n with
    | int n hn => simp [coerceNumber?, Number.toDouble, Double.ofInt_ne_nan]
    | float x => simp [coerceNumber?, Number.toDouble]
  | text s => simp [coerceText?]
  | _ => simp [coerceBool?]

/-- A property is read as the kind that is asked for. -/
theorem kind_of_coerce? {raw : Value} {kind : ValueKind} {x : FilterValue}
    (h : coerce? raw kind = some x) : x.kind = kind := by
  unfold coerce? at h
  cases huntagged : raw.untagged with
  | number n =>
    cases kind <;> simp only [huntagged, coerceNumber?, Option.some.injEq, reduceCtorEq] at h
    case int =>
      split at h
      · rw [← Option.some.inj h, FilterValue.kind]
      · obtain ⟨i, -, rfl⟩ := Option.map_eq_some_iff.mp h
        rfl
    all_goals rw [← h, FilterValue.kind]
  | text s =>
    cases kind <;>
      simp only [huntagged, coerceText?, Option.map_eq_some_iff, Option.some.injEq,
        reduceCtorEq] at h
    case text => rw [← h, FilterValue.kind]
    all_goals
      obtain ⟨_, -, rfl⟩ := h
      rfl
  | bool b =>
    cases kind <;> simp only [huntagged, coerceBool?, Option.some.injEq, reduceCtorEq] at h
    all_goals rw [← h, FilterValue.kind]
  | _ => simp [huntagged] at h

namespace FilterValue

/-- The value and the property are floats and one of them is NaN. -/
def IsUnordered (v : FilterValue) (raw : Value) : Prop :=
  v.kind = .float ∧ (v = .float .nan ∨ raw.ReadsNaN)

/-- Texts of dates are no floats. -/
theorem WritesDates.not_isUnordered {v : FilterValue} {raw : Value} {d e : DateTime}
    (h : v.WritesDates raw d e) : ¬ v.IsUnordered raw := by
  obtain ⟨s, t, rfl, -⟩ := h
  exact fun hunordered => ValueKind.noConfusion hunordered.1

/-- **A property that was read is in no order with a scalar** iff one of the two is NaN. -/
theorem compare?_eq_none_iff {raw : Value} {v x : FilterValue} (hlist : v.kind ≠ .list)
    (hx : coerce? raw v.kind = some x) : x.compare? v = none ↔ v.IsUnordered raw := by
  have hkind := kind_of_coerce? hx
  cases v with
  | float y =>
    obtain ⟨z, rfl⟩ : ∃ z, x = .float z := by
      cases x <;> simp_all [kind]
    have hnan : coerce? raw .float = some (.float .nan) ↔ z = .nan := by
      rw [show coerce? raw .float = some (.float z) from hx, Option.some.injEq, float.injEq]
    rw [compare?, Double.compare?_eq_none_iff, IsUnordered, ← coerce?_eq_nan_iff, hnan]
    simp [kind, or_comm]
  | list items => exact absurd rfl hlist
  | _ => cases x <;> simp_all [kind, compare?, IsUnordered]

end FilterValue

/-! ## The three comparisons -/

theorem coerce_of_not_null (property : String) {raw : Value} (kind : ValueKind)
    (hnull : raw.isNull = false) :
    (∃ e, coerce property raw kind = .error e) ∨
      ∃ x, coerce? raw kind = some x ∧ coerce property raw kind = .ok (some x) := by
  unfold coerce
  rw [hnull]
  cases coerce? raw kind with
  | none => exact .inl ⟨_, rfl⟩
  | some x => exact .inr ⟨x, rfl, rfl⟩

namespace Test

variable {property : String} {raw : Value} {v : FilterValue}

/-- Where the two are not both dates, every relation reads the property as the kind of the value. -/
theorem run_compare_of_undated (h : ¬ ∃ d e, v.WritesDates raw d e) (relation : Relation) :
    run property raw (.compare relation v) =
      (coerce property raw v.kind).map fun x? =>
        match x? with
        | some x => (x.compare? v).any relation.holds
        | none => false := by
  have hnone : dateOrder? relation v raw = none := by
    refine Option.eq_none_iff_forall_not_mem.mpr fun o ho => h ?_
    obtain ⟨-, d, e, hdates, -⟩ := dateOrder?_eq_some_iff.mp ho
    exact ⟨d, e, hdates⟩
  rw [run]
  split
  · rename_i o ho
    cases hnone.symm.trans ho
  · rfl

/-- No comparison holds of null, tags aside. -/
theorem run_compare_of_null (hnull : raw.isNull = true) (relation : Relation) :
    run property raw (.compare relation v) = .ok false := by
  have htext : raw.asText? = none := by
    unfold Value.isNull at hnull
    split at hnull
    · simp [Value.asText?, *]
    · cases hnull
  have hundated : ¬ ∃ d e, v.WritesDates raw d e := by
    rintro ⟨d, e, s, t, -, ht, -⟩
    cases htext.symm.trans ht
  rw [run_compare_of_undated hundated, coerce, if_pos hnull]
  rfl

variable (property)

/-- **Where the two are not both dates** the three comparisons fail together, or they are false
together for NaN, or they are relations of one order. -/
theorem run_compare_cases (hlist : v.kind ≠ .list) (hnull : raw.isNull = false)
    (h : ¬ ∃ d e, v.WritesDates raw d e) :
    (∃ e, ∀ relation, run property raw (.compare relation v) = .error e) ∨
      (v.IsUnordered raw ∧ ∀ relation, run property raw (.compare relation v) = .ok false) ∨
      ¬ v.IsUnordered raw ∧
        ∃ o, ∀ relation, run property raw (.compare relation v) = .ok (relation.holds o) := by
  rcases coerce_of_not_null property v.kind hnull with ⟨e, he⟩ | ⟨x, hx, hcoerce⟩
  · refine .inl ⟨e, fun relation => ?_⟩
    rw [run_compare_of_undated h, he]
    rfl
  · have hrun : ∀ relation, run property raw (.compare relation v) =
        .ok ((x.compare? v).any relation.holds) := by
      intro relation
      rw [run_compare_of_undated h, hcoerce]
      rfl
    cases ho : x.compare? v with
    | none =>
      refine .inr (.inl ⟨(FilterValue.compare?_eq_none_iff hlist hx).mp ho, fun relation => ?_⟩)
      rw [hrun, ho]
      rfl
    | some o =>
      refine .inr (.inr ⟨fun hunordered => ?_, o, fun relation => ?_⟩)
      · cases ho.symm.trans ((FilterValue.compare?_eq_none_iff hlist hx).mpr hunordered)
      · rw [hrun, ho]
        rfl

/-- **Where the two are dates** the bounds compare the instants, and equality compares the texts,
which write one instant if they are the same. -/
theorem run_compare_of_dates {d e : DateTime} (h : v.WritesDates raw d e) :
    run property raw (.compare .ge v) = .ok (Relation.ge.holds (e.compare d)) ∧
      run property raw (.compare .le v) = .ok (Relation.le.holds (e.compare d)) ∧
      ∃ b, run property raw (.compare .eq v) = .ok b ∧ (b = true → e = d) := by
  have hbound : ∀ relation, relation ≠ .eq →
      run property raw (.compare relation v) = .ok (relation.holds (e.compare d)) := by
    intro relation hrelation
    rw [run, dateOrder?_eq_some_iff.mpr ⟨hrelation, d, e, h, rfl⟩]
  refine ⟨hbound .ge (by decide), hbound .le (by decide), ?_⟩
  obtain ⟨s, t, rfl, ht, hd, he⟩ := h
  have huntagged : raw.untagged = .text t := by
    unfold Value.asText? at ht
    split at ht
    · rename_i htext
      rw [htext, Option.some.inj ht]
    · cases ht
  have hcoerce : coerce property raw .text = .ok (some (.text t)) := by
    simp [coerce, Value.isNull, coerce?, huntagged, coerceText?]
  refine ⟨((FilterValue.text t).compare? (.text s)).any Relation.eq.holds, ?_, fun hb => ?_⟩
  · show (coerce property raw .text).map _ = _
    rw [hcoerce]
    rfl
  · obtain ⟨o, ho, heq⟩ := (Option.any_eq_true _ _).mp hb
    rw [show o = .eq from beq_iff_eq.mp heq, FilterValue.compare?_text_eq_iff] at ho
    rw [ho, hd] at he
    exact (Option.some.inj he).symm

end Test

/-! ## On a record -/

/-- **A lower bound, an upper bound and equality with one scalar**, on any record. If the property
is missing or null, none of the three holds and none fails. Otherwise they fail with one error, or
none holds because one of the two is NaN as a float, or at least one bound holds, and equality
implies both. Then both bounds hold iff the two are equal, or, if the two are texts of dates, iff they
write one instant. -/
theorem Fragment.holds_trichotomy (property : String) (r : Record) {v : FilterValue}
    (hlist : v.kind ≠ .list) :
    ((r.value property).isNull = true →
      ∀ relation, Fragment.holds ⟨property, .compare relation v⟩ r = .ok false) ∧
    ((r.value property).isNull = false →
      (∃ e, ∀ relation, Fragment.holds ⟨property, .compare relation v⟩ r = .error e) ∨
      (v.IsUnordered (r.value property) ∧
        ∀ relation, Fragment.holds ⟨property, .compare relation v⟩ r = .ok false) ∨
      ¬ v.IsUnordered (r.value property) ∧ ∃ atLeast atMost equal : Bool,
        Fragment.holds ⟨property, .compare .ge v⟩ r = .ok atLeast ∧
        Fragment.holds ⟨property, .compare .le v⟩ r = .ok atMost ∧
        Fragment.holds ⟨property, .compare .eq v⟩ r = .ok equal ∧
        (atLeast = true ∨ atMost = true) ∧
        (equal = true → atLeast = true ∧ atMost = true) ∧
        (∀ d e, v.WritesDates (r.value property) d e →
          (atLeast = true ∧ atMost = true ↔ d = e)) ∧
        ((¬ ∃ d e, v.WritesDates (r.value property) d e) →
          (atLeast = true ∧ atMost = true ↔ equal = true))) := by
  simp only [Fragment.holds_eq_run_value]
  generalize r.value property = raw
  refine ⟨Test.run_compare_of_null, fun hnull => ?_⟩
  by_cases hdates : ∃ d e, v.WritesDates raw d e
  · obtain ⟨d, e, hde⟩ := hdates
    obtain ⟨hge, hle, equal, heq, hsame⟩ := Test.run_compare_of_dates property hde
    obtain ⟨hsome, hboth⟩ := Relation.holds_bounds (e.compare d)
    have hinstant : Relation.eq.holds (e.compare d) = true ↔ d = e := by
      rw [Relation.holds, beq_iff_eq, DateTime.compare_eq_iff, eq_comm]
    refine .inr (.inr ⟨hde.not_isUnordered, _, _, equal, hge, hle, heq, hsome, fun h => ?_, ?_, ?_⟩)
    · exact hboth.mpr (hinstant.mpr (hsame h).symm)
    · intro d' e' hde'
      obtain ⟨rfl, rfl⟩ := hde.unique hde'
      exact hboth.trans hinstant
    · exact fun h => absurd ⟨d, e, hde⟩ h
  · rcases Test.run_compare_cases property hlist hnull hdates with
      herror | hunordered | ⟨hordered, o, ho⟩
    · exact .inl herror
    · exact .inr (.inl hunordered)
    · obtain ⟨hsome, hboth⟩ := Relation.holds_bounds o
      refine .inr (.inr ⟨hordered, _, _, _, ho .ge, ho .le, ho .eq, hsome, hboth.mpr, ?_, ?_⟩)
      · exact fun d e hde => absurd ⟨d, e, hde⟩ hdates
      · exact fun _ => hboth

/-- A record that was opened at midnight, by its full text under a tag. -/
def openedRow : Record :=
  ⟨[(.text "Opened", .tagged "when" (.text " 2024-01-15T00:00:00Z"))]⟩

/-- The bare date and the full text write one instant: both bounds hold, and the texts differ. -/
theorem Fragment.holds_trichotomy_one_instant :
    (FilterValue.text "2024-01-15").kind ≠ .list ∧
      Fragment.holds ⟨"Opened", .compare .ge (.text "2024-01-15")⟩ openedRow = .ok true ∧
      Fragment.holds ⟨"Opened", .compare .le (.text "2024-01-15")⟩ openedRow = .ok true ∧
      Fragment.holds ⟨"Opened", .compare .eq (.text "2024-01-15")⟩ openedRow = .ok false := by
  have hlist : (FilterValue.text "2024-01-15").kind ≠ .list := by decide
  have hequal : Fragment.holds ⟨"Opened", .compare .eq (.text "2024-01-15")⟩ openedRow =
      .ok false := by cbv
  have hvalue : openedRow.value "Opened" = .tagged "when" (.text " 2024-01-15T00:00:00Z") := by cbv
  have hdates : (FilterValue.text "2024-01-15").WritesDates (openedRow.value "Opened")
      (.midnight ⟨2024, 1, 15, by decide⟩) (.midnight ⟨2024, 1, 15, by decide⟩) := by
    rw [hvalue]
    exact ⟨_, _, rfl, rfl, by cbv, by cbv⟩
  have hnull : (openedRow.value "Opened").isNull = false := by
    rw [hvalue]
    rfl
  rcases (Fragment.holds_trichotomy "Opened" openedRow hlist).2 hnull with
    ⟨e, he⟩ | ⟨hunordered, -⟩ | ⟨-, atLeast, atMost, equal, hge, hle, -, -, -, hinstant, -⟩
  · cases hequal.symm.trans (he .eq)
  · exact absurd hunordered hdates.not_isUnordered
  · obtain ⟨rfl, rfl⟩ := (hinstant _ _ hdates).mpr rfl
    exact ⟨hlist, hge, hle, hequal⟩

end RecordQuery
