import RecordQuery.Proofs.Filter.Integers
import RecordQuery.Proofs.Query.Noninterference

/-!
# Membership is membership in a set

A list of scalars is read item by item without its nulls, its integers become floats if one of the
items is a float, and a list of several kinds is refused. None of these steps looks at the place or
the number of the items: lists with the same items compile together, and then hold of the same
records and fail on the same. A list of one kind asks for its items one by one, as as many tests of
equality would.

* `FilterValue.exists_ofItems`: what a list of scalars is read as.
* `Test.mem_promote_congr`, `Test.run_among_congr`: the items decide, not their places.
* `Test.run_among_eq_true_iff_exists`, `Test.run_among_eq_error_iff`: a list against its items.
* `Predicate.compile_list`: what a filter field with a list selects.
-/

namespace RecordQuery

/-! ## Lists of scalars -/

/-- A scalar or null, under any tags. -/
def Value.IsItem (v : Value) : Prop :=
  match v.untagged with
  | .null | .bool _ | .number _ | .text _ => True
  | _ => False

namespace FilterValue

/-- The value is what an item of a list is read as. -/
def IsElement (field : String) (items : List Value) (v : FilterValue) : Prop :=
  ∃ item ∈ items, ofValue field item = .ok (some v)

/-- An item is read as a scalar, or is null. -/
theorem exists_ofValue_of_isItem (field : String) {item : Value} (h : item.IsItem) :
    ofValue field item = .ok none ∨
      ∃ x, ofValue field item = .ok (some x) ∧ x.kind ≠ .list := by
  rw [ofValue_untagged]
  unfold Value.IsItem at h
  split at h
  case h_1 hnull =>
    rw [hnull]
    exact .inl rfl
  case h_2 b hbool =>
    rw [hbool]
    exact .inr ⟨.bool b, rfl, ValueKind.noConfusion⟩
  case h_3 n hnumber =>
    rw [hnumber]
    exact .inr ⟨ofNumber n, rfl, kind_ofNumber_ne_list n⟩
  case h_4 s htext =>
    rw [htext]
    exact .inr ⟨.text s, rfl, ValueKind.noConfusion⟩
  case h_5 => exact h.elim

/-- **A list of scalars is read as the list of what its items are read as.** -/
theorem exists_ofItems (field : String) {items : List Value} (h : ∀ item ∈ items, item.IsItem) :
    ∃ vs, ofItems field items = .ok vs ∧ ∀ v, v ∈ vs ↔ IsElement field items v := by
  induction items with
  | nil => exact ⟨[], rfl, by simp [IsElement]⟩
  | cons item items ih =>
    obtain ⟨hitem, hitems⟩ := List.forall_mem_cons.mp h
    obtain ⟨vs, hvs, hmem⟩ := ih hitems
    rcases exists_ofValue_of_isItem field hitem with hnull | ⟨x, hx, hlist⟩
    · refine ⟨vs, ?_, fun v => ?_⟩
      · rw [ofItems_cons_of_null hnull, hvs]
      · rw [hmem, IsElement, IsElement, List.exists_mem_cons_iff, hnull]
        simp
    · refine ⟨x :: vs, ?_, fun v => ?_⟩
      · rw [ofItems_cons_of_scalar hx hlist, hvs]
        rfl
      · rw [List.mem_cons, hmem, IsElement, IsElement, List.exists_mem_cons_iff, hx]
        simp [eq_comm]

end FilterValue

namespace Test

variable {property : String} {raw : Value} {xs ys values : List FilterValue}

/-! ## The items decide -/

/-- **Promoted lists have the same items** if the lists have. -/
theorem mem_promote_congr (h : ∀ v, v ∈ xs ↔ v ∈ ys) (v : FilterValue) :
    v ∈ promote xs ↔ v ∈ promote ys := by
  have hfloats : (∃ w ∈ xs, w.kind = .float) ↔ ∃ w ∈ ys, w.kind = .float := by
    simp only [h]
  by_cases hfloat : ∃ w ∈ xs, w.kind = .float
  · rw [promote_of_float hfloat, promote_of_float (hfloats.mp hfloat)]
    simp only [List.mem_map, h]
  · rw [promote_of_no_float hfloat, promote_of_no_float (mt hfloats.mpr hfloat)]
    exact h v

/-- A list of one kind is taken as it is. -/
theorem promote_of_one_kind (h : ∀ v ∈ values, ∀ w ∈ values, v.kind = w.kind) :
    promote values = values := by
  by_cases hfloat : ∃ w ∈ values, w.kind = .float
  · rw [promote_of_float hfloat]
    obtain ⟨w, hw, hkind⟩ := hfloat
    refine (List.map_congr_left fun v hv => ?_).trans (List.map_id values)
    have hvkind := (h v hv w hw).trans hkind
    cases v with
    | int n => cases hvkind
    | _ => rfl
  · exact promote_of_no_float hfloat

/-- **A list fails as reading the property does**, unless it is empty. -/
theorem run_among_eq_error_iff {kind : ValueKind} (hkind : ∀ v ∈ values, v.kind = kind)
    {e : FilterError} :
    run property raw (.among values) = .error e ↔
      values ≠ [] ∧ coerce property raw kind = .error e := by
  cases values with
  | nil => simp [run]
  | cons first rest =>
    rw [run, hkind first List.mem_cons_self, map_eq_error_iff]
    simp

/-- **Lists with the same items of one kind have one outcome** on every property. -/
theorem run_among_congr (hmem : ∀ v, v ∈ xs ↔ v ∈ ys)
    (hkind : ∀ v ∈ xs, ∀ w ∈ xs, v.kind = w.kind) :
    run property raw (.among xs) = run property raw (.among ys) := by
  cases xs with
  | nil =>
    have hys : ys = [] := List.eq_nil_iff_forall_not_mem.mpr fun v hv => by
      cases (hmem v).mpr hv
    rw [hys]
  | cons first rest =>
    have hxs : ∀ v ∈ first :: rest, v.kind = first.kind :=
      fun v hv => hkind v hv first List.mem_cons_self
    have hys : ∀ v ∈ ys, v.kind = first.kind := fun v hv => hxs v ((hmem v).mpr hv)
    have hne : ys ≠ [] := List.ne_nil_of_mem ((hmem first).mp List.mem_cons_self)
    refine outcome_ext ?_ fun e => ?_
    · rw [run_among_eq_true_iff hxs, run_among_eq_true_iff hys]
      simp only [hmem]
    · rw [run_among_eq_error_iff hxs, run_among_eq_error_iff hys]
      simp [hne]

/-! ## A list against its items -/

/-- **A list of one kind is true iff equality with one of its items is.** -/
theorem run_among_eq_true_iff_exists (h : ∀ v ∈ values, ∀ w ∈ values, v.kind = w.kind) :
    run property raw (.among values) = .ok true ↔
      ∃ v ∈ values, run property raw (.compare .eq v) = .ok true := by
  have hequal : ∀ v, run property raw (.compare .eq v) = .ok true ↔
      ∃ x, coerce property raw v.kind = .ok (some x) ∧ x.compare? v = some .eq := by
    intro v
    rw [run_compare_eq, run_among_eq_true_iff (List.forall_mem_singleton.mpr rfl)]
    simp
  cases values with
  | nil => simp [run]
  | cons first rest =>
    have hkind : ∀ v ∈ first :: rest, v.kind = first.kind :=
      fun v hv => h v hv first List.mem_cons_self
    rw [run_among_eq_true_iff hkind]
    refine exists_congr fun v => and_congr_right fun hv => ?_
    rw [hequal, hkind v hv]

/-- **A list of one kind fails iff equality with an item does**, whichever item it is. -/
theorem run_among_eq_error_iff_equal (h : ∀ v ∈ values, ∀ w ∈ values, v.kind = w.kind)
    {v : FilterValue} (hv : v ∈ values) {e : FilterError} :
    run property raw (.among values) = .error e ↔
      run property raw (.compare .eq v) = .error e := by
  rw [run_compare_eq, run_among_eq_error_iff fun w hw => h w hw v hv,
    run_among_eq_error_iff (List.forall_mem_singleton.mpr rfl)]
  simp [List.ne_nil_of_mem hv]

/-- Lists with the same items mix kinds together. -/
theorem mixesKinds_congr (h : ∀ v, v ∈ xs ↔ v ∈ ys) : MixesKinds xs ↔ MixesKinds ys := by
  simp only [MixesKinds, h]

end Test

/-! ## Fields -/

namespace Predicate

variable {table : PrefixTable} {schema : Schema} {field name property : String} {raw : Value}
  {items : List Value}

/-- A field with a list of scalars is bound, and its value is the list of the elements. -/
theorem exists_ofFields_list (hsplit : Descriptor.split table field = (some .among, name))
    (hproperty : schema.resolve? name = some property) (hraw : raw.untagged = .sequence items)
    (hitems : ∀ item ∈ items, item.IsItem) :
    ∃ vs, Descriptor.ofFields table schema [(.text field, raw)] =
        .ok [⟨field, some .among, property, .membership, .list vs⟩] ∧
      ∀ v, v ∈ vs ↔ FilterValue.IsElement field items v := by
  obtain ⟨vs, hvs, hmem⟩ := FilterValue.exists_ofItems field hitems
  have hnull : raw.isNull = false := by
    rw [Value.isNull, hraw]
  have hvalue : FilterValue.ofValue field raw = .ok (some (.list vs)) := by
    rw [FilterValue.ofValue_untagged, hraw, FilterValue.ofValue, hvs]
    rfl
  have hentry := Descriptor.ofEntry_of_split hsplit hnull hproperty hvalue
  exact ⟨vs, Descriptor.ofFields_cons_eq_ok_iff.mpr ⟨_, [], hentry, rfl, rfl⟩, hmem⟩

/-- **A list compiles iff it mixes no kinds**, and then to the test of the promoted list. -/
theorem compile_list_eq_ok_iff {vs : List FilterValue}
    (hbind : Descriptor.ofFields table schema [(.text field, raw)] =
      .ok [⟨field, some .among, property, .membership, .list vs⟩]) {p : Predicate} :
    compile schema [⟨field, some .among, property, .membership, .list vs⟩] = .ok p ↔
      ¬ Test.MixesKinds vs ∧ p = ⟨[⟨property, .among (Test.promote vs)⟩]⟩ := by
  have hbound := Descriptor.ofFields_isBound hbind
  have htest : ∀ t, Test.ofDescriptor ⟨field, some .among, property, .membership, .list vs⟩ =
      .ok t ↔ ¬ Test.MixesKinds vs ∧ t = .among (Test.promote vs) := by
    intro t
    rw [← Test.oddKind?_promote_eq_none_iff]
    exact Test.membership_eq_ok_iff
  rw [compile_eq_ok_iff_of_isBound hbound]
  simp only [htest, List.forall₂_cons_left_iff, List.forall₂_nil_left_iff]
  constructor
  · rintro ⟨⟨_, _⟩, _, ⟨rfl, hmixed, rfl⟩, rfl, hp⟩
    exact ⟨hmixed, congrArg Predicate.mk hp⟩
  · rintro ⟨hmixed, rfl⟩
    exact ⟨_, [], ⟨rfl, hmixed, rfl⟩, rfl, rfl⟩

/-- **Membership is membership in a set.** A field with a list of scalars and nulls, under any tags,
is bound, and so is one with any other list of the same items, however placed and repeated. The two
compile together, and then give one outcome on every record, failures included. A list whose
elements are of one kind compiles. It fails on a record as each of its elements does that is asked
for by itself, and it selects a record iff one of them does; without any element it selects nothing
and never fails. -/
theorem compile_list (hsplit : Descriptor.split table field = (some .among, name))
    (hproperty : schema.resolve? name = some property) (hraw : raw.untagged = .sequence items)
    (hitems : ∀ item ∈ items, item.IsItem) :
    ∃ d, Descriptor.ofFields table schema [(.text field, raw)] = .ok [d] ∧
      d.comparison = .membership ∧
      (∀ other others, other.untagged = .sequence others → (∀ item, item ∈ others ↔ item ∈ items) →
        ∃ d', Descriptor.ofFields table schema [(.text field, other)] = .ok [d'] ∧
          ((∃ p, compile schema [d] = .ok p) ↔ ∃ q, compile schema [d'] = .ok q) ∧
          ∀ p q, compile schema [d] = .ok p → compile schema [d'] = .ok q →
            ∀ r, p.holds r = q.holds r) ∧
      ((∀ v w, FilterValue.IsElement field items v → FilterValue.IsElement field items w →
          v.kind = w.kind) →
        ∃ p, compile schema [d] = .ok p ∧ ∀ r,
          (∀ v, FilterValue.IsElement field items v → ∀ e,
            p.holds r = .error e ↔ Fragment.holds ⟨property, .compare .eq v⟩ r = .error e) ∧
          (p.holds r = .ok true ↔ ∃ v, FilterValue.IsElement field items v ∧
            Fragment.holds ⟨property, .compare .eq v⟩ r = .ok true) ∧
          ((∀ v, ¬ FilterValue.IsElement field items v) → p.holds r = .ok false)) := by
  obtain ⟨vs, hbind, hmem⟩ := exists_ofFields_list hsplit hproperty hraw hitems
  refine ⟨_, hbind, rfl, fun other others hother hsame => ?_, fun hkind => ?_⟩
  · have hothers : ∀ item ∈ others, item.IsItem := fun item h => hitems item ((hsame item).mp h)
    obtain ⟨ws, hbind', hmem'⟩ := exists_ofFields_list hsplit hproperty hother hothers
    have hvw : ∀ v, v ∈ vs ↔ v ∈ ws := by
      intro v
      rw [hmem, hmem']
      simp only [FilterValue.IsElement, hsame]
    refine ⟨_, hbind', ?_, fun p q hp hq r => ?_⟩
    · simp only [compile_list_eq_ok_iff hbind, compile_list_eq_ok_iff hbind',
        Test.mixesKinds_congr hvw, exists_and_left, exists_eq, and_true]
    · obtain ⟨hmixed, rfl⟩ := (compile_list_eq_ok_iff hbind).mp hp
      obtain ⟨-, rfl⟩ := (compile_list_eq_ok_iff hbind').mp hq
      rw [holds_singleton, holds_singleton, Fragment.holds_eq_run_value,
        Fragment.holds_eq_run_value]
      -- once compiled, the promoted list is of one kind
      exact Test.run_among_congr (Test.mem_promote_congr hvw)
        (Test.oddKind?_eq_none_iff.mp (Test.oddKind?_promote_eq_none_iff.mpr hmixed))
  · have hone : ∀ v ∈ vs, ∀ w ∈ vs, v.kind = w.kind :=
      fun v hv w hw => hkind v w ((hmem v).mp hv) ((hmem w).mp hw)
    have hmixed : ¬ Test.MixesKinds vs :=
      fun ⟨v, hv, w, hw, hne, _⟩ => hne (hone v hv w hw)
    refine ⟨_, (compile_list_eq_ok_iff hbind).mpr ⟨hmixed, rfl⟩, fun r => ?_⟩
    simp only [holds_singleton, Fragment.holds_eq_run_value, Test.promote_of_one_kind hone, ← hmem]
    refine ⟨fun v hv e => Test.run_among_eq_error_iff_equal hone hv,
      Test.run_among_eq_true_iff_exists hone, fun hempty => ?_⟩
    rw [List.eq_nil_iff_forall_not_mem.mpr hempty]
    rfl

/-- Two integers, one of them under a tag, and a null. -/
def taggedItems : List Value := [.tagged "id" (.ofInt 3), .null, .ofInt 5]

/-- The same items in another order, one of them twice. -/
def shuffledItems : List Value := [.ofInt 5, .tagged "id" (.ofInt 3), .ofInt 5, .null]

theorem isElement_taggedItems {v : FilterValue} :
    FilterValue.IsElement "ListId" taggedItems v ↔ v = .int 3 ∨ v = .int 5 := by
  have hthree : FilterValue.ofValue "ListId" (.ofInt 3) = .ok (some (.int 3)) := rfl
  have hfive : FilterValue.ofValue "ListId" (.ofInt 5) = .ok (some (.int 5)) := rfl
  simp [FilterValue.IsElement, taggedItems, hthree, hfive, FilterValue.ofValue, eq_comm]

/-- Both lists compile, and both select the record with the last integer of the first one. -/
theorem compile_list_shuffled :
    Descriptor.split .standard "ListId" = (some .among, "Id") ∧
      idSchema.resolve? "Id" = some "Id" ∧ (∀ item ∈ taggedItems, item.IsItem) ∧
      ∃ d d' p q,
        Descriptor.ofFields .standard idSchema [(.text "ListId", .sequence taggedItems)] =
          .ok [d] ∧
        Descriptor.ofFields .standard idSchema
          [(.text "ListId", .tagged "set" (.sequence shuffledItems))] = .ok [d'] ∧
        compile idSchema [d] = .ok p ∧ compile idSchema [d'] = .ok q ∧
        p.holds (idRow 5 (by decide)) = .ok true ∧ q.holds (idRow 5 (by decide)) = .ok true := by
  have hsplit : Descriptor.split .standard "ListId" = (some .among, "Id") := by cbv
  have hraw : (Value.sequence taggedItems).untagged = .sequence taggedItems := rfl
  have hitems : ∀ item ∈ taggedItems, item.IsItem :=
    List.forall_mem_cons.mpr ⟨trivial, List.forall_mem_cons.mpr ⟨trivial,
      List.forall_mem_singleton.mpr trivial⟩⟩
  obtain ⟨d, hbind, -, hsame, hone⟩ := compile_list hsplit resolve?_id hraw hitems
  obtain ⟨p, hp, hholds⟩ := hone fun v w hv hw => by
    rcases isElement_taggedItems.mp hv with rfl | rfl <;>
      rcases isElement_taggedItems.mp hw with rfl | rfl <;> rfl
  obtain ⟨d', hbind', hboth, hagree⟩ :=
    hsame (.tagged "set" (.sequence shuffledItems)) shuffledItems rfl
      (by simp [taggedItems, shuffledItems]; tauto)
  obtain ⟨q, hq⟩ := hboth.mp ⟨p, hp⟩
  have hfive : Fragment.holds ⟨"Id", .compare .eq (.int 5)⟩ (idRow 5 (by decide)) = .ok true := by
    rw [Fragment.holds, find?_idRow]
    rfl
  have htrue : p.holds (idRow 5 (by decide)) = .ok true :=
    (hholds _).2.1.mpr ⟨.int 5, isElement_taggedItems.mpr (.inr rfl), hfive⟩
  exact ⟨hsplit, resolve?_id, hitems, d, d', p, q, hbind, hbind', hp, hq, htrue,
    (hagree p q hp hq _).symm.trans htrue⟩

end Predicate

end RecordQuery
