import Mathlib
import RecordQuery.Filter.Compilation
import RecordQuery.Proofs.Filter.Binding
import RecordQuery.Proofs.Filter.Conjunction

/-!
# Compiling what was bound

Compiling checks again what binding has settled, and adds the checks of its own: a scalar comparison
takes no list, and a membership test takes no list of several kinds, where integers and floats
count as one kind. On descriptors that come from binding only the checks of its own can fail, and
what passes them can be evaluated on every record without a look at a list.

* `Test.ofDescriptor_eq_error_iff`: the two ways in which a descriptor is refused.
* `Test.run_eq_error`: a test fails only because the property is not of the kind that it asks for.
* `Predicate.compile_of_ofFields`: what compiling the descriptors of a filter gives.
-/

namespace RecordQuery

/-! ## Kinds of a membership list -/

namespace FilterValue

/-- The value is an integer or a float. -/
def IsNumeric (v : FilterValue) : Prop := v.kind = .int ∨ v.kind = .float

/-- An integer as a float; every other value as it is. -/
def widened : FilterValue → FilterValue
  | .int n => .float (Double.ofInt n)
  | v => v

theorem kind_widened (v : FilterValue) :
    (v.IsNumeric ∧ v.widened.kind = .float) ∨ (¬ v.IsNumeric ∧ v.widened.kind = v.kind) := by
  cases v <;> simp [IsNumeric, widened, kind]

theorem IsScalar.widened {v : FilterValue} (h : v.IsScalar) : v.widened.IsScalar := by
  rcases v.kind_widened with ⟨-, hkind⟩ | ⟨-, hkind⟩
  · rw [IsScalar, hkind]
    decide
  · rw [IsScalar, hkind]
    exact h

end FilterValue

namespace Test

/-- The list has two items of different kinds that are not both numbers. -/
def MixesKinds (items : List FilterValue) : Prop :=
  ∃ v ∈ items, ∃ w ∈ items, v.kind ≠ w.kind ∧ ¬ (v.IsNumeric ∧ w.IsNumeric)

/-- A list without an odd item is a list of one kind. -/
theorem oddKind?_eq_none_iff {items : List FilterValue} :
    oddKind? items = none ↔ ∀ v ∈ items, ∀ w ∈ items, v.kind = w.kind := by
  cases items with
  | nil => simp [oddKind?]
  | cons first rest =>
    simp only [oddKind?, Option.map_eq_none_iff, List.find?_eq_none, ne_eq, decide_not,
      Bool.not_eq_eq_eq_not, Bool.not_true, decide_eq_false_iff_not, not_not]
    constructor
    · intro h
      have hfirst : ∀ v ∈ first :: rest, v.kind = first.kind := List.forall_mem_cons.mpr ⟨rfl, h⟩
      exact fun v hv w hw => (hfirst v hv).trans (hfirst w hw).symm
    · exact fun h v hv => h v (List.mem_cons_of_mem _ hv) first List.mem_cons_self

theorem promote_of_float {items : List FilterValue} (h : ∃ v ∈ items, v.kind = .float) :
    promote items = items.map FilterValue.widened := by
  unfold promote
  rw [if_pos (by simpa using h)]
  exact List.map_congr_left fun v _ => by cases v <;> rfl

theorem promote_of_no_float {items : List FilterValue} (h : ¬ ∃ v ∈ items, v.kind = .float) :
    promote items = items := by
  unfold promote
  rw [if_neg (by simpa using h)]

theorem promote_singleton (v : FilterValue) : promote [v] = [v] := by cases v <;> rfl

/-- **A list is refused iff it mixes kinds** other than integer and float. -/
theorem oddKind?_promote_eq_none_iff {items : List FilterValue} :
    oddKind? (promote items) = none ↔ ¬ MixesKinds items := by
  rw [oddKind?_eq_none_iff]
  by_cases hfloat : ∃ v ∈ items, v.kind = .float
  · -- every item has to become a float
    rw [promote_of_float hfloat]
    obtain ⟨x, hx, hxkind⟩ := hfloat
    have hxnumeric : x.IsNumeric := .inr hxkind
    have hxwidened : x.widened.kind = .float := by
      rcases x.kind_widened with h | h
      · exact h.2
      · exact h.2.trans hxkind
    simp only [List.forall_mem_map]
    constructor
    · rintro hsame ⟨v, hv, w, hw, hkind, hnot⟩
      have hnumeric : ∀ u ∈ items, u.IsNumeric := by
        intro u hu
        rcases u.kind_widened with h | h
        · exact h.1
        · exact .inr (h.2.symm.trans ((hsame u hu x hx).trans hxwidened))
      exact hnot ⟨hnumeric v hv, hnumeric w hw⟩
    · intro hmixed
      have hwidened : ∀ u ∈ items, u.widened.kind = .float := by
        intro u hu
        rcases u.kind_widened with h | h
        · exact h.2
        · have hu' : u.kind ≠ x.kind := fun hkind => h.1 (.inr (hkind.trans hxkind))
          exact (hmixed ⟨u, hu, x, hx, hu', fun hboth => h.1 hboth.1⟩).elim
      exact fun v hv w hw => (hwidened v hv).trans (hwidened w hw).symm
  · -- every number is an integer already
    rw [promote_of_no_float hfloat]
    constructor
    · rintro hsame ⟨v, hv, w, hw, hkind, -⟩
      exact hkind (hsame v hv w hw)
    · intro hmixed v hv w hw
      by_contra hkind
      refine hmixed ⟨v, hv, w, hw, hkind, fun hboth => hkind ?_⟩
      rcases hboth.1 with hvint | hvfloat
      · rcases hboth.2 with hwint | hwfloat
        · exact hvint.trans hwint.symm
        · exact (hfloat ⟨w, hw, hwfloat⟩).elim
      · exact (hfloat ⟨v, hv, hvfloat⟩).elim

end Test

/-! ## Refused descriptors -/

/-- The ways in which a descriptor is refused, each with its failure. -/
inductive Descriptor.Refused (d : Descriptor) : FilterError → Prop
  /-- A comparison with one value or text has a list. -/
  | list (hcomparison : d.comparison ≠ .membership) (hlist : d.value.kind = .list) :
      Refused d (.coercionFailure d.property .list (.listValue d.comparison d.field))
  /-- A membership list mixes kinds. The failure names the first item of another kind. -/
  | mixed {kind : ValueKind} {odd : FilterValue} (hcomparison : d.comparison = .membership)
      (hmixed : Test.MixesKinds (Test.members d.value))
      (hodd : Test.oddKind? (Test.promote (Test.members d.value)) = some (kind, odd)) :
      Refused d (.coercionFailure d.property kind (.listElement odd.toText odd.kind))

namespace Test

theorem membership_eq_error_iff {d : Descriptor} {e : FilterError} :
    membership d = .error e ↔
      ∃ kind odd, oddKind? (promote (members d.value)) = some (kind, odd) ∧
        e = .coercionFailure d.property kind (.listElement odd.toText odd.kind) := by
  unfold membership
  dsimp only
  split
  · rename_i kind odd hodd
    rw [hodd]
    constructor
    · intro h
      exact ⟨kind, odd, rfl, (Except.error.inj h).symm⟩
    · rintro ⟨_, _, hsame, rfl⟩
      cases hsame
      rfl
  · rename_i hodd
    simp [hodd]

theorem membership_eq_ok_iff {d : Descriptor} {t : Test} :
    membership d = .ok t ↔
      oddKind? (promote (members d.value)) = none ∧ t = .among (promote (members d.value)) := by
  unfold membership
  dsimp only
  split
  · rename_i hodd
    simp [hodd]
  · rename_i hodd
    simp [hodd, eq_comm]

/-- **The two ways in which a descriptor is refused.** -/
theorem ofDescriptor_eq_error_iff {d : Descriptor} {e : FilterError} :
    ofDescriptor d = .error e ↔ d.Refused e := by
  constructor
  · intro h
    unfold ofDescriptor at h
    split at h
    · rename_i hcomparison
      obtain ⟨kind, odd, hodd, rfl⟩ := membership_eq_error_iff.mp h
      have hmixed : MixesKinds (members d.value) := by
        by_contra hnot
        cases (oddKind?_promote_eq_none_iff.mpr hnot).symm.trans hodd
      exact .mixed hcomparison hmixed hodd
    · rename_i hcomparison
      split at h
      · rename_i items hvalue
        obtain rfl := Except.error.inj h
        exact .list (by simp [hcomparison]) (by rw [hvalue]; rfl)
      · cases h
    · rename_i hmembership hsubstring
      split at h
      · rename_i items hvalue
        obtain rfl := Except.error.inj h
        exact .list hmembership (by rw [hvalue]; rfl)
      · rename_i hrelation
        cases hcomparison : d.comparison <;> simp_all [relation?]
      · cases h
  · rintro (⟨hcomparison, hlist⟩ | ⟨hcomparison, -, hodd⟩)
    · obtain ⟨items, hvalue⟩ : ∃ items, d.value = .list items := by
        cases hvalue : d.value <;> simp_all [FilterValue.kind]
      unfold ofDescriptor
      rw [hvalue]
      cases hkind : d.comparison <;> simp_all [listRefused]
    · rw [ofDescriptor, hcomparison]
      exact membership_eq_error_iff.mpr ⟨_, _, hodd, rfl⟩

/-- A scalar comparison with a scalar is the test of its relation. -/
theorem ofDescriptor_of_relation {d : Descriptor} {relation : Relation}
    (hrelation : relation? d.comparison = some relation) (hlist : d.value.kind ≠ .list) :
    ofDescriptor d = .ok (.compare relation d.value) := by
  unfold ofDescriptor
  split
  · rename_i hcomparison
    rw [hcomparison] at hrelation
    cases hrelation
  · rename_i hcomparison
    rw [hcomparison] at hrelation
    cases hrelation
  · rw [hrelation]
    cases hvalue : d.value with
    | list items => exact absurd (by rw [hvalue]; rfl) hlist
    | _ => rfl

/-! ## Well-kinded tests -/

/-- A comparison has a scalar, and a membership list has scalars of one kind. -/
def IsWellKinded : Test → Prop
  | .compare _ value => value.IsScalar
  | .contains _ => True
  | .among values => (∀ v ∈ values, v.IsScalar) ∧ ∀ v ∈ values, ∀ w ∈ values, v.kind = w.kind

/-- The kind as which a test reads the property; none if it does not look at it. -/
def kind? : Test → Option ValueKind
  | .compare _ value => some value.kind
  | .contains _ => some .text
  | .among [] => none
  | .among (first :: _) => some first.kind

/-- A well-kinded test never asks for a list. -/
theorem IsWellKinded.kind?_ne_list {t : Test} (h : t.IsWellKinded) : t.kind? ≠ some .list := by
  match t with
  | .compare _ value => exact fun hkind => h.1 (Option.some.inj hkind)
  | .contains _ => simp [kind?]
  | .among [] => simp [kind?]
  | .among (first :: _) =>
    exact fun hkind => (h.1 first List.mem_cons_self).1 (Option.some.inj hkind)

theorem isScalar_members {v : FilterValue} (h : v.IsRead) : ∀ w ∈ members v, w.IsScalar := by
  cases v with
  | list items => exact h
  | text s =>
    intro w hw
    obtain ⟨part, -, rfl⟩ := List.mem_map.mp hw
    simp [FilterValue.IsScalar, FilterValue.kind]
  | _ =>
    intro w hw
    obtain rfl := List.mem_singleton.mp hw
    exact h

theorem isScalar_promote {items : List FilterValue} (h : ∀ v ∈ items, v.IsScalar) :
    ∀ v ∈ promote items, v.IsScalar := by
  by_cases hfloat : ∃ v ∈ items, v.kind = .float
  · rw [promote_of_float hfloat]
    exact List.forall_mem_map.mpr fun v hv => (h v hv).widened
  · rwa [promote_of_no_float hfloat]

/-- **A descriptor whose value was read gives a well-kinded test.** -/
theorem isWellKinded_ofDescriptor {d : Descriptor} (hread : d.value.IsRead) {t : Test}
    (h : ofDescriptor d = .ok t) : t.IsWellKinded := by
  unfold ofDescriptor at h
  split at h
  · obtain ⟨hodd, rfl⟩ := membership_eq_ok_iff.mp h
    exact ⟨isScalar_promote (isScalar_members hread), oddKind?_eq_none_iff.mp hodd⟩
  · split at h
    · cases h
    · obtain rfl := Except.ok.inj h
      trivial
  · split at h
    · cases h
    · cases h
    · rename_i hlist
      obtain rfl := Except.ok.inj h
      exact hread.isScalar hlist

theorem coerce_eq_error {property : String} {raw : Value} {kind : ValueKind} {e : FilterError}
    (h : coerce property raw kind = .error e) :
    e = .coercionFailure property kind (Finding.ofValue raw) := by
  unfold coerce at h
  split_ifs at h
  split at h
  · cases h
  · exact (Except.error.inj h).symm

/-- **A test fails only because the property is not of the kind that it asks for.** -/
theorem run_eq_error {property : String} {raw : Value} {t : Test} {e : FilterError}
    (h : t.run property raw = .error e) :
    ∃ kind, t.kind? = some kind ∧ e = .coercionFailure property kind (Finding.ofValue raw) := by
  match t with
  | .compare relation value =>
    rw [run] at h
    split at h
    · cases h
    · exact ⟨value.kind, rfl, coerce_eq_error (map_eq_error_iff.mp h)⟩
  | .contains needle => exact ⟨.text, rfl, coerce_eq_error (map_eq_error_iff.mp h)⟩
  | .among [] => cases h
  | .among (first :: rest) => exact ⟨first.kind, rfl, coerce_eq_error (map_eq_error_iff.mp h)⟩

end Test

/-- A predicate of well-kinded tests never asks for a list. -/
theorem Predicate.holds_ne_list {p : Predicate} (h : ∀ f ∈ p.fragments, f.test.IsWellKinded)
    (r : Record) (property : String) (found : Finding) :
    p.holds r ≠ .error (.coercionFailure property .list found) := by
  intro hfail
  obtain ⟨f, hf, hholds⟩ := exists_of_holdAll_eq_error hfail
  unfold Fragment.holds at hholds
  split at hholds
  · cases hholds
  · obtain ⟨kind, hkind, he⟩ := Test.run_eq_error hholds
    cases he
    exact (h f hf).kind?_ne_list hkind

/-! ## Compiling a filter -/

/-- On a descriptor that is bound the schema has the property, and only the test can fail. -/
theorem Fragment.ofDescriptor_of_isBound {schema : Schema} {d : Descriptor}
    (h : d.IsBound schema) :
    Fragment.ofDescriptor schema d = (Test.ofDescriptor d).map fun test => ⟨d.property, test⟩ := by
  rw [Fragment.ofDescriptor, h.resolved]

namespace Predicate

variable {table : PrefixTable} {schema : Schema} {m : Mapping} {ds : List Descriptor}

/-- **The predicate of bound descriptors** has one fragment for each of them, in their order. -/
theorem compile_eq_ok_iff_of_isBound (hbound : ∀ d ∈ ds, d.IsBound schema) {p : Predicate} :
    compile schema ds = .ok p ↔
      List.Forall₂ (fun d f => f.property = d.property ∧ Test.ofDescriptor d = .ok f.test)
        ds p.fragments := by
  have hcompile : compile schema ds = .ok p ↔
      List.Forall₂ (fun d f => Fragment.ofDescriptor schema d = .ok f) ds p.fragments := by
    rw [compile, map_eq_ok_iff, ← mapM_eq_ok_iff]
    exact ⟨fun ⟨_, hfs, hp⟩ => hp ▸ hfs, fun h => ⟨p.fragments, h, rfl⟩⟩
  have hstep : ∀ d f, d.IsBound schema →
      (Fragment.ofDescriptor schema d = .ok f ↔
        f.property = d.property ∧ Test.ofDescriptor d = .ok f.test) := by
    intro d f hd
    rw [Fragment.ofDescriptor_of_isBound hd, map_eq_ok_iff]
    constructor
    · rintro ⟨test, htest, rfl⟩
      exact ⟨rfl, htest⟩
    · rintro ⟨hproperty, htest⟩
      exact ⟨f.test, htest, by rw [← hproperty]⟩
  rw [hcompile]
  constructor
  · intro h
    exact ((List.forall₂_and_left ds _).mpr ⟨hbound, h⟩).imp fun d f hdf => (hstep d f hdf.1).mp hdf.2
  · intro h
    exact ((List.forall₂_and_left ds _).mpr ⟨hbound, h⟩).imp fun d f hdf => (hstep d f hdf.1).mpr hdf.2

/-- Bound descriptors that do not compile have one that is refused so. -/
theorem exists_refused_of_compile_eq_error (hbound : ∀ d ∈ ds, d.IsBound schema) {e : FilterError}
    (h : compile schema ds = .error e) : ∃ d ∈ ds, d.Refused e := by
  obtain ⟨d, hd, hfail⟩ := exists_of_mapM_eq_error (map_eq_error_iff.mp h)
  rw [Fragment.ofDescriptor_of_isBound (hbound d hd), map_eq_error_iff] at hfail
  exact ⟨d, hd, Test.ofDescriptor_eq_error_iff.mp hfail⟩

/-- **Compiling the descriptors of a filter.** It fails iff a descriptor is refused for its value,
and as one of these descriptors does; that a property is unknown is never the cause. Otherwise it
gives one fragment for each descriptor, and the descriptors stand in the order of the fields: a
fragment tests the property of its descriptor, spelled as in the schema, in a well-kinded way, and
no record makes the predicate ask for a list. -/
theorem compile_of_ofFields (hbind : Descriptor.ofFields table schema m = .ok ds) :
    ((∃ e, compile schema ds = .error e) ↔ ∃ d ∈ ds, ∃ e, d.Refused e) ∧
    (∀ e, compile schema ds = .error e → ∃ d ∈ ds, d.Refused e) ∧
    (ds.map Descriptor.field).Sublist (m.filterMap fun entry => entry.1.asText?) ∧
    ∀ p, compile schema ds = .ok p →
      List.Forall₂ (fun d f => f.property = d.property ∧ Test.ofDescriptor d = .ok f.test)
        ds p.fragments ∧
      (∀ f ∈ p.fragments, f.property ∈ schema.properties ∧ f.test.IsWellKinded) ∧
      ∀ r property found, p.holds r ≠ .error (.coercionFailure property .list found) := by
  have hbound := Descriptor.ofFields_isBound hbind
  have hrefused : ∀ e, compile schema ds = .error e → ∃ d ∈ ds, d.Refused e :=
    fun e => exists_refused_of_compile_eq_error hbound
  refine ⟨⟨?_, ?_⟩, hrefused, Descriptor.ofFields_sublist hbind, fun p hp => ?_⟩
  · rintro ⟨e, he⟩
    obtain ⟨d, hd, hde⟩ := hrefused e he
    exact ⟨d, hd, e, hde⟩
  · rintro ⟨d, hd, e, hde⟩
    cases hcompile : compile schema ds with
    | error e' => exact ⟨e', rfl⟩
    | ok p =>
      -- a descriptor that has a fragment is not refused
      have hfragments := (compile_eq_ok_iff_of_isBound hbound).mp hcompile
      obtain ⟨f, -, -, hf⟩ := exists_of_forall₂ hfragments hd
      cases hf.symm.trans (Test.ofDescriptor_eq_error_iff.mpr hde)
  · have hfragments := (compile_eq_ok_iff_of_isBound hbound).mp hp
    have hwell : ∀ f ∈ p.fragments, f.property ∈ schema.properties ∧ f.test.IsWellKinded := by
      intro f hf
      obtain ⟨d, hd, hproperty, htest⟩ := exists_of_forall₂ hfragments.flip hf
      rw [hproperty]
      exact ⟨(Schema.resolve?_eq_some (hbound d hd).resolved).1,
        Test.isWellKinded_ofDescriptor (hbound d hd).value htest⟩
    exact ⟨hfragments, hwell, holds_ne_list fun f hf => (hwell f hf).2⟩

/-- A schema that spells one property in two ways. -/
def twoSpellings : Schema := ⟨"Row", ["Id", "ID"]⟩

/-- A bound, a membership list with a null and a tag in it, and an unknown field. -/
def mixedFields : Mapping :=
  [(.text "MinID", .ofInt 2), (.text "Name", .mapping []),
    (.text "Listid", .sequence [.ofInt 3, .null, .tagged "x" (.ofInt 5)])]

/-- Both fields refer to the first spelling, and the unknown one may hold a mapping. -/
theorem compile_of_ofFields_two_spellings :
    ∃ ds p, Descriptor.ofFields .standard twoSpellings mixedFields = .ok ds ∧
      compile twoSpellings ds = .ok p ∧ p.fragments.map Fragment.property = ["Id", "Id"] ∧
      ∀ r property found, p.holds r ≠ .error (.coercionFailure property .list found) := by
  have hbind : Descriptor.ofFields .standard twoSpellings mixedFields =
      .ok [⟨"MinID", some .atLeast, "Id", .greaterOrEqual, .int 2⟩,
        ⟨"Listid", some .among, "Id", .membership, .list [.int 3, .int 5]⟩] := by cbv
  have hcompile : compile twoSpellings [⟨"MinID", some .atLeast, "Id", .greaterOrEqual, .int 2⟩,
        ⟨"Listid", some .among, "Id", .membership, .list [.int 3, .int 5]⟩] =
      .ok ⟨[⟨"Id", .compare .ge (.int 2)⟩, ⟨"Id", .among [.int 3, .int 5]⟩]⟩ := by cbv
  obtain ⟨-, -, hevaluated⟩ := (compile_of_ofFields hbind).2.2.2 _ hcompile
  exact ⟨_, _, hbind, hcompile, rfl, hevaluated⟩

end Predicate

end RecordQuery
