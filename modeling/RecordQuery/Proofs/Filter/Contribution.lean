import RecordQuery.Proofs.Filter.Compilation

/-!
# What each entry of a filter contributes

Binding goes over the entries of a filter and compiling over what was bound, each up to the first
failure. Together they come to this: every entry on its own fails, is passed over or contributes
one fragment, and the predicate of a filter without a failing entry is the list of contributions.

* `Predicate.ofFields_eq_ok_iff`: when a filter has a predicate, and which.
* `Predicate.ofFields_of_subset`: some entries of a filter fail less and contribute less.
* `IsPassedOver.ofFields_insert`: an entry that is passed over may as well be left out, whatever
  its value.
-/

namespace RecordQuery

variable {table : PrefixTable} {schema : Schema}

/-! ## Contributions -/

/-- What one entry of a filter contributes: a fragment, or none if it is passed over. -/
def Fragment.ofEntry (table : PrefixTable) (schema : Schema) (entry : Value × Value) :
    Except FilterError (Option Fragment) :=
  match Descriptor.ofEntry table schema entry.1 entry.2 with
  | .error e => .error e
  | .ok none => .ok none
  | .ok (some d) => (Fragment.ofDescriptor schema d).map some

/-- An entry that is bound contributes the test of its descriptor. -/
theorem Fragment.ofEntry_eq_some {entry : Value × Value} {d : Descriptor} {test : Test}
    (hd : Descriptor.ofEntry table schema entry.1 entry.2 = .ok (some d))
    (htest : Test.ofDescriptor d = .ok test) :
    Fragment.ofEntry table schema entry = .ok (some ⟨d.property, test⟩) := by
  rw [ofEntry, hd]
  show (ofDescriptor schema d).map some = _
  rw [ofDescriptor_of_isBound (Descriptor.ofEntry_isBound hd), htest]
  rfl

namespace Predicate

/-- The predicate of the entries of a filter: they are bound, then what was bound is compiled. -/
def ofFields (table : PrefixTable) (schema : Schema) (m : Mapping) : Except FilterError Predicate :=
  Descriptor.ofFields table schema m >>= compile schema

/-- The contributions of entries, in their order. -/
def contributions (table : PrefixTable) (schema : Schema) (m : Mapping) : List Fragment :=
  m.filterMap fun entry => (Fragment.ofEntry table schema entry).toOption.join

theorem contributions_cons {entry : Value × Value} {f? : Option Fragment}
    (h : Fragment.ofEntry table schema entry = .ok f?) (m : Mapping) :
    contributions table schema (entry :: m) = f?.toList ++ contributions table schema m := by
  rw [contributions, List.filterMap_cons, h]
  cases f? <;> rfl

theorem compile_cons_eq_ok_iff {d : Descriptor} {ds : List Descriptor} {p : Predicate} :
    compile schema (d :: ds) = .ok p ↔
      ∃ f q, Fragment.ofDescriptor schema d = .ok f ∧ compile schema ds = .ok q ∧
        p = ⟨f :: q.fragments⟩ := by
  simp only [compile, map_eq_ok_iff, mapM_cons_eq_ok_iff]
  constructor
  · rintro ⟨_, ⟨f, fs, hf, hfs, rfl⟩, rfl⟩
    exact ⟨f, ⟨fs⟩, hf, ⟨fs, hfs, rfl⟩, rfl⟩
  · rintro ⟨f, _, hf, ⟨fs, hfs, rfl⟩, rfl⟩
    exact ⟨f :: fs, ⟨f, fs, hf, hfs, rfl⟩, rfl⟩

theorem ofFields_nil : ofFields table schema [] = .ok ⟨[]⟩ := rfl

/-- **One step of binding and compiling**: the entry has its contribution, whatever follows. -/
theorem ofFields_cons_eq_ok_iff {entry : Value × Value} {m : Mapping} {p : Predicate} :
    ofFields table schema (entry :: m) = .ok p ↔
      ∃ f? q, Fragment.ofEntry table schema entry = .ok f? ∧ ofFields table schema m = .ok q ∧
        p = ⟨f?.toList ++ q.fragments⟩ := by
  rw [ofFields, bind_eq_ok_iff]
  constructor
  · rintro ⟨_, hbind, hcompile⟩
    obtain ⟨d?, ds, hentry, hds, rfl⟩ := Descriptor.ofFields_cons_eq_ok_iff.mp hbind
    cases d? with
    | none =>
      have hcontribution : Fragment.ofEntry table schema entry = .ok none := by
        rw [Fragment.ofEntry, hentry]
      exact ⟨none, p, hcontribution, bind_eq_ok_iff.mpr ⟨ds, hds, hcompile⟩, rfl⟩
    | some d =>
      obtain ⟨f, q, hf, hq, rfl⟩ := compile_cons_eq_ok_iff.mp hcompile
      have hcontribution : Fragment.ofEntry table schema entry = .ok (some f) := by
        rw [Fragment.ofEntry, hentry]
        exact map_eq_ok_iff.mpr ⟨f, hf, rfl⟩
      exact ⟨some f, q, hcontribution, bind_eq_ok_iff.mpr ⟨ds, hds, hq⟩, rfl⟩
  · rintro ⟨f?, q, hcontribution, hrest, rfl⟩
    obtain ⟨ds, hds, hq⟩ := bind_eq_ok_iff.mp hrest
    unfold Fragment.ofEntry at hcontribution
    split at hcontribution
    · cases hcontribution
    · rename_i hentry
      obtain rfl := Except.ok.inj hcontribution
      exact ⟨ds, Descriptor.ofFields_cons_eq_ok_iff.mpr ⟨none, ds, hentry, hds, rfl⟩, hq⟩
    · rename_i d hentry
      obtain ⟨f, hf, rfl⟩ := map_eq_ok_iff.mp hcontribution
      exact ⟨d :: ds, Descriptor.ofFields_cons_eq_ok_iff.mpr ⟨some d, ds, hentry, hds, rfl⟩,
        compile_cons_eq_ok_iff.mpr ⟨f, q, hf, hq, rfl⟩⟩

/-- **When a filter has a predicate, and which.** It has one iff no entry fails on its own, and the
fragments are the contributions in the order of the entries. -/
theorem ofFields_eq_ok_iff {m : Mapping} {p : Predicate} :
    ofFields table schema m = .ok p ↔
      (∀ entry ∈ m, ∃ f?, Fragment.ofEntry table schema entry = .ok f?) ∧
        p = ⟨contributions table schema m⟩ := by
  induction m generalizing p with
  | nil => simp [ofFields_nil, contributions, eq_comm]
  | cons entry m ih =>
    rw [ofFields_cons_eq_ok_iff, List.forall_mem_cons]
    constructor
    · rintro ⟨f?, q, hentry, hq, rfl⟩
      obtain ⟨hm, rfl⟩ := ih.mp hq
      exact ⟨⟨⟨f?, hentry⟩, hm⟩, congrArg Predicate.mk (contributions_cons hentry m).symm⟩
    · rintro ⟨⟨⟨f?, hentry⟩, hm⟩, rfl⟩
      exact ⟨f?, _, hentry, ih.mpr ⟨hm, rfl⟩, congrArg Predicate.mk (contributions_cons hentry m)⟩

/-- **Some entries of a filter fail less and contribute less** than all of them. -/
theorem ofFields_of_subset {m n : Mapping} (h : m ⊆ n) {q : Predicate}
    (hq : ofFields table schema n = .ok q) :
    ∃ p, ofFields table schema m = .ok p ∧ p.fragments ⊆ q.fragments := by
  obtain ⟨hn, rfl⟩ := ofFields_eq_ok_iff.mp hq
  refine ⟨_, ofFields_eq_ok_iff.mpr ⟨fun entry he => hn entry (h he), rfl⟩, fun f hf => ?_⟩
  obtain ⟨entry, he, hcontribution⟩ := List.mem_filterMap.mp hf
  exact List.mem_filterMap.mpr ⟨entry, h he, hcontribution⟩

end Predicate

/-! ## Entries that are passed over -/

/-- What keeps an entry of a filter from being bound: its key is no text, its value is null, or its
name resolves to no property. Nothing else is asked of the value. -/
def IsPassedOver (table : PrefixTable) (schema : Schema) (key raw : Value) : Prop :=
  key.asText? = none ∨ raw.isNull = true ∨
    ∃ field, key.asText? = some field ∧ schema.resolve? (Descriptor.split table field).2 = none

namespace IsPassedOver

variable {key raw : Value}

theorem ofEntry_eq (h : IsPassedOver table schema key raw) :
    Descriptor.ofEntry table schema key raw = .ok none := by
  unfold Descriptor.ofEntry
  cases hkey : key.asText? with
  | none => rfl
  | some field =>
    rcases h with hnone | hnull | ⟨name, hname, hresolve⟩
    · cases hkey.symm.trans hnone
    · simp only [hnull, if_true]
    · obtain rfl := Option.some.inj (hkey.symm.trans hname)
      simp only [hresolve, ite_self]

/-- **An entry that is passed over may as well be left out**, also where another entry fails. -/
theorem ofFields_insert (h : IsPassedOver table schema key raw) (pre post : Mapping) :
    Descriptor.ofFields table schema (pre ++ (key, raw) :: post) =
      Descriptor.ofFields table schema (pre ++ post) := by
  induction pre with
  | nil => rw [List.nil_append, List.nil_append, Descriptor.ofFields, h.ofEntry_eq]
  | cons entry pre ih =>
    rw [List.cons_append, List.cons_append, Descriptor.ofFields, Descriptor.ofFields, ih]

end IsPassedOver

end RecordQuery
