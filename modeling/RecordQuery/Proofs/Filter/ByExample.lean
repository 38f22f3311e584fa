import RecordQuery.Proofs.Filter.Contribution
import RecordQuery.Proofs.Value.Mapping

/-!
# Query by example

A filter that is made of a record's own values selects that record. A value takes two ways to the
comparison: the filter reads it as a value of its own kind, and the record's property is read as a
value of that kind. The two readings agree on booleans, texts and all numbers but NaN, tags aside,
and range tests of date texts compare the text with itself, as a date or as a text.

* `Record.find?_of_holdsAlone`: a key that is alone up to case is found under every spelling.
* `FilterValue.exists_mirrors`: the two readings of a value agree.
* `Predicate.holds_of_isExample`: any number of fields, made of a record's values in any of six
  ways, bind, compile and hold of the record.
-/

namespace RecordQuery

/-! ## A key that is alone -/

namespace Record

/-- `v` is the value of the one key of the record that is `name` in lower case. -/
def HoldsAlone (r : Record) (name : String) (v : Value) : Prop :=
  ∃ key, (key, v) ∈ r.entries ∧ key.asText? = some name ∧
    ∀ entry ∈ r.entries, ∀ other, entry.1.asText? = some other →
      Text.lower other = Text.lower name → entry = (key, v)

/-- What is found in a list is the one thing in it that satisfies the test. -/
theorem find?_eq_some_of_forall {α : Type} {p : α → Bool} {l : List α} {a : α} (ha : a ∈ l)
    (hpa : p a = true) (honly : ∀ x ∈ l, p x = true → x = a) : l.find? p = some a := by
  cases hfind : l.find? p with
  | none => exact absurd hpa (List.find?_eq_none.mp hfind a ha)
  | some x =>
    have hpx : p x = true := List.find?_some hfind
    rw [honly x (List.mem_of_find?_eq_some hfind) hpx]

/-- **A key that is alone up to case is found** under every spelling of its name. -/
theorem find?_of_holdsAlone {r : Record} {name property : String} {v : Value}
    (h : r.HoldsAlone name v) (hproperty : Text.lower property = Text.lower name) :
    r.find? property = some v := by
  obtain ⟨key, hmem, hkey, halone⟩ := h
  have hexact : ∀ entry ∈ r.entries, entry.1.same (.text property) = true → entry = (key, v) := by
    intro entry hentry hsame
    exact halone entry hentry property (by rw [Value.same_text_iff.mp hsame]; rfl) hproperty
  by_cases hsame : key.same (.text property) = true
  · have hfound : r.entries.findText? property = some v :=
      congrArg (Option.map Prod.snd) (find?_eq_some_of_forall hmem hsame hexact)
    rw [find?, hfound]
    rfl
  · have hmissing : r.entries.findText? property = none := by
      refine Option.map_eq_none_iff.mpr (List.find?_eq_none.mpr fun entry hentry hfound => hsame ?_)
      rw [hexact entry hentry hfound] at hfound
      exact hfound
    have hfound : (r.entries.findTextKey? fun k => Text.lower k == Text.lower property) = some v := by
      refine congrArg (Option.map Prod.snd) (find?_eq_some_of_forall hmem ?_ ?_)
      · simp [hkey, hproperty]
      · intro entry hentry hlower
        obtain ⟨other, hother, hlower⟩ := (Option.any_eq_true _ _).mp hlower
        exact halone entry hentry other hother ((beq_iff_eq.mp hlower).trans hproperty)
    rw [find?, hmissing]
    exact hfound

end Record

/-! ## The two readings of a value -/

/-- A boolean, a text or a number other than NaN, under any tags. -/
def Value.IsComparable (v : Value) : Prop :=
  match v.untagged with
  | .bool _ | .text _ => True
  | .number n => n ≠ .float .nan
  | _ => False

namespace Double

theorem ofPlace_ne_nan (negative : Bool) (place : Nat) : ofPlace negative place ≠ .nan := by
  unfold ofPlace
  split <;> simp

theorem ofInt_ne_nan (n : Int) : ofInt n ≠ .nan := ofPlace_ne_nan _ _

theorem compare?_self {x : Double} (h : x ≠ .nan) : x.compare? x = some .eq := by
  cases x with
  | nan => exact absurd rfl h
  | infinite a => exact congrArg some Std.ReflCmp.compare_self
  | finite s e f => exact congrArg some Std.ReflCmp.compare_self

end Double

theorem DateTime.compare_self (t : DateTime) : t.compare t = .eq := by
  unfold DateTime.compare
  exact Std.ReflCmp.compare_self

/-- A number other than NaN is a float other than NaN. -/
theorem Number.toDouble_ne_nan {n : Number} (h : n ≠ .float .nan) : n.toDouble ≠ .nan := by
  cases n with
  | int n hn => exact Double.ofInt_ne_nan n
  | float x => exact fun hx => h (congrArg Number.float hx)

namespace FilterValue

/-- A property of value `v`, read as the kind of `x`, is equal to `x`. -/
structure Mirrors (x : FilterValue) (v : Value) : Prop where
  notNull : v.isNull = false
  coerced : coerce? v x.kind = some x
  equal : x.compare? x = some .eq
  text : ∀ s, x = .text s → v.asText? = some s

/-- **The two readings of a value agree.** -/
theorem exists_mirrors {v : Value} (h : v.IsComparable) (field : String) :
    ∃ x, ofValue field v = .ok (some x) ∧ x.Mirrors v := by
  rw [ofValue_untagged]
  unfold Value.IsComparable at h
  split at h
  · rename_i b hv
    rw [hv]
    refine ⟨.bool b, rfl, ?_, ?_, ?_, ?_⟩
    · simp [Value.isNull, hv]
    · simp [coerce?, hv, kind, coerceBool?]
    · exact congrArg some Std.ReflCmp.compare_self
    · rintro _ ⟨⟩
  · rename_i s hv
    rw [hv]
    refine ⟨.text s, rfl, ?_, ?_, ?_, ?_⟩
    · simp [Value.isNull, hv]
    · simp [coerce?, hv, kind, coerceText?]
    · exact congrArg some Std.ReflCmp.compare_self
    · rintro _ ⟨⟩
      simp [Value.asText?, hv]
  · rename_i n hv
    rw [hv]
    have hnull : v.isNull = false := by simp [Value.isNull, hv]
    cases hint : n.asInt64? with
    | some i =>
      have hx : ofNumber n = .int i := by rw [ofNumber, hint]
      refine ⟨.int i, congrArg (Except.ok ∘ some) hx, hnull, ?_, ?_, ?_⟩
      · simp [coerce?, hv, kind, coerceNumber?, hint]
      · exact congrArg some Std.ReflCmp.compare_self
      · rintro _ ⟨⟩
    | none =>
      have hx : ofNumber n = .float n.toDouble := by rw [ofNumber, hint]
      refine ⟨.float n.toDouble, congrArg (Except.ok ∘ some) hx, hnull, ?_, ?_, ?_⟩
      · simp [coerce?, hv, kind, coerceNumber?]
      · exact Double.compare?_self (Number.toDouble_ne_nan h)
      · rintro _ ⟨⟩
  · exact h.elim

namespace Mirrors

variable {x : FilterValue} {v : Value}

theorem coerce_eq (h : x.Mirrors v) (property : String) :
    coerce property v x.kind = .ok (some x) := by
  rw [coerce, h.notNull, h.coerced]
  rfl

/-- Where the two are compared as dates, they are one date. -/
theorem dateOrder?_eq (h : x.Mirrors v) {relation : Relation} {o : Ordering}
    (ho : dateOrder? relation x v = some o) : o = .eq := by
  unfold dateOrder? at ho
  split at ho
  · cases ho
  · rename_i s hrelation
    obtain ⟨expected, hexpected, ho⟩ := Option.bind_eq_some_iff.mp ho
    obtain ⟨actual, hactual, ho⟩ := Option.bind_eq_some_iff.mp ho
    rw [h.text s rfl, Option.bind_some, hexpected] at hactual
    obtain rfl := Option.some.inj hactual
    exact (Option.some.inj ho).symm.trans (DateTime.compare_self expected)
  · cases ho

/-- Every relation that a field can test holds of equals. -/
theorem run_compare (h : x.Mirrors v) (property : String) (relation : Relation) :
    Test.run property v (.compare relation x) = .ok true := by
  have hholds : relation.holds .eq = true := by cases relation <;> rfl
  rw [Test.run]
  split
  · rename_i o ho
    rw [h.dateOrder?_eq ho, hholds]
  · rw [h.coerce_eq]
    simp [Except.map, h.equal, hholds]

/-- A value is in the list of it alone. -/
theorem run_among (h : x.Mirrors v) (property : String) :
    Test.run property v (.among [x]) = .ok true := by
  rw [Test.run, h.coerce_eq]
  simp [Except.map, h.equal]

/-- Only scalars are equal to themselves. -/
theorem kind_ne_list (h : x.Mirrors v) : x.kind ≠ .list := by
  intro hlist
  cases x with
  | list items => cases h.equal
  | _ => cases hlist

end Mirrors

end FilterValue

/-! ## Fields made of a record's values -/

/-- A value of the record that can be an example: the schema has the property, no other key of the
record is the same up to case, and the value can be compared. -/
structure IsExemplary (schema : Schema) (r : Record) (name : String) (v : Value) : Prop where
  resolved : ∃ property, schema.resolve? name = some property
  alone : r.HoldsAlone name v
  comparable : v.IsComparable

/-- A filter field made of a value of the record. -/
inductive IsExample (schema : Schema) (r : Record) : Value × Value → Prop
  /-- The value is asked for itself; the name must not read as a prefixed one. -/
  | equal {name : String} {v : Value} (h : IsExemplary schema r name v)
      (hplain : ∀ p, ¬ PrefixTable.standard.Starts p name) : IsExample schema r (.text name, v)
  /-- The value is a bound, from below or above. -/
  | bound {p : Prefix} {name : String} {v : Value} (h : IsExemplary schema r name v)
      (hp : p ∈ [Prefix.atLeast, .atMost, .since, .upTo]) :
      IsExample schema r (.text (p.standard ++ name), v)
  /-- The value is the one item of a list. -/
  | among {name : String} {v : Value} (h : IsExemplary schema r name v) :
      IsExample schema r (.text (Prefix.among.standard ++ name), .sequence [v])

/-- A field that compares with an exemplary value contributes a test that holds of the record. -/
theorem IsExemplary.compare {schema : Schema} {r : Record} {name field : String} {v : Value}
    {prefix? : Option Prefix} {relation : Relation} (h : IsExemplary schema r name v)
    (hsplit : Descriptor.split .standard field = (prefix?, name))
    (hrelation : Test.relation? (.ofPrefix prefix?) = some relation) :
    ∃ f, Fragment.ofEntry .standard schema (.text field, v) = .ok (some f) ∧
      f.holds r = .ok true := by
  obtain ⟨property, hproperty⟩ := h.resolved
  obtain ⟨x, hx, hmirrors⟩ := FilterValue.exists_mirrors h.comparable field
  have hd := Descriptor.ofEntry_of_split hsplit hmirrors.notNull hproperty hx
  refine ⟨_, Fragment.ofEntry_eq_some hd (Test.ofDescriptor_of_relation hrelation
    hmirrors.kind_ne_list), ?_⟩
  rw [Fragment.holds, r.find?_of_holdsAlone h.alone (Schema.resolve?_eq_some hproperty).2]
  exact hmirrors.run_compare property relation

/-- So does a field that asks for a list of an exemplary value. -/
theorem IsExemplary.among {schema : Schema} {r : Record} {name field : String} {v : Value}
    (h : IsExemplary schema r name v)
    (hsplit : Descriptor.split .standard field = (some .among, name)) :
    ∃ f, Fragment.ofEntry .standard schema (.text field, .sequence [v]) = .ok (some f) ∧
      f.holds r = .ok true := by
  obtain ⟨property, hproperty⟩ := h.resolved
  obtain ⟨x, hx, hmirrors⟩ := FilterValue.exists_mirrors h.comparable field
  have hitems : FilterValue.ofItems field [v] = .ok [x] := by
    rw [FilterValue.ofItems_cons_of_scalar hx hmirrors.kind_ne_list]
    rfl
  have hlist : FilterValue.ofValue field (.sequence [v]) = .ok (some (.list [x])) := by
    rw [FilterValue.ofValue, hitems]
    rfl
  have hd := Descriptor.ofEntry_of_split hsplit rfl hproperty hlist
  have htest : Test.membership ⟨field, some .among, property, .membership, .list [x]⟩ =
      .ok (.among [x]) := by
    rw [Test.membership_eq_ok_iff]
    show Test.oddKind? (Test.promote [x]) = none ∧ Test.among [x] = .among (Test.promote [x])
    rw [Test.promote_singleton]
    exact ⟨rfl, rfl⟩
  refine ⟨_, Fragment.ofEntry_eq_some hd htest, ?_⟩
  rw [Fragment.holds, r.find?_of_holdsAlone h.alone (Schema.resolve?_eq_some hproperty).2]
  exact hmirrors.run_among property

/-- **Every field made of the record's values** contributes a test that holds of the record. -/
theorem IsExample.exists_fragment {schema : Schema} {r : Record} {entry : Value × Value}
    (h : IsExample schema r entry) :
    ∃ f, Fragment.ofEntry .standard schema entry = .ok (some f) ∧ f.holds r = .ok true := by
  cases h with
  | equal h hplain =>
    exact h.compare (Descriptor.split_of_plain hplain)
      (rfl : Test.relation? (.ofPrefix none) = some .eq)
  | @bound p name v h hp =>
    obtain ⟨relation, hrelation⟩ : ∃ relation, Test.relation? (.ofPrefix (some p)) = some relation := by
      simp only [List.mem_cons, List.not_mem_nil, or_false] at hp
      rcases hp with rfl | rfl | rfl | rfl <;> exact ⟨_, rfl⟩
    exact h.compare (Descriptor.split_spelling_append PrefixTable.isPrefixFree_standard p name) hrelation
  | among h => exact h.among (Descriptor.split_spelling_append PrefixTable.isPrefixFree_standard .among _)

/-- **A filter made of a record's own values selects the record.** Each of its fields binds, the
whole compiles, and the predicate is true on the record, for any number of fields, one or none
included. -/
theorem Predicate.holds_of_isExample {schema : Schema} {r : Record} {m : Mapping}
    (h : ∀ entry ∈ m, IsExample schema r entry) :
    ∃ ds p, Descriptor.ofFields .standard schema m = .ok ds ∧ ds.length = m.length ∧
      compile schema ds = .ok p ∧ p.holds r = .ok true := by
  have hfields : ofFields .standard schema m = .ok ⟨contributions .standard schema m⟩ := by
    refine ofFields_eq_ok_iff.mpr ⟨fun entry hentry => ?_, rfl⟩
    obtain ⟨f, hf, -⟩ := (h entry hentry).exists_fragment
    exact ⟨some f, hf⟩
  obtain ⟨ds, hds, hcompile⟩ := bind_eq_ok_iff.mp hfields
  refine ⟨ds, _, hds, ?_, hcompile, holdAll_eq_true_iff.mpr fun f hf => ?_⟩
  · have hfragments := (compile_eq_ok_iff_of_isBound (Descriptor.ofFields_isBound hds)).mp hcompile
    refine hfragments.length_eq.trans (List.filterMap_length_eq_length.mpr fun entry hentry => ?_)
    obtain ⟨f, hf, -⟩ := (h entry hentry).exists_fragment
    rw [hf]
    rfl
  · obtain ⟨entry, hentry, hcontribution⟩ := List.mem_filterMap.mp hf
    obtain ⟨g, hg, hholds⟩ := (h entry hentry).exists_fragment
    rw [hg] at hcontribution
    obtain rfl := Option.some.inj hcontribution
    exact hholds

/-- The largest integer of a document, which is read as a float. -/
def largestInteger : Value := .ofInt 18446744073709551615

/-- A date under a tag. -/
def taggedDate : Value := .tagged "when" (.text "2024-01-15")

/-- A record of the two. -/
def largestRow : Record := ⟨[(.text "Id", largestInteger), (.text "Opened", taggedDate)]⟩

/-- A schema with other spellings of the properties. -/
def largestSchema : Schema := ⟨"Row", ["OPENED", "id"]⟩

theorem isExemplary_largestInteger : IsExemplary largestSchema largestRow "Id" largestInteger where
  resolved := ⟨"id", by cbv⟩
  comparable := by
    show Number.int _ _ ≠ .float .nan
    simp
  alone := by
    refine ⟨.text "Id", List.mem_cons_self, rfl, ?_⟩
    refine List.forall_mem_cons.mpr ⟨fun _ _ _ => rfl, List.forall_mem_singleton.mpr ?_⟩
    intro other hother hlower
    obtain rfl := Option.some.inj hother
    exact absurd hlower (by decide +kernel)

theorem isExemplary_taggedDate : IsExemplary largestSchema largestRow "Opened" taggedDate where
  resolved := ⟨"OPENED", by cbv⟩
  comparable := trivial
  alone := by
    refine ⟨.text "Opened", List.mem_cons_of_mem _ List.mem_cons_self, rfl, ?_⟩
    refine List.forall_mem_cons.mpr ⟨?_, List.forall_mem_singleton.mpr fun _ _ _ => rfl⟩
    intro other hother hlower
    obtain rfl := Option.some.inj hother
    exact absurd hlower (by decide +kernel)

/-- A bound that is a float, a date that is its own end, a date in a list, and a float. -/
def largestFields : Mapping :=
  [(.text "MinId", largestInteger), (.text "ToOpened", taggedDate),
    (.text "ListOpened", .sequence [taggedDate]), (.text "Id", largestInteger)]

/-- Both values are given to the filter in two ways. -/
theorem Predicate.holds_of_isExample_largest :
    (∀ entry ∈ largestFields, IsExample largestSchema largestRow entry) ∧
    ∃ ds p, Descriptor.ofFields .standard largestSchema largestFields = .ok ds ∧
      ds.length = 4 ∧ compile largestSchema ds = .ok p ∧ p.holds largestRow = .ok true := by
  have hplain : ∀ p, ¬ PrefixTable.standard.Starts p "Id" := by
    intro p
    cases p <;> decide
  have hfields : ∀ entry ∈ largestFields, IsExample largestSchema largestRow entry := by
    refine List.forall_mem_cons.mpr ⟨.bound isExemplary_largestInteger (p := .atLeast) (by decide), ?_⟩
    refine List.forall_mem_cons.mpr ⟨.bound isExemplary_taggedDate (p := .upTo) (by decide), ?_⟩
    refine List.forall_mem_cons.mpr ⟨.among isExemplary_taggedDate, ?_⟩
    exact List.forall_mem_singleton.mpr (.equal isExemplary_largestInteger hplain)
  exact ⟨hfields, holds_of_isExample hfields⟩

end RecordQuery
