import RecordQuery.Filter.Typed
import RecordQuery.Proofs.Calendar.Forms
import RecordQuery.Proofs.Filter.ByExample
import RecordQuery.Proofs.Query.Fields

/-!
# Ranges of dates

A declared filter and a declared entity both write an instant as its full text, and a range test
reads the two texts again. Since every instant is read back from its text, the test never falls back
to comparing texts, whose order is another one outside of the years 0 to 9999; it compares the
instants that the texts show. These are the instants themselves, but for a leap second that no clock
shows, which is compared as the next second.

* `DateTime.compare_eq_iff`: instants that compare as equal are the same.
* `Test.run_dates`: a comparison of two written instants is one of what they show, for equality too.
* `Predicate.ofFields_single`: a filter that sets one field has that field's test for a predicate.
* `QueryService.holdsOf_dateRange`: a bound on a date selects exactly the entities within it.
-/

namespace RecordQuery

/-! ## Written instants -/

theorem DateTime.compare_eq_iff {a b : DateTime} : a.compare b = .eq ↔ a = b := by
  constructor
  · intro h
    have hfields : a.fields = b.fields := Std.LawfulEqCmp.eq_of_compare h
    obtain ⟨⟨_, _, _, _⟩, _, _, _, _, _⟩ := a
    obtain ⟨⟨_, _, _, _⟩, _, _, _, _, _⟩ := b
    simp only [fields, List.cons.injEq, Int.natCast_inj, and_true] at hfields
    obtain ⟨rfl, rfl, rfl, rfl, rfl, rfl, rfl⟩ := hfields
    rfl
  · rintro rfl
    exact compare_self a

/-- Instants have the same text iff they are shown as the same one. -/
theorem DateTime.toIsoText_eq_iff {a b : DateTime} :
    a.toIsoText = b.toIsoText ↔ a.carried = b.carried := by
  constructor
  · intro h
    have hread := ofText?_toIsoText a
    rw [h, ofText?_toIsoText b] at hread
    exact (Option.some.inj hread).symm
  · intro h
    rw [← toIsoText_carried a, h, toIsoText_carried]

/-- Two texts compare as equal if they are the same. -/
theorem FilterValue.compare?_text_eq_iff {s t : String} :
    (FilterValue.text s).compare? (.text t) = some .eq ↔ s = t := by
  show some (Ord.compare s.toList t.toList) = some .eq ↔ s = t
  rw [Option.some.injEq, Std.LawfulEqCmp.compare_eq_iff_eq, String.toList_inj]

theorem dateOrder?_dates {relation : Relation} (h : relation ≠ .eq) (a b : DateTime) :
    dateOrder? relation (.text a.toIsoText) (.text b.toIsoText) =
      some (b.carried.compare a.carried) := by
  have htext : (Value.text b.toIsoText).asText? = some b.toIsoText := rfl
  cases relation with
  | eq => exact absurd rfl h
  | ge | le =>
    simp only [dateOrder?, htext, Option.bind_some, DateTime.ofText?_toIsoText]
    rfl

/-- **A comparison of two written instants is one of the instants that they show**, for each of the
relations. -/
theorem Test.run_dates (property : String) (relation : Relation) (a b : DateTime) :
    (Test.compare relation (.text a.toIsoText)).run property (.text b.toIsoText) =
      .ok (relation.holds (b.carried.compare a.carried)) := by
  by_cases hrelation : relation = .eq
  · -- equality is that of the texts, which no two instants share that are shown differently
    subst hrelation
    have hcoerce : coerce property (.text b.toIsoText) .text = .ok (some (.text b.toIsoText)) := rfl
    have hsame : (FilterValue.text b.toIsoText).compare? (.text a.toIsoText) = some .eq ↔
        b.carried.compare a.carried = .eq := by
      rw [FilterValue.compare?_text_eq_iff, DateTime.toIsoText_eq_iff, DateTime.compare_eq_iff]
    have hany : ((FilterValue.text b.toIsoText).compare? (.text a.toIsoText)).any
        (Relation.eq.holds) = Relation.eq.holds (b.carried.compare a.carried) := by
      rw [Bool.eq_iff_iff, Option.any_eq_true]
      constructor
      · rintro ⟨o, ho, heq⟩
        rw [show o = .eq from beq_iff_eq.mp heq] at ho
        exact beq_iff_eq.mpr (hsame.mp ho)
      · intro heq
        exact ⟨.eq, hsame.mpr (beq_iff_eq.mp heq), rfl⟩
    exact congrArg Except.ok hany
  · rw [Test.run, dateOrder?_dates hrelation]

/-! ## A filter that sets one field -/

namespace Predicate

variable {table : PrefixTable} {schema : Schema}

/-- **A filter that sets one field** has the contribution of that field for a predicate. -/
theorem ofFields_single {pre post : Mapping} {entry : Value × Value} {f : Fragment}
    (hentry : Fragment.ofEntry table schema entry = .ok (some f))
    (hnull : ∀ other ∈ pre ++ post, other.2.isNull = true) :
    ofFields table schema (pre ++ entry :: post) = .ok ⟨[f]⟩ := by
  have hpassed : ∀ other ∈ pre ++ post, Fragment.ofEntry table schema other = .ok none := by
    intro other hother
    have hnone : Descriptor.ofEntry table schema other.1 other.2 = .ok none :=
      IsPassedOver.ofEntry_eq (.inr (.inl (hnull other hother)))
    rw [Fragment.ofEntry, hnone]
  have hnil {m : Mapping} (hm : m ⊆ pre ++ post) : contributions table schema m = [] := by
    refine List.filterMap_eq_nil_iff.mpr fun other hother => ?_
    rw [hpassed other (hm hother)]
    rfl
  refine ofFields_eq_ok_iff.mpr ⟨fun other hother => ?_, ?_⟩
  · rcases List.mem_append.mp hother with hpre | hrest
    · exact ⟨none, hpassed other (List.mem_append_left post hpre)⟩
    · rcases List.mem_cons.mp hrest with rfl | hpost
      · exact ⟨some f, hentry⟩
      · exact ⟨none, hpassed other (List.mem_append_right pre hpost)⟩
  · have happend : contributions table schema (pre ++ entry :: post) =
        contributions table schema pre ++ contributions table schema (entry :: post) :=
      List.filterMap_append
    rw [happend, contributions_cons hentry, hnil (List.subset_append_left pre post),
      hnil (List.subset_append_right pre post)]
    rfl

end Predicate

/-- The filter sets one of its own fields, and nothing of the base that is bound. -/
structure TypedFilter.SetsOnly (f : TypedFilter) (field : String) (v : FieldValue) : Prop where
  listId : f.base.listId = none
  disabled : f.base.disabled = none
  own : ∃ pre post, f.own = pre ++ (field, some v) :: post ∧ ∀ other ∈ pre ++ post, other.2 = none

/-- The fields of such a filter, as they are written. -/
theorem TypedFilter.SetsOnly.exists_toMapping {f : TypedFilter} {field : String} {v : FieldValue}
    (h : f.SetsOnly field v) :
    ∃ pre post, f.toMapping = pre ++ (.text field, v.toValue) :: post ∧
      ∀ other ∈ pre ++ post, other.2.isNull = true := by
  obtain ⟨hids, hdisabled, pre, post, hown, hnone⟩ := h
  have hbase : ∀ other ∈ f.base.toMapping, other.2.isNull = true := by
    rw [FilterBase.toMapping, hids, hdisabled]
    decide
  have hnull : ∀ other ∈ TypedFields.toMapping (pre ++ post), other.2.isNull = true := by
    intro other hother
    obtain ⟨field, hfield, rfl⟩ := List.mem_map.mp hother
    rw [hnone field hfield]
    rfl
  refine ⟨f.base.toMapping ++ TypedFields.toMapping pre, TypedFields.toMapping post, ?_, ?_⟩
  · rw [toMapping, hown, TypedFields.toMapping, List.map_append, List.append_assoc]
    rfl
  · rw [List.append_assoc, TypedFields.toMapping, TypedFields.toMapping, ← List.map_append]
    exact List.forall_mem_append.mpr ⟨hbase, hnull⟩

/-- Named values are looked up in a mapping as they are by name. -/
theorem TypedFields.findText?_toMapping (fields : TypedFields) (name : String) :
    Mapping.findText? fields.toMapping name =
      (fields.lookup name).map (FilterBase.orNull FieldValue.toValue) := by
  induction fields with
  | nil => rfl
  | cons field fields ih =>
    have hcons : Mapping.findText? (toMapping (field :: fields)) name =
        if (Value.text field.1).same (.text name) then
          some (FilterBase.orNull FieldValue.toValue field.2)
        else Mapping.findText? (toMapping fields) name := by
      unfold Mapping.findText? Mapping.find? toMapping
      rw [List.map_cons, List.find?_cons]
      cases (Value.text field.1).same (.text name) <;> rfl
    rw [hcons, List.lookup_cons, ih]
    by_cases hname : name = field.1
    · rw [if_pos (Value.same_text_iff.mpr (congrArg Value.text hname.symm)), hname,
        beq_self_eq_true]
      rfl
    · rw [if_neg fun hsame => hname (Value.text.inj (Value.same_text_iff.mp hsame)).symm,
        beq_false_of_ne hname]

/-- A property of an entity is found under its own name. -/
theorem TypedEntity.find?_of_lookup {x : TypedEntity} {property : String} {v : FieldValue}
    (h : x.properties.lookup property = some (some v)) :
    Record.find? ⟨x.properties.toMapping⟩ property = some v.toValue := by
  rw [Record.find?, TypedFields.findText?_toMapping, h]
  rfl

/-! ## Bounds on a date -/

namespace QueryService

variable {s : QueryService} {schema : Schema} {f : TypedFilter} {x : TypedEntity}

/-- A filter that sets a date under a prefix with a relation compares that date. -/
theorem holdsOf_date {p : Prefix} {relation : Relation} {name property : String} {a b : DateTime}
    (hfree : s.prefixes.IsPrefixFree)
    (hrelation : Test.relation? (.ofPrefix (some p)) = some relation)
    (hproperty : schema.resolve? name = some property)
    (hf : f.SetsOnly (s.prefixes.spelling p ++ name) (.date a))
    (hx : x.properties.lookup property = some (some (.date b))) :
    ∃ q, s.compileFilter f schema = .ok q ∧
      q.holdsOf x = .ok (relation.holds (b.carried.compare a.carried)) := by
  obtain ⟨pre, post, hwritten, hnull⟩ := hf.exists_toMapping
  have hentry : Descriptor.ofEntry s.prefixes schema (.text (s.prefixes.spelling p ++ name))
      (.text a.toIsoText) = .ok (some ⟨s.prefixes.spelling p ++ name, some p, property,
        .ofPrefix (some p), .text a.toIsoText⟩) :=
    Descriptor.ofEntry_of_split (Descriptor.split_spelling_append hfree p name) rfl hproperty rfl
  have htest : Test.ofDescriptor ⟨s.prefixes.spelling p ++ name, some p, property,
      .ofPrefix (some p), .text a.toIsoText⟩ = .ok (.compare relation (.text a.toIsoText)) :=
    Test.ofDescriptor_of_relation hrelation nofun
  refine ⟨⟨[⟨property, .compare relation (.text a.toIsoText)⟩]⟩, ?_, ?_⟩
  · have hfields : QueryFilter.fields f = .ok f.toMapping := rfl
    rw [compileFilter_eq_ofFields hfields, hwritten]
    exact Predicate.ofFields_single (Fragment.ofEntry_eq_some hentry htest) hnull
  · have hrecord : Record.ofEntity x = .ok ⟨x.properties.toMapping⟩ := rfl
    rw [Predicate.holdsOf_of_record _ hrecord, Predicate.holds_singleton, Fragment.holds,
      TypedEntity.find?_of_lookup hx]
    exact Test.run_dates property relation a b

/-- **A bound on a date is exact.** A declared filter that sets one field to an instant, under the
prefix for a lower or for an upper bound and the name of a property, binds and compiles, and on an
entity with an instant as that property the predicate says whether it is not before or not after the
one of the filter, each being taken for the instant that its text shows. It never fails, whatever the
years, the fractions and leap seconds. -/
theorem holdsOf_dateRange (hfree : s.prefixes.IsPrefixFree) {name property : String}
    (hproperty : schema.resolve? name = some property) {b : DateTime}
    (hx : x.properties.lookup property = some (some (.date b))) (a : DateTime) :
    (f.SetsOnly (s.prefixes.spelling .since ++ name) (.date a) →
      ∃ q, s.compileFilter f schema = .ok q ∧
        q.holdsOf x = .ok (b.carried.compare a.carried).isGE) ∧
    (f.SetsOnly (s.prefixes.spelling .upTo ++ name) (.date a) →
      ∃ q, s.compileFilter f schema = .ok q ∧
        q.holdsOf x = .ok (b.carried.compare a.carried).isLE) := by
  have hge : (b.carried.compare a.carried).isGE =
      Relation.ge.holds (b.carried.compare a.carried) := by
    cases b.carried.compare a.carried <;> rfl
  have hle : (b.carried.compare a.carried).isLE =
      Relation.le.holds (b.carried.compare a.carried) := by
    cases b.carried.compare a.carried <;> rfl
  rw [hge, hle]
  exact ⟨fun hf => holdsOf_date hfree rfl hproperty hf hx,
    fun hf => holdsOf_date hfree rfl hproperty hf hx⟩

/-- An instant in the leap second that ends the year 9999. -/
def lastOfFourDigits : DateTime :=
  ⟨⟨9999, 12, 31, by decide⟩, 23, 59, 59, 1500000000, by decide⟩

/-- The first instant of the year 10000. -/
def firstOfFiveDigits : DateTime := .midnight ⟨10000, 1, 1, by decide⟩

/-- A filter with three fields of its own, one of them set to an instant. -/
def openedFilter (field : String) (t : DateTime) : TypedFilter :=
  ⟨.empty, [("Name", none), (field, some (.date t)), ("ToClosed", none)]⟩

/-- An entity that was opened at an instant. -/
def openedAt (t : DateTime) : TypedEntity := ⟨[("Id", some (.int 1)), ("Opened", some (.date t))]⟩

theorem openedFilter_setsOnly (field : String) (t : DateTime) :
    (openedFilter field t).SetsOnly field (.date t) :=
  ⟨rfl, rfl, [("Name", none)], [("ToClosed", none)], rfl, by decide⟩

/-- The year 10000 comes after a leap second of the year 9999, though its text is smaller. -/
theorem holdsOf_dateRange_five_digits :
    firstOfFiveDigits.toIsoText.toList < lastOfFourDigits.toIsoText.toList ∧
      (∃ q, standard.compileFilter (openedFilter "FromOpened" lastOfFourDigits)
        ⟨"Event", ["Id", "Opened"]⟩ = .ok q ∧ q.holdsOf (openedAt firstOfFiveDigits) = .ok true) ∧
      ∃ q, standard.compileFilter (openedFilter "ToOpened" lastOfFourDigits)
        ⟨"Event", ["Id", "Opened"]⟩ = .ok q ∧
        q.holdsOf (openedAt firstOfFiveDigits) = .ok false := by
  have hproperty : Schema.resolve? ⟨"Event", ["Id", "Opened"]⟩ "Opened" = some "Opened" := by cbv
  have hopened : (openedAt firstOfFiveDigits).properties.lookup "Opened" =
      some (some (.date firstOfFiveDigits)) := rfl
  have hrange (f : TypedFilter) := holdsOf_dateRange (s := standard) (f := f)
    PrefixTable.isPrefixFree_standard hproperty hopened lastOfFourDigits
  refine ⟨by decide, ?_, ?_⟩
  · exact (hrange (openedFilter "FromOpened" lastOfFourDigits)).1 (openedFilter_setsOnly _ _)
  · exact (hrange (openedFilter "ToOpened" lastOfFourDigits)).2 (openedFilter_setsOnly _ _)

/-- A fifth of a second into the second after a leap second that no clock shows. -/
def afterLeapOffClock : DateTime where
  __ := DateTime.leapOffClock
  second := 31
  nano := 200000000
  isTime := by decide

/-- Half a second into a leap second that no clock shows is before the next second, but is compared
as half a second into that. -/
theorem exists_holdsOf_date_later :
    afterLeapOffClock.compare .leapOffClock = .gt ∧
      ∃ q, standard.compileFilter (openedFilter "FromOpened" .leapOffClock)
        ⟨"Event", ["Id", "Opened"]⟩ = .ok q ∧
        q.holdsOf (openedAt afterLeapOffClock) = .ok false := by
  have hproperty : Schema.resolve? ⟨"Event", ["Id", "Opened"]⟩ "Opened" = some "Opened" := by cbv
  have hsince := holdsOf_date (s := standard) (p := .since) PrefixTable.isPrefixFree_standard rfl
    hproperty (openedFilter_setsOnly "FromOpened" .leapOffClock)
    (show (openedAt afterLeapOffClock).properties.lookup "Opened" =
      some (some (.date afterLeapOffClock)) from rfl)
  exact ⟨by decide, hsince⟩

end QueryService

end RecordQuery
