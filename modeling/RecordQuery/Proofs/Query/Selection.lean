import Mathlib
import RecordQuery.Proofs.Filter.Conjunction
import RecordQuery.Proofs.Order.Property
import RecordQuery.Proofs.Order.StableSort
import RecordQuery.Query.Pagination

/-!
# What a query selects, and in which order

A run of the pipeline tests the candidates one by one, carries their records along, sorts the pairs
and drops the records again; without a sort key and without fragments it does none of this. What
comes out can be said without the run: the candidates on which the predicate is true, in the order
of one property.

* `matching_eq_ok`: the candidates that a run collects are those on which the predicate is true.
* `chosen_eq_ok`: with or without the short way, they come out as `SortKey.arrange` says.
* `paginate_eq_ok_iff`: a result is the page that the request cuts out of what was chosen.
* `paginate_uncut`: a result that is not cut holds each match once, in the stable order of the
  sort property in either direction.
-/

namespace RecordQuery

variable {α : Type} [Entity α]

/-! ## The order of entities -/

/-- The value of a property of an entity; none if the entity is no mapping. -/
def propertyOf (property : String) (x : α) : Option Value :=
  match Record.ofEntity x with
  | .ok r => r.find? property
  | .error _ => none

/-- The order of two entities by a property, turned around if `descending`. -/
def compareEntities (property : String) (descending : Bool) (x y : α) : Ordering :=
  if descending then (propertyOrder (propertyOf property x) (propertyOf property y)).swap
  else propertyOrder (propertyOf property x) (propertyOf property y)

instance : Std.TransCmp propertyOrder := inferInstanceAs (Std.TransCmp (compareValues Value.written))

/-- The order of entities is a total preorder in both directions. -/
instance (property : String) (descending : Bool) :
    Std.TransCmp (compareEntities (α := α) property descending) :=
  have := transCmp_comap propertyOrder (propertyOf (α := α) property)
  transCmp_directed _ descending

namespace SortKey

/-- Entities in the stable order of a sort key; as they stand without one. -/
def arrange (key? : Option SortKey) (xs : List α) : List α :=
  match key? with
  | none => xs
  | some key => xs.mergeSort fun x y => compareEntities key.property key.descending x y != .gt

theorem arrange_perm (key? : Option SortKey) (xs : List α) : (arrange key? xs).Perm xs := by
  cases key? with
  | none => exact List.Perm.refl xs
  | some key => exact List.mergeSort_perm xs _

/-- Arranging commutes with leaving entities out. -/
theorem arrange_filter (key? : Option SortKey) (xs : List α) (q : α → Bool) :
    arrange key? (xs.filter q) = (arrange key? xs).filter q := by
  cases key? with
  | none => rfl
  | some key => exact mergeSort_filter xs q

end SortKey

/-! ## Runs -/

/-- **The candidates that a run collects** are those on which the predicate is true, each with its
own record. -/
theorem matching_eq_ok {p : Predicate} : ∀ {candidates : List α} {found : List (α × Record)},
    matching p candidates = .ok found →
      found.map Prod.fst = p.accepted candidates ∧ ∀ e ∈ found, Record.ofEntity e.1 = .ok e.2
  | [], found, h => by
    obtain rfl := Except.ok.inj h
    exact ⟨rfl, fun e he => absurd he List.not_mem_nil⟩
  | x :: xs, found, h => by
    unfold matching at h
    split at h
    · cases h
    · rename_i r hr
      split at h
      · cases h
      · rename_i hb
        obtain ⟨rest, hrest, rfl⟩ := map_eq_ok_iff.mp h
        obtain ⟨hfst, hrec⟩ := matching_eq_ok hrest
        refine ⟨?_, List.forall_mem_cons.mpr ⟨hr, hrec⟩⟩
        rw [Predicate.accepted, List.filter_cons_of_pos (Predicate.accepts_of_record hr hb),
          List.map_cons, hfst, Predicate.accepted]
      · rename_i hb
        obtain ⟨hfst, hrec⟩ := matching_eq_ok h
        refine ⟨?_, hrec⟩
        have hx : ¬ p.accepts x = true := by simp [Predicate.accepts_of_record hr hb]
        rw [Predicate.accepted, List.filter_cons_of_neg hx, hfst, Predicate.accepted]

/-- Sorting entities with their records is sorting the entities. -/
theorem SortKey.sort_map_fst (key : SortKey) {found : List (α × Record)}
    (h : ∀ e ∈ found, Record.ofEntity e.1 = .ok e.2) :
    (key.sort found).map Prod.fst = SortKey.arrange (some key) (found.map Prod.fst) := by
  refine List.map_mergeSort fun a ha b hb => ?_
  rw [SortKey.compare, compareEntities, propertyOf, propertyOf, h a ha, h b hb]

/-- The entities that a query chooses, before a page is cut. -/
def chosen (candidates : List α) (p : Predicate) (schema : Schema) (sort? : Option SortSpec) :
    Except FilterError (List α) := do
  let key? ← SortKey.resolveAll schema sort?
  select p key? candidates

theorem select_eq_ok {p : Predicate} {key? : Option SortKey} {candidates items : List α}
    (h : select p key? candidates = .ok items) :
    items = SortKey.arrange key? (p.accepted candidates) := by
  unfold select at h
  split at h
  · rename_i key
    obtain ⟨found, hfound, rfl⟩ := map_eq_ok_iff.mp h
    obtain ⟨hfst, hrec⟩ := matching_eq_ok hfound
    rw [key.sort_map_fst hrec, hfst]
  · split_ifs at h with hp
    · rw [← Except.ok.inj h, Predicate.accepted_of_isAlways hp]
      rfl
    · obtain ⟨found, hfound, rfl⟩ := map_eq_ok_iff.mp h
      exact (matching_eq_ok hfound).1

theorem SortKey.resolveAll_some_eq_ok {schema : Schema} {spec : SortSpec} {key? : Option SortKey}
    (h : SortKey.resolveAll schema (some spec) = .ok key?) :
    ∃ property, schema.resolve? spec.property = some property ∧
      key? = some ⟨property, spec.descending⟩ := by
  obtain ⟨key, hkey, rfl⟩ := map_eq_ok_iff.mp h
  unfold SortKey.resolve at hkey
  split at hkey
  · rename_i property hp
    exact ⟨property, hp, congrArg some (Except.ok.inj hkey).symm⟩
  · cases hkey

/-- **What a query chooses**: the accepted candidates, arranged by the resolved sort key. -/
theorem chosen_eq_ok {candidates items : List α} {p : Predicate} {schema : Schema}
    {sort? : Option SortSpec} (h : chosen candidates p schema sort? = .ok items) :
    ∃ key?, SortKey.resolveAll schema sort? = .ok key? ∧
      items = SortKey.arrange key? (p.accepted candidates) := by
  obtain ⟨key?, hkey, hselect⟩ := bind_eq_ok_iff.mp h
  exact ⟨key?, hkey, select_eq_ok hselect⟩

/-! ## Results -/

/-- A valid request has no say in what is chosen. -/
theorem paginate_of_valid {request : PageRequest} (h : request.validate = .ok ())
    (candidates : List α) (p : Predicate) (schema : Schema) (sort? : Option SortSpec) :
    paginate candidates p schema sort? request =
      (chosen candidates p schema sort?).map request.apply := by
  unfold paginate chosen
  rw [h]
  cases SortKey.resolveAll schema sort? with
  | error e => rfl
  | ok key? =>
    cases hs : select p key? candidates with
    | error e => simp [bind, Except.bind, Except.map, hs]
    | ok items => simp [bind, Except.bind, Except.map, pure, Except.pure, hs]

/-- **A result is the page that the request cuts** out of what was chosen. -/
theorem paginate_eq_ok_iff {candidates : List α} {p : Predicate} {schema : Schema}
    {sort? : Option SortSpec} {request : PageRequest} {result : ResultPage α} :
    paginate candidates p schema sort? request = .ok result ↔
      request.validate = .ok () ∧
        ∃ items, chosen candidates p schema sort? = .ok items ∧ request.apply items = result := by
  constructor
  · intro h
    obtain ⟨u, hu, -⟩ := bind_eq_ok_iff.mp h
    rw [paginate_of_valid hu, map_eq_ok_iff] at h
    exact ⟨hu, h⟩
  · rintro ⟨hv, h⟩
    rw [paginate_of_valid hv, map_eq_ok_iff]
    exact h

/-- A request that leaves its page or its page size open cuts nothing. -/
theorem PageRequest.apply_of_open {β : Type} {request : PageRequest}
    (h : request.page = none ∨ request.pageSize = none) (items : List β) :
    request.apply items = ⟨items, defaultPage, defaultPageSize, items.length⟩ := by
  have hslice : request.slice? = none := by
    unfold slice?
    rcases h with h | h
    · rw [h]
    · rw [h]
      cases request.page <;> rfl
  rw [apply, hslice]

/-- **A result that is not cut.** It counts the candidates on which the predicate is true and holds
each of them once: in their own order without a sort specification, and otherwise in their stable
order by the property that the schema resolves, in either direction, which is the only such list. -/
theorem paginate_uncut {candidates : List α} {p : Predicate} {schema : Schema}
    {sort? : Option SortSpec} {request : PageRequest} {result : ResultPage α}
    (hopen : request.page = none ∨ request.pageSize = none)
    (hrun : paginate candidates p schema sort? request = .ok result) :
    result.totalCount = (p.accepted candidates).length ∧
    result.items.Perm (p.accepted candidates) ∧
    (sort? = none → result.items = p.accepted candidates) ∧
    ∀ spec, sort? = some spec → ∃ property, schema.resolve? spec.property = some property ∧
      IsStableSort (compareEntities property spec.descending) (p.accepted candidates)
        result.items ∧
      ∀ ys, IsStableSort (compareEntities property spec.descending) (p.accepted candidates) ys →
        ys = result.items := by
  obtain ⟨-, items, hitems, rfl⟩ := paginate_eq_ok_iff.mp hrun
  obtain ⟨key?, hkey, rfl⟩ := chosen_eq_ok hitems
  rw [PageRequest.apply_of_open hopen]
  have hperm := SortKey.arrange_perm key? (p.accepted candidates)
  refine ⟨hperm.length_eq, hperm, ?_, ?_⟩
  · rintro rfl
    obtain rfl := Except.ok.inj hkey
    rfl
  · rintro spec rfl
    obtain ⟨property, hproperty, rfl⟩ := SortKey.resolveAll_some_eq_ok hkey
    have hsorted : IsStableSort (compareEntities property spec.descending) (p.accepted candidates)
        (SortKey.arrange (some ⟨property, spec.descending⟩) (p.accepted candidates)) :=
      isStableSort_mergeSort _
    exact ⟨property, hproperty, hsorted, fun ys hys => hys.unique hsorted⟩

/-- A record of two properties. The records here are inputs that theorems are applied to. -/
def sampleRow (id : Int) (group : String) : Value :=
  .mapping [(.text "Id", .ofInt id), (.text "Group", .text group)]

/-- Four records in three groups. -/
def sampleRows : List Value :=
  [sampleRow 4 "a", sampleRow 3 "b", sampleRow 1 "c", sampleRow 2 "b"]

/-- The schema of these records. -/
def sampleSchema : Schema := ⟨"Row", ["Id", "Group"]⟩

/-- The records without the third one. -/
def samplePredicate : Predicate := ⟨[⟨"Id", .compare .ge (.int 2)⟩]⟩

/-- In descending order two matches of one group stay as they stood, and another group moves. -/
theorem paginate_uncut_descending :
    paginate sampleRows samplePredicate sampleSchema (some ⟨"group", true⟩) .unpaged =
        .ok ⟨[sampleRow 3 "b", sampleRow 2 "b", sampleRow 4 "a"], 1, 50, 3⟩ ∧
      ∃ property, sampleSchema.resolve? "group" = some property ∧
        IsStableSort (compareEntities property true) (samplePredicate.accepted sampleRows)
          [sampleRow 3 "b", sampleRow 2 "b", sampleRow 4 "a"] ∧
        ∀ ys, IsStableSort (compareEntities property true) (samplePredicate.accepted sampleRows) ys →
          ys = [sampleRow 3 "b", sampleRow 2 "b", sampleRow 4 "a"] := by
  have hrun : paginate sampleRows samplePredicate sampleSchema (some ⟨"group", true⟩) .unpaged =
      .ok ⟨[sampleRow 3 "b", sampleRow 2 "b", sampleRow 4 "a"], 1, 50, 3⟩ := by cbv
  obtain ⟨-, -, -, hsorted⟩ := paginate_uncut (Or.inl rfl) hrun
  exact ⟨hrun, hsorted ⟨"group", true⟩ rfl⟩

end RecordQuery
