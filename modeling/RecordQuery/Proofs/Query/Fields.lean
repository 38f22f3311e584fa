import RecordQuery.Filter.Document
import RecordQuery.Proofs.Filter.Contribution
import RecordQuery.Proofs.Query.Selection
import RecordQuery.Query.Service

/-!
# The fields of a query

How the result of a query depends on the fields of its filter, given the order and the page. Two
queries whose fields stand in another order may fail on other candidates, since a failing fragment
may be reached in one and not in the other; where both succeed, they agree. One more field leaves
candidates out, and only if it is bound.

* `QueryService.query_eq_ok`: a result is the arranged candidates that the filter's predicate
  accepts, cut to its page.
* `QueryService.query_perm_fields`: the order of the fields does not matter.
* `QueryService.query_insert_field`: a field that is passed over does not matter at all, and any
  other only narrows a result.
-/

namespace RecordQuery

namespace QueryService

variable {s : QueryService} {schema : Schema} {φ ψ : Type} [QueryFilter φ] [QueryFilter ψ]

/-! ## Runs -/

/-- The predicate of a filter is that of its fields. -/
theorem compileFilter_eq_ofFields {f : φ} {m : Mapping} (hf : QueryFilter.fields f = .ok m) :
    s.compileFilter f schema = Predicate.ofFields s.prefixes schema m := by
  rw [compileFilter, bindFilter, hf]
  rfl

/-- The sort key that a filter asks for. -/
def sortKey (filter : φ) (schema : Schema) : Except FilterError (Option SortKey) :=
  sortSpec filter >>= SortKey.resolveAll schema

theorem sortKey_congr {f : φ} {g : ψ} (h : QueryFilter.sortText f = QueryFilter.sortText g) :
    sortKey f schema = sortKey g schema := by
  rw [sortKey, sortKey, sortSpec, sortSpec, h]

variable {α : Type} [Entity α] {candidates : List α}

/-- **What a query gives**: the candidates that the filter's predicate accepts, arranged by its sort
key and cut to its page. -/
theorem query_eq_ok {f : φ} {result : ResultPage α} (h : s.query f schema candidates = .ok result) :
    ∃ p key?, s.compileFilter f schema = .ok p ∧ sortKey f schema = .ok key? ∧
      result = (QueryFilter.pageRequest f).apply (SortKey.arrange key? (p.accepted candidates)) := by
  obtain ⟨p, hp, h⟩ := bind_eq_ok_iff.mp h
  obtain ⟨sort?, hsort, h⟩ := bind_eq_ok_iff.mp h
  obtain ⟨-, items, hitems, rfl⟩ := paginate_eq_ok_iff.mp h
  obtain ⟨key?, hkey, rfl⟩ := chosen_eq_ok hitems
  exact ⟨p, key?, hp, bind_eq_ok_iff.mpr ⟨sort?, hsort, hkey⟩, rfl⟩

/-- Two filters with the same predicate, order and page give the same outcome. -/
theorem query_congr {f : φ} {g : ψ} (hp : s.compileFilter f schema = s.compileFilter g schema)
    (hsort : QueryFilter.sortText f = QueryFilter.sortText g)
    (hpage : QueryFilter.pageRequest f = QueryFilter.pageRequest g) :
    s.query f schema candidates = s.query g schema candidates := by
  rw [query, query, hp, sortSpec, sortSpec, hsort, hpage]

/-! ## Some of the fields -/

/-- **Some of the fields** have a predicate if all have one, and what all accept they accept. -/
theorem compileFilter_of_subset {f : φ} {g : ψ} {m n : Mapping}
    (hf : QueryFilter.fields f = .ok m) (hg : QueryFilter.fields g = .ok n) (hmn : m ⊆ n)
    {q : Predicate} (hq : s.compileFilter g schema = .ok q) :
    ∃ p, s.compileFilter f schema = .ok p ∧ p.fragments ⊆ q.fragments := by
  rw [compileFilter_eq_ofFields hg] at hq
  rw [compileFilter_eq_ofFields hf]
  exact Predicate.ofFields_of_subset hmn hq

/-- Two queries of which one has some of the other's fields, asking for the same order: what both
choose from the candidates is arranged by one sort key. -/
theorem query_eq_ok_of_subset {f : φ} {g : ψ} {m n : Mapping}
    (hf : QueryFilter.fields f = .ok m) (hg : QueryFilter.fields g = .ok n) (hmn : m ⊆ n)
    (hsort : QueryFilter.sortText f = QueryFilter.sortText g) {a b : ResultPage α}
    (ha : s.query f schema candidates = .ok a) (hb : s.query g schema candidates = .ok b) :
    ∃ p q key?, s.compileFilter f schema = .ok p ∧ s.compileFilter g schema = .ok q ∧
      p.fragments ⊆ q.fragments ∧
      a = (QueryFilter.pageRequest f).apply (SortKey.arrange key? (p.accepted candidates)) ∧
      b = (QueryFilter.pageRequest g).apply (SortKey.arrange key? (q.accepted candidates)) := by
  obtain ⟨p, key?, hp, hkey, rfl⟩ := query_eq_ok ha
  obtain ⟨q, key'?, hq, hkey', rfl⟩ := query_eq_ok hb
  rw [sortKey_congr hsort] at hkey
  obtain rfl := Except.ok.inj (hkey'.symm.trans hkey)
  obtain ⟨p', hp', hpq⟩ := compileFilter_of_subset hf hg hmn hq
  obtain rfl := Except.ok.inj (hp'.symm.trans hp)
  exact ⟨p', q, key'?, hp, hq, hpq, rfl, rfl⟩

/-- **More fields narrow a result** that is not cut: some items are left out, none is moved. -/
theorem query_sublist_of_subset {f : φ} {g : ψ} {m n : Mapping}
    (hf : QueryFilter.fields f = .ok m) (hg : QueryFilter.fields g = .ok n) (hmn : m ⊆ n)
    (hsort : QueryFilter.sortText f = QueryFilter.sortText g)
    (hpage : QueryFilter.pageRequest f = QueryFilter.pageRequest g)
    (hopen : (QueryFilter.pageRequest f).page = none ∨ (QueryFilter.pageRequest f).pageSize = none)
    {a b : ResultPage α} (ha : s.query f schema candidates = .ok a)
    (hb : s.query g schema candidates = .ok b) : b.items.Sublist a.items := by
  obtain ⟨p, q, key?, -, -, hpq, rfl, rfl⟩ := query_eq_ok_of_subset hf hg hmn hsort ha hb
  rw [← hpage, PageRequest.apply_of_open hopen, PageRequest.apply_of_open hopen]
  show (SortKey.arrange key? (q.accepted candidates)).Sublist
    (SortKey.arrange key? (p.accepted candidates))
  rw [Predicate.accepted_of_subset hpq, SortKey.arrange_filter]
  exact List.filter_sublist

/-! ## The order of the fields -/

/-- **The order of the fields does not matter.** Two filters with the same fields in another order,
that ask for the same order and page, both have a predicate or neither has; and over any candidates
their queries have the same result if both succeed. -/
theorem query_perm_fields (s : QueryService) (schema : Schema) {f : φ} {g : ψ} {m n : Mapping}
    (hf : QueryFilter.fields f = .ok m) (hg : QueryFilter.fields g = .ok n) (hmn : m.Perm n)
    (hsort : QueryFilter.sortText f = QueryFilter.sortText g)
    (hpage : QueryFilter.pageRequest f = QueryFilter.pageRequest g) :
    ((∃ p, s.compileFilter f schema = .ok p) ↔ ∃ q, s.compileFilter g schema = .ok q) ∧
    ∀ (α : Type) [Entity α] (candidates : List α) (a b : ResultPage α),
      s.query f schema candidates = .ok a → s.query g schema candidates = .ok b → a = b := by
  refine ⟨⟨?_, ?_⟩, ?_⟩
  · rintro ⟨p, hp⟩
    obtain ⟨q, hq, -⟩ := compileFilter_of_subset hg hf hmn.symm.subset hp
    exact ⟨q, hq⟩
  · rintro ⟨q, hq⟩
    obtain ⟨p, hp, -⟩ := compileFilter_of_subset hf hg hmn.subset hq
    exact ⟨p, hp⟩
  · intro α _ candidates a b ha hb
    obtain ⟨p, q, key?, hp, hq, hpq, rfl, rfl⟩ :=
      query_eq_ok_of_subset hf hg hmn.subset hsort ha hb
    obtain ⟨q', hq', hqp⟩ := compileFilter_of_subset hg hf hmn.symm.subset hp
    obtain rfl := Except.ok.inj (hq'.symm.trans hq)
    rw [hpage, Predicate.accepted_congr hpq hqp]

/-- A filter of the given fields that asks for the order of the groups. -/
def sampleFilter (fields : Mapping) : DocumentFilter :=
  ⟨{ FilterBase.empty with sorting := some "Group" }, fields⟩

/-- Fields for all but the third of the sample rows, and for those of the second one's group. -/
def sampleFields : Mapping := [(.text "MinId", .ofInt 2), (.text "Group", .text "b")]

/-- The sample fields select the same rows when they are reversed. -/
theorem query_perm_fields_reversed :
    sampleFields.Perm sampleFields.reverse ∧
      ∃ a b, standard.query (sampleFilter sampleFields) sampleSchema sampleRows = .ok a ∧
        standard.query (sampleFilter sampleFields.reverse) sampleSchema sampleRows = .ok b ∧
        a.items = [sampleRow 3 "b", sampleRow 2 "b"] ∧ a = b := by
  have hperm : sampleFields.Perm sampleFields.reverse := (List.reverse_perm sampleFields).symm
  have hf : QueryFilter.fields (sampleFilter sampleFields) = .ok sampleFields := rfl
  have hg : QueryFilter.fields (sampleFilter sampleFields.reverse) = .ok sampleFields.reverse := rfl
  have ha : standard.query (sampleFilter sampleFields) sampleSchema sampleRows =
      .ok ⟨[sampleRow 3 "b", sampleRow 2 "b"], 1, 50, 2⟩ := by cbv
  have hb : standard.query (sampleFilter sampleFields.reverse) sampleSchema sampleRows =
      .ok ⟨[sampleRow 3 "b", sampleRow 2 "b"], 1, 50, 2⟩ := by cbv
  have hsame := (query_perm_fields standard sampleSchema hf hg hperm rfl rfl).2
  exact ⟨hperm, _, _, ha, hb, rfl, hsame _ _ _ _ ha hb⟩

/-! ## One more field -/

/-- **One more field only narrows a result.** If it is passed over, whatever its value, then it
changes nothing: what is bound, the predicate and the outcome of a query are those without it,
failures included. If two queries that are not cut differ in one field and both succeed, the items
of the one that has it are among those of the other, in the same order. -/
theorem query_insert_field (s : QueryService) (schema : Schema) {f : φ} {g : ψ}
    {pre post : Mapping} {key raw : Value} (hf : QueryFilter.fields f = .ok (pre ++ post))
    (hg : QueryFilter.fields g = .ok (pre ++ (key, raw) :: post))
    (hsort : QueryFilter.sortText f = QueryFilter.sortText g)
    (hpage : QueryFilter.pageRequest f = QueryFilter.pageRequest g) :
    (IsPassedOver s.prefixes schema key raw →
      s.bindFilter g schema = s.bindFilter f schema ∧
      s.compileFilter g schema = s.compileFilter f schema ∧
      ∀ (α : Type) [Entity α] (candidates : List α),
        s.query g schema candidates = s.query f schema candidates) ∧
    ((QueryFilter.pageRequest f).page = none ∨ (QueryFilter.pageRequest f).pageSize = none →
      ∀ (α : Type) [Entity α] (candidates : List α) (a b : ResultPage α),
        s.query f schema candidates = .ok a → s.query g schema candidates = .ok b →
          b.items.Sublist a.items) := by
  constructor
  · intro hpassed
    have hbind : s.bindFilter g schema = s.bindFilter f schema := by
      rw [bindFilter, bindFilter, hf, hg]
      exact hpassed.ofFields_insert pre post
    have hcompile : s.compileFilter g schema = s.compileFilter f schema := by
      rw [compileFilter, compileFilter, hbind]
    exact ⟨hbind, hcompile, fun α _ candidates => query_congr hcompile hsort.symm hpage.symm⟩
  · intro hopen α _ candidates a b ha hb
    have hsubset : pre ++ post ⊆ pre ++ (key, raw) :: post :=
      (List.sublist_cons_self _ post).append_left pre |>.subset
    exact query_sublist_of_subset hf hg hsubset hsort hpage hopen ha hb

/-- The first sample field with one more entry after it. -/
def sampleFieldWith (key raw : Value) : Mapping := [(.text "MinId", .ofInt 2)] ++ (key, raw) :: []

/-- A field of an unknown name may hold a mapping and changes nothing; a group leaves one row of
two. -/
theorem query_insert_field_unknown_and_group :
    (IsPassedOver standard.prefixes sampleSchema (.text "MaxPrice") (.mapping []) ∧
      ∀ rows : List Value,
        standard.query (sampleFilter (sampleFieldWith (.text "MaxPrice") (.mapping [])))
            sampleSchema rows =
          standard.query (sampleFilter [(.text "MinId", .ofInt 2)]) sampleSchema rows) ∧
      ∃ a b, standard.query (sampleFilter [(.text "MinId", .ofInt 2)]) sampleSchema
            [sampleRow 4 "b", sampleRow 2 "a"] = .ok a ∧
        standard.query (sampleFilter (sampleFieldWith (.text "Group") (.text "b"))) sampleSchema
            [sampleRow 4 "b", sampleRow 2 "a"] = .ok b ∧
        a.items.length = 2 ∧ b.items.length = 1 ∧ b.items.Sublist a.items := by
  have hf : QueryFilter.fields (sampleFilter [(.text "MinId", .ofInt 2)]) =
      .ok ([(.text "MinId", .ofInt 2)] ++ []) := rfl
  have hg (key raw : Value) : QueryFilter.fields (sampleFilter (sampleFieldWith key raw)) =
      .ok ([(.text "MinId", .ofInt 2)] ++ (key, raw) :: []) := rfl
  constructor
  · have hpassed : IsPassedOver standard.prefixes sampleSchema (.text "MaxPrice") (.mapping []) :=
      .inr (.inr ⟨"MaxPrice", rfl, by cbv⟩)
    have hunknown := (query_insert_field standard sampleSchema hf (hg _ _) rfl rfl).1 hpassed
    exact ⟨hpassed, hunknown.2.2 Value⟩
  · have ha : standard.query (sampleFilter [(.text "MinId", .ofInt 2)]) sampleSchema
        [sampleRow 4 "b", sampleRow 2 "a"] =
          .ok ⟨[sampleRow 2 "a", sampleRow 4 "b"], 1, 50, 2⟩ := by cbv
    have hb : standard.query (sampleFilter (sampleFieldWith (.text "Group") (.text "b")))
        sampleSchema [sampleRow 4 "b", sampleRow 2 "a"] =
          .ok ⟨[sampleRow 4 "b"], 1, 50, 1⟩ := by cbv
    have hgroup := (query_insert_field standard sampleSchema hf (hg (.text "Group") (.text "b"))
      rfl rfl).2 (.inl rfl)
    exact ⟨_, _, ha, hb, rfl, rfl, hgroup _ _ _ _ ha hb⟩

end QueryService

end RecordQuery
