import RecordQuery.Proofs.Query.Fields

/-!
# Which failure a query reports

A query can fail in two ways. It can be refused for what it asks: its filter, its sort text, its
page or its sort property, looked at in this order and before any candidate. Or a candidate fails:
it cannot be written as a record, or the first fragment that is not true on it is a failure. The
candidates are all tested, in their order, before a page is cut, so the first one that fails decides,
wherever its place would have been.

Without a sort key and without fragments no candidate is looked at, and then none fails.

* `Predicate.holdAll_eq_error_iff`: which fragment a failing conjunction fails by.
* `select_eq_error_iff`: which candidate a failing selection fails by.
* `QueryService.query_nil_eq_error_iff`: a query over no candidates fails iff it is refused.
* `QueryService.query_fails_first`: refusals come first, then the first candidate that fails.
-/

namespace RecordQuery

/-! ## One candidate -/

/-- **A conjunction fails by its first fragment that is not true**, if that one is a failure. -/
theorem Predicate.holdAll_eq_error_iff {r : Record} {fs : List Fragment} {e : FilterError} :
    holdAll r fs = .error e ↔
      ∃ before f after, fs = before ++ f :: after ∧ (∀ g ∈ before, g.holds r = .ok true) ∧
        f.holds r = .error e := by
  induction fs with
  | nil => simp [holdAll]
  | cons f fs ih =>
    rw [holdAll, exists_first_cons_iff, ← ih]
    split
    · rename_i htrue
      simp [htrue]
    · rename_i hne
      exact ⟨.inl, fun h => h.elim id fun h => absurd h.1 hne⟩

variable {α : Type} [Entity α]

/-- A candidate fails on its own: it cannot be written as a record, which matters only if it is
looked at, for its order or for a fragment; or the first fragment that is not true on its record is
a failure. -/
inductive FailsOn (p : Predicate) (sorted : Bool) (x : α) (e : FilterError) : Prop where
  | unreadable (hlooked : sorted = true ∨ p.fragments ≠ []) (h : Record.ofEntity x = .error e)
  | fragment {r : Record} {before after : List Fragment} {f : Fragment}
      (hr : Record.ofEntity x = .ok r) (hsplit : p.fragments = before ++ f :: after)
      (hbefore : ∀ g ∈ before, g.holds r = .ok true) (hf : f.holds r = .error e)

/-- The outcome of a predicate on a candidate that is looked at. -/
def Predicate.tested (p : Predicate) (x : α) : Except FilterError Bool :=
  Record.ofEntity x >>= p.holds

variable {p : Predicate} {sorted : Bool} {x : α} {e : FilterError}

/-- A candidate that is looked at fails as its test does. -/
theorem failsOn_iff_tested (hlooked : sorted = true ∨ p.fragments ≠ []) :
    FailsOn p sorted x e ↔ p.tested x = .error e := by
  unfold Predicate.tested
  constructor
  · rintro (⟨-, h⟩ | ⟨hr, hsplit, hbefore, hf⟩)
    · rw [h]
      rfl
    · rw [hr]
      exact Predicate.holdAll_eq_error_iff.mpr ⟨_, _, _, hsplit, hbefore, hf⟩
  · intro h
    cases hr : Record.ofEntity x with
    | error e' =>
      rw [hr] at h
      obtain rfl := Except.error.inj h
      exact .unreadable hlooked hr
    | ok r =>
      rw [hr] at h
      obtain ⟨_, _, _, hsplit, hbefore, hf⟩ := Predicate.holdAll_eq_error_iff.mp h
      exact .fragment hr hsplit hbefore hf

/-- A candidate that is not looked at does not fail. -/
theorem not_failsOn_of_isAlways (h : p.isAlways = true) : ¬ FailsOn p false x e := by
  have hnil : p.fragments = [] := List.isEmpty_iff.mp h
  rintro (⟨hlooked, -⟩ | ⟨-, hsplit, -, -⟩)
  · rcases hlooked with hsorted | hne
    · cases hsorted
    · exact hne hnil
  · rw [hnil] at hsplit
    exact List.cons_ne_nil _ _ (List.append_eq_nil_iff.mp hsplit.symm).2

/-! ## The candidates in order -/

theorem matching_cons_eq_error_iff {xs : List α} :
    matching p (x :: xs) = .error e ↔
      p.tested x = .error e ∨ (∃ b, p.tested x = .ok b) ∧ matching p xs = .error e := by
  rw [matching, Predicate.tested]
  cases Record.ofEntity x with
  | error e' => simp [bind, Except.bind]
  | ok r =>
    show _ ↔ p.holds r = .error e ∨ (∃ b, p.holds r = .ok b) ∧ matching p xs = .error e
    dsimp only
    cases p.holds r with
    | error e' => simp
    | ok b => cases b <;> simp [map_eq_error_iff]

/-- A run over the candidates fails by the first one whose test fails. -/
theorem matching_eq_error_iff {xs : List α} :
    matching p xs = .error e ↔
      ∃ before x after, xs = before ++ x :: after ∧ (∀ y ∈ before, ∃ b, p.tested y = .ok b) ∧
        p.tested x = .error e := by
  induction xs with
  | nil => simp [matching]
  | cons x xs ih => rw [matching_cons_eq_error_iff, exists_first_cons_iff, ih]

theorem matching_eq_error_iff_failsOn (hlooked : sorted = true ∨ p.fragments ≠ []) {xs : List α} :
    matching p xs = .error e ↔
      ∃ before x after, xs = before ++ x :: after ∧ (∀ y ∈ before, ∀ e', ¬ FailsOn p sorted y e') ∧
        FailsOn p sorted x e := by
  have hpass (y : α) : (∃ b, p.tested y = .ok b) ↔ ∀ e', ¬ FailsOn p sorted y e' := by
    simp only [failsOn_iff_tested hlooked]
    cases p.tested y <;> simp
  simp only [matching_eq_error_iff, hpass, failsOn_iff_tested hlooked]

/-- **A selection fails by the first candidate that fails on its own**, and only then. -/
theorem select_eq_error_iff {key? : Option SortKey} {xs : List α} :
    select p key? xs = .error e ↔
      ∃ before x after, xs = before ++ x :: after ∧
        (∀ y ∈ before, ∀ e', ¬ FailsOn p key?.isSome y e') ∧ FailsOn p key?.isSome x e := by
  unfold select
  cases key? with
  | some key =>
    rw [map_eq_error_iff]
    exact matching_eq_error_iff_failsOn (.inl rfl)
  | none =>
    dsimp only
    split_ifs with hp
    · constructor
      · intro h
        cases h
      · rintro ⟨_, _, _, -, -, hx⟩
        exact absurd hx (not_failsOn_of_isAlways hp)
    · rw [map_eq_error_iff]
      exact matching_eq_error_iff_failsOn (.inr fun hnil => hp (List.isEmpty_iff.mpr hnil))

theorem select_nil (p : Predicate) (key? : Option SortKey) : select p key? ([] : List α) = .ok [] := by
  unfold select
  cases key? with
  | some key => simp [matching, Except.map, SortKey.sort]
  | none => simp [matching, Except.map]

/-! ## Queries -/

namespace QueryService

variable {s : QueryService} {schema : Schema} {φ : Type} [QueryFilter φ] {f : φ}

/-- What a query settles before it looks at a candidate: its predicate and its sort key. -/
def plan (s : QueryService) (filter : φ) (schema : Schema) :
    Except FilterError (Predicate × Option SortKey) := do
  let p ← s.compileFilter filter schema
  let sort? ← sortSpec filter
  (QueryFilter.pageRequest filter).validate
  let key? ← SortKey.resolveAll schema sort?
  return (p, key?)

/-- **A query is its plan and then a run over the candidates.** -/
theorem query_eq_plan (candidates : List α) :
    s.query f schema candidates =
      s.plan f schema >>= fun settled =>
        (select settled.1 settled.2 candidates).map (QueryFilter.pageRequest f).apply := by
  unfold query plan paginate
  simp only [bind_assoc, pure_bind]
  simp only [bind_pure_comp]
  rfl

/-- A query is refused for what it asks. Each part is looked at only if those before it are in
order: the filter, the sort text, the page, the sort property. -/
inductive Refused (s : QueryService) (f : φ) (schema : Schema) (e : FilterError) : Prop where
  | filter (h : s.compileFilter f schema = .error e)
  | sortText {p : Predicate} (hfilter : s.compileFilter f schema = .ok p) (h : sortSpec f = .error e)
  | page {p : Predicate} {sort? : Option SortSpec} (hfilter : s.compileFilter f schema = .ok p)
      (htext : sortSpec f = .ok sort?) (h : (QueryFilter.pageRequest f).validate = .error e)
  | sortProperty {p : Predicate} {sort? : Option SortSpec}
      (hfilter : s.compileFilter f schema = .ok p) (htext : sortSpec f = .ok sort?)
      (hpage : (QueryFilter.pageRequest f).validate = .ok ())
      (h : SortKey.resolveAll schema sort? = .error e)

theorem plan_eq_error_iff : s.plan f schema = .error e ↔ s.Refused f schema e := by
  unfold plan
  constructor
  · intro h
    rcases bind_eq_error_iff.mp h with h | ⟨p, hfilter, h⟩
    · exact .filter h
    rcases bind_eq_error_iff.mp h with h | ⟨sort?, htext, h⟩
    · exact .sortText hfilter h
    rcases bind_eq_error_iff.mp h with h | ⟨_, hpage, h⟩
    · exact .page hfilter htext h
    rcases bind_eq_error_iff.mp h with h | ⟨key?, hproperty, h⟩
    · exact .sortProperty hfilter htext hpage h
    · cases h
  · rintro (h | ⟨hfilter, h⟩ | ⟨hfilter, htext, h⟩ | ⟨hfilter, htext, hpage, h⟩)
    · exact bind_eq_error_iff.mpr (.inl h)
    · refine bind_eq_error_iff.mpr (.inr ⟨_, hfilter, ?_⟩)
      exact bind_eq_error_iff.mpr (.inl h)
    · refine bind_eq_error_iff.mpr (.inr ⟨_, hfilter, ?_⟩)
      refine bind_eq_error_iff.mpr (.inr ⟨_, htext, ?_⟩)
      exact bind_eq_error_iff.mpr (.inl h)
    · refine bind_eq_error_iff.mpr (.inr ⟨_, hfilter, ?_⟩)
      refine bind_eq_error_iff.mpr (.inr ⟨_, htext, ?_⟩)
      refine bind_eq_error_iff.mpr (.inr ⟨_, hpage, ?_⟩)
      exact bind_eq_error_iff.mpr (.inl h)

theorem plan_eq_ok {settled : Predicate × Option SortKey} (h : s.plan f schema = .ok settled) :
    ∃ sort?, s.compileFilter f schema = .ok settled.1 ∧ sortSpec f = .ok sort? ∧
      settled.2.isSome = sort?.isSome := by
  obtain ⟨p, hp, h⟩ := bind_eq_ok_iff.mp h
  obtain ⟨sort?, hsort, h⟩ := bind_eq_ok_iff.mp h
  obtain ⟨_, -, h⟩ := bind_eq_ok_iff.mp h
  obtain ⟨key?, hkey, h⟩ := bind_eq_ok_iff.mp h
  obtain rfl := Except.ok.inj h
  refine ⟨sort?, hp, hsort, ?_⟩
  cases sort? with
  | none =>
    obtain rfl := Except.ok.inj hkey
    rfl
  | some spec =>
    obtain ⟨property, -, rfl⟩ := SortKey.resolveAll_some_eq_ok hkey
    rfl

/-- A query over no candidates comes to nothing but its plan. -/
theorem query_nil :
    s.query f schema ([] : List α) =
      (s.plan f schema).map fun _ => (QueryFilter.pageRequest f).apply [] := by
  rw [query_eq_plan]
  simp only [select_nil]
  cases s.plan f schema <;> rfl

/-- **A query over no candidates fails iff it is refused.** -/
theorem query_nil_eq_error_iff :
    s.query f schema ([] : List α) = .error e ↔ s.Refused f schema e := by
  rw [query_nil, map_eq_error_iff, plan_eq_error_iff]

/-- **Which failure a query reports.** A query over no candidates fails iff it is refused, and a
refused query fails alike over all candidates. A query that is not refused fails iff a candidate
fails on its own, whatever page is asked for, and reports the failure of the first such candidate. -/
theorem query_fails_first (s : QueryService) (f : φ) (schema : Schema) :
    (∀ e, s.query f schema ([] : List α) = .error e ↔ s.Refused f schema e) ∧
    (∀ e, s.query f schema ([] : List α) = .error e →
      ∀ candidates : List α, s.query f schema candidates = .error e) ∧
    ∀ page, s.query f schema ([] : List α) = .ok page →
      ∃ p sort?, s.compileFilter f schema = .ok p ∧ sortSpec f = .ok sort? ∧
        ∀ candidates : List α,
          ((∃ e, s.query f schema candidates = .error e) ↔
            ∃ x ∈ candidates, ∃ e, FailsOn p sort?.isSome x e) ∧
          ∀ e, s.query f schema candidates = .error e ↔
            ∃ before x after, candidates = before ++ x :: after ∧
              (∀ y ∈ before, ∀ e', ¬ FailsOn p sort?.isSome y e') ∧
              FailsOn p sort?.isSome x e := by
  refine ⟨fun e => query_nil_eq_error_iff, fun e h candidates => ?_, fun page h => ?_⟩
  · rw [query_nil, map_eq_error_iff] at h
    rw [query_eq_plan, h]
    rfl
  · rw [query_nil, map_eq_ok_iff] at h
    obtain ⟨settled, hplan, -⟩ := h
    obtain ⟨sort?, hp, hsort, hsome⟩ := plan_eq_ok hplan
    have hfirst (candidates : List α) (e : FilterError) :
        s.query f schema candidates = .error e ↔
          ∃ before x after, candidates = before ++ x :: after ∧
            (∀ y ∈ before, ∀ e', ¬ FailsOn settled.1 sort?.isSome y e') ∧
            FailsOn settled.1 sort?.isSome x e := by
      rw [query_eq_plan, hplan, ← hsome]
      show (select settled.1 settled.2 candidates).map _ = _ ↔ _
      rw [map_eq_error_iff, select_eq_error_iff]
    refine ⟨settled.1, sort?, hp, hsort, fun candidates => ⟨?_, hfirst candidates⟩⟩
    rw [exists_mem_iff_exists_first]
    simp only [hfirst, not_exists]
    constructor
    · rintro ⟨e, before, x, after, hsplit, hbefore, hx⟩
      exact ⟨before, x, after, hsplit, hbefore, e, hx⟩
    · rintro ⟨before, x, after, hsplit, hbefore, e, hx⟩
      exact ⟨e, before, x, after, hsplit, hbefore, hx⟩

/-- A row that is selected, a candidate that is no mapping, and a row whose test fails. -/
def failingRows : List Value := [sampleRow 4 "a", .text "b", .mapping [(.text "Id", .text "c")]]

/-- A filter for all but the third of the sample rows, that asks for a page of one item. -/
def onePerPage (page : Int) : DocumentFilter :=
  ⟨{ FilterBase.empty with page := some page, pageSize := some 1 }, [(.text "MinId", .ofInt 2)]⟩

/-- A page that does not exist is refused before the failing rows are looked at; a page that the
first row fills hides neither of them, and the first one is reported. -/
theorem query_fails_first_small_page :
    (standard.query (onePerPage 0) sampleSchema ([] : List Value) =
        .error (.invalidPageRequest .page 0) ∧
      standard.query (onePerPage 0) sampleSchema failingRows =
        .error (.invalidPageRequest .page 0)) ∧
    standard.query (onePerPage 1) sampleSchema ([] : List Value) = .ok ⟨[], 1, 1, 0⟩ ∧
      standard.query (onePerPage 1) sampleSchema failingRows = .error (.notAMapping .entity) := by
  constructor
  · have hrefused : standard.query (onePerPage 0) sampleSchema ([] : List Value) =
        .error (.invalidPageRequest .page 0) := by cbv
    have hall := (query_fails_first standard (onePerPage 0) sampleSchema).2.1 _ hrefused
    exact ⟨hrefused, hall failingRows⟩
  · have hempty : standard.query (onePerPage 1) sampleSchema ([] : List Value) =
        .ok ⟨[], 1, 1, 0⟩ := by cbv
    obtain ⟨p, sort?, hp, -, hrows⟩ :=
      (query_fails_first standard (onePerPage 1) sampleSchema).2.2 _ hempty
    have hsample : standard.compileFilter (onePerPage 1) sampleSchema = .ok samplePredicate := by cbv
    obtain rfl := Except.ok.inj (hsample.symm.trans hp)
    have hlooked : sort?.isSome = true ∨ samplePredicate.fragments ≠ [] := .inr (by decide)
    have hfirst : samplePredicate.tested (sampleRow 4 "a") = .ok true := by cbv
    refine ⟨hempty, ((hrows failingRows).2 _).mpr ⟨[sampleRow 4 "a"], .text "b", _, rfl, ?_, ?_⟩⟩
    · rw [List.forall_mem_singleton]
      intro e hfails
      cases hfirst.symm.trans ((failsOn_iff_tested hlooked).mp hfails)
    · exact .unreadable hlooked rfl

end QueryService

end RecordQuery
