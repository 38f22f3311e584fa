import Mathlib.Data.List.Forall2

/-!
# Outcomes of steps in sequence

A run is a chain of steps each of which may fail, and the first failure is the outcome of the run.
These lemmas take a run that succeeds apart into its steps.

* `first_cons_iff`: the first element of a list that has a property.
* `map_eq_ok_iff`, `bind_eq_ok_iff`: a run of two steps succeeds iff both do.
* `bind_eq_error_iff`: it fails as the first of them that fails.
* `outcome_ext`: what is left to compare of two tests.
* `mapM_eq_ok_iff`: a run over a list succeeds iff each item does, and the results are item by item.
* `mapM_eq_error_iff`: a run over a list fails as the first of its items that fails.
-/

namespace RecordQuery

/-! ## The first in a list -/

section First

variable {α : Type} {P Q : α → Prop} {a x : α} {l before after : List α}

/-- The first element of a list decides, or those before the deciding one start with it. -/
theorem first_cons_iff :
    (a :: l = before ++ x :: after ∧ (∀ y ∈ before, P y) ∧ Q x) ↔
      (before = [] ∧ x = a ∧ after = l ∧ Q a) ∨
        ∃ tail, before = a :: tail ∧ P a ∧ l = tail ++ x :: after ∧ (∀ y ∈ tail, P y) ∧ Q x := by
  constructor
  · rintro ⟨hsplit, hbefore, hx⟩
    cases before with
    | nil =>
      obtain ⟨rfl, rfl⟩ := List.cons.inj hsplit
      exact .inl ⟨rfl, rfl, rfl, hx⟩
    | cons _ tail =>
      obtain ⟨rfl, hl⟩ := List.cons.inj hsplit
      obtain ⟨ha, htail⟩ := List.forall_mem_cons.mp hbefore
      exact .inr ⟨tail, rfl, ha, hl, htail, hx⟩
  · rintro (⟨rfl, rfl, rfl, hx⟩ | ⟨tail, rfl, ha, rfl, htail, hx⟩)
    · exact ⟨rfl, List.forall_mem_nil P, hx⟩
    · exact ⟨rfl, List.forall_mem_cons.mpr ⟨ha, htail⟩, hx⟩

/-- The same where it does not matter which element decides. -/
theorem exists_first_cons_iff :
    (∃ before x after, a :: l = before ++ x :: after ∧ (∀ y ∈ before, P y) ∧ Q x) ↔
      Q a ∨ P a ∧ ∃ before x after, l = before ++ x :: after ∧ (∀ y ∈ before, P y) ∧ Q x := by
  simp only [first_cons_iff]
  constructor
  · rintro ⟨_, x, after, ⟨-, -, -, ha⟩ | ⟨before, -, ha, hfirst⟩⟩
    · exact .inl ha
    · exact .inr ⟨ha, before, x, after, hfirst⟩
  · rintro (ha | ⟨ha, before, x, after, hfirst⟩)
    · exact ⟨[], a, l, .inl ⟨rfl, rfl, rfl, ha⟩⟩
    · exact ⟨a :: before, x, after, .inr ⟨before, rfl, ha, hfirst⟩⟩

/-- Where something in a list has a property, something has it first. -/
theorem exists_mem_iff_exists_first :
    (∃ x ∈ l, P x) ↔
      ∃ before x after, l = before ++ x :: after ∧ (∀ y ∈ before, ¬ P y) ∧ P x := by
  induction l with
  | nil => simp
  | cons a l ih =>
    rw [List.exists_mem_cons_iff, exists_first_cons_iff, ← ih]
    by_cases ha : P a <;> simp [ha]

end First

variable {ε α β : Type}

/-! ## Two steps -/

theorem map_eq_ok_iff {x : Except ε α} {f : α → β} {b : β} :
    x.map f = .ok b ↔ ∃ a, x = .ok a ∧ f a = b := by
  cases x with
  | error e => simp [Except.map]
  | ok a => simp [Except.map]

theorem map_eq_error_iff {x : Except ε α} {f : α → β} {e : ε} :
    x.map f = .error e ↔ x = .error e := by
  cases x with
  | error e' => simp [Except.map]
  | ok a => simp [Except.map]

theorem bind_eq_ok_iff {x : Except ε α} {f : α → Except ε β} {b : β} :
    (x >>= f) = .ok b ↔ ∃ a, x = .ok a ∧ f a = .ok b := by
  cases x with
  | error e => simp [bind, Except.bind]
  | ok a => simp [bind, Except.bind]

theorem bind_eq_error_iff {x : Except ε α} {f : α → Except ε β} {e : ε} :
    (x >>= f) = .error e ↔ x = .error e ∨ ∃ a, x = .ok a ∧ f a = .error e := by
  cases x with
  | error e' => simp [bind, Except.bind]
  | ok a => simp [bind, Except.bind]

/-- The outcomes of two tests are one if they are true together and fail together, as the same. -/
theorem outcome_ext {x y : Except ε Bool} (htrue : x = .ok true ↔ y = .ok true)
    (herror : ∀ e, x = .error e ↔ y = .error e) : x = y := by
  cases x with
  | error e => exact ((herror e).mp rfl).symm
  | ok b =>
    cases y with
    | error e => exact (herror e).mpr rfl
    | ok c =>
      simp only [Except.ok.injEq] at htrue
      rw [Bool.eq_iff_iff.mpr htrue]

/-! ## Runs over a list -/

theorem mapM_cons_eq_ok_iff {f : α → Except ε β} {a : α} {as : List α} {bs : List β} :
    (a :: as).mapM f = .ok bs ↔ ∃ b cs, f a = .ok b ∧ as.mapM f = .ok cs ∧ bs = b :: cs := by
  rw [List.mapM_cons, bind_eq_ok_iff]
  constructor
  · rintro ⟨b, hb, h⟩
    obtain ⟨cs, hcs, h⟩ := bind_eq_ok_iff.mp h
    exact ⟨b, cs, hb, hcs, (Except.ok.inj h).symm⟩
  · rintro ⟨b, cs, hb, hcs, rfl⟩
    exact ⟨b, hb, bind_eq_ok_iff.mpr ⟨cs, hcs, rfl⟩⟩

/-- **A run over a list succeeds iff each item does**, and its results are those of the items. -/
theorem mapM_eq_ok_iff {f : α → Except ε β} {as : List α} {bs : List β} :
    as.mapM f = .ok bs ↔ List.Forall₂ (fun a b => f a = .ok b) as bs := by
  induction as generalizing bs with
  | nil =>
    rw [List.forall₂_nil_left_iff, List.mapM_nil]
    exact ⟨fun h => (Except.ok.inj h).symm, fun h => by rw [h]; rfl⟩
  | cons a as ih =>
    rw [mapM_cons_eq_ok_iff, List.forall₂_cons_left_iff]
    refine exists_congr fun b => ?_
    simp only [ih, exists_and_left]

theorem mapM_cons_eq_error_iff {f : α → Except ε β} {a : α} {as : List α} {e : ε} :
    (a :: as).mapM f = .error e ↔
      f a = .error e ∨ (∃ b, f a = .ok b) ∧ as.mapM f = .error e := by
  rw [List.mapM_cons]
  cases f a with
  | error e' => simp [bind, Except.bind]
  | ok b => cases as.mapM f <;> simp [bind, Except.bind, pure, Except.pure]

/-- **A run over a list fails as the first item that fails.** -/
theorem mapM_eq_error_iff {f : α → Except ε β} {as : List α} {e : ε} :
    as.mapM f = .error e ↔
      ∃ before a after, as = before ++ a :: after ∧ (∀ b ∈ before, ∃ c, f b = .ok c) ∧
        f a = .error e := by
  induction as with
  | nil => exact ⟨nofun, fun ⟨_, _, _, h, _⟩ => absurd h (by simp)⟩
  | cons a as ih => rw [mapM_cons_eq_error_iff, exists_first_cons_iff, ih]

/-- A run over a list that fails has an item that fails so. -/
theorem exists_of_mapM_eq_error {f : α → Except ε β} {as : List α} {e : ε}
    (h : as.mapM f = .error e) : ∃ a ∈ as, f a = .error e := by
  obtain ⟨before, a, after, rfl, -, ha⟩ := mapM_eq_error_iff.mp h
  exact ⟨a, List.mem_append_right before List.mem_cons_self, ha⟩

/-- Each item on the left has a related one on the right. -/
theorem exists_of_forall₂ {R : α → β → Prop} {as : List α} {bs : List β}
    (h : List.Forall₂ R as bs) {a : α} (ha : a ∈ as) : ∃ b ∈ bs, R a b := by
  induction h with
  | nil => exact absurd ha List.not_mem_nil
  | cons hab _ ih =>
    rcases List.mem_cons.mp ha with rfl | ha
    · exact ⟨_, List.mem_cons_self, hab⟩
    · obtain ⟨b, hb, hab⟩ := ih ha
      exact ⟨b, List.mem_cons_of_mem _ hb, hab⟩

/-- Items that all succeed give the list of their results. -/
theorem mapM_eq_ok_map {f : α → Except ε β} {g : α → β} {as : List α}
    (h : ∀ a ∈ as, f a = .ok (g a)) : as.mapM f = .ok (as.map g) := by
  rw [mapM_eq_ok_iff, List.forall₂_map_right_iff, List.forall₂_same]
  exact h

end RecordQuery
