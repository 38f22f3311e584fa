import Mathlib.Data.List.Basic
import RecordQuery.Filter.Predicate
import RecordQuery.Proofs.Outcome

/-!
# Predicates as conjunctions

A predicate runs its fragments in order and the first that is not true decides. The order shows in
the outcome: a failing fragment is reached or stays hidden behind a false one. Whether the outcome
is *true* does not depend on it, and that is all that a selection keeps of a predicate.

* `Predicate.holdAll_eq_true_iff`: the outcome is true iff that of every fragment is.
* `Predicate.accepts_of_subset`: a candidate that many fragments accept, some of them accept.
* `Predicate.accepted_of_subset`: more fragments leave candidates out, and reorder none.
-/

namespace RecordQuery

namespace Predicate

/-- **A conjunction is true iff each fragment is**, in whatever order they run. -/
theorem holdAll_eq_true_iff {r : Record} {fs : List Fragment} :
    holdAll r fs = .ok true ↔ ∀ f ∈ fs, f.holds r = .ok true := by
  induction fs with
  | nil => simp [holdAll]
  | cons f fs ih =>
    rw [List.forall_mem_cons, ← ih, holdAll]
    split
    · rename_i hf
      simp [hf]
    · rename_i hf
      exact ⟨fun h => (hf h).elim, fun h => (hf h.1).elim⟩

/-- A conjunction fails as one of its fragments does. -/
theorem exists_of_holdAll_eq_error {r : Record} {fs : List Fragment} {e : FilterError}
    (h : holdAll r fs = .error e) : ∃ f ∈ fs, f.holds r = .error e := by
  induction fs with
  | nil => cases h
  | cons f fs ih =>
    rw [holdAll] at h
    split at h
    · obtain ⟨g, hg, hfail⟩ := ih h
      exact ⟨g, List.mem_cons_of_mem f hg, hfail⟩
    · exact ⟨f, List.mem_cons_self, h⟩

theorem holds_singleton (f : Fragment) (r : Record) : (⟨[f]⟩ : Predicate).holds r = f.holds r := by
  rw [holds, holdAll, holdAll]
  split
  · rename_i h
    exact h.symm
  · rfl

variable {α : Type} [Entity α]

/-- The predicate is true on a candidate; it is neither false nor a failure. -/
def accepts (p : Predicate) (x : α) : Bool :=
  match p.holdsOf x with
  | .ok b => b
  | .error _ => false

theorem accepts_iff {p : Predicate} {x : α} : p.accepts x = true ↔ p.holdsOf x = .ok true := by
  unfold accepts
  cases p.holdsOf x with
  | error e => simp
  | ok b => simp

/-- The candidates on which the predicate is true, in their order. -/
def accepted (p : Predicate) (candidates : List α) : List α := candidates.filter p.accepts

/-- On an entity that has a record the predicate is evaluated on the record, fragments or not. -/
theorem holdsOf_of_record (p : Predicate) {x : α} {r : Record} (h : Record.ofEntity x = .ok r) :
    p.holdsOf x = p.holds r := by
  unfold holdsOf
  split_ifs with hp
  · rw [holds, List.isEmpty_iff.mp hp, holdAll]
  · rw [h]
    rfl

theorem accepts_of_record {p : Predicate} {x : α} {r : Record} {b : Bool}
    (hx : Record.ofEntity x = .ok r) (hb : p.holds r = .ok b) : p.accepts x = b := by
  rw [accepts, holdsOf_of_record p hx, hb]

/-- A predicate without fragments is true on every candidate. -/
theorem accepts_of_isAlways {p : Predicate} (h : p.isAlways = true) (x : α) :
    p.accepts x = true := by
  rw [accepts_iff, holdsOf, if_pos h]

theorem accepted_of_isAlways {p : Predicate} (h : p.isAlways = true) (candidates : List α) :
    p.accepted candidates = candidates :=
  List.filter_eq_self.mpr fun x _ => accepts_of_isAlways h x

/-! ## Fewer and more fragments -/

variable {p q : Predicate}

/-- **A candidate that many fragments accept, some of them accept.** Having no fragment left does
not matter: the candidate is then not looked at. -/
theorem accepts_of_subset (h : p.fragments ⊆ q.fragments) {x : α} (hq : q.accepts x = true) :
    p.accepts x = true := by
  by_cases hp : p.isAlways = true
  · exact accepts_of_isAlways hp x
  · have hne : ¬ q.isAlways = true := by
      intro hnil
      have hsub := (List.isEmpty_iff.mp hnil) ▸ h
      exact hp (List.isEmpty_iff.mpr (List.subset_nil.mp hsub))
    rw [accepts_iff, holdsOf, if_neg hne] at hq
    rw [accepts_iff, holdsOf, if_neg hp]
    obtain ⟨r, hr, hholds⟩ := bind_eq_ok_iff.mp hq
    refine bind_eq_ok_iff.mpr ⟨r, hr, holdAll_eq_true_iff.mpr fun f hf => ?_⟩
    exact holdAll_eq_true_iff.mp hholds f (h hf)

/-- More fragments leave candidates out and change nothing else. -/
theorem accepted_of_subset (h : p.fragments ⊆ q.fragments) (candidates : List α) :
    q.accepted candidates = (p.accepted candidates).filter q.accepts := by
  rw [accepted, accepted, List.filter_filter]
  refine List.filter_congr fun x _ => ?_
  cases hq : q.accepts x with
  | false => rfl
  | true => rw [accepts_of_subset h hq, Bool.and_true]

/-- Predicates of the same fragments accept the same candidates. -/
theorem accepted_congr (hpq : p.fragments ⊆ q.fragments) (hqp : q.fragments ⊆ p.fragments)
    (candidates : List α) : p.accepted candidates = q.accepted candidates :=
  List.filter_congr fun _ _ =>
    Bool.eq_iff_iff.mpr ⟨accepts_of_subset hqp, accepts_of_subset hpq⟩

end Predicate

end RecordQuery
