import Mathlib.Data.List.DropRight
import RecordQuery.Text.Blank

/-!
# Trimming and splitting, undone

A text is what is left of it by trimming between two runs of blanks, and trimming takes off any
such runs again. A text is its pieces between separators, joined by separators, and splitting finds
the pieces again if there is no separator in them.

* `trim_append_append`, `exists_eq_append_trim`: blanks around a text.
* `splitWhere_intercalate`, `intercalate_splitWhere`: pieces between separators.
-/

namespace RecordQuery.Text

/-! ## Trimming -/

/-- The text has blanks only. -/
def IsBlankRun (s : List Char) : Prop := ∀ c ∈ s, isBlank c = true

instance (s : List Char) : Decidable (IsBlankRun s) :=
  List.decidableBAll (fun c => isBlank c = true) s

/-- Trailing blanks do not matter to what is left without them. -/
theorem trimEnd_append {s w : List Char} (hw : IsBlankRun w) : trimEnd (s ++ w) = trimEnd s := by
  have hreverse : ∀ c ∈ w.reverse, isBlank c = true := fun c hc => hw c (List.mem_reverse.mp hc)
  rw [trimEnd, List.reverse_append, List.dropWhile_append_of_pos hreverse, trimEnd]

/-- **Blanks around a text do not matter to what trimming leaves of it.** -/
theorem trim_append_append {u w : List Char} (hu : IsBlankRun u) (t : List Char)
    (hw : IsBlankRun w) : trim (u ++ t ++ w) = trim t := by
  unfold trim trimStart
  rw [List.append_assoc, List.dropWhile_append_of_pos hu, List.dropWhile_append]
  split
  · rename_i hblank
    -- blanks only, so that the blanks after them lead as well
    rw [List.isEmpty_iff.mp hblank, List.dropWhile_eq_nil_iff.mpr hw]
  · exact trimEnd_append hw

/-- **A text is what trimming leaves of it, between blanks.** -/
theorem exists_eq_append_trim (s : List Char) :
    ∃ u w, IsBlankRun u ∧ IsBlankRun w ∧ s = u ++ trim s ++ w := by
  refine ⟨s.takeWhile isBlank, (trimStart s).rtakeWhile isBlank,
    fun c hc => List.mem_takeWhile_imp hc, fun c hc => List.mem_rtakeWhile_imp hc, ?_⟩
  have hend : trim s ++ (trimStart s).rtakeWhile isBlank = trimStart s :=
    List.rdropWhile_append_rtakeWhile
  rw [List.append_assoc, hend, trimStart, List.takeWhile_append_dropWhile]

theorem trim_trim (s : List Char) : trim (trim s) = trim s := by
  obtain ⟨u, w, hu, hw, hs⟩ := exists_eq_append_trim s
  conv_rhs => rw [hs, trim_append_append hu _ hw]

theorem mem_of_mem_trim {s : List Char} {c : Char} (h : c ∈ trim s) : c ∈ s := by
  obtain ⟨u, w, -, -, hs⟩ := exists_eq_append_trim s
  rw [hs]
  exact List.mem_append_left w (List.mem_append_right u h)

/-- Trimming leaves nothing of blanks, and something of every other text. -/
theorem trim_eq_nil_iff {s : List Char} : trim s = [] ↔ IsBlankRun s := by
  constructor
  · intro h
    obtain ⟨u, w, hu, hw, hs⟩ := exists_eq_append_trim s
    rw [hs, h, List.append_nil]
    exact List.forall_mem_append.mpr ⟨hu, hw⟩
  · intro h
    have hs := trim_append_append h [] (List.forall_mem_nil _)
    rwa [List.append_nil, List.append_nil] at hs

/-- A text that starts and ends without blanks stays as it is, whatever stands between. -/
theorem trim_of_not_blank_ends {a b : List Char} (ha : ∀ c ∈ a, isBlank c = false) (hane : a ≠ [])
    (hb : ∀ c ∈ b, isBlank c = false) (hbne : b ≠ []) (between : List Char) :
    trim (a ++ (between ++ b)) = a ++ (between ++ b) := by
  obtain ⟨c, a, rfl⟩ := List.exists_cons_of_ne_nil hane
  obtain ⟨b, d, rfl⟩ := List.eq_nil_or_concat b |>.resolve_left hbne
  have hc : ¬ isBlank c = true := by simp [ha c List.mem_cons_self]
  have hd : ¬ isBlank d = true := by simp [hb d (by simp)]
  have hstart : trimStart (c :: a ++ (between ++ b.concat d)) = c :: a ++ (between ++ b.concat d) :=
    List.dropWhile_cons_of_neg hc
  rw [trim, hstart]
  exact List.rdropWhile_eq_self_iff.mpr fun _ => by simpa using hd

/-! ## Splitting -/

theorem splitWhere_eq_splitOnP (p : Char → Bool) (s : List Char) :
    splitWhere p s = s.splitOnP p := by
  induction s with
  | nil => rfl
  | cons c cs ih =>
    rw [splitWhere, List.splitOnP_cons_eq_if_modifyHead, ih]
    cases h : cs.splitOnP p with
    | nil => exact absurd h (List.splitOnP_ne_nil p cs)
    | cons w ws => rfl

/-- No separator is in a piece. -/
theorem not_of_mem_splitWhere {p : Char → Bool} {s piece : List Char} (h : piece ∈ splitWhere p s) :
    ∀ c ∈ piece, p c = false := by
  induction s generalizing piece with
  | nil =>
    obtain rfl := List.mem_singleton.mp h
    exact fun _ hc => absurd hc List.not_mem_nil
  | cons a s ih =>
    unfold splitWhere at h
    split at h
    · rcases List.mem_cons.mp h with rfl | h
      · exact fun _ hc => absurd hc List.not_mem_nil
      · exact ih h
    · rename_i ha
      have ha : p a = false := Bool.not_eq_true _ ▸ ha
      split at h
      · obtain rfl := List.mem_singleton.mp h
        exact List.forall_mem_singleton.mpr ha
      · rename_i w ws hsplit
        rcases List.mem_cons.mp h with rfl | h
        · exact List.forall_mem_cons.mpr ⟨ha, ih (hsplit ▸ List.mem_cons_self)⟩
        · exact ih (hsplit ▸ List.mem_cons_of_mem w h)

/-- **Splitting finds the pieces that were joined**, if no separator is in them. -/
theorem splitWhere_intercalate {sep : Char} {pieces : List (List Char)} (hne : pieces ≠ [])
    (h : ∀ piece ∈ pieces, sep ∉ piece) :
    splitWhere (· = sep) ([sep].intercalate pieces) = pieces := by
  rw [splitWhere_eq_splitOnP]
  exact List.splitOn_intercalate sep h hne

/-- **Joining the pieces of a text gives the text back.** -/
theorem intercalate_splitWhere (sep : Char) (s : List Char) :
    [sep].intercalate (splitWhere (· = sep) s) = s := by
  rw [splitWhere_eq_splitOnP]
  exact List.intercalate_splitOn sep

end RecordQuery.Text
