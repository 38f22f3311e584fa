import Mathlib.Data.List.Basic
import RecordQuery.Value.Basic

/-!
# Setting keys of a mapping

A key that is set keeps its place if it is present, and is appended if it is not. A text is equal as
a key to itself alone, so for text keys this can be said by membership, and setting one of them
commutes with what else a mapping goes through: leaving out entries by their keys, and being built
entry by entry.

* `Mapping.keys_insert`: which keys there are after one is set, and in which order.
* `Mapping.filter_insert_of_pos`, `Mapping.filter_insert_of_neg`: setting a text key and leaving
  out entries by their keys.
* `Mapping.insertAll_insert`: setting a text key before or after the entries are inserted.
* `Mapping.insertAll_eq_append`: entries of different keys are kept as they stand.
-/

namespace RecordQuery

namespace Value

theorem same_text_iff {key : Value} {s : String} : key.same (.text s) = true ↔ key = .text s := by
  cases key <;> simp [same]

theorem text_same_iff {key : Value} {s : String} :
    (Value.text s).same key = true ↔ key = .text s := by
  cases key with
  | text t => simpa [same] using eq_comm
  | _ => simp [same]

end Value

namespace Mapping

variable {m n : Mapping} {key k v : Value} {s : String}

/-- The keys of a mapping in order. -/
def keys (m : Mapping) : List Value := m.map Prod.fst

/-- The mapping with another value wherever a key stands. -/
def replace (m : Mapping) (key v : Value) : Mapping :=
  m.map fun e => if e.1.same key then (e.1, v) else e

theorem insert_of_holds (h : holds m key = true) : insert m key v = replace m key v := if_pos h

theorem insert_of_not_holds (h : ¬ holds m key = true) : insert m key v = m ++ [(key, v)] :=
  if_neg h

/-! ## Keys -/

theorem holds_eq_any_keys : holds m key = (keys m).any fun k => k.same key := by
  rw [holds, keys, List.any_map]
  rfl

theorem holds_text_iff : holds m (.text s) = true ↔ .text s ∈ keys m := by
  simp only [holds_eq_any_keys, List.any_eq_true, Value.same_text_iff, exists_eq_right]

theorem replace_fst (e : Value × Value) :
    (if e.1.same key then (e.1, v) else e).1 = e.1 := by
  split_ifs <;> rfl

theorem keys_replace : keys (replace m key v) = keys m := by
  rw [keys, keys, replace, List.map_map]
  exact List.map_congr_left fun e _ => replace_fst e

theorem replace_of_not_holds (h : ¬ holds m key = true) : replace m key v = m := by
  have hmap : replace m key v = m.map id :=
    List.map_congr_left fun e he => if_neg fun hs => h (List.any_eq_true.mpr ⟨e, he, hs⟩)
  rw [hmap, List.map_id]

/-- The keys once one is set. -/
theorem keys_insert : keys (insert m key v) = if holds m key then keys m else keys m ++ [key] := by
  by_cases h : holds m key = true
  · rw [insert_of_holds h, keys_replace, if_pos h]
  · rw [insert_of_not_holds h, if_neg h, keys, keys, List.map_append]
    rfl

theorem mem_keys_insert (h : k ∈ keys (insert m key v)) : k ∈ keys m ∨ k = key := by
  rw [keys_insert] at h
  split_ifs at h
  · exact .inl h
  · exact (List.mem_append.mp h).imp id List.mem_singleton.mp

theorem keys_subset_insert : keys m ⊆ keys (insert m key v) := by
  rw [keys_insert]
  split_ifs
  · exact List.Subset.refl _
  · exact List.subset_append_left _ _

theorem text_mem_keys_insert_self : .text s ∈ keys (insert m (.text s) v) := by
  rw [keys_insert]
  split_ifs with hs
  · exact holds_text_iff.mp hs
  · exact List.mem_append_right _ List.mem_cons_self

theorem mem_keys_insert_text : k ∈ keys (insert m (.text s) v) ↔ k ∈ keys m ∨ k = .text s := by
  refine ⟨mem_keys_insert, ?_⟩
  rintro (h | rfl)
  · exact keys_subset_insert h
  · exact text_mem_keys_insert_self

theorem text_mem_keys_insert :
    .text s ∈ keys (insert m key v) ↔ .text s ∈ keys m ∨ key = .text s := by
  refine ⟨fun h => (mem_keys_insert h).imp id Eq.symm, ?_⟩
  rintro (h | rfl)
  · exact keys_subset_insert h
  · exact text_mem_keys_insert_self

/-- Entries under text keys. -/
def ofTexts (fields : List (String × Value)) : Mapping :=
  fields.map fun field => (.text field.1, field.2)

theorem keys_ofTexts (fields : List (String × Value)) :
    keys (ofTexts fields) = (fields.map Prod.fst).map .text := by
  rw [keys, ofTexts, List.map_map, List.map_map]
  rfl

/-! ## Leaving out entries by their keys -/

section Filter

variable {q : Value → Bool}

theorem filter_replace :
    (replace m key v).filter (fun e => q e.1) = replace (m.filter fun e => q e.1) key v := by
  rw [replace, replace, List.filter_map]
  congr 2
  funext e
  exact congrArg q (replace_fst e)

theorem text_mem_keys_filter :
    .text s ∈ keys (m.filter fun e => q e.1) ↔ .text s ∈ keys m ∧ q (.text s) = true := by
  simp only [keys, List.mem_map, List.mem_filter]
  constructor
  · rintro ⟨e, ⟨he, hq⟩, hs⟩
    exact ⟨⟨e, he, hs⟩, hs ▸ hq⟩
  · rintro ⟨⟨e, he, hs⟩, hq⟩
    exact ⟨e, ⟨he, hs ▸ hq⟩, hs⟩

/-- A text key that is kept may be set before or after the others are left out. -/
theorem filter_insert_of_pos (h : q (.text s) = true) :
    (insert m (.text s) v).filter (fun e => q e.1) =
      insert (m.filter fun e => q e.1) (.text s) v := by
  have hholds : holds (m.filter fun e => q e.1) (.text s) = true ↔ holds m (.text s) = true := by
    rw [holds_text_iff, holds_text_iff, text_mem_keys_filter, and_iff_left h]
  by_cases hs : holds m (.text s) = true
  · rw [insert_of_holds hs, insert_of_holds (hholds.mpr hs), filter_replace]
  · rw [insert_of_not_holds hs, insert_of_not_holds (mt hholds.mp hs), List.filter_append]
    simp [h]

/-- Setting a text key that is left out changes nothing. -/
theorem filter_insert_of_neg (h : ¬ q (.text s) = true) :
    (insert m (.text s) v).filter (fun e => q e.1) = m.filter fun e => q e.1 := by
  by_cases hs : holds m (.text s) = true
  · rw [insert_of_holds hs, filter_replace, replace_of_not_holds]
    rw [holds_text_iff, text_mem_keys_filter]
    exact fun hmem => h hmem.2
  · rw [insert_of_not_holds hs, List.filter_append]
    simp [h]

end Filter

/-! ## Inserting entries one by one -/

/-- The mapping with entries inserted in their order. -/
def insertAll (m entries : Mapping) : Mapping := entries.foldl (fun m e => insert m e.1 e.2) m

theorem insertAll_cons (e : Value × Value) :
    insertAll m (e :: n) = insertAll (insert m e.1 e.2) n := rfl

theorem mem_keys_insertAll (h : k ∈ keys (insertAll m n)) : k ∈ keys m ∨ k ∈ keys n := by
  induction n generalizing m with
  | nil => exact .inl h
  | cons e n ih =>
    rcases ih h with h | h
    · rcases mem_keys_insert h with h | rfl
      · exact .inl h
      · exact .inr List.mem_cons_self
    · exact .inr (List.mem_cons_of_mem _ h)

theorem text_mem_keys_insertAll :
    .text s ∈ keys (insertAll m n) ↔ .text s ∈ keys m ∨ .text s ∈ keys n := by
  induction n generalizing m with
  | nil => simp [insertAll, keys]
  | cons e n ih =>
    rw [insertAll_cons, ih, text_mem_keys_insert, or_assoc]
    refine or_congr_right ?_
    rw [keys, keys, List.map_cons, List.mem_cons, eq_comm]

/-- Replacing the value of a text key before or after another entry is inserted. -/
theorem insert_replace (e : Value × Value) :
    insert (replace m (.text s) v) e.1 (if e.1.same (.text s) then v else e.2) =
      replace (insert m e.1 e.2) (.text s) v := by
  have hholds : holds (replace m (.text s) v) e.1 = holds m e.1 := by
    rw [holds_eq_any_keys, keys_replace, ← holds_eq_any_keys]
  by_cases h : holds m e.1 = true
  · rw [insert_of_holds h, insert_of_holds (hholds.trans h), replace, replace, replace, replace,
      List.map_map, List.map_map]
    refine List.map_congr_left fun x _ => ?_
    -- an entry under both keys is one of the text, and then the inserted entry is too
    by_cases hs : x.1.same (.text s) = true
    · by_cases he : x.1.same e.1 = true
      · have hkey : e.1 = .text s := by
          rw [Value.same_text_iff.mp hs] at he
          exact Value.text_same_iff.mp he
        have hsame : e.1.same (.text s) = true := Value.same_text_iff.mpr hkey
        simp [hs, he, hsame]
      · simp [hs, he]
    · by_cases he : x.1.same e.1 = true
      · have hkey : ¬ e.1.same (.text s) = true := by
          intro hsame
          rw [Value.same_text_iff.mp hsame] at he
          exact hs he
        simp [hs, he, hkey]
      · simp [hs, he]
  · rw [insert_of_not_holds h, insert_of_not_holds (by rw [hholds]; exact h), replace, replace,
      List.map_append]
    by_cases hkey : e.1.same (.text s) = true <;> simp [hkey]

theorem insertAll_replace :
    insertAll (replace m (.text s) v) (replace n (.text s) v) =
      replace (insertAll m n) (.text s) v := by
  induction n generalizing m with
  | nil => rfl
  | cons e n ih =>
    rw [insertAll_cons, ← ih, ← insert_replace]
    show insertAll (insert _ _ _) _ = _
    by_cases hkey : e.1.same (.text s) = true <;> simp [hkey, replace]

/-- **A text key may be set before or after the entries are inserted.** -/
theorem insertAll_insert :
    insertAll [] (insert m (.text s) v) = insert (insertAll [] m) (.text s) v := by
  by_cases hs : holds m (.text s) = true
  · have hall : holds (insertAll [] m) (.text s) = true := by
      rw [holds_text_iff, text_mem_keys_insertAll]
      exact .inr (holds_text_iff.mp hs)
    rw [insert_of_holds hs, insert_of_holds hall]
    exact insertAll_replace (m := [])
  · rw [insert_of_not_holds hs, insertAll, List.foldl_append]
    rfl

/-- **Entries of different keys are kept as they stand.** -/
theorem insertAll_eq_append (h : (keys (m ++ n)).Pairwise fun a b => a.same b = false) :
    insertAll m n = m ++ n := by
  induction n generalizing m with
  | nil => exact (List.append_nil m).symm
  | cons e n ih =>
    have hsplit : m ++ e :: n = (m ++ [e]) ++ n := (List.append_assoc m [e] n).symm
    have hnew : ¬ holds m e.1 = true := by
      rw [holds_eq_any_keys, List.any_eq_true]
      rintro ⟨k, hk, hsame⟩
      rw [keys, List.map_append] at h
      cases hsame.symm.trans ((List.pairwise_append.mp h).2.2 k hk e.1 List.mem_cons_self)
    rw [insertAll_cons, insert_of_not_holds hnew, hsplit]
    rw [hsplit] at h
    exact ih h

end Mapping

end RecordQuery
