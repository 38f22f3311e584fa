import RecordQuery.Text.Lower

/-!
# Lower-casing ASCII text

Two comparisons of names ignore case: one of them knows ASCII letters alone, the other one is the
full mapping. On a text of ASCII characters the full mapping lower-cases letter by letter, without
regard to what stands around them, so there names that agree for the first comparison agree for the
second.

* `lower_of_isAscii`: the full mapping of an ASCII text.
* `lower_eq_of_sameAscii`: a text that is an ASCII name up to the case of ASCII letters is that name
  in lower case.
-/

namespace RecordQuery.Text

/-- Every character is one of ASCII. -/
def IsAscii (s : List Char) : Prop := ∀ c ∈ s, c.toNat < 128

instance (s : List Char) : Decidable (IsAscii s) :=
  List.decidableBAll (fun c : Char => c.toNat < 128) s

/-- What holds of the first 128 code points holds of the ASCII characters. -/
theorem forall_ascii {P : Char → Prop} (h : ∀ n : Fin 128, P (Char.ofNat n)) {c : Char}
    (hc : c.toNat < 128) : P c := by
  have hP := h ⟨c.toNat, hc⟩
  rwa [Char.ofNat_toNat] at hP

/-- The simple mapping of an ASCII character changes capitals alone. -/
theorem lowerSimple_of_ascii {c : Char} (h : c.toNat < 128) : lowerSimple c = asciiLower c :=
  forall_ascii (P := fun c => lowerSimple c = asciiLower c) (by decide +kernel) h

/-- No ASCII character is one of the two that lower-casing treats apart. -/
theorem lowerAt_of_ascii {c : Char} (h : c.toNat < 128) (before after : List Char) :
    lowerAt before c after = [asciiLower c] := by
  have hsigma : c ≠ 'Σ' := by
    rintro rfl
    exact absurd h (by decide)
  have hdotted : c ≠ 'İ' := by
    rintro rfl
    exact absurd h (by decide)
  rw [lowerAt, if_neg hsigma, if_neg hdotted, lowerSimple_of_ascii h]

theorem lowerFrom_of_isAscii {before s : List Char} (h : IsAscii s) :
    lowerFrom before s = s.map asciiLower := by
  induction s generalizing before with
  | nil => rfl
  | cons c s ih =>
    obtain ⟨hc, hs⟩ := List.forall_mem_cons.mp h
    rw [lowerFrom, lowerAt_of_ascii hc, ih hs]
    rfl

/-- **An ASCII text is lower-cased letter by letter.** -/
theorem lower_of_isAscii {s : String} (h : IsAscii s.toList) :
    lower s = String.ofList (s.toList.map asciiLower) :=
  congrArg String.ofList (lowerFrom_of_isAscii h)

/-- A character that becomes an ASCII one is one. -/
theorem ascii_of_asciiLower {c : Char} (h : (asciiLower c).toNat < 128) : c.toNat < 128 := by
  unfold asciiLower at h
  split at h
  · rename_i hcapital
    exact Nat.lt_of_le_of_lt (Char.le_def.mp hcapital.2) (by decide)
  · exact h

theorem asciiLower_ascii {c : Char} (h : c.toNat < 128) : (asciiLower c).toNat < 128 :=
  forall_ascii (P := fun c => (asciiLower c).toNat < 128) (by decide +kernel) h

/-- What is an ASCII text up to the case of ASCII letters is one. -/
theorem isAscii_of_map_asciiLower {s t : List Char} (ht : IsAscii t)
    (h : s.map asciiLower = t.map asciiLower) : IsAscii s := by
  intro c hc
  have hmem : asciiLower c ∈ t.map asciiLower := h ▸ List.mem_map_of_mem hc
  obtain ⟨d, hd, hdc⟩ := List.mem_map.mp hmem
  exact ascii_of_asciiLower (hdc ▸ asciiLower_ascii (ht d hd))

/-- **A text that is an ASCII name up to the case of ASCII letters is that name in lower case.** -/
theorem lower_eq_of_sameAscii {a b : String} (hb : IsAscii b.toList) (h : sameAscii a b = true) :
    lower a = lower b := by
  have hmap := sameAscii_iff.mp h
  rw [lower_of_isAscii hb, lower_of_isAscii (isAscii_of_map_asciiLower hb hmap), hmap]

end RecordQuery.Text
