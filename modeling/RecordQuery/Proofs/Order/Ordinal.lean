import RecordQuery.Proofs.Order.Numerals

/-!
# Other characters in natural order

Outside digit runs texts are meant to be in the order of code points. Where two texts part at two
characters that are no digits, they are; so they are where one of the two is a digit and no other
character stands before them, or where the other one lies above the digits.

The rest is where the two orders come apart. A digit ends the run before it, and any other character
is still in that run. So the run that the digit ends is a beginning of the other, and comes before
it whatever the other goes on with: the text with the digit is the lesser even if the other one has
a space or a hyphen there, which the code points put first.

* `naturalCompare_of_plain`: two characters that are no digits.
* `naturalCompare_of_digit_start`, `naturalCompare_of_digit`: a digit and another character, at the
  start of the texts and behind a character that is no digit.
* `naturalCompare_at_characters`: two texts that part at any two characters, not both of them
  digits.
-/

namespace RecordQuery.Text

variable {p s t : String} {c d : Char}

/-- What decides between the runs decides between the texts. -/
theorem naturalCompare_of_compareRuns {a b : String} {o : Ordering} (ho : o ≠ .eq)
    (h : compareRuns (runs a.toList) (runs b.toList) = o) : naturalCompare a b = o := by
  rw [naturalCompare, h, then_of_ne_eq ho]

theorem compare_ne_eq (h : c ≠ d) : compare c d ≠ .eq := mt compare_eq_iff_eq.mp h

theorem toList_around (p : String) (c : Char) (s : String) :
    (p ++ String.singleton c ++ s).toList = p.toList ++ c :: s.toList := by
  simp

/-- **Two texts that part at characters that are no digits** are in the order of code points. -/
theorem naturalCompare_of_plain (hne : c ≠ d) (hc : c.isDigit = false) (hd : d.isDigit = false) :
    naturalCompare (p ++ String.singleton c ++ s) (p ++ String.singleton d ++ t) = compare c d := by
  obtain ⟨q, r, hp, hq, hr⟩ := exists_eq_append_stretch false p.toList
  obtain ⟨v, _, hv, hruns⟩ := exists_runs_append_cons hq hr hc s.toList
  obtain ⟨w, _, hw, hruns'⟩ := exists_runs_append_cons hq hr hd t.toList
  have hplain : isNumeral (r ++ c :: v) = false :=
    isNumeral_of_isStretch (by simp) (List.forall_mem_append.mpr ⟨hr, hv⟩)
  have hfirst : compareRun (r ++ c :: v) (r ++ d :: w) = compare c d := by
    rw [compareRun, hplain, Bool.false_and, if_neg Bool.false_ne_true, compare_append_left,
      List.compare_cons_cons, then_of_ne_eq (compare_ne_eq hne)]
  refine naturalCompare_of_compareRuns (compare_ne_eq hne) ?_
  rw [toList_around, toList_around, hp, hruns, hruns', compareRuns_append_left, compareRuns, hfirst,
    then_of_ne_eq (compare_ne_eq hne)]

theorem side_ne (hc : c.isDigit = true) (hd : d.isDigit = false) : side c ≠ side d := by
  intro h
  rw [(side_eq_one_iff c).mpr hc, eq_comm, side_eq_one_iff, hd] at h
  exact Bool.false_ne_true h

/-- The digits are consecutive: another character is below all of them or above. -/
theorem compare_digit (hc : c.isDigit = true) (hd : d.isDigit = false) :
    compare c d = if d < '0' then .gt else .lt := by
  have hside := side_ne hc hd
  rw [compare_of_side_ne hside]
  rw [(side_eq_one_iff c).mpr hc] at hside ⊢
  unfold side at hside ⊢
  split_ifs at hside ⊢
  · rfl
  · exact absurd rfl hside
  · rfl

/-- **At the start of two texts** a digit and another character are in the order of code points. -/
theorem naturalCompare_of_digit_start (hc : c.isDigit = true) (hd : d.isDigit = false) :
    naturalCompare (String.singleton c ++ s) (String.singleton d ++ t) = compare c d := by
  have hside := side_ne hc hd
  have hne : compare c d ≠ .eq := compare_ne_eq fun h => hside (congrArg side h)
  obtain ⟨v, _, -, hruns⟩ := exists_runs_append_cons (q := []) (r := []) (by simp [EndsOutside])
    (List.forall_mem_nil _) hc s.toList
  obtain ⟨w, _, -, hruns'⟩ := exists_runs_append_cons (q := []) (r := []) (by simp [EndsOutside])
    (List.forall_mem_nil _) hd t.toList
  have hempty : runs [] = [] := rfl
  simp only [List.nil_append, hempty] at hruns hruns'
  refine naturalCompare_of_compareRuns hne ?_
  rw [String.toList_append, String.toList_append, String.toList_singleton, String.toList_singleton,
    List.singleton_append, List.singleton_append, hruns, hruns', compareRuns,
    compareRun_of_side_ne hside, ← compare_of_side_ne hside, then_of_ne_eq hne]

/-- **Behind a character that is no digit** a digit comes before every other character. -/
theorem naturalCompare_of_digit (hp : EndsOutside true p.toList) (hne : p ≠ "")
    (hc : c.isDigit = true) (hd : d.isDigit = false) :
    naturalCompare (p ++ String.singleton c ++ s) (p ++ String.singleton d ++ t) = .lt := by
  obtain ⟨q, r, hqr, hq, hr⟩ := exists_eq_append_stretch false p.toList
  have hnil : r ≠ [] := by
    rintro rfl
    rw [List.append_nil] at hqr
    cases hlast : p.toList.getLast? with
    | none => exact hne (String.toList_inj.mp (List.getLast?_eq_none_iff.mp hlast))
    | some x =>
      have hdigit := hp x hlast
      have hplain := hq x (hqr ▸ hlast)
      cases hx : x.isDigit <;> simp [hx] at hdigit hplain
  obtain ⟨w, _, -, hruns⟩ := exists_runs_append_cons hq hr hd t.toList
  have hfirst : compareRun r (r ++ d :: w) = .lt := by
    rw [compareRun, isNumeral_of_isStretch hnil hr, Bool.false_and, if_neg Bool.false_ne_true,
      compare_append_right]
    rfl
  refine naturalCompare_of_compareRuns (by decide) ?_
  rw [toList_around, toList_around, hqr, hruns, runs_around hq hnil hr (by simp [StartsOutside, hc]),
    compareRuns_append_left, compareRuns, hfirst]
  rfl

/-- One of the characters is a digit, and the other one lies below the digits. -/
def Straddles (c d : Char) : Prop := c.isDigit = true ∧ d < '0' ∨ d.isDigit = true ∧ c < '0'

instance (c d : Char) : Decidable (Straddles c d) :=
  inferInstanceAs (Decidable (_ ∨ _))

theorem straddles_comm : Straddles c d ↔ Straddles d c := or_comm

/-- A digit and another character, after any text. -/
theorem naturalCompare_at_digit (hp : EndsOutside true p.toList) (hc : c.isDigit = true)
    (hd : d.isDigit = false) :
    naturalCompare (p ++ String.singleton c ++ s) (p ++ String.singleton d ++ t) =
      if p ≠ "" ∧ Straddles c d then (compare c d).swap else compare c d := by
  by_cases hempty : p = ""
  · rw [hempty, if_neg (by simp)]
    simpa using naturalCompare_of_digit_start hc hd
  · have hcodes : compare c d = if d < '0' then .gt else .lt := compare_digit hc hd
    rw [naturalCompare_of_digit hp hempty hc hd, hcodes]
    by_cases hlow : d < '0' <;> simp [Straddles, hempty, hlow, hc, hd]

/-- **Other characters in natural order.** Two texts that part at two characters, not both of them
digits, compare as these do by their code points, with one exception: behind a character that is no
digit, a digit comes before the characters that lie below the digits. -/
theorem naturalCompare_at_characters (hp : EndsOutside true p.toList) (hne : c ≠ d)
    (hdigits : ¬ (c.isDigit = true ∧ d.isDigit = true)) :
    naturalCompare (p ++ String.singleton c ++ s) (p ++ String.singleton d ++ t) =
      if p ≠ "" ∧ Straddles c d then (compare c d).swap else compare c d := by
  cases hc : c.isDigit with
  | true =>
    have hd : d.isDigit = false := Bool.eq_false_iff.mpr fun hd => hdigits ⟨hc, hd⟩
    exact naturalCompare_at_digit hp hc hd
  | false =>
    cases hd : d.isDigit with
    | true =>
      have hswap := naturalCompare_at_digit (s := t) (t := s) hp hd hc
      have hcodes : compare d c = (compare c d).swap := Std.OrientedCmp.eq_swap
      have hturn : naturalCompare (p ++ String.singleton c ++ s) (p ++ String.singleton d ++ t) =
        (naturalCompare (p ++ String.singleton d ++ t) (p ++ String.singleton c ++ s)).swap :=
          Std.OrientedCmp.eq_swap
      rw [hturn, hswap, hcodes]
      simp only [straddles_comm (c := d) (d := c), Ordering.swap_swap]
      split_ifs <;> simp
    | false =>
      have hapart : ¬ Straddles c d := by simp [Straddles, hc, hd]
      rw [naturalCompare_of_plain hne hc hd, if_neg fun h => hapart h.2]

/-- Behind a letter the hyphen comes after the digit, whatever follows. -/
theorem naturalCompare_at_characters_hyphen : EndsOutside true "item".toList ∧ '-' ≠ '7' ∧
    ¬ ('-'.isDigit = true ∧ '7'.isDigit = true) ∧
    naturalCompare ("item" ++ String.singleton '-' ++ "0") ("item" ++ String.singleton '7' ++ "") =
      (compare '-' '7').swap := by
  have hp : EndsOutside true "item".toList := by simp [EndsOutside]
  have hne : '-' ≠ '7' := by decide
  have hdigits : ¬ ('-'.isDigit = true ∧ '7'.isDigit = true) := by decide
  refine ⟨hp, hne, hdigits, ?_⟩
  rw [naturalCompare_at_characters hp hne hdigits, if_pos (by decide)]

/-- The space is put before the digit by the code points, and after it by the natural order. -/
theorem exists_not_code_point_order : ∃ (p s t : String) (c d : Char),
    EndsOutside true p.toList ∧ c ≠ d ∧ ¬ (c.isDigit = true ∧ d.isDigit = true) ∧
    compare c d = .lt ∧
    naturalCompare (p ++ String.singleton c ++ s) (p ++ String.singleton d ++ t) = .gt := by
  exact ⟨"a", "1", "", ' ', '1', by simp [EndsOutside], by decide, by decide, by decide, by cbv⟩

end RecordQuery.Text
