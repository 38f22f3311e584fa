import Mathlib.Data.List.DropRight
import Mathlib.Data.List.SplitBy
import RecordQuery.Text.Natural

/-!
# Where a text is cut into runs

A text is cut between a digit and a character that is none, and nowhere else. So two texts that do
not meet in one class of characters are cut apart, and a stretch of one class is a single run if
neither what stands before it nor what follows goes on with the class.

* `runs_eq_splitBy`: the runs are the pieces between changes of class.
* `runs_around`: a stretch of one class between other texts.
* `runs_eq_iff`: what makes a list of pieces the runs of a text.
* `exists_eq_append_stretch`, `exists_eq_stretch_append`: the stretch at either end of a text.
-/

namespace RecordQuery.Text

/-! ## Stretches -/

/-- All characters are of one class: digits, or no digits. -/
def IsStretch (digits : Bool) (r : List Char) : Prop := ∀ c ∈ r, c.isDigit = digits

/-- The text does not end in a character of the class. -/
def EndsOutside (digits : Bool) (s : List Char) : Prop := ∀ c ∈ s.getLast?, c.isDigit ≠ digits

/-- The text does not start with a character of the class. -/
def StartsOutside (digits : Bool) (s : List Char) : Prop := ∀ c ∈ s.head?, c.isDigit ≠ digits

/-- A text is what stands before its last stretch of a class, and that stretch. -/
theorem exists_eq_append_stretch (digits : Bool) (s : List Char) :
    ∃ t r, s = t ++ r ∧ EndsOutside digits t ∧ IsStretch digits r := by
  let p : Char → Bool := fun c => c.isDigit == digits
  refine ⟨s.rdropWhile p, s.rtakeWhile p, List.rdropWhile_append_rtakeWhile.symm, ?_, ?_⟩
  · intro c hc hdigit
    obtain ⟨hne, rfl⟩ := List.mem_getLast?_eq_getLast hc
    exact List.rdropWhile_last_not p s hne (beq_iff_eq.mpr hdigit)
  · intro c hc
    have hp : p c = true := List.mem_rtakeWhile_imp hc
    exact beq_iff_eq.mp hp

/-- A text is the stretch that its first character is in, and what follows it. -/
theorem exists_eq_stretch_append (c : Char) (cs : List Char) :
    ∃ r t, cs = r ++ t ∧ IsStretch c.isDigit (c :: r) ∧ StartsOutside c.isDigit t := by
  let p : Char → Bool := fun d => d.isDigit == c.isDigit
  refine ⟨cs.takeWhile p, cs.dropWhile p, List.takeWhile_append_dropWhile.symm, ?_, ?_⟩
  · intro d hd
    rcases List.mem_cons.mp hd with rfl | hd
    · rfl
    · have hp : p d = true := List.mem_takeWhile_imp hd
      exact beq_iff_eq.mp hp
  · intro d hd hdigit
    have hnot := List.head?_dropWhile_not p cs
    rw [Option.mem_def.mp hd] at hnot
    exact Bool.false_ne_true (hnot.symm.trans (beq_iff_eq.mpr hdigit))

/-! ## The cut -/

/-- An item that goes with the first one of a list stands in the first piece. -/
theorem splitBy_cons_of_rel {α : Type} {rel : α → α → Bool} {a b : α} {l m : List α}
    {ms : List (List α)} (h : l.splitBy rel = (b :: m) :: ms) (hab : rel a b = true) :
    (a :: l).splitBy rel = (a :: b :: m) :: ms := by
  obtain ⟨hflatten, hnil, hchain, hgap⟩ := List.splitBy_eq_iff.mp h
  refine List.splitBy_eq_iff.mpr ⟨by rw [hflatten]; rfl, by simpa using hnil, ?_, ?_⟩
  · intro piece hpiece
    rcases List.mem_cons.mp hpiece with rfl | hpiece
    · exact List.isChain_cons_cons.mpr ⟨hab, hchain _ List.mem_cons_self⟩
    · exact hchain piece (List.mem_cons_of_mem _ hpiece)
  · cases ms with
    | nil => exact List.isChain_singleton _
    | cons next ms =>
      obtain ⟨hfirst, hrest⟩ := List.isChain_cons_cons.mp hgap
      exact List.isChain_cons_cons.mpr ⟨by simpa using hfirst, hrest⟩

/-- **The runs are the pieces between changes of class.** -/
theorem runs_eq_splitBy (s : List Char) : runs s = s.splitBy fun c d => c.isDigit == d.isDigit := by
  induction s with
  | nil => rfl
  | cons c cs ih =>
    rw [runs, ih]
    cases hcut : cs.splitBy fun c d => c.isDigit == d.isDigit with
    | nil =>
      rw [List.splitBy_eq_nil.mp hcut]
      rfl
    | cons m ms =>
      cases m with
      | nil => exact absurd (hcut ▸ List.mem_cons_self) (List.nil_notMem_splitBy _ cs)
      | cons d r =>
        dsimp only
        split
        · rename_i hclass
          exact (splitBy_cons_of_rel hcut (beq_iff_eq.mpr hclass)).symm
        · rename_i hclass
          have hcs : cs = d :: (r ++ ms.flatten) := (List.splitBy_eq_iff.mp hcut).1
          have hapart := List.splitBy_append_cons (l := [c]) (a := d)
            (r := fun c d => c.isDigit == d.isDigit) (r ++ ms.flatten) (by simpa using hclass)
          rw [← hcs, hcut] at hapart
          exact hapart.symm

/-- Two texts that do not meet in one class are cut apart. -/
theorem runs_append {s t : List Char}
    (h : ∀ c ∈ s.getLast?, ∀ d ∈ t.head?, c.isDigit ≠ d.isDigit) :
    runs (s ++ t) = runs s ++ runs t := by
  simp only [runs_eq_splitBy]
  refine List.splitBy_append fun c hc d hd => ?_
  simpa using h c hc d hd

/-- A stretch of one class is a single run. -/
theorem runs_of_isStretch {digits : Bool} {r : List Char} (hne : r ≠ []) (h : IsStretch digits r) :
    runs r = [r] := by
  rw [runs_eq_splitBy]
  refine List.splitBy_of_isChain hne (List.pairwise_of_forall_mem_list fun c hc d hd => ?_).isChain
  rw [h c hc, h d hd]
  exact beq_self_eq_true digits

/-- **A stretch of one class is a run between other texts** that do not go on with the class. -/
theorem runs_around {digits : Bool} {s r t : List Char} (hs : EndsOutside digits s) (hne : r ≠ [])
    (hr : IsStretch digits r) (ht : StartsOutside digits t) :
    runs (s ++ r ++ t) = runs s ++ r :: runs t := by
  have hright : runs (s ++ r ++ t) = runs (s ++ r) ++ runs t := by
    refine runs_append fun c hc d hd => ?_
    rw [List.getLast?_append_of_ne_nil s hne] at hc
    rw [hr c (List.mem_of_getLast? hc)]
    exact (ht d hd).symm
  have hleft : runs (s ++ r) = runs s ++ runs r := by
    refine runs_append fun c hc d hd => ?_
    rw [hr d (List.mem_of_head? hd)]
    exact hs c hc
  rw [hright, hleft, runs_of_isStretch hne hr, List.append_assoc]
  rfl

/-- A stretch takes in the characters of its class that follow it, the first of them included. -/
theorem exists_runs_append_cons {digits : Bool} {c : Char} {q r : List Char} (hq : EndsOutside digits q)
    (hr : IsStretch digits r) (hc : c.isDigit = digits) (cs : List Char) :
    ∃ w rest, IsStretch digits (c :: w) ∧
      runs (q ++ r ++ c :: cs) = runs q ++ (r ++ c :: w) :: rest := by
  obtain ⟨w, u, rfl, hw, hu⟩ := exists_eq_stretch_append c cs
  rw [hc] at hw hu
  have hstretch : IsStretch digits (r ++ c :: w) := List.forall_mem_append.mpr ⟨hr, hw⟩
  refine ⟨w, runs u, hw, ?_⟩
  rw [← runs_around hq (by simp) hstretch hu]
  simp

/-! ## What makes a list of pieces the runs -/

/-- The piece has a character, and all of its characters are of one class. -/
def IsRun (r : List Char) : Prop := r ≠ [] ∧ IsStretch (isNumeral r) r

theorem isRun_iff_isChain {r : List Char} :
    IsRun r ↔ r ≠ [] ∧ r.IsChain fun c d => (c.isDigit == d.isDigit) = true := by
  refine and_congr_right fun hne => ⟨fun h => ?_, fun h => ?_⟩
  · refine (List.pairwise_of_forall_mem_list fun c hc d hd => ?_).isChain
    rw [h c hc, h d hd]
    exact beq_self_eq_true _
  · cases r with
    | nil => exact absurd rfl hne
    | cons c cs =>
      -- the class of the first character is handed on from each to the next
      refine List.IsChain.induction (fun d => d.isDigit = c.isDigit) (c :: cs) h ?_ fun _ => rfl
      intro x y hxy hx
      exact (beq_iff_eq.mp hxy).symm.trans hx

theorem IsRun.gap_iff {a b : List Char} (ha : IsRun a) (hb : IsRun b) :
    (∃ hla hlb, ((a.getLast hla).isDigit == (b.head hlb).isDigit) = false) ↔
      isNumeral a ≠ isNumeral b := by
  have hlast := ha.2 (a.getLast ha.1) (List.getLast_mem ha.1)
  have hhead := hb.2 (b.head hb.1) (List.head_mem hb.1)
  simp [hlast, hhead, ha.1, hb.1]

/-- **What makes a list of pieces the runs of a text**: joined they are the text, each of them is of
one class, and neighbours are not of the same. -/
theorem runs_eq_iff {s : List Char} {rs : List (List Char)} :
    runs s = rs ↔ s = rs.flatten ∧ (∀ r ∈ rs, IsRun r) ∧
      rs.IsChain fun a b => isNumeral a ≠ isNumeral b := by
  rw [runs_eq_splitBy, List.splitBy_eq_iff]
  refine and_congr_right fun _ => ?_
  rw [← and_assoc]
  have hrun : ([] ∉ rs ∧ ∀ r ∈ rs, r.IsChain fun c d => (c.isDigit == d.isDigit) = true) ↔
      ∀ r ∈ rs, IsRun r := by
    simp only [isRun_iff_isChain, forall₂_and]
    exact and_congr_left fun _ => ⟨fun h r hr hnil => h (hnil ▸ hr), fun h hnil => h [] hnil rfl⟩
  rw [hrun]
  refine and_congr_right fun hrs => List.IsChain.iff_of_mem_imp fun a b ha hb => ?_
  exact (hrs a ha).gap_iff (hrs b hb)

end RecordQuery.Text
