import Mathlib.Algebra.Order.Ring.Int
import RecordQuery.Calendar.Reading
import RecordQuery.Proofs.Text.Lower

/-!
# Reading the fields of an instant

A step of reading takes a piece off the front of a text and says what the piece means. Steps put
together take the pieces one after another. Each field of an instant is read back from what is
written for it: numbers from their digits, padded to a width or not; a year from four digits, or from
a sign and any number of them; a fraction of a second from up to nine digits behind a point.

* `DateReader.Reads`: what a step takes from the front of a text; `Reads.bind` puts steps together.
* `Reads.relaxedYear`, `Reads.relaxedField`, `Reads.strictField`: the fields are read back.
* `IsFraction.reads`: every way to write a fraction is read.
-/

namespace RecordQuery

/-! ## Digits -/

namespace DateTime

theorem toList_padded (width n : Nat) :
    (padded width n).toList =
      List.replicate (width - (Nat.toDigits 10 n).length) '0' ++ Nat.toDigits 10 n :=
  String.toList_ofList

theorem isDigit_of_mem_padded {width n : Nat} {c : Char} (h : c ∈ (padded width n).toList) :
    c.isDigit = true := by
  rw [toList_padded, List.mem_append] at h
  rcases h with hzero | hdigit
  · rw [List.eq_of_mem_replicate hzero]
    rfl
  · exact Nat.isDigit_of_mem_toDigits (by decide) (by decide) hdigit

theorem le_length_padded (width n : Nat) : width ≤ (padded width n).toList.length := by
  rw [toList_padded, List.length_append, List.length_replicate]
  omega

/-- A number of no more digits than the width is written with exactly that many. -/
theorem length_padded {width n : Nat} (hwidth : 0 < width) (hn : n < 10 ^ width) :
    (padded width n).toList.length = width := by
  have hdigits := (Nat.length_toDigits_le_iff (by decide) hwidth).mpr hn
  rw [toList_padded, List.length_append, List.length_replicate, Nat.sub_add_cancel hdigits]

theorem exists_padded_eq_cons {width n : Nat} (hwidth : 0 < width) :
    ∃ c cs, (padded width n).toList = c :: cs ∧ c.isDigit = true := by
  have hlength := Nat.lt_of_lt_of_le hwidth (le_length_padded width n)
  obtain ⟨c, cs, hcs⟩ := List.exists_cons_of_length_pos hlength
  exact ⟨c, cs, hcs, isDigit_of_mem_padded (hcs ▸ List.mem_cons_self)⟩

theorem decimalValue_replicate_append (k : Nat) (ds : List Char) :
    Numeral.decimalValue (List.replicate k '0' ++ ds) = Numeral.decimalValue ds := by
  induction k with
  | zero => rfl
  | succ k ih => exact ih

/-- Leading zeros aside, the digits of a number are those that write it. -/
theorem decimalValue_padded (width n : Nat) :
    Numeral.decimalValue (padded width n).toList = n := by
  rw [toList_padded, decimalValue_replicate_append]
  exact Nat.ofDigitChars_toDigits (by decide) (by decide)

end DateTime

namespace DateReader

open DateTime (padded isDigit_of_mem_padded le_length_padded length_padded exists_padded_eq_cons
  decimalValue_padded)

/-! ## What a step reads -/

section Reads

variable {α β : Type} {t u rest : List Char} {a : α} {b : β}

/-- The step takes exactly the text from the front, given what follows it. -/
def Reads (step : Step α) (text : List Char) (a : α) (rest : List Char) : Prop :=
  step (text ++ rest) = some (a, rest)

namespace Reads

/-- After what a step has read, the next step goes on with the rest. -/
theorem apply_bind {x : Step α} {f : α → Step β} (hx : Reads x t a rest) :
    (x >>= f) (t ++ rest) = f a rest := by
  show (x (t ++ rest)).bind (fun p => f p.1 p.2) = _
  rw [hx]
  rfl

/-- **One step after another** reads the one text and then the other. -/
theorem bind {x : Step α} {f : α → Step β} (hx : Reads x t a (u ++ rest))
    (hf : Reads (f a) u b rest) : Reads (x >>= f) (t ++ u) b rest := by
  rw [Reads, List.append_assoc]
  exact hx.apply_bind.trans hf

/-- Failure after what a step has read is failure. -/
theorem bind_eq_none {x : Step α} {f : α → Step β} (hx : Reads x t a rest)
    (hf : f a rest = none) : (x >>= f) (t ++ rest) = none :=
  hx.apply_bind.trans hf

theorem map (f : α → β) {x : Step α} (hx : Reads x t a rest) : Reads (f <$> x) t (f a) rest := by
  show (x (t ++ rest)).bind (fun p => some (f p.1, p.2)) = _
  rw [hx]
  rfl

/-- A step that reads nothing may as well be left out. -/
theorem skip_bind {f : Unit → Step α} (h : Reads (f ()) t a rest) : Reads (skip >>= f) t a rest := h

theorem lift {x : Option α} (hx : x = some a) : Reads (liftM x : Step α) [] a rest := by
  rw [hx]
  rfl

theorem literal (c : Char) : Reads (literal c) [c] () rest := if_pos rfl

theorem oneOf {cs : List Char} {c : Char} (hc : cs.contains c = true) :
    Reads (oneOf cs) [c] c rest := if_pos hc

/-- At the end of the text the reading goes on. -/
theorem finished_bind {f : Unit → Step α} (h : Reads (f ()) [] a []) :
    Reads (finished >>= f) [] a [] := h

/-- A run of digits is read whole if it has as many as are asked for, or no digit follows. -/
theorem digits {least most : Nat} {ds : List Char} (hds : ∀ c ∈ ds, c.isDigit = true)
    (hleast : least ≤ ds.length) (hmost : ds.length ≤ most)
    (hrest : ds.length = most ∨ rest.takeWhile Char.isDigit = []) :
    Reads (digits least most) ds ds rest := by
  have htake : (rest.take (most - ds.length)).takeWhile Char.isDigit = [] := by
    rcases hrest with hlength | hnone
    · rw [hlength, Nat.sub_self, List.take_zero, List.takeWhile_nil]
    · cases rest with
      | nil => simp
      | cons c rest =>
        cases most - ds.length with
        | zero => rfl
        | succ n => simpa [List.takeWhile_cons] using hnone
  have hrun : ((ds ++ rest).take most).takeWhile Char.isDigit = ds := by
    rw [List.take_append, List.take_of_length_le hmost, List.takeWhile_append_of_pos hds, htake,
      List.append_nil]
  simp only [Reads, DateReader.digits, hrun, Nat.not_lt.mpr hleast, if_false, List.drop_left]

end Reads

theorem bind_eq_none {x : Step α} {f : α → Step β} {s : List Char} (hx : x s = none) :
    (x >>= f) s = none := by
  show (x s).bind (fun p => f p.1 p.2) = none
  rw [hx]
  rfl

end Reads

/-! ## The fields -/

section Fields

variable {rest : List Char}

theorem isBlank_of_isDigit {c : Char} (hc : c.isDigit = true) : Text.isBlank c = false := by
  have hascii : c.toNat < 128 := Nat.lt_of_le_of_lt (Char.isDigit_iff_toNat.mp hc).2 (by decide)
  exact Text.forall_ascii (P := fun c => c.isDigit = true → Text.isBlank c = false)
    (by decide +kernel) hascii hc

theorem trimStart_cons_of_isDigit {c : Char} (hc : c.isDigit = true) (s : List Char) :
    Text.trimStart (c :: s) = c :: s := by
  rw [Text.trimStart, List.dropWhile_cons_of_neg]
  rw [isBlank_of_isDigit hc]
  decide

theorem blanks_bind {α : Type} {s : List Char} (hs : Text.trimStart s = s) (f : Unit → Step α) :
    (blanks >>= f) s = f () s := by
  show f () (Text.trimStart s) = f () s
  rw [hs]

/-- A number is read from its digits, padded or not. -/
theorem Reads.number {least most width n : Nat} (hleast : least ≤ width)
    (hmost : (padded width n).toList.length ≤ most)
    (hrest : (padded width n).toList.length = most ∨ rest.takeWhile Char.isDigit = []) :
    Reads (number least most) (padded width n).toList n rest := by
  have hdigits := Reads.digits (fun _ => isDigit_of_mem_padded)
    (Nat.le_trans hleast (le_length_padded width n)) hmost hrest
  have hvalue := hdigits.map Numeral.decimalValue
  rwa [decimalValue_padded] at hvalue

theorem Reads.strictField {width n : Nat} (hwidth : 0 < width) (hn : n < 10 ^ width) :
    Reads (strictField width) (padded width n).toList n rest :=
  have hlength := length_padded hwidth hn
  .number (Nat.le_refl width) (Nat.le_of_eq hlength) (.inl hlength)

/-- A field that must have a digit does not start with anything else. -/
theorem strictField_eq_none {width : Nat} (hwidth : 0 < width) {c : Char} (hc : c.isDigit = false)
    (s : List Char) : DateReader.strictField width (c :: s) = none := by
  obtain ⟨width, rfl⟩ := Nat.exists_eq_succ_of_ne_zero (Nat.ne_of_gt hwidth)
  have hnone : ((c :: s).take (width + 1)).takeWhile Char.isDigit = [] := by
    rw [List.take_succ_cons, List.takeWhile_cons_of_neg (by simp [hc])]
  have hdigits : DateReader.digits (width + 1) (width + 1) (c :: s) = none := by
    rw [DateReader.digits, hnone]
    exact if_pos (Nat.zero_lt_succ width)
  show (DateReader.digits (width + 1) (width + 1) (c :: s)).bind _ = none
  rw [hdigits]
  rfl

theorem Reads.relaxedField {n : Nat} (hn : n < 100) :
    Reads relaxedField (padded 2 n).toList n rest := by
  obtain ⟨c, cs, hcs, hc⟩ := exists_padded_eq_cons (n := n) Nat.zero_lt_two
  have hlength := length_padded (n := n) Nat.zero_lt_two hn
  have hnumber : Reads (DateReader.number 1 2) (padded 2 n).toList n rest :=
    .number (by decide) (Nat.le_of_eq hlength) (.inl hlength)
  rw [hcs] at hnumber ⊢
  exact (blanks_bind (trimStart_cons_of_isDigit hc (cs ++ rest)) _).trans hnumber

theorem relaxedYear_minus (s : List Char) :
    relaxedYear ('-' :: s) = ((fun n : Nat => -(n : Int)) <$> number 1 s.length) s := rfl

theorem relaxedYear_plus (s : List Char) :
    relaxedYear ('+' :: s) = ((fun n : Nat => (n : Int)) <$> number 1 s.length) s := rfl

/-- A digit is neither sign. -/
theorem match_sign_of_isDigit {c : Char} (hc : c.isDigit = true) (s : List Char)
    (minus plus : List Char → Step Int) (unsigned : Step Int) :
    (match c :: s with
      | '-' :: s => minus s
      | '+' :: s => plus s
      | _ => unsigned) = unsigned := by
  have hminus : c ≠ '-' := by rintro rfl; cases hc
  have hplus : c ≠ '+' := by rintro rfl; cases hc
  split <;> simp_all

theorem relaxedYear_of_isDigit {c : Char} (hc : c.isDigit = true) (s : List Char) :
    relaxedYear (c :: s) = ((fun n : Nat => (n : Int)) <$> number 1 4) (c :: s) :=
  (blanks_bind (trimStart_cons_of_isDigit hc s) _).trans
    (congrFun (match_sign_of_isDigit hc s _ _ _) (c :: s))

open DateTime (yearText)

/-- A year outside of 0 to 9999 is written with its sign. -/
theorem toList_yearText_of_sign {y : Int} (hy : ¬(0 ≤ y ∧ y ≤ 9999)) :
    (yearText y).toList = (if y < 0 then '-' else '+') :: (padded 4 y.natAbs).toList := by
  by_cases hneg : y < 0
  · simp [yearText, hneg]
  · have hlarge : y > 9999 := by omega
    simp [yearText, hneg, hlarge]

theorem toList_yearText_of_four {y : Int} (hy : 0 ≤ y ∧ y ≤ 9999) :
    (yearText y).toList = (padded 4 y.natAbs).toList := by
  have hneg : ¬y < 0 := by omega
  have hlarge : ¬y > 9999 := by omega
  simp [yearText, hneg, hlarge]

/-- **Any year is read back**: a signed one has no limit on its digits, any other one has four. -/
theorem Reads.relaxedYear (y : Int) (hrest : rest.takeWhile Char.isDigit = []) :
    Reads relaxedYear (yearText y).toList y rest := by
  have hunlimited : Reads (DateReader.number 1 ((padded 4 y.natAbs).toList ++ rest).length)
      (padded 4 y.natAbs).toList y.natAbs rest := by
    refine .number (by decide) ?_ (.inr hrest)
    rw [List.length_append]
    exact Nat.le_add_right _ _
  by_cases hy : 0 ≤ y ∧ y ≤ 9999
  · obtain ⟨c, cs, hcs, hc⟩ := exists_padded_eq_cons (n := y.natAbs) (Nat.zero_lt_succ 3)
    have hlength := length_padded (n := y.natAbs) (Nat.zero_lt_succ 3) (by omega)
    have hnumber : Reads (DateReader.number 1 4) (padded 4 y.natAbs).toList y.natAbs rest :=
      .number (by decide) (Nat.le_of_eq hlength) (.inl hlength)
    have hvalue := hnumber.map fun n : Nat => (n : Int)
    rw [Int.natAbs_of_nonneg hy.1, hcs] at hvalue
    rw [toList_yearText_of_four hy, hcs]
    exact (relaxedYear_of_isDigit hc (cs ++ rest)).trans hvalue
  · rw [toList_yearText_of_sign hy]
    by_cases hneg : y < 0
    · rw [if_pos hneg]
      have hvalue := hunlimited.map fun n : Nat => -(n : Int)
      rw [Int.ofNat_natAbs_of_nonpos (by omega), Int.neg_neg] at hvalue
      exact (relaxedYear_minus _).trans hvalue
    · rw [if_neg hneg]
      have hvalue := hunlimited.map fun n : Nat => (n : Int)
      rw [Int.natAbs_of_nonneg (by omega)] at hvalue
      exact (relaxedYear_plus _).trans hvalue

theorem fraction_point (s : List Char) :
    fraction ('.' :: s) = (digits 1 9 s).bind fun p =>
      some (Numeral.decimalValue p.1 * 10 ^ (9 - p.1.length), p.2.dropWhile Char.isDigit) := rfl

/-- The text writes a fraction of a second, in nanoseconds: nothing writes none, and behind a point
stand up to nine digits. -/
inductive IsFraction : List Char → Nat → Prop where
  | none : IsFraction [] 0
  | point {ds : List Char} (hdigits : ∀ c ∈ ds, c.isDigit = true) (hne : ds ≠ [])
      (hmost : ds.length ≤ 9) :
      IsFraction ('.' :: ds) (Numeral.decimalValue ds * 10 ^ (9 - ds.length))

/-- **A fraction is read** from any digits that write it. -/
theorem IsFraction.reads {f : List Char} {nano : Nat} (h : IsFraction f nano)
    (hrest : rest.takeWhile Char.isDigit = []) (hpoint : ∀ s, rest ≠ '.' :: s) :
    Reads fraction f nano rest := by
  cases h with
  | none =>
    show DateReader.fraction rest = some (0, rest)
    unfold DateReader.fraction
    split
    · exact absurd rfl (hpoint _)
    · rfl
  | point hdigits hne hmost =>
    have hread := Reads.digits hdigits (List.length_pos_iff.mpr hne) hmost (.inr hrest)
    have hdrop : rest.dropWhile Char.isDigit = rest := by
      have hsplit := List.takeWhile_append_dropWhile (p := Char.isDigit) (l := rest)
      rwa [hrest, List.nil_append] at hsplit
    rw [Reads, List.cons_append, fraction_point, hread, Option.bind_some, hdrop]

/-- A fraction of as many units as some of nine digits write is written by these. -/
theorem isFraction_units {width unit nano : Nat} (hwidth : 0 < width) (hmost : width ≤ 9)
    (hunit : unit = 10 ^ (9 - width)) (hnano : nano < nanosPerSecond) (hunits : nano % unit = 0) :
    IsFraction ("." ++ padded width (nano / unit)).toList nano := by
  have hpower : 10 ^ width * unit = nanosPerSecond := by
    rw [hunit, ← Nat.pow_add, Nat.add_sub_cancel' hmost]
    rfl
  have hdigits : nano / unit < 10 ^ width := by
    refine Nat.div_lt_of_lt_mul ?_
    rwa [Nat.mul_comm, hpower]
  have hlength := length_padded hwidth hdigits
  have hne : (padded width (nano / unit)).toList ≠ [] :=
    List.ne_nil_of_length_pos (Nat.lt_of_lt_of_eq hwidth hlength.symm)
  have hpoint : IsFraction ('.' :: (padded width (nano / unit)).toList) _ :=
    .point (fun _ => isDigit_of_mem_padded) hne (hlength.trans_le hmost)
  rw [decimalValue_padded, hlength, ← hunit,
    Nat.div_mul_cancel (Nat.dvd_of_mod_eq_zero hunits)] at hpoint
  rwa [String.toList_append]

open DateTime (fractionText)

/-- **The fewest digits that hold a fraction** write it. -/
theorem isFraction_fractionText {nano : Nat} (hnano : nano < nanosPerSecond) :
    IsFraction (fractionText nano).toList nano := by
  unfold fractionText
  by_cases hzero : nano = 0
  · rw [if_pos hzero, hzero]
    exact .none
  rw [if_neg hzero]
  split_ifs with hmilli hmicro
  · exact isFraction_units (by decide) (by decide) rfl hnano hmilli
  · exact isFraction_units (by decide) (by decide) rfl hnano hmicro
  · have hwhole : IsFraction ("." ++ padded 9 (nano / 1)).toList nano :=
      isFraction_units (by decide) (by decide) rfl hnano (Nat.mod_one nano)
    rwa [Nat.div_one] at hwhole

end Fields

end DateReader

end RecordQuery
