import Mathlib
import RecordQuery.Number.Numeral
import RecordQuery.Proofs.Order.NaturalText
import RecordQuery.Proofs.Text.Runs

/-!
# Numerals in natural order

Two digit runs are compared without being read as numbers: leading zeros are dropped, the longer of
the two is the greater, and of equal lengths the greater in the order of code points. That is the
order of the numbers that they write, whatever their length. Where two texts agree up to a numeral,
the order of the two numbers is the order of the texts; where these are one number, the rest
decides, unless the rest differs in leading zeros alone, and then the code points do.

* `compareNumerals_eq`: digit runs are in the order of their numbers.
* `compareRuns_eq_iff`: runs tie iff they are alike once their numerals are as short as can be.
* `isLE_compareRuns_append`: a text does not come after one that it starts.
* `naturalCompare_at_numerals`: texts that agree up to a numeral.
-/

namespace RecordQuery

/-! ## The number of a digit run -/

namespace Numeral

open Text (IsStretch)

theorem decimalValue_cons (c : Char) (cs : List Char) :
    decimalValue (c :: cs) = 10 ^ cs.length * (c.toNat - '0'.toNat) + decimalValue cs := by
  show Nat.ofDigitChars 10 (c :: cs) 0 = _
  rw [Nat.ofDigitChars_cons, Nat.ofDigitChars_eq_ofDigitChars_zero, Nat.mul_zero, Nat.zero_add]
  rfl

theorem decimalValue_lt {cs : List Char} (h : IsStretch true cs) :
    decimalValue cs < 10 ^ cs.length := by
  induction cs with
  | nil => exact Nat.one_pos
  | cons c cs ih =>
    obtain ⟨hc, hcs⟩ := List.forall_mem_cons.mp h
    have hdigit : c.toNat - '0'.toNat ≤ 9 := Nat.sub_le_sub_right (Char.isDigit_iff_toNat.mp hc).2 _
    calc decimalValue (c :: cs)
        = 10 ^ cs.length * (c.toNat - '0'.toNat) + decimalValue cs := decimalValue_cons c cs
      _ < 10 ^ cs.length * 9 + 10 ^ cs.length :=
        Nat.add_lt_add_of_le_of_lt (Nat.mul_le_mul_left _ hdigit) (ih hcs)
      _ = 10 ^ (c :: cs).length := by
        rw [List.length_cons, Nat.pow_succ]
        omega

theorem le_decimalValue_cons {c : Char} (hc : c.isDigit = true) (hzero : c ≠ '0') (cs : List Char) :
    10 ^ cs.length ≤ decimalValue (c :: cs) := by
  have hpos : 0 < c.toNat - '0'.toNat := by
    have hrange := Char.isDigit_iff_toNat.mp hc
    have hne : c.toNat ≠ '0'.toNat := fun h => hzero (Char.toNat_inj.mp h)
    omega
  rw [decimalValue_cons]
  exact (Nat.le_mul_of_pos_right _ hpos).trans (Nat.le_add_right _ _)

/-- Of two numerals of one length, the one with the lesser first digit is the lesser. -/
theorem decimalValue_cons_lt {c d : Char} {cs ds : List Char} (hc : c.isDigit = true)
    (hcs : IsStretch true cs) (hlength : cs.length = ds.length) (h : c < d) :
    decimalValue (c :: cs) < decimalValue (d :: ds) := by
  have hdigit : c.toNat - '0'.toNat + 1 ≤ d.toNat - '0'.toNat := by
    have hrange := Char.isDigit_iff_toNat.mp hc
    have hlt : c.toNat < d.toNat := UInt32.lt_iff_toNat_lt.mp h
    omega
  calc decimalValue (c :: cs)
      = 10 ^ cs.length * (c.toNat - '0'.toNat) + decimalValue cs := decimalValue_cons c cs
    _ < 10 ^ cs.length * (c.toNat - '0'.toNat + 1) := by
      rw [Nat.mul_add_one]
      exact Nat.add_lt_add_left (decimalValue_lt hcs) _
    _ ≤ 10 ^ ds.length * (d.toNat - '0'.toNat) := by
      rw [hlength]
      exact Nat.mul_le_mul_left _ hdigit
    _ ≤ decimalValue (d :: ds) := by
      rw [decimalValue_cons]
      exact Nat.le_add_right _ _

/-- **Numerals of one length are in the order of code points.** -/
theorem compare_eq_of_length_eq {x y : List Char} (hx : IsStretch true x) (hy : IsStretch true y)
    (hlength : x.length = y.length) : compare x y = compare (decimalValue x) (decimalValue y) := by
  induction x generalizing y with
  | nil =>
    rw [List.length_eq_zero_iff.mp hlength.symm]
    rfl
  | cons c cs ih =>
    obtain ⟨d, ds, rfl⟩ := List.exists_cons_of_length_eq_add_one hlength.symm
    obtain ⟨hc, hcs⟩ := List.forall_mem_cons.mp hx
    obtain ⟨hd, hds⟩ := List.forall_mem_cons.mp hy
    have hrest : cs.length = ds.length := Nat.succ.inj hlength
    rw [List.compare_cons_cons]
    rcases lt_trichotomy c d with hlt | rfl | hgt
    · rw [compare_lt_iff_lt.mpr hlt, compare_lt_iff_lt.mpr (decimalValue_cons_lt hc hcs hrest hlt)]
      rfl
    · rw [compare_eq_iff_eq.mpr rfl, Ordering.eq_then, ih hcs hds hrest, decimalValue_cons,
        decimalValue_cons, hrest, Nat.compare_eq_ite_lt, Nat.compare_eq_ite_lt]
      simp
    · rw [compare_gt_iff_gt.mpr hgt,
        compare_gt_iff_gt.mpr (decimalValue_cons_lt hd hds hrest.symm hgt)]
      rfl

end Numeral

namespace Text

open Numeral (decimalValue)

theorem isStretch_significant {x : List Char} (h : IsStretch true x) :
    IsStretch true (significant x) :=
  fun c hc => h c ((List.dropWhile_suffix _).subset hc)

/-- Leading zeros do not matter to the number. -/
theorem decimalValue_significant (x : List Char) :
    decimalValue (significant x) = decimalValue x := by
  induction x with
  | nil => rfl
  | cons c cs ih =>
    unfold significant at ih ⊢
    rw [List.dropWhile_cons]
    split_ifs with hzero
    · obtain rfl := of_decide_eq_true hzero
      exact ih
    · rfl

/-- The numeral with more digits, leading zeros aside, is the greater. -/
theorem decimalValue_lt_of_length_lt {x y : List Char} (hx : IsStretch true x)
    (hy : IsStretch true y) (h : (significant x).length < (significant y).length) :
    decimalValue x < decimalValue y := by
  cases hsig : significant y with
  | nil => simp [hsig] at h
  | cons d ds =>
    have hd : d.isDigit = true := isStretch_significant hy d (hsig ▸ List.mem_cons_self)
    have hzero : d ≠ '0' := by
      have hnot := List.head?_dropWhile_not (fun c => decide (c = '0')) y
      rw [← significant, hsig] at hnot
      exact of_decide_eq_false hnot
    rw [hsig, List.length_cons] at h
    calc decimalValue x
        = decimalValue (significant x) := (decimalValue_significant x).symm
      _ < 10 ^ (significant x).length := Numeral.decimalValue_lt (isStretch_significant hx)
      _ ≤ 10 ^ ds.length := Nat.pow_le_pow_right (by decide) (Nat.le_of_lt_succ h)
      _ ≤ decimalValue (d :: ds) := Numeral.le_decimalValue_cons hd hzero ds
      _ = decimalValue y := by rw [← hsig, decimalValue_significant]

/-- **Digit runs are in the order of their numbers.** -/
theorem compareNumerals_eq {x y : List Char} (hx : IsStretch true x) (hy : IsStretch true y) :
    compareNumerals x y = compare (decimalValue x) (decimalValue y) := by
  unfold compareNumerals
  dsimp only
  rcases lt_trichotomy (significant x).length (significant y).length with hlt | heq | hgt
  · rw [compare_lt_iff_lt.mpr hlt, compare_lt_iff_lt.mpr (decimalValue_lt_of_length_lt hx hy hlt)]
    rfl
  · rw [compare_eq_iff_eq.mpr heq, Ordering.eq_then,
      Numeral.compare_eq_of_length_eq (isStretch_significant hx) (isStretch_significant hy) heq,
      decimalValue_significant, decimalValue_significant]
  · rw [compare_gt_iff_gt.mpr hgt, compare_gt_iff_gt.mpr (decimalValue_lt_of_length_lt hy hx hgt)]
    rfl

/-! ## Numerals as short as can be -/

theorem isNumeral_of_isStretch {digits : Bool} {r : List Char} (hne : r ≠ [])
    (h : IsStretch digits r) : isNumeral r = digits := by
  cases r with
  | nil => exact absurd rfl hne
  | cons c cs => exact h c List.mem_cons_self

theorem IsStretch.isRun {digits : Bool} {r : List Char} (h : IsStretch digits r) (hne : r ≠ []) :
    IsRun r :=
  ⟨hne, by rwa [isNumeral_of_isStretch hne h]⟩

/-- The run, with the shortest numeral of its number in place of its digits. -/
def shortenRun (r : List Char) : List Char :=
  if isNumeral r then Nat.toDigits 10 (decimalValue r) else r

/-- The text with the shortest numeral in place of every digit run. -/
def shortenNumerals (s : List Char) : List Char := (runs s).flatMap shortenRun

theorem isStretch_toDigits (n : Nat) : IsStretch true (Nat.toDigits 10 n) :=
  fun _ hc => Nat.isDigit_of_mem_toDigits (by decide) (by decide) hc

theorem isNumeral_shortenRun (r : List Char) : isNumeral (shortenRun r) = isNumeral r := by
  unfold shortenRun
  split_ifs with h
  · rw [h, isNumeral_of_isStretch Nat.toDigits_ne_nil (isStretch_toDigits _)]
  · rfl

theorem IsRun.shortenRun {r : List Char} (h : IsRun r) : IsRun (shortenRun r) := by
  unfold Text.shortenRun
  split_ifs
  · exact (isStretch_toDigits _).isRun Nat.toDigits_ne_nil
  · exact h

/-- **Shorter numerals do not move the cuts.** -/
theorem runs_shortenNumerals (s : List Char) :
    runs (shortenNumerals s) = (runs s).map shortenRun := by
  obtain ⟨-, hruns, hgap⟩ := runs_eq_iff.mp (rfl : runs s = runs s)
  refine runs_eq_iff.mpr ⟨List.flatMap_def .., ?_, ?_⟩
  · intro r hr
    obtain ⟨r', hr', rfl⟩ := List.mem_map.mp hr
    exact (hruns r' hr').shortenRun
  · rw [List.isChain_map]
    simpa only [isNumeral_shortenRun] using hgap

/-- Two runs tie iff they are one once their numerals are as short as can be. -/
theorem compareRun_eq_iff {x y : List Char} (hx : IsRun x) (hy : IsRun y) :
    compareRun x y = .eq ↔ shortenRun x = shortenRun y := by
  unfold compareRun
  split_ifs with h
  · obtain ⟨hnx, hny⟩ := (Bool.and_eq_true _ _).mp h
    rw [compareNumerals_eq (hnx ▸ hx.2) (hny ▸ hy.2), compare_eq_iff_eq, shortenRun, shortenRun,
      if_pos hnx, if_pos hny]
    refine ⟨congrArg _, fun hdigits => ?_⟩
    have hvalue := congrArg (Nat.ofDigitChars 10 · 0) hdigits
    simpa only [Nat.ofDigitChars_ten_toDigits] using hvalue
  · rw [Std.LawfulEqCmp.compare_eq_iff_eq]
    constructor
    · rintro rfl
      rfl
    · intro hshort
      -- the two are alike in being numerals, so that neither is one
      have hclass := congrArg isNumeral hshort
      rw [isNumeral_shortenRun, isNumeral_shortenRun] at hclass
      rw [hclass, Bool.and_self, Bool.not_eq_true] at h
      rwa [shortenRun, shortenRun, if_neg (by simp [hclass, h]), if_neg (by simp [h])] at hshort

/-- **Lists of runs tie** iff they are one once their numerals are as short as can be. -/
theorem compareRuns_eq_iff {xs ys : List (List Char)} (hxs : ∀ x ∈ xs, IsRun x)
    (hys : ∀ y ∈ ys, IsRun y) :
    compareRuns xs ys = .eq ↔ xs.map shortenRun = ys.map shortenRun := by
  induction xs generalizing ys with
  | nil => cases ys <;> simp [compareRuns]
  | cons x xs ih =>
    cases ys with
    | nil => simp [compareRuns]
    | cons y ys =>
      obtain ⟨hx, hxs⟩ := List.forall_mem_cons.mp hxs
      obtain ⟨hy, hys⟩ := List.forall_mem_cons.mp hys
      rw [compareRuns, Ordering.then_eq_eq, compareRun_eq_iff hx hy, ih hxs hys, List.map_cons,
        List.map_cons, List.cons.injEq]

/-- **Texts tie run by run** iff they are one once their numerals are as short as can be. -/
theorem compareRuns_runs_eq_iff {s t : List Char} :
    compareRuns (runs s) (runs t) = .eq ↔ shortenNumerals s = shortenNumerals t := by
  obtain ⟨-, hs, -⟩ := runs_eq_iff.mp (rfl : runs s = runs s)
  obtain ⟨-, ht, -⟩ := runs_eq_iff.mp (rfl : runs t = runs t)
  rw [compareRuns_eq_iff hs ht, ← runs_shortenNumerals, ← runs_shortenNumerals]
  refine ⟨fun h => ?_, congrArg runs⟩
  rw [← runs_flatten (shortenNumerals s), h, runs_flatten]

/-! ## A text and one that it starts -/

theorem compareRuns_append_left (zs xs ys : List (List Char)) :
    compareRuns (zs ++ xs) (zs ++ ys) = compareRuns xs ys := by
  induction zs with
  | nil => rfl
  | cons z zs ih =>
    have hself : compareRun z z = .eq := Std.ReflCmp.compare_self
    rw [List.cons_append, List.cons_append, compareRuns, hself, Ordering.eq_then, ih]

theorem isLE_compareRuns_nil (ys : List (List Char)) : (compareRuns [] ys).isLE = true := by
  cases ys <;> rfl

theorem compare_append_left (l x y : List Char) : compare (l ++ x) (l ++ y) = compare x y := by
  induction l with
  | nil => rfl
  | cons c l ih =>
    rw [List.cons_append, List.cons_append, List.compare_cons_cons, compare_eq_iff_eq.mpr rfl,
      Ordering.eq_then, ih]

theorem compare_append_right (l x : List Char) : compare l (l ++ x) = compare [] x := by
  have h := compare_append_left l [] x
  rwa [List.append_nil] at h

theorem isLE_compare_nil (x : List Char) : (compare [] x).isLE = true := by
  cases x <;> rfl

/-- What is significant of a numeral starts what is significant of a longer one. -/
theorem significant_isPrefix (r w : List Char) : significant r <+: significant (r ++ w) := by
  unfold significant
  rw [List.dropWhile_append]
  split_ifs with hzeros
  · rw [List.isEmpty_iff.mp hzeros]
    exact List.nil_prefix
  · exact List.prefix_append _ _

/-- A run does not come after one that it starts. -/
theorem isLE_compareRun_append (r w : List Char) : (compareRun r (r ++ w)).isLE = true := by
  unfold compareRun
  split_ifs
  · obtain ⟨m, hm⟩ := significant_isPrefix r w
    unfold compareNumerals
    dsimp only
    rw [← hm, compare_append_right, Ordering.isLE_then_iff_and, Nat.isLE_compare]
    refine ⟨?_, .inr (isLE_compare_nil m)⟩
    rw [List.length_append]
    exact Nat.le_add_right _ _
  · rw [compare_append_right]
    exact isLE_compare_nil w

/-- **A text does not come after one that it starts**, run by run. -/
theorem isLE_compareRuns_append (s w : List Char) :
    (compareRuns (runs s) (runs (s ++ w))).isLE = true := by
  cases w with
  | nil =>
    rw [List.append_nil, compareRuns_runs_eq_iff.mpr rfl]
    rfl
  | cons d ds =>
    -- the last run of `s` may go on in `w`
    obtain ⟨t, r, rfl, ht, hr⟩ := exists_eq_append_stretch d.isDigit s
    obtain ⟨q, rest, -, hlong⟩ := exists_runs_append_cons ht hr rfl ds
    rw [hlong]
    by_cases hnil : r = []
    · rw [hnil, List.append_nil, ← List.append_nil (runs t), List.append_assoc,
        compareRuns_append_left]
      rfl
    · have hshort : runs (t ++ r) = runs t ++ [r] := by
        have hend := runs_around ht hnil hr (t := []) (by simp [StartsOutside])
        rwa [List.append_nil] at hend
      rw [hshort, compareRuns_append_left, compareRuns, Ordering.isLE_then_iff_and]
      exact ⟨isLE_compareRun_append r _, .inr (isLE_compareRuns_nil _)⟩

/-! ## Texts -/

theorem then_of_ne_eq {o next : Ordering} (h : o ≠ .eq) : o.then next = o := by
  cases o with
  | eq => exact absurd rfl h
  | lt | gt => rfl

/-- A text comes before every longer text that it starts. -/
theorem naturalCompare_append {b : String} (hb : b ≠ "") (a : String) :
    naturalCompare a (a ++ b) = .lt := by
  have hne : b.toList ≠ [] := fun h => hb (String.toList_inj.mp h)
  have hcodes : compare a.toList (a ++ b).toList = .lt := by
    rw [String.toList_append, compare_append_right]
    obtain ⟨c, cs, hcs⟩ := List.exists_cons_of_ne_nil hne
    rw [hcs]
    rfl
  have hruns := isLE_compareRuns_append a.toList b.toList
  unfold naturalCompare
  rw [hcodes, String.toList_append]
  cases hcmp : compareRuns (runs a.toList) (runs (a.toList ++ b.toList)) with
  | lt => rfl
  | eq => rfl
  | gt => simp [hcmp] at hruns

/-- The text has digits alone, and at least one. -/
def IsDigits (x : String) : Prop := x.toList ≠ [] ∧ IsStretch true x.toList

/-- The number that a text of digits writes. -/
def numberOf (x : String) : Nat := decimalValue x.toList

/-- **Texts that agree up to a numeral** compare by the numbers there, then run by run behind them,
and by their code points last. -/
theorem naturalCompare_around {p x y s t : String} (hp : EndsOutside true p.toList)
    (hx : IsDigits x) (hy : IsDigits y) (hs : StartsOutside true s.toList)
    (ht : StartsOutside true t.toList) :
    naturalCompare (p ++ x ++ s) (p ++ y ++ t) =
      (compare (numberOf x) (numberOf y)).then
        ((compareRuns (runs s.toList) (runs t.toList)).then
          (compare (p ++ x ++ s).toList (p ++ y ++ t).toList)) := by
  have hrun : compareRun x.toList y.toList = compare (numberOf x) (numberOf y) := by
    rw [compareRun, isNumeral_of_isStretch hx.1 hx.2, isNumeral_of_isStretch hy.1 hy.2]
    exact compareNumerals_eq hx.2 hy.2
  unfold naturalCompare
  rw [String.toList_append, String.toList_append, String.toList_append, String.toList_append,
    runs_around hp hx.1 hx.2 hs, runs_around hp hy.1 hy.2 ht, compareRuns_append_left, compareRuns,
    hrun, Ordering.then_assoc]

/-- **Numerals in natural order.** Of two texts that agree up to a numeral, the one with the lesser
number there comes first, whatever follows. Where the two numbers are one, what follows decides; if
that is the same text once its numerals are as short as can be, the code points of the whole texts
do. And every text comes before all longer ones that it starts. -/
theorem naturalCompare_at_numerals {p x y s t : String} (hp : EndsOutside true p.toList)
    (hx : IsDigits x) (hy : IsDigits y) (hs : StartsOutside true s.toList)
    (ht : StartsOutside true t.toList) :
    (numberOf x ≠ numberOf y →
      naturalCompare (p ++ x ++ s) (p ++ y ++ t) = compare (numberOf x) (numberOf y)) ∧
    (numberOf x = numberOf y → shortenNumerals s.toList ≠ shortenNumerals t.toList →
      naturalCompare (p ++ x ++ s) (p ++ y ++ t) = naturalCompare s t) ∧
    (numberOf x = numberOf y → shortenNumerals s.toList = shortenNumerals t.toList →
      naturalCompare (p ++ x ++ s) (p ++ y ++ t) =
        compare (p ++ x ++ s).toList (p ++ y ++ t).toList) ∧
    ∀ a b : String, b ≠ "" → naturalCompare a (a ++ b) = .lt := by
  have hrest := compareRuns_runs_eq_iff (s := s.toList) (t := t.toList)
  rw [naturalCompare_around hp hx hy hs ht]
  refine ⟨fun hne => ?_, fun heq hne => ?_, fun heq hshort => ?_, fun a b hb => ?_⟩
  · exact then_of_ne_eq (mt compare_eq_iff_eq.mp hne)
  · have hapart := mt hrest.mp hne
    rw [compare_eq_iff_eq.mpr heq, Ordering.eq_then, naturalCompare, then_of_ne_eq hapart,
      then_of_ne_eq hapart]
  · rw [compare_eq_iff_eq.mpr heq, hrest.mpr hshort]
    rfl
  · exact naturalCompare_append hb a

/-- Twelve digits after any number of zeros, and a rest in which the zeros of another numeral do not
count but the letter does. -/
theorem naturalCompare_at_numerals_long :
    EndsOutside true "run ".toList ∧ IsDigits "00000000000000000000123456789012" ∧
      IsDigits "123456789012" ∧ StartsOutside true "/007b".toList ∧
      StartsOutside true "/7a".toList ∧
      naturalCompare ("run " ++ "00000000000000000000123456789012" ++ "/007b")
        ("run " ++ "123456789012" ++ "/7a") = naturalCompare "/007b" "/7a" ∧
      naturalCompare "/007b" "/7a" = .gt := by
  have hp : EndsOutside true "run ".toList := by simp [EndsOutside]
  have hx : IsDigits "00000000000000000000123456789012" := by simp [IsDigits, IsStretch]
  have hy : IsDigits "123456789012" := by simp [IsDigits, IsStretch]
  have hs : StartsOutside true "/007b".toList := by simp [StartsOutside]
  have ht : StartsOutside true "/7a".toList := by simp [StartsOutside]
  obtain ⟨-, hrest, -, -⟩ := naturalCompare_at_numerals hp hx hy hs ht
  exact ⟨hp, hx, hy, hs, ht, hrest (by cbv) (by cbv; decide), by cbv⟩

end Text

end RecordQuery
