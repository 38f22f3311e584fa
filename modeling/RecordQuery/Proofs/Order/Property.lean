import RecordQuery.Proofs.Order.NaturalText
import RecordQuery.Proofs.Order.Numeric
import RecordQuery.Query.Order

/-!
# The order of property values is a total preorder

`compareValues` compares values of one kind by a rule of that kind and values of different kinds by
rank. It is the same to compare by rank first and then by each rule in turn: every rule but one
then finds two defaults and leaves the matter open. In this form it is a lexicographic product of
total preorders.

* `compareValues_eq_parts`: the two forms agree, whatever collections are written as.
* `Std.TransCmp (compareValues write)`: the order is a total preorder.
* `compareValues_total`: what that says of any three values, and of texts.
-/

namespace RecordQuery

/-! ## What a value shows to each rule -/

/-- The boolean that a value is; `false` for every other value. -/
def boolPart : Option Value → Bool
  | some (.bool b) => b
  | _ => false

/-- The number that a value is; zero for every other value. -/
def numberPart : Option Value → Number
  | some (.number n) => n
  | _ => .int 0 (by decide)

/-- The text that a value is; the empty one for every other value. -/
def textPart : Option Value → String
  | some (.text s) => s
  | _ => ""

/-- The written form of a value that ranks last; empty for every other value. -/
def writtenPart (write : Value → String) (a : Option Value) : List Char :=
  match a with
  | some v => if rank (some v) = 4 then (write v).toList else []
  | none => []

/-- By rank, and then by each rule in turn. -/
def compareParts (write : Value → String) : Option Value → Option Value → Ordering :=
  compareLex (compareOn rank) <|
  compareLex (compareOn boolPart) <|
  compareLex (fun a b => (numberPart a).compareNumeric (numberPart b)) <|
  compareLex (fun a b => Text.naturalCompare (textPart a) (textPart b)) <|
  compareOn (writtenPart write)

/-- A value that is neither boolean nor number nor text shows the defaults to their rules. -/
theorem parts_of_rank {a : Option Value} (h : rank a = 0 ∨ rank a = 4) :
    boolPart a = false ∧ numberPart a = .int 0 (by decide) ∧ textPart a = "" := by
  rcases a with _ | _ | _ | _ | _ | _ | _ | _ <;> simp_all [rank, boolPart, numberPart, textPart]

theorem writtenPart_of_rank (write : Value → String) {v : Value} (h : rank (some v) = 4) :
    writtenPart write (some v) = (write v).toList := if_pos h

theorem writtenPart_of_rank_ne (write : Value → String) {a : Option Value} (h : rank a ≠ 4) :
    writtenPart write a = [] := by
  cases a with
  | none => rfl
  | some v => exact if_neg h

/-! ## The two forms agree -/

theorem compareValues_of_rank_ne (write : Value → String) {a b : Option Value}
    (h : rank a ≠ rank b) : compareValues write a b = compare (rank a) (rank b) := by
  unfold compareValues
  split
  · exact absurd rfl h
  · exact absurd rfl h
  · exact absurd rfl h
  · rw [if_neg fun hr => h (hr.1.trans hr.2.symm)]
  · rfl

theorem compareParts_of_rank_ne (write : Value → String) {a b : Option Value}
    (h : rank a ≠ rank b) : compareParts write a b = compare (rank a) (rank b) := by
  rw [compareParts, compareLex, compareOn]
  cases hr : compare (rank a) (rank b) with
  | eq => exact absurd (compare_eq_iff_eq.mp hr) h
  | lt => rfl
  | gt => rfl

theorem compareParts_of_rank_eq (write : Value → String) {a b : Option Value}
    (h : rank a = rank b) : compareParts write a b =
      (compare (boolPart a) (boolPart b)).then
        (((numberPart a).compareNumeric (numberPart b)).then
          ((Text.naturalCompare (textPart a) (textPart b)).then
            (compare (writtenPart write a) (writtenPart write b)))) := by
  rw [compareParts, compareLex, compareOn, compare_eq_iff_eq.mpr h]
  rfl

/-- Between values that rank first, and between values that rank last, the last rule decides. -/
theorem compareParts_of_rank (write : Value → String) {a b : Option Value} (h : rank a = rank b)
    (ha : rank a = 0 ∨ rank a = 4) :
    compareParts write a b = compare (writtenPart write a) (writtenPart write b) := by
  obtain ⟨hab, han, hat⟩ := parts_of_rank ha
  obtain ⟨hbb, hbn, hbt⟩ := parts_of_rank (h ▸ ha)
  rw [compareParts_of_rank_eq write h, hab, han, hat, hbb, hbn, hbt]
  simp only [Std.ReflCmp.compare_self, Ordering.then]

/-- **The order of property values is a lexicographic product**: by rank, then rule by rule. -/
theorem compareValues_eq_parts (write : Value → String) (a b : Option Value) :
    compareValues write a b = compareParts write a b := by
  by_cases h : rank a = rank b
  · unfold compareValues
    split
    -- two booleans, two numbers, two texts: every rule but theirs finds defaults
    case h_1 | h_2 | h_3 =>
      rw [compareParts_of_rank_eq write h]
      simp [boolPart, numberPart, textPart, writtenPart, rank, Std.ReflCmp.compare_self]
    case h_4 x y hbool hnumber htext =>
      have hx : rank (some x) = 0 ∨ rank (some x) = 4 := by
        cases x <;> cases y <;> simp_all [rank]
      rw [compareParts_of_rank write h hx]
      split_ifs with h4
      · rw [writtenPart_of_rank write h4.1, writtenPart_of_rank write h4.2]
      · have hne : rank (some x) ≠ 4 := fun hr => h4 ⟨hr, h ▸ hr⟩
        rw [writtenPart_of_rank_ne write hne, writtenPart_of_rank_ne write (h ▸ hne), h]
        simp only [Std.ReflCmp.compare_self]
    case h_5 hsome =>
      have ha : rank a = 0 := by
        rcases a with _ | v
        · rfl
        · rcases b with _ | w
          · exact h
          · exact (hsome v w rfl rfl).elim
      rw [compareParts_of_rank write h (Or.inl ha), writtenPart_of_rank_ne write (by omega),
        writtenPart_of_rank_ne write (by omega), h]
      simp only [Std.ReflCmp.compare_self]
  · rw [compareValues_of_rank_ne write h, compareParts_of_rank_ne write h]

instance (write : Value → String) : Std.TransCmp (compareParts write) := by
  have hnumber := transCmp_comap Number.compareNumeric numberPart
  have htext := transCmp_comap Text.naturalCompare textPart
  unfold compareParts
  infer_instance

/-- The order of property values is a total preorder, whatever collections are written as. -/
instance (write : Value → String) : Std.TransCmp (compareValues write) := by
  have h : compareValues write = compareParts write := by
    funext a b
    exact compareValues_eq_parts write a b
  rw [h]
  infer_instance

/-! ## What sorting relies on -/

/-- **The order of property values is total, up to values that compare equal**: whatever collections
and tagged values are written as, every value is equal to itself, exchanging two values turns their
order around, and of three values in order the first is not past the last, and before it if one of
the steps is strict. Two texts are equal only if they are identical. -/
theorem compareValues_total (write : Value → String) (a b c : Option Value) :
    compareValues write a a = .eq ∧
      compareValues write b a = (compareValues write a b).swap ∧
      (compareValues write a b ≠ .gt → compareValues write b c ≠ .gt →
        compareValues write a c ≠ .gt ∧
          (compareValues write a b = .lt ∨ compareValues write b c = .lt →
            compareValues write a c = .lt)) ∧
      ∀ s t : String, compareValues write (some (.text s)) (some (.text t)) = .eq ↔ s = t := by
  refine ⟨Std.ReflCmp.compare_self, Std.OrientedCmp.eq_swap, fun hab hbc => ?_,
    fun s t => Text.naturalCompare_eq_iff⟩
  have habLE : (compareValues write a b).isLE = true := Ordering.isLE_iff_ne_gt.mpr hab
  have hbcLE : (compareValues write b c).isLE = true := Ordering.isLE_iff_ne_gt.mpr hbc
  refine ⟨Ordering.isLE_iff_ne_gt.mp (Std.TransCmp.isLE_trans habLE hbcLE), ?_⟩
  rintro (hlt | hlt)
  · exact Std.TransCmp.lt_of_lt_of_isLE hlt hbcLE
  · exact Std.TransCmp.lt_of_isLE_of_lt habLE hlt

/-- The float `2 ^ 53`, the integer after it, which no float is, and the next float are in order. -/
theorem compareValues_total_between_floats :
    let write : Value → String := fun _ => ""
    let low : Option Value := some (.number (.float (.finite false 1076 0)))
    let middle : Option Value := some (.number (.int 9007199254740993 (by decide)))
    let high : Option Value := some (.number (.float (.finite false 1076 1)))
    compareValues write low middle ≠ .gt ∧ compareValues write middle high ≠ .gt ∧
      compareValues write low high ≠ .gt ∧
        (compareValues write low middle = .lt ∨ compareValues write middle high = .lt →
          compareValues write low high = .lt) := by
  intro write low middle high
  have hlow : compareValues write low middle ≠ .gt := by decide +kernel
  have hhigh : compareValues write middle high ≠ .gt := by decide +kernel
  exact ⟨hlow, hhigh, (compareValues_total write low middle high).2.2.1 hlow hhigh⟩

end RecordQuery
