/-!
# Natural order of texts

Text order in which a run of ASCII digits counts as the number it writes, so that `test_9` comes
before `test_10`. A text is cut into maximal runs of digits and of other characters; the runs are
compared in order, two digit runs by value, any other pair by code points. Texts that agree in
every run (`x01` and `x1`) fall back to the order of code points, so only identical texts are
equal.

* `runs`, `naturalCompare`: `segments` and `natural_cmp`.
* `runs_flatten`: cutting loses nothing.
-/

namespace RecordQuery.Text

/-- The maximal runs of digits and of other characters, in order. -/
def runs : List Char → List (List Char)
  | [] => []
  | c :: cs =>
    match runs cs with
    | (d :: r) :: rs => if c.isDigit = d.isDigit then (c :: d :: r) :: rs else [c] :: (d :: r) :: rs
    | rs => [c] :: rs

theorem runs_flatten (s : List Char) : (runs s).flatten = s := by
  induction s with
  | nil => rfl
  | cons c cs ih =>
    unfold runs
    split
    · rename_i d r rs h
      rw [h] at ih
      split <;> simp [← ih]
    · simp [ih]

/-- The run is one of digits. -/
def isNumeral (r : List Char) : Bool :=
  match r with
  | c :: _ => c.isDigit
  | [] => false

/-- The digits without leading zeros. -/
def significant (r : List Char) : List Char := r.dropWhile (· = '0')

/-- Two digit runs by the numbers they write: the longer one without its leading zeros is the
greater, and of equal lengths the greater in the order of code points. -/
def compareNumerals (x y : List Char) : Ordering :=
  let x := significant x
  let y := significant y
  (compare x.length y.length).then (compare x y)

/-- Two digit runs by value, any other pair by code points. -/
def compareRun (x y : List Char) : Ordering :=
  if isNumeral x && isNumeral y then compareNumerals x y else compare x y

/-- Run by run; a list of runs that ends first is the lesser one. -/
def compareRuns : List (List Char) → List (List Char) → Ordering
  | [], [] => .eq
  | [], _ :: _ => .lt
  | _ :: _, [] => .gt
  | x :: xs, y :: ys => (compareRun x y).then (compareRuns xs ys)

/-- The natural order of two texts. -/
def naturalCompare (a b : String) : Ordering :=
  (compareRuns (runs a.toList) (runs b.toList)).then (compare a.toList b.toList)

end RecordQuery.Text
