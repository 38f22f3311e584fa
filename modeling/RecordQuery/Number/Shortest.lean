import RecordQuery.Number.Double

/-!
# The fewest decimal digits that read back

A finite number is written with the fewest digits whose decimal value rounds to it, and among
those with the ones nearest to it. The reals that round to a number form an interval that reaches
half-way to each neighbour; its ends belong to it exactly when the significand is even. For one
digit, two digits and so on, the two neighbours of the number on that decimal grid are tested, and
the first grid with a hit is taken.

* `Double.reads`: the interval test, by cross-multiplication of naturals.
* `Double.shortest`: the search for the first grid, and the zeros at the end taken off.
* `FloatStyle`: what a format decides beyond the digits.
-/

namespace RecordQuery

/-- The decimal number `digits * 10 ^ exponent`. -/
structure Decimal where
  digits : Nat
  exponent : Int
  deriving DecidableEq

/-- Which of two equally near decimals is taken. -/
inductive DecimalTie where
  | even
  | up

/-- What a text format decides about its numbers beyond their digits. -/
structure FloatStyle where
  /-- The exponents of the leading digit that are written without an exponent; all if absent. -/
  plain : Option (Int × Int)
  /-- A number without a fraction is written with `.0`. -/
  pointZero : Bool
  /-- A positive exponent is written with its sign. -/
  plusSign : Bool
  tie : DecimalTie
  nan : String
  infinity : String

namespace Double

/-- Quarters of a unit: the grid that holds every half-way point. -/
def quartersPerOne : Nat := 4 * unitsPerOne

/-- Compares a decimal with a number of quarter units. -/
def compareDecimal (d : Decimal) (quarters : Nat) : Ordering :=
  compare (d.digits * Nat.pow 10 d.exponent.toNat * quartersPerOne)
    (quarters * Nat.pow 10 (-d.exponent).toNat)

/-- The decimal rounds to the finite number with these fields. -/
def reads (exponent : Fin 2047) (fraction : Fin fractionCount) (d : Decimal) : Bool :=
  let gap := 1 <<< (exponent.val - 1)
  let value := 4 * magnitude exponent fraction
  let below := if fraction.val = 0 ∧ 1 < exponent.val then gap else 2 * gap
  let closed := significand exponent fraction % 2 == 0
  let low := compareDecimal d (value - below)
  let high := compareDecimal d (value + 2 * gap)
  (low == .gt || (closed && low == .eq)) && (high == .lt || (closed && high == .eq))

/-- The number of decimal digits of a natural, `1` for zero. -/
def digitCount (n : Nat) : Nat := (Nat.toDigits 10 n).length

/-- A power of ten that makes every number but zero at least one. -/
def pointShift : Nat := 400

/-- The decimal exponent just past the leading digit: the least `k` with the value below
`10 ^ k`. -/
def decimalPoint (magnitude : Nat) : Int :=
  let whole := magnitude / unitsPerOne
  if whole = 0 then digitCount (magnitude * Nat.pow 10 pointShift / unitsPerOne) - pointShift
  else digitCount whole

/-- The value in steps of the grid `10 ^ exponent`, rounded down. -/
def gridFloor (e : Fin 2047) (f : Fin fractionCount) (exponent : Int) : Nat :=
  magnitude e f * Nat.pow 10 (-exponent).toNat / (Nat.pow 10 exponent.toNat * unitsPerOne)

/-- The one of two neighbours on a grid that reads back, the nearer one if both do: `middle` is the
order of the middle of the two and the value. -/
def nearer? (tie : DecimalTie) (lower upper : Decimal) (middle : Ordering) :
    Bool → Bool → Option Decimal
  | true, true =>
    match middle, tie with
    | .gt, _ => some lower
    | .lt, _ => some upper
    | .eq, .up => some upper
    | .eq, .even => some (if lower.digits % 2 = 0 then lower else upper)
  | true, false => some lower
  | false, true => some upper
  | false, false => none

/-- The neighbour of the value on the grid `10 ^ exponent` that reads back, the nearer one if both
do. -/
def onGrid? (tie : DecimalTie) (e : Fin 2047) (f : Fin fractionCount) (exponent : Int) :
    Option Decimal :=
  let floor := gridFloor e f exponent
  let lower : Decimal := ⟨floor, exponent⟩
  let upper : Decimal := ⟨floor + 1, exponent⟩
  nearer? tie lower upper (compareDecimal ⟨2 * floor + 1, exponent⟩ (8 * magnitude e f))
    (reads e f lower) (reads e f upper)

/-- The decimal without the trailing zeros of its digits. -/
def stripZeros : Nat → Decimal → Decimal
  | 0, d => d
  | fuel + 1, d =>
    if d.digits ≠ 0 ∧ d.digits % 10 = 0 then stripZeros fuel ⟨d.digits / 10, d.exponent + 1⟩ else d

/-- The shortest decimal that reads back as the finite number with these fields. Seventeen digits
always suffice. -/
def shortest (tie : DecimalTie) (e : Fin 2047) (f : Fin fractionCount) : Decimal :=
  if magnitude e f = 0 then ⟨0, 0⟩
  else
    let point := decimalPoint (magnitude e f)
    let grids := (List.range 17).map fun (n : Nat) => point - (n + 1)
    stripZeros 17 ((grids.findSome? (onGrid? tie e f)).getD ⟨0, 0⟩)

end Double

/-! ## Layout -/

namespace FloatStyle

/-- Digits with the point after the first `point` of them, filled up with zeros. -/
def positional (style : FloatStyle) (digits : List Char) (point : Int) : List Char :=
  let length : Int := digits.length
  if point ≤ 0 then ['0', '.'] ++ List.replicate (-point).toNat '0' ++ digits
  else if point < length then digits.take point.toNat ++ '.' :: digits.drop point.toNat
  else digits ++ List.replicate (point - length).toNat '0' ++
    if style.pointZero then ['.', '0'] else []

/-- Digits with the point after the first one, and an exponent. -/
def scientific (style : FloatStyle) (digits : List Char) (exponent : Int) : List Char :=
  let sign := if exponent < 0 then ['-'] else if style.plusSign then ['+'] else []
  digits.take 1 ++ (if digits.length > 1 then '.' :: digits.drop 1 else []) ++
    'e' :: sign ++ Nat.toDigits 10 exponent.natAbs

/-- A decimal in the given style. -/
def layout (style : FloatStyle) (d : Decimal) : List Char :=
  let digits := Nat.toDigits 10 d.digits
  let point : Int := digits.length + d.exponent
  match style.plain with
  | some (first, last) =>
    if first < point ∧ point ≤ last + 1 then style.positional digits point
    else style.scientific digits (point - 1)
  | none => style.positional digits point

/-- The text of a number in the given style. -/
def render (style : FloatStyle) : Double → String
  | .nan => style.nan
  | .infinite negative => (if negative then "-" else "") ++ style.infinity
  | .finite negative e f =>
    (if negative then "-" else "") ++ String.ofList (style.layout (Double.shortest style.tie e f))

end FloatStyle

end RecordQuery
