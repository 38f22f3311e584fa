/-!
# Binary floating-point numbers

A binary64 number is NaN, an infinity, or finite with its three fields: sign, biased exponent and
fraction. Every finite number is a whole multiple of `2 ^ -1074`, and `units` is that multiple, so
order, integrality and rounding are questions about integers and are answered exactly.

* `ofRatio`: the number nearest to a quotient of naturals, a tie going to the even neighbour.
* `compare?`: the order of the values; a NaN is unordered.
* `compareInt`: `compare_int_float`, an integer against a number, by its whole part and then by what
  the cut left.
* `toInt?`: the integer that a number is, if it is one.
-/

namespace RecordQuery

/-- The number of fractions that one exponent has: `2 ^ 52`. -/
abbrev fractionCount : Nat := 4503599627370496

/-- A binary64 number. The two zeros differ, and there is one NaN. -/
inductive Double where
  | nan
  | infinite (negative : Bool)
  | finite (negative : Bool) (exponent : Fin 2047) (fraction : Fin fractionCount)
  deriving DecidableEq

namespace Double

/-- The number of units `2 ^ -1074` that make one. -/
def unitsPerOne : Nat := 1 <<< 1074

/-- The leading digits as a natural below `2 ^ 53`: the fraction, after the implicit one unless
the number is subnormal. -/
def significand (exponent : Fin 2047) (fraction : Fin fractionCount) : Nat :=
  if exponent.val = 0 then fraction.val else fractionCount + fraction.val

/-- The absolute value in units. -/
def magnitude (exponent : Fin 2047) (fraction : Fin fractionCount) : Nat :=
  significand exponent fraction <<< (exponent.val - 1)

/-- The value of a finite number in units of `2 ^ -1074`; `0` for the others. -/
def units : Double → Int
  | .finite true e f => -(magnitude e f : Int)
  | .finite false e f => magnitude e f
  | _ => 0

/-- The number is not one. -/
def isNaN : Double → Bool
  | .nan => true
  | _ => false

/-- The number is neither an infinity nor NaN. -/
def isFinite : Double → Bool
  | .finite .. => true
  | _ => false

/-! ## Order -/

/-- The order of two values; none if one is NaN. The zeros are equal. -/
def compare? : Double → Double → Option Ordering
  | .nan, _ => none
  | _, .nan => none
  | .infinite a, .infinite b => some (compare b a)
  | .infinite a, .finite .. => some (if a then .lt else .gt)
  | .finite .., .infinite b => some (if b then .gt else .lt)
  | x, y => some (compare x.units y.units)

/-- Equality that takes the zeros as one number and NaN as equal to itself. -/
def same : Double → Double → Bool
  | .nan, .nan => true
  | x, y => x.compare? y == some .eq

/-- The number without its fraction: the binary digits after the point are cleared. The exponent
says how many of the 52 there are; below one no digit stands before the point. -/
def trunc : Double → Double
  | .finite s e f =>
    if e.val < 1023 then .finite s 0 0
    else
      let tail := f.val % Nat.pow 2 (1075 - e.val)
      .finite s e ⟨f.val - tail, Nat.lt_of_le_of_lt (Nat.sub_le ..) f.isLt⟩
  | x => x

/-- The integer part of a number, lowered or raised to the nearer of two bounds; `0` for NaN. -/
def toIntWithin (low high : Int) : Double → Int
  | .nan => 0
  | .infinite negative => if negative then low else high
  | x => max low (min high (x.units.tdiv unitsPerOne))

/-- The least signed integer of 128 bits. -/
def int128Min : Int := -170141183460469231731687303715884105728

/-- The greatest signed integer of 128 bits. -/
def int128Max : Int := 170141183460469231731687303715884105727

/-- The number `2 ^ 127` with the given sign: the least integer of 128 bits, or the number past the
greatest one. -/
def int128Bound (negative : Bool) : Double := .finite negative 1150 0

/-- An integer of 128 bits against a number; NaN counts as above every integer. Between the bounds
of these integers the whole part decides, and if it is the integer, what is left of the fraction. -/
def compareInt (n : Int) (x : Double) : Ordering :=
  if x.isNaN || (x.compare? (int128Bound false)).any (· != .lt) then .lt
  else if x.compare? (int128Bound true) == some .lt then .gt
  else
    let whole := x.trunc
    (compare n (whole.toIntWithin int128Min int128Max)).then ((whole.compare? x).getD .eq)

/-- The integer that the number is, if it is finite and has no fraction. -/
def toInt? : Double → Option Int
  | .finite s e f =>
    let u := (Double.finite s e f).units
    if u % unitsPerOne = 0 then some (u / unitsPerOne) else none
  | _ => none

/-! ## Rounding -/

/-- The integer nearest to `num / den`, a tie going to the even one. -/
def roundQuotient (num den : Nat) : Nat :=
  let q := num / den
  match compare (2 * (num % den)) den with
  | .lt => q
  | .gt => q + 1
  | .eq => q + q % 2

/-- The finite number at a place in the order of magnitudes, where zero has place `0` and the next
number the next place; an infinity past the last one. -/
def ofPlace (negative : Bool) (place : Nat) : Double :=
  if h : place / fractionCount < 2047 then
    .finite negative ⟨place / fractionCount, h⟩ ⟨place % fractionCount, Nat.mod_lt _ (by decide)⟩
  else .infinite negative

/-- The number nearest to `num / den` with the given sign, a tie going to the even significand.
A significand that rounds up to `2 ^ 53` is the first place of the next exponent. -/
def ofRatio (negative : Bool) (num den : Nat) : Double :=
  let scaled := num * unitsPerOne
  let shift := (scaled / den).log2 - 52
  ofPlace negative (shift * fractionCount + roundQuotient scaled (den <<< shift))

/-- The number nearest to an integer. -/
def ofInt (n : Int) : Double := ofRatio (n < 0) n.natAbs 1

/-- Decimal digits times a power of ten that are certain to overflow, or to vanish. -/
def decimalReach : Int := 400

/-- The number nearest to `digits * 10 ^ exponent`. Far outside the range of the type the answer
is known without computing the power. -/
def ofDecimal (negative : Bool) (digits : Nat) (exponent : Int) : Double :=
  let length : Int := digits.log2 * 3 / 10
  if digits = 0 then .finite negative 0 0
  else if exponent + length > decimalReach then .infinite negative
  else if exponent + 2 * length < -decimalReach then .finite negative 0 0
  else if exponent < 0 then ofRatio negative digits (Nat.pow 10 exponent.natAbs)
  else ofRatio negative (digits * Nat.pow 10 exponent.natAbs) 1

/-! ## Bits -/

/-- The weight of the sign bit: `2 ^ 63`. -/
def signWeight : Nat := 9223372036854775808

/-- The 64 bits of a number, a NaN being written as the quiet one without payload. -/
def toBits : Double → Nat
  | .nan => 0x7FF8000000000000
  | .infinite s => s.toNat * signWeight + 2047 * fractionCount
  | .finite s e f => s.toNat * signWeight + e.val * fractionCount + f.val

/-- The number with the given 64 bits. -/
def ofBits (bits : Nat) : Double :=
  let negative := bits / signWeight % 2 = 1
  let place := bits % signWeight
  if place > 2047 * fractionCount then .nan else ofPlace negative place

end Double

end RecordQuery
