import RecordQuery.Number.Numeral
import RecordQuery.Number.Shortest

/-!
# Numbers of a document

A number of a document is an integer of 64 bits, signed or unsigned, or a binary64 number. An
integer and a float are different values even when they are numerically equal; `compareNumeric`
is the numeric order across the two.

* `Number.compareNumeric`: `compare_numbers`, exact for every pair, with NaN after every other
  number.
-/

namespace RecordQuery

/-- The integer fits 64 bits, signed or unsigned. -/
def FitsWord (n : Int) : Prop := -9223372036854775808 ≤ n ∧ n < 18446744073709551616

instance (n : Int) : Decidable (FitsWord n) := by unfold FitsWord; infer_instance

/-- A number of a document. -/
inductive Number where
  | int (n : Int) (fits : FitsWord n)
  | float (x : Double)
  deriving DecidableEq

namespace Number

/-- The integer as a number, if it fits. -/
def ofInt? (n : Int) : Option Number := if h : FitsWord n then some (.int n h) else none

/-- The signed integer that the number is, if it is one. -/
def asInt64? : Number → Option Int
  | .int n _ => if n ≤ Numeral.int64Max then some n else none
  | .float _ => none

/-- The nearest binary64 number. -/
def toDouble : Number → Double
  | .int n _ => Double.ofInt n
  | .float x => x

/-- Equality as keys: integers by value, floats by value with NaN equal to itself. -/
def same : Number → Number → Bool
  | .int a _, .int b _ => a == b
  | .float a, .float b => a.same b
  | _, _ => false

/-- How a document writes its floats: positionally for exponents from -5 to 15 with at least one
digit after the point, otherwise with a bare exponent; the special values start with a point. -/
def floatStyle : FloatStyle where
  plain := some (-5, 15)
  pointZero := true
  plusSign := false
  tie := .even
  nan := ".nan"
  infinity := ".inf"

/-- The number as a document writes it. -/
def toText : Number → String
  | .int n _ => toString n
  | .float x => floatStyle.render x

/-! ## Order -/

/-- The order of two floats, with NaN after every other number. -/
def compareFloats (x y : Double) : Ordering :=
  match x.compare? y with
  | some o => o
  | none => compare x.isNaN y.isNaN

/-- The numeric order of two numbers, across integers and floats, with NaN last. -/
def compareNumeric : Number → Number → Ordering
  | .int a _, .int b _ => compare a b
  | .int a _, .float y => y.compareInt a
  | .float x, .int b _ => (x.compareInt b).swap
  | .float x, .float y => compareFloats x y

end Number

end RecordQuery
