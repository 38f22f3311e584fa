/-!
# Classes of characters as ranges

A class of characters is a list of closed ranges of code points, ascending and apart. The tables
of this folder are such lists, taken from version 17 of the Unicode character database.
-/

namespace RecordQuery.Text

/-- A closed range of code points. -/
structure CodeRange where
  first : Nat
  last : Nat
  deriving DecidableEq, Repr

/-- The code point lies in the range, ends included. -/
def CodeRange.holds (r : CodeRange) (n : Nat) : Bool := r.first ≤ n && n ≤ r.last

/-- The code point lies in one of the ranges. -/
def inRanges (rs : List CodeRange) (n : Nat) : Bool := rs.any (·.holds n)

end RecordQuery.Text
