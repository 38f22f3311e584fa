import RecordQuery.Number.Double

/-!
# Reading numbers

Decimal numerals: integers of 64 bits with an optional sign, and floating-point numbers with an
optional fraction and exponent, where the words for the special values count too.
-/

namespace RecordQuery.Numeral

/-- The value of a digit in bases up to 16, none for any other character. -/
def digitValue? (c : Char) : Option Nat :=
  if c.isDigit then some (c.toNat - '0'.toNat)
  else if 'a' ≤ c ∧ c ≤ 'f' then some (c.toNat - 'a'.toNat + 10)
  else if 'A' ≤ c ∧ c ≤ 'F' then some (c.toNat - 'A'.toNat + 10)
  else none

/-- The value of a non-empty run of digits of a base; none if a character is not such a digit. -/
def natInBase? (base : Nat) (cs : List Char) : Option Nat :=
  if cs.isEmpty then none
  else cs.foldlM (fun n c =>
    (digitValue? c).bind fun d => if d < base then some (base * n + d) else none) 0

/-- The value of a run of decimal digits, `0` if it is empty. -/
def decimalValue (cs : List Char) : Nat := cs.foldl (fun n c => 10 * n + (c.toNat - '0'.toNat)) 0

/-- The least signed integer of 64 bits. -/
def int64Min : Int := -9223372036854775808

/-- The greatest signed integer of 64 bits. -/
def int64Max : Int := 9223372036854775807

/-- The integer fits 64 signed bits. -/
def isInt64 (n : Int) : Bool := int64Min ≤ n && n ≤ int64Max

/-- A sign that may stand in front, and the rest. -/
def takeSign : List Char → Bool × List Char
  | '-' :: cs => (true, cs)
  | '+' :: cs => (false, cs)
  | cs => (false, cs)

/-- A signed 64-bit integer: an optional sign and decimal digits. -/
def readInt64? (cs : List Char) : Option Int :=
  let (negative, digits) := takeSign cs
  match natInBase? 10 digits with
  | some n =>
    let value : Int := if negative then -n else n
    if isInt64 value then some value else none
  | none => none

/-- The exponent part of a numeral: nothing, or the mark, an optional sign and digits. -/
def readExponent? : List Char → Option Int
  | [] => some 0
  | c :: cs =>
    if c = 'e' ∨ c = 'E' then
      let (negative, digits) := takeSign cs
      (natInBase? 10 digits).map fun n => if negative then -(n : Int) else n
    else none

/-- An unsigned decimal numeral: digits with an optional point, at least one digit in all, and an
optional exponent. -/
def readUnsigned? (negative : Bool) (cs : List Char) : Option Double :=
  let whole := cs.takeWhile Char.isDigit
  let rest := cs.dropWhile Char.isDigit
  let (fraction, rest) := match rest with
    | '.' :: cs => (cs.takeWhile Char.isDigit, cs.dropWhile Char.isDigit)
    | cs => ([], cs)
  if whole.isEmpty && fraction.isEmpty then none
  else (readExponent? rest).map fun e =>
    Double.ofDecimal negative (decimalValue (whole ++ fraction)) (e - fraction.length)

/-- A floating-point numeral: an optional sign, then a decimal numeral or a word for a special
value in any case. -/
def readDouble? (cs : List Char) : Option Double :=
  let (negative, body) := takeSign cs
  let word := String.ofList (body.map Char.toLower)
  if word = "nan" then some .nan
  else if word = "inf" ∨ word = "infinity" then some (.infinite negative)
  else readUnsigned? negative body

end RecordQuery.Numeral
