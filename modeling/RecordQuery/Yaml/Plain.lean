import RecordQuery.Value.Basic

/-!
# What a plain scalar means

A scalar without quotes and tags is null, a boolean, a number or a text. Integers have an optional
sign and may be written in base 16, 8 or 2; floats are decimal numerals with a finite value, or
words that start with a point. Digits with a needless leading zero are a text.

* `Plain.wordless`: an integer that fits no word of 64 bits, but one of 128, has no value.
* `Plain.isText`: a text that means itself when it stands without quotes.
-/

namespace RecordQuery.Plain

/-- The words for null; an empty scalar is null as well. -/
def nullWords : List String := ["null", "Null", "NULL", "~"]

/-- The boolean that a text is a word for. -/
def bool? (s : String) : Option Bool :=
  if ["true", "True", "TRUE"].contains s then some true
  else if ["false", "False", "FALSE"].contains s then some false
  else none

/-- What follows a leading plus sign, or all of it. -/
def dropPlus : List Char → List Char
  | '+' :: cs => cs
  | cs => cs

/-- The text starts with a sign. -/
def startsWithSign : List Char → Bool
  | c :: _ => c == '+' || c == '-'
  | [] => false

/-- Digits with a needless leading zero, with or without a sign. -/
def isZeroPadded (cs : List Char) : Bool :=
  match (Numeral.takeSign cs).2 with
  | '0' :: d :: ds => (d :: ds).all Char.isDigit
  | _ => false

/-- A run of digits after one of the marks `0x`, `0o` and `0b`. -/
def marked? : List Char → Option Nat
  | '0' :: 'x' :: cs => Numeral.natInBase? 16 cs
  | '0' :: 'o' :: cs => Numeral.natInBase? 8 cs
  | '0' :: 'b' :: cs => Numeral.natInBase? 2 cs
  | _ => none

/-- The integer that a text writes. A sign may stand in front, before the mark of a base. -/
def integer? (cs : List Char) : Option Int :=
  let (negative, digits) := Numeral.takeSign cs
  let value : Option Nat := (marked? digits).orElse fun _ =>
    if isZeroPadded cs then none else Numeral.natInBase? 10 digits
  value.map fun n => if negative then -(n : Int) else n

/-- The float that a text writes: a word for a special value, or a finite decimal numeral. -/
def float? (cs : List Char) : Option Double :=
  let unsigned := dropPlus cs
  if [".inf", ".Inf", ".INF"].contains (String.ofList unsigned) then some (.infinite false)
  else if ["-.inf", "-.Inf", "-.INF"].contains (String.ofList cs) then some (.infinite true)
  else if [".nan", ".NaN", ".NAN"].contains (String.ofList cs) then some .nan
  else if unsigned.length < cs.length && startsWithSign unsigned then none
  else match Numeral.readDouble? unsigned with
    | some (.finite negative e f) => some (.finite negative e f)
    | _ => none

/-- The integer is one of 128 bits, signed if it is negative. -/
def isLong (n : Int) : Bool :=
  -170141183460469231731687303715884105728 ≤ n && n < 340282366920938463463374607431768211456

/-- The integer of a text is one of 64 bits, signed if it is negative. -/
def number? (cs : List Char) : Option Number :=
  match integer? cs with
  | some n => Number.ofInt? n
  | none => none

/-- An integer past 64 bits that is still one of 128. It has no value, and is no text either. -/
def wordless (cs : List Char) : Bool :=
  match integer? cs with
  | some n => (Number.ofInt? n).isNone && isLong n
  | none => false

/-- The value of a plain scalar; none if it is `wordless`. -/
def value? (s : String) : Option Value :=
  if s = "" ∨ nullWords.contains s then some .null
  else match bool? s with
    | some b => some (.bool b)
    | none =>
      match number? s.toList with
      | some n => some (.number n)
      | none =>
        if wordless s.toList then none
        else if isZeroPadded s.toList then some (.text s)
        else match float? s.toList with
          | some x => some (.number (.float x))
          | none => some (.text s)

/-- The text means itself when it stands without quotes. -/
def isText (s : String) : Bool :=
  match value? s with
  | some (.text _) => !isZeroPadded s.toList
  | _ => false

end RecordQuery.Plain
