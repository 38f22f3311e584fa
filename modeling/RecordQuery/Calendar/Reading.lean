import RecordQuery.Calendar.DateTime
import RecordQuery.Number.Numeral
import RecordQuery.Text.Blank

/-!
# Reading dates

The program reads instants by `parse_date`, which tries three written forms in turn:

1. the strict internet form, every field with its full width and a zone, which is converted to
   Greenwich time;
2. a relaxed form without a zone, with `T` or blanks between the date and the time;
3. a bare date, which means its midnight.

In the relaxed forms a field may be shorter than its width and may follow blanks, and a year with a
sign may have any number of digits. Second 60 is a leap second.
-/

namespace RecordQuery.DateReader

/-- A step of reading: a result and the rest of the text, or failure. -/
abbrev Step := StateT (List Char) Option

/-- As many decimal digits as there are, up to `most`, but at least `least`. -/
def digits (least most : Nat) : Step (List Char) := fun s =>
  let ds := (s.take most).takeWhile Char.isDigit
  if ds.length < least then none else some (ds, s.drop ds.length)

/-- The number that such digits write. -/
def number (least most : Nat) : Step Nat := Numeral.decimalValue <$> digits least most

/-- Exactly the given character. -/
def literal (c : Char) : Step Unit
  | d :: s => if d = c then some ((), s) else none
  | [] => none

/-- One of the given characters. -/
def oneOf (cs : List Char) : Step Char
  | d :: s => if cs.contains d then some (d, s) else none
  | [] => none

/-- Any number of blanks. -/
def blanks : Step Unit := fun s => some ((), Text.trimStart s)

/-- Nothing is left. -/
def finished : Step Unit := fun s => if s.isEmpty then some ((), s) else none

/-- Nothing is read. -/
def skip : Step Unit := pure ()

/-- A fraction of a second behind a point, in nanoseconds; digits past the ninth count for
nothing. No point means no fraction. -/
def fraction : Step Nat := fun s =>
  match s with
  | '.' :: s => do
    let (ds, rest) ← digits 1 9 s
    pure (Numeral.decimalValue ds * Nat.pow 10 (9 - ds.length), rest.dropWhile Char.isDigit)
  | _ => some (0, s)

/-! ## The fields -/

/-- A year: four digits at most, or a sign and any number of digits. -/
def relaxedYear : Step Int := do
  blanks
  match ← get with
  | '-' :: s => set s; return -((← number 1 s.length : Nat) : Int)
  | '+' :: s => set s; return (← number 1 s.length : Nat)
  | _ => return (← number 1 4 : Nat)

/-- A field of one or two digits, after any blanks. -/
def relaxedField : Step Nat := do
  blanks
  number 1 2

/-- A field of exactly `width` digits. -/
def strictField (width : Nat) : Step Nat := number width width

/-- A time of day from its fields; second 60 is second 59 with a further second of
nanoseconds. -/
def instant? (date : Option Date) (hour minute second nano : Nat) : Option DateTime :=
  date.bind fun d =>
    if second = 60 then DateTime.of? d hour minute 59 (nano + nanosPerSecond)
    else DateTime.of? d hour minute second nano

/-- The distance of a zone from Greenwich in minutes, east being positive. -/
def zone : Step Int := do
  match ← oneOf ['Z', 'z', '+', '-', '−'] with
  | 'Z' | 'z' => return 0
  | sign =>
    let hours ← strictField 2
    literal ':'
    let minutes ← strictField 2
    if minutes < 60 ∧ hours < 24 then
      return (if sign = '+' then 1 else -1) * ((hours * 60 + minutes : Nat) : Int)
    else failure

/-! ## The forms -/

/-- The strict form with a zone, read as an instant in Greenwich. -/
def strict : Step DateTime := do
  let year ← strictField 4
  literal '-'
  let month ← strictField 2
  literal '-'
  let day ← strictField 2
  let _ ← oneOf ['T', 't', ' ']
  let hour ← strictField 2
  literal ':'
  let minute ← strictField 2
  literal ':'
  let second ← strictField 2
  let nano ← fraction
  let east ← zone
  finished
  ((instant? (Date.of? year month day) hour minute second nano).bind (·.minusMinutes? east) :
    Option DateTime)

/-- The relaxed date; `gap` stands before each separator. -/
def relaxedDate (gap : Step Unit) : Step (Option Date) := do
  let year ← relaxedYear
  gap
  literal '-'
  let month ← relaxedField
  gap
  literal '-'
  return Date.of? year month (← relaxedField)

/-- The relaxed form; `gap` stands before each separator and `between` divides date and time. -/
def relaxed (gap between : Step Unit) : Step DateTime := do
  let date ← relaxedDate gap
  between
  let hour ← relaxedField
  gap
  literal ':'
  let minute ← relaxedField
  gap
  literal ':'
  let second ← relaxedField
  let nano ← fraction
  gap
  finished
  (instant? date hour minute second nano : Option DateTime)

/-- A bare date. -/
def dateOnly : Step DateTime := do
  let date ← relaxedDate skip
  finished
  (date.map DateTime.midnight : Option DateTime)

/-- What a step reads from a whole text. -/
def run? (step : Step DateTime) (s : List Char) : Option DateTime := (step s).map (·.1)

end RecordQuery.DateReader

namespace RecordQuery.DateTime

open DateReader

/-- The instant that a text writes in one of the forms, blanks around it aside. -/
def ofText? (text : String) : Option DateTime :=
  let s := Text.trim text.toList
  (run? strict s).orElse fun _ =>
    (run? (relaxed skip (literal 'T')) s).orElse fun _ =>
      (run? (relaxed skip blanks) s).orElse fun _ => run? dateOnly s

/-- The instant that a text writes in the relaxed form with a `T`, where blanks may stand before
every separator and at the end. -/
def ofIsoText? (text : String) : Option DateTime :=
  run? (relaxed blanks (blanks *> literal 'T')) text.toList

end RecordQuery.DateTime
