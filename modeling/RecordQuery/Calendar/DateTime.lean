import RecordQuery.Calendar.Date

/-!
# Dates with a time of day

A date and a time of day down to the nanosecond, without a zone. A nanosecond count of a thousand
million or more makes a second a leap second, which comes after every other instant of that second
and before the next one. The fields of a clock give a leap second at second 59 alone, and it is
written as second 60. An instant can be set to have one at another second; it is then written as the
next second is. This is the `NaiveDateTime` of the program, and `toIsoText` its serialized text.

* `DateTime.of?`: the instant of the fields of a clock.
* `DateTime.compare`: the order of instants, field by field.
* `DateTime.toText`: the date and the time down to the second.
* `DateTime.toIsoText`: the same with the fraction, in the fewest of 0, 3, 6 and 9 digits.
-/

namespace RecordQuery

/-- The number of nanoseconds in a second. -/
def nanosPerSecond : Nat := 1000000000

/-- The time of day exists; any second can have the nanoseconds of a leap second. -/
def IsTime (hour minute second nano : Nat) : Prop :=
  hour < 24 ∧ minute < 60 ∧ second < 60 ∧ nano < 2 * nanosPerSecond

instance (hour minute second nano : Nat) : Decidable (IsTime hour minute second nano) :=
  inferInstanceAs (Decidable (_ ∧ _))

/-- A clock shows the time: a leap second is the last of its minute. -/
def IsClockTime (hour minute second nano : Nat) : Prop :=
  IsTime hour minute second nano ∧ (nanosPerSecond ≤ nano → second = 59)

instance (hour minute second nano : Nat) : Decidable (IsClockTime hour minute second nano) :=
  inferInstanceAs (Decidable (_ ∧ _))

/-- An instant of a day, without a zone. -/
structure DateTime where
  date : Date
  hour : Nat
  minute : Nat
  second : Nat
  nano : Nat
  isTime : IsTime hour minute second nano
  deriving DecidableEq

namespace DateTime

/-- The instant with the given time of day, if a clock shows it. -/
def of? (date : Date) (hour minute second nano : Nat) : Option DateTime :=
  if h : IsClockTime hour minute second nano then
    some ⟨date, hour, minute, second, nano, h.1⟩
  else none

/-- A clock shows the time of the instant. -/
def IsOnClock (t : DateTime) : Prop := IsClockTime t.hour t.minute t.second t.nano

instance (t : DateTime) : Decidable t.IsOnClock :=
  inferInstanceAs (Decidable (IsClockTime t.hour t.minute t.second t.nano))

theorem of?_self {t : DateTime} (h : t.IsOnClock) :
    of? t.date t.hour t.minute t.second t.nano = some t :=
  dif_pos h

/-- Midnight at the start of a day. -/
def midnight (date : Date) : DateTime := ⟨date, 0, 0, 0, 0, by decide⟩

/-- The fields from the year down to the nanosecond. -/
def fields (t : DateTime) : List Int :=
  [t.date.year, t.date.month, t.date.day, t.hour, t.minute, t.second, t.nano]

/-- The order of instants. -/
def compare (a b : DateTime) : Ordering := Ord.compare a.fields b.fields

/-- The instant at a minute of another day; its second is kept, a leap second or not. -/
def atMinute (t : DateTime) (date : Date) (ofDay : Nat) : DateTime where
  date := date
  hour := ofDay / 60 % 24
  minute := ofDay % 60
  second := t.second
  nano := t.nano
  isTime := ⟨Nat.mod_lt _ (by decide), Nat.mod_lt _ (by decide), t.isTime.2.2⟩

/-- The instant a number of minutes earlier, for less than a day in either direction. -/
def minusMinutes? (t : DateTime) (minutes : Int) : Option DateTime :=
  let total : Int := t.hour * 60 + t.minute - minutes
  let date :=
    if total < 0 then t.date.previous?
    else if total < 1440 then some t.date
    else t.date.next?
  date.map fun d => t.atMinute d (total % 1440).toNat

/-! ## Text -/

/-- A number in decimal with at least `width` digits. -/
def padded (width n : Nat) : String :=
  let digits := Nat.toDigits 10 n
  String.ofList (List.replicate (width - digits.length) '0' ++ digits)

/-- A year has at least four digits, and a sign outside of 0 to 9999. -/
def yearText (year : Int) : String :=
  (if year < 0 then "-" else if year > 9999 then "+" else "") ++ padded 4 year.natAbs

/-- The text of a day. -/
def dateText (d : Date) : String :=
  yearText d.year ++ "-" ++ padded 2 d.month ++ "-" ++ padded 2 d.day

/-- The text of an instant down to the second. -/
def toText (t : DateTime) : String :=
  dateText t.date ++ "T" ++ padded 2 t.hour ++ ":" ++ padded 2 t.minute ++ ":" ++
    padded 2 (t.second + t.nano / nanosPerSecond)

/-- A fraction of a second in the fewest of 0, 3, 6 and 9 digits that hold it. -/
def fractionText (nano : Nat) : String :=
  if nano = 0 then ""
  else if nano % 1000000 = 0 then "." ++ padded 3 (nano / 1000000)
  else if nano % 1000 = 0 then "." ++ padded 6 (nano / 1000)
  else "." ++ padded 9 nano

/-- The text of an instant with its fraction. -/
def toIsoText (t : DateTime) : String := t.toText ++ fractionText (t.nano % nanosPerSecond)

end DateTime

end RecordQuery
