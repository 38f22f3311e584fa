import Mathlib.Order.Monotone.Basic
import Mathlib.Algebra.Order.Group.Int
import Mathlib.Tactic.Set
import RecordQuery.Calendar.DateTime

/-!
# Numbering days

The days of the calendar are numbered through: the days of all earlier years, those of the earlier
months of the year, and the day of the month. Years take up consecutive stretches of numbers and so
do the months of a year, so that no two days share a number; the next day has the next one. With the
minutes of all days numbered in turn, a shift by less than a day is an addition, whatever month, year
or leap day it carries over.

* `daysBeforeYear_succ`: a year is as long as its months.
* `dayNumber_inj`: a day is known by its number.
* `Date.next?_eq_some_iff`, `Date.previous?_eq_some_iff`: the neighbouring days by their numbers.
* `DateTime.minusMinutes?_eq_some_iff`: an instant less than a day earlier.
-/

namespace RecordQuery

/-! ## Stretches of numbers -/

/-- A number is in one of several stretches that follow each other. -/
theorem eq_of_stretches {ι : Type} [LinearOrder ι] {start size : ι → Int}
    (hfollow : ∀ i j, i < j → start i + size i ≤ start j) {i j : ι} {n : Int}
    (hi : start i < n ∧ n ≤ start i + size i) (hj : start j < n ∧ n ≤ start j + size j) :
    i = j := by
  rcases lt_trichotomy i j with hlt | heq | hgt
  · have := hfollow i j hlt
    omega
  · exact heq
  · have := hfollow j i hgt
    omega

/-! ## Months and years -/

section Numbers

variable {year year' : Int} {month month' day day' : Nat}

/-- The number of days of a year before a month. -/
def daysBeforeMonth (year : Int) : Nat → Nat
  | 0 => 0
  | month + 1 => daysBeforeMonth year month + daysInMonth year month

/-- The number of days before a year, counted from the year zero. -/
def daysBeforeYear (year : Int) : Int :=
  365 * year + (year - 1) / 4 - (year - 1) / 100 + (year - 1) / 400 + 1

theorem daysBeforeMonth_mono (year : Int) : Monotone (daysBeforeMonth year) :=
  monotone_nat_of_le_succ fun _ => Nat.le_add_right _ _

/-- The months of a year follow each other. -/
theorem daysBeforeMonth_follow (year : Int) (month month' : Nat) (h : month < month') :
    (daysBeforeMonth year month : Int) + daysInMonth year month ≤ daysBeforeMonth year month' := by
  have hmono := daysBeforeMonth_mono year (Nat.succ_le_of_lt h)
  rw [daysBeforeMonth] at hmono
  omega

/-- The length of a year by its months. -/
theorem daysBeforeMonth_last (year : Int) :
    daysBeforeMonth year 13 = if isLeapYear year then 366 else 365 := by
  cases h : isLeapYear year <;> simp [daysBeforeMonth, daysInMonth, h]

/-- **A year is as long as its months.** -/
theorem daysBeforeYear_succ (year : Int) :
    daysBeforeYear (year + 1) = daysBeforeYear year + daysBeforeMonth year 13 := by
  have hleap : isLeapYear year = true ↔ year % 4 = 0 ∧ (year % 100 ≠ 0 ∨ year % 400 = 0) := by
    simp [isLeapYear]
  rw [daysBeforeMonth_last, daysBeforeYear, daysBeforeYear]
  split_ifs with h
  · have := hleap.mp h
    omega
  · have := mt hleap.mpr h
    omega

theorem daysBeforeYear_mono (h : year ≤ year') : daysBeforeYear year ≤ daysBeforeYear year' := by
  induction year', h using Int.leInduction with
  | base => exact Int.le_refl _
  | succ year' _ ih =>
    rw [daysBeforeYear_succ]
    omega

/-- The years follow each other. -/
theorem daysBeforeYear_follow (year year' : Int) (h : year < year') :
    daysBeforeYear year + daysBeforeMonth year 13 ≤ daysBeforeYear year' := by
  rw [← daysBeforeYear_succ]
  exact daysBeforeYear_mono h

/-! ## Days -/

/-- The number of a day, counted from the first of January of the year zero as `1`. -/
def dayNumber (year : Int) (month day : Nat) : Int :=
  daysBeforeYear year + daysBeforeMonth year month + day

theorem dayNumber_day_succ (year : Int) (month day : Nat) :
    dayNumber year month (day + 1) = dayNumber year month day + 1 := by
  rw [dayNumber, dayNumber]
  omega

/-- The first day of a month comes after the last one of the month before. -/
theorem dayNumber_month_succ (year : Int) (month : Nat) :
    dayNumber year (month + 1) 1 = dayNumber year month (daysInMonth year month) + 1 := by
  rw [dayNumber, dayNumber, daysBeforeMonth]
  omega

/-- The first day of a year comes after the last one of the year before. -/
theorem dayNumber_year_succ (year : Int) :
    dayNumber (year + 1) 1 1 = dayNumber year 12 31 + 1 := by
  have hlast : daysBeforeMonth year 13 = daysBeforeMonth year 12 + 31 := rfl
  have hfirst : daysBeforeMonth (year + 1) 1 = 0 := rfl
  rw [dayNumber, dayNumber, daysBeforeYear_succ, hlast, hfirst]
  omega

/-- The month has such a day. -/
def IsMonthDay (year : Int) (month day : Nat) : Prop := 1 ≤ day ∧ day ≤ daysInMonth year month

theorem IsMonthDay.month_bounds (h : IsMonthDay year month day) : 1 ≤ month ∧ month ≤ 12 := by
  obtain ⟨hfirst, hlast⟩ := h
  unfold daysInMonth at hlast
  split at hlast <;> omega

theorem one_le_daysInMonth (hfirst : 1 ≤ month) (hlast : month ≤ 12) :
    1 ≤ daysInMonth year month := by
  unfold daysInMonth
  split
  case h_12 => split_ifs <;> decide
  case h_13 =>
    simp only [imp_false] at *
    omega
  all_goals decide

/-- **A day is known by its number.** -/
theorem dayNumber_inj (h : IsMonthDay year month day) (h' : IsMonthDay year' month' day')
    (hnumber : dayNumber year month day = dayNumber year' month' day') :
    year = year' ∧ month = month' ∧ day = day' := by
  have hmonth := daysBeforeMonth_follow year month 13 (by have := h.month_bounds; omega)
  have hmonth' := daysBeforeMonth_follow year' month' 13 (by have := h'.month_bounds; omega)
  obtain ⟨hfirst, hlast⟩ := h
  obtain ⟨hfirst', hlast'⟩ := h'
  unfold dayNumber at hnumber
  have hyear : year = year' :=
    eq_of_stretches (n := daysBeforeYear year + daysBeforeMonth year month + day)
      daysBeforeYear_follow (by omega) (by omega)
  subst hyear
  have hmonths : month = month' :=
    eq_of_stretches (n := (daysBeforeMonth year month + day : Int))
      (daysBeforeMonth_follow year) (by omega) (by omega)
  subst hmonths
  exact ⟨rfl, rfl, by omega⟩

end Numbers

namespace Date

variable {d e : Date} {year : Int} {month day : Nat}

/-- The number of the day. -/
def number (d : Date) : Int := dayNumber d.year d.month d.day

theorem isMonthDay (d : Date) : IsMonthDay d.year d.month d.day := d.isDay.2.2

/-- A day is made from numbers iff it has the number that they count to. -/
theorem of?_eq_some_iff (h : IsMonthDay year month day) :
    of? year month day = some d ↔ d.number = dayNumber year month day := by
  constructor
  · intro hd
    unfold of? at hd
    split at hd
    · rw [← Option.some.inj hd]
      rfl
    · cases hd
  · intro hnumber
    obtain ⟨rfl, rfl, rfl⟩ := dayNumber_inj d.isMonthDay h hnumber
    exact d.of?_self

theorem number_inj : d.number = e.number ↔ d = e := by
  refine ⟨fun h => ?_, congrArg number⟩
  have hd := (of?_eq_some_iff e.isMonthDay).mpr h
  rw [e.of?_self] at hd
  exact (Option.some.inj hd).symm

/-- **The next day has the next number.** -/
theorem next?_eq_some_iff : d.next? = some e ↔ e.number = d.number + 1 := by
  obtain ⟨hfirst, hlast⟩ := d.isMonthDay
  obtain ⟨-, hmost⟩ := d.isMonthDay.month_bounds
  unfold next?
  split_ifs with hday hmonth
  · rw [of?_eq_some_iff ⟨by omega, by omega⟩, dayNumber_day_succ]
    rfl
  · have hend : daysInMonth d.year d.month = d.day := by omega
    rw [of?_eq_some_iff ⟨Nat.le_refl 1, one_le_daysInMonth (by omega) (by omega)⟩,
      dayNumber_month_succ, hend]
    rfl
  · have hdecember : d.month = 12 := by omega
    have hend : d.day = 31 := by
      rw [hdecember] at hlast hday
      exact Nat.le_antisymm hlast (Nat.le_of_not_lt hday)
    rw [of?_eq_some_iff ⟨Nat.le_refl 1, one_le_daysInMonth (by decide) (by decide)⟩,
      dayNumber_year_succ, number, number, hdecember, hend]

/-- **The day before has the number before.** -/
theorem previous?_eq_some_iff : d.previous? = some e ↔ e.number + 1 = d.number := by
  obtain ⟨hfirst, hlast⟩ := d.isMonthDay
  obtain ⟨hleast, hmost⟩ := d.isMonthDay.month_bounds
  unfold previous?
  split_ifs with hday hmonth
  · have hnumber := dayNumber_day_succ d.year d.month (d.day - 1)
    rw [Nat.sub_add_cancel hfirst] at hnumber
    rw [of?_eq_some_iff ⟨by omega, by omega⟩, number, number, hnumber, add_left_inj]
  · have hnumber := dayNumber_month_succ d.year (d.month - 1)
    rw [Nat.sub_add_cancel hleast] at hnumber
    have hstart : d.day = 1 := by omega
    rw [of?_eq_some_iff ⟨one_le_daysInMonth (by omega) (by omega), Nat.le_refl _⟩, number, number,
      hstart, hnumber, add_left_inj]
  · have hnumber := dayNumber_year_succ (d.year - 1)
    rw [Int.sub_add_cancel] at hnumber
    have hjanuary : d.month = 1 := by omega
    have hstart : d.day = 1 := by omega
    rw [of?_eq_some_iff ⟨by decide, Nat.le_refl 31⟩, number, number, hjanuary, hstart, hnumber,
      add_left_inj]

end Date

/-! ## Instants -/

namespace DateTime

variable {t later : DateTime} {minutes : Int}

/-- The number of whole minutes up to an instant, counted through all days. -/
def minuteNumber (t : DateTime) : Int := t.date.number * 1440 + (t.hour * 60 + t.minute)

/-- The instant is the other one, a number of minutes later. -/
structure IsLater (later t : DateTime) (minutes : Int) : Prop where
  minuteNumber : later.minuteNumber = t.minuteNumber + minutes
  second : later.second = t.second
  nano : later.nano = t.nano

/-- An instant at a minute of a day is known by the number of that minute. -/
theorem atMinute_eq_iff {date : Date} {ofDay : Nat} (h : ofDay < 1440) :
    later.atMinute date ofDay = t ↔
      date.number * 1440 + ofDay = t.minuteNumber ∧ later.second = t.second ∧
        later.nano = t.nano := by
  obtain ⟨hhour, hminute, -⟩ := t.isTime
  constructor
  · rintro rfl
    refine ⟨?_, rfl, rfl⟩
    simp only [minuteNumber, atMinute]
    omega
  · rintro ⟨hnumber, hs, hn⟩
    obtain ⟨d, hour, minute, second, nano, _⟩ := t
    simp only [minuteNumber] at hnumber hhour hminute
    have hd : date.number = d.number := by omega
    obtain rfl := Date.number_inj.mp hd
    have hour_eq : ofDay / 60 % 24 = hour := by omega
    have minute_eq : ofDay % 60 = minute := by omega
    unfold atMinute
    congr

/-- **Minutes are taken off by subtraction**, if they are less than those of a day. -/
theorem minusMinutes?_eq_some_iff (h : -1440 < minutes ∧ minutes < 1440) :
    later.minusMinutes? minutes = some t ↔ later.IsLater t minutes := by
  obtain ⟨hhour, hminute, -⟩ := t.isTime
  obtain ⟨hhour', hminute', -⟩ := later.isTime
  unfold minusMinutes?
  set total : Int := later.hour * 60 + later.minute - minutes with htotal
  -- the day is the one before, the same or the next
  have hdate {d : Date} : (if total < 0 then later.date.previous?
      else if total < 1440 then some later.date else later.date.next?) = some d ↔
        d.number = later.date.number + total / 1440 := by
    split_ifs with hearly hsame
    · rw [Date.previous?_eq_some_iff]
      omega
    · rw [Option.some.injEq, ← Date.number_inj]
      omega
    · rw [Date.next?_eq_some_iff]
      omega
  have hofDay : ((total % 1440).toNat : Int) = total % 1440 :=
    Int.toNat_of_nonneg (Int.emod_nonneg _ (by decide))
  have hlt : (total % 1440).toNat < 1440 := by omega
  simp only [Option.map_eq_some_iff, hdate, atMinute_eq_iff hlt]
  constructor
  · rintro ⟨d, hd, hnumber, hs, hn⟩
    refine ⟨?_, hs, hn⟩
    unfold minuteNumber at hnumber ⊢
    omega
  · rintro ⟨hnumber, hs, hn⟩
    unfold minuteNumber at hnumber ⊢
    exact ⟨t.date, by omega, by omega, hs, hn⟩

end DateTime

end RecordQuery
