import RecordQuery.Filter.Value
import RecordQuery.Proofs.Calendar.DayNumber
import RecordQuery.Proofs.Calendar.Reading
import RecordQuery.Proofs.Text.Trimming

/-!
# The written forms of an instant

An instant is written as its date and time with a `T` or a space between them, as the local time of
a zone with its distance from Greenwich, or, if it is a midnight, as its bare date. A fraction of a
second may have up to nine digits, and second 60 is a leap second. A leap second that no clock shows
has no form of its own: its text is that of the next second, and is read as that.

The forms are tried in turn, and none takes a text of a later one for something else. The strict form
wants a zone: it refuses a signed year where it looks for four digits, and any other text where it
ends without a zone. The relaxed form with a `T` refuses a space in its place, and both relaxed forms
refuse a bare date where it ends without a time.

* `DateReader.strict_eq_inZone`: what the strict form makes of a date and a time.
* `DateReader.Reads.relaxed`: the relaxed forms read what is written.
* `DateTime.Writes`: the texts of an instant.
* `DateTime.ofText?_of_writes`: every written form is read, between any blanks.
* `DateTime.Writes.unique`: a text writes one instant at most.
* `DateTime.carried`: the instant that the text of an instant shows.
* `DateTime.ofText?_toIsoText`: every instant is read back from its full text as it is shown.
* `DateTime.ofText?_toText`: the text down to the second gives that without its fraction.
* `DateTime.ofText?_written`: what comes back of a date that was written.
-/

namespace RecordQuery

namespace DateReader

/-! ## The parts of a text -/

open DateTime (dateText yearText fractionText padded isDigit_of_mem_padded exists_padded_eq_cons)

/-- The text of the time of day down to the second, in the fields that are read. -/
def clockText (t : DateTime) : List Char :=
  (padded 2 t.hour).toList ++ ([':'] ++ ((padded 2 t.minute).toList ++ ([':'] ++
    (padded 2 (t.second + t.nano / nanosPerSecond)).toList)))

/-- The text of an instant: its date, what divides it from the time of day, and what follows. -/
def stampText (t : DateTime) (divider : Char) (tail : List Char) : List Char :=
  (dateText t.date).toList ++ ([divider] ++ (clockText t ++ tail))

/-- A year of four digits, written without a sign. -/
def HasFourDigits (year : Int) : Prop := 0 ≤ year ∧ year ≤ 9999

instance (year : Int) : Decidable (HasFourDigits year) := inferInstanceAs (Decidable (_ ∧ _))

theorem HasFourDigits.natAbs_lt {year : Int} (h : HasFourDigits year) : year.natAbs < 10 ^ 4 := by
  obtain ⟨hleast, hmost⟩ := h
  omega

/-- The text writes the distance of a zone from Greenwich in minutes. -/
inductive IsZone : List Char → Int → Prop where
  | greenwich {c : Char} (hc : c = 'Z' ∨ c = 'z') : IsZone [c] 0
  | east {hours minutes : Nat} (hhours : hours < 24) (hminutes : minutes < 60) :
      IsZone ('+' :: ((padded 2 hours).toList ++ ([':'] ++ (padded 2 minutes).toList)))
        (hours * 60 + minutes)
  | west {hours minutes : Nat} (hhours : hours < 24) (hminutes : minutes < 60) :
      IsZone ('-' :: ((padded 2 hours).toList ++ ([':'] ++ (padded 2 minutes).toList)))
        (-(hours * 60 + minutes))

section Parts

variable {t : DateTime} {f z rest : List Char} {nano : Nat} {minutes : Int}

theorem toList_dateText (d : Date) :
    (dateText d).toList = (yearText d.year).toList ++
      (['-'] ++ ((padded 2 d.month).toList ++ (['-'] ++ (padded 2 d.day).toList))) := by
  simp [dateText]

theorem clockText_append (t : DateTime) (s : List Char) :
    clockText t ++ s = (padded 2 t.hour).toList ++ ([':'] ++ ((padded 2 t.minute).toList ++ ([':'] ++
      ((padded 2 (t.second + t.nano / nanosPerSecond)).toList ++ s)))) := by
  simp [clockText]

theorem toList_toText (t : DateTime) : t.toText.toList = stampText t 'T' [] := by
  simp [DateTime.toText, stampText, clockText]

theorem toList_toIsoText (t : DateTime) :
    t.toIsoText.toList = stampText t 'T' (fractionText (t.nano % nanosPerSecond)).toList := by
  rw [DateTime.toIsoText, String.toList_append, toList_toText]
  simp only [stampText, List.append_assoc, List.nil_append]

theorem month_lt (d : Date) : d.month < 100 := by
  have := d.isMonthDay.month_bounds
  omega

theorem day_lt (d : Date) : d.day < 100 := by
  obtain ⟨-, -, -, hlast⟩ := d.isDay
  have hmost : daysInMonth d.year d.month ≤ 31 := by
    unfold daysInMonth
    repeat' split
    all_goals decide
  omega

/-- The last second and a thousand million nanoseconds are second 60. -/
theorem second_lt (t : DateTime) : t.second + t.nano / nanosPerSecond < 100 := by
  obtain ⟨-, -, hsecond, hnano⟩ := t.isTime
  unfold nanosPerSecond at *
  omega

/-- An instant on a clock is made again from the fields as they are written. -/
theorem instant?_of_fields (h : t.IsOnClock) :
    instant? (some t.date) t.hour t.minute (t.second + t.nano / nanosPerSecond)
      (t.nano % nanosPerSecond) = some t := by
  obtain ⟨-, -, hsecond, hnano⟩ := t.isTime
  have hleap := h.2
  show (if _ then _ else _) = some t
  by_cases hlate : nanosPerSecond ≤ t.nano
  · have hquotient : t.nano / nanosPerSecond = 1 := by
      unfold nanosPerSecond at *
      omega
    have hremainder : t.nano % nanosPerSecond + nanosPerSecond = t.nano := by
      unfold nanosPerSecond at *
      omega
    have hsixty : t.second + t.nano / nanosPerSecond = 60 := by
      rw [hleap hlate, hquotient]
    rw [if_pos hsixty, hremainder, ← hleap hlate]
    exact DateTime.of?_self h
  · have hquotient : t.nano / nanosPerSecond = 0 := Nat.div_eq_of_lt (Nat.lt_of_not_le hlate)
    rw [hquotient, Nat.add_zero, if_neg (Nat.ne_of_lt hsecond),
      Nat.mod_eq_of_lt (Nat.lt_of_not_le hlate)]
    exact DateTime.of?_self h

/-- A zone starts with neither a digit nor a point. -/
theorem IsZone.starts (h : IsZone z minutes) :
    z.takeWhile Char.isDigit = [] ∧ ∀ s, z ≠ '.' :: s := by
  cases h with
  | greenwich hc => rcases hc with rfl | rfl <;> exact ⟨rfl, nofun⟩
  | east => exact ⟨rfl, nofun⟩
  | west => exact ⟨rfl, nofun⟩

theorem IsZone.minutes_lt (h : IsZone z minutes) : -1440 < minutes ∧ minutes < 1440 := by
  cases h <;> omega

/-- **The zone is read** from a sign and a time, or a letter. -/
theorem IsZone.reads (h : IsZone z minutes) : Reads zone z minutes rest := by
  have hsigned (sign : Char) {hours mins : Nat} (hsign : ['Z', 'z', '+', '-', '−'].contains sign)
      (hhours : hours < 24) (hmins : mins < 60) (hletter : sign ≠ 'Z' ∧ sign ≠ 'z') :
      Reads zone ([sign] ++ ((padded 2 hours).toList ++ ([':'] ++ (padded 2 mins).toList)))
        ((if sign = '+' then 1 else -1) * ((hours * 60 + mins : Nat) : Int)) rest := by
    refine .bind (.oneOf hsign) ?_
    -- a sign, which is none of the two letters
    split
    case h_1 => exact absurd rfl hletter.1
    case h_2 => exact absurd rfl hletter.2
    refine .bind (.strictField Nat.zero_lt_two (by omega)) ?_
    refine .bind (.literal ':') ?_
    rw [← List.append_nil (padded 2 mins).toList]
    refine .bind (.strictField Nat.zero_lt_two (by omega)) ?_
    rw [if_pos ⟨hmins, hhours⟩]
    rfl
  cases h with
  | greenwich hc => rcases hc with rfl | rfl <;> rfl
  | east hhours hminutes =>
    have hread := hsigned '+' (by decide) hhours hminutes (by decide)
    simpa using hread
  | west hhours hminutes =>
    have hread := hsigned '-' (by decide) hhours hminutes (by decide)
    simpa using hread

end Parts

/-! ## The strict form -/

section Strict

variable {t later : DateTime} {d : Date} {divider : Char} {f z rest : List Char} {minutes : Int}

/-- What the strict form has still to do once the fields of an instant are read. -/
def inZone (t : DateTime) : Step DateTime := do
  let east ← zone
  finished
  (t.minusMinutes? east : Option DateTime)

/-- **The strict form reads the fields of an instant** on a clock whose year has four digits. -/
theorem strict_eq_inZone (hclock : t.IsOnClock) (hyear : HasFourDigits t.date.year)
    (hdivider : ['T', 't', ' '].contains divider = true)
    (hf : IsFraction f (t.nano % nanosPerSecond)) (hrest : rest.takeWhile Char.isDigit = [])
    (hpoint : ∀ s, rest ≠ '.' :: s) :
    strict (stampText t divider (f ++ rest)) = inZone t rest := by
  obtain ⟨hhour, hminute, -⟩ := t.isTime
  rw [stampText, toList_dateText, toList_yearText_of_four hyear, clockText_append]
  simp only [List.append_assoc]
  refine (Reads.strictField (Nat.zero_lt_succ 3) hyear.natAbs_lt).apply_bind.trans ?_
  refine (Reads.literal '-').apply_bind.trans ?_
  refine (Reads.strictField Nat.zero_lt_two (month_lt t.date)).apply_bind.trans ?_
  refine (Reads.literal '-').apply_bind.trans ?_
  refine (Reads.strictField Nat.zero_lt_two (day_lt t.date)).apply_bind.trans ?_
  refine (Reads.oneOf hdivider).apply_bind.trans ?_
  refine (Reads.strictField Nat.zero_lt_two (by omega)).apply_bind.trans ?_
  refine (Reads.literal ':').apply_bind.trans ?_
  refine (Reads.strictField Nat.zero_lt_two (by omega)).apply_bind.trans ?_
  refine (Reads.literal ':').apply_bind.trans ?_
  refine (Reads.strictField Nat.zero_lt_two (second_lt t)).apply_bind.trans ?_
  refine (hf.reads hrest hpoint).apply_bind.trans ?_
  rw [Int.natAbs_of_nonneg hyear.1, t.date.of?_self, instant?_of_fields hclock]
  rfl

/-- **The strict form reads a local time** with its zone as the instant in Greenwich. -/
theorem strict_zoned (hclock : later.IsOnClock) (hyear : HasFourDigits later.date.year)
    (hdivider : ['T', 't', ' '].contains divider = true)
    (hf : IsFraction f (later.nano % nanosPerSecond)) (hz : IsZone z minutes)
    (hlater : later.IsLater t minutes) :
    strict (stampText later divider (f ++ z)) = some (t, []) := by
  have hshift := (DateTime.minusMinutes?_eq_some_iff hz.minutes_lt).mpr hlater
  have hzone : Reads zone z minutes [] := hz.reads
  rw [strict_eq_inZone hclock hyear hdivider hf hz.starts.1 hz.starts.2]
  rw [← List.append_nil z]
  exact hzone.apply_bind.trans (Reads.finished_bind (.lift hshift))

/-- The strict form refuses the sign of a year. -/
theorem strict_signed (h : ¬HasFourDigits d.year) :
    strict ((dateText d).toList ++ rest) = none := by
  have hsign : (if d.year < 0 then '-' else '+').isDigit = false := by
    split <;> rfl
  rw [toList_dateText, toList_yearText_of_sign h]
  exact DateReader.bind_eq_none (strictField_eq_none (Nat.zero_lt_succ 3) hsign _)

/-- **The strict form refuses an instant without a zone.** -/
theorem strict_plain (hclock : t.IsOnClock) (hdivider : ['T', 't', ' '].contains divider = true)
    (hf : IsFraction f (t.nano % nanosPerSecond)) : strict (stampText t divider f) = none := by
  by_cases hyear : HasFourDigits t.date.year
  · -- the text ends where the zone should start
    have hend : strict (stampText t divider (f ++ [])) = inZone t [] :=
      strict_eq_inZone hclock hyear hdivider hf rfl nofun
    rw [List.append_nil] at hend
    rw [hend]
    rfl
  · exact strict_signed hyear

/-- The strict form refuses a bare date. -/
theorem strict_bare (d : Date) : strict (dateText d).toList = none := by
  by_cases hyear : HasFourDigits d.year
  · rw [toList_dateText, toList_yearText_of_four hyear]
    refine Reads.bind_eq_none (.strictField (Nat.zero_lt_succ 3) hyear.natAbs_lt) ?_
    refine Reads.bind_eq_none (.literal '-') ?_
    refine Reads.bind_eq_none (.strictField Nat.zero_lt_two (month_lt d)) ?_
    refine Reads.bind_eq_none (.literal '-') ?_
    rw [← List.append_nil (padded 2 d.day).toList]
    exact Reads.bind_eq_none (.strictField Nat.zero_lt_two (day_lt d)) rfl
  · rw [← List.append_nil (dateText d).toList]
    exact strict_signed hyear

end Strict

/-! ## The relaxed forms -/

section Relaxed

variable {divider : Char} {f rest : List Char} {between : Step Unit}

/-- The relaxed forms read a date as it is written. -/
theorem Reads.relaxedDate (d : Date) :
    Reads (relaxedDate skip) (dateText d).toList (some d) rest := by
  rw [toList_dateText]
  refine Reads.bind (.relaxedYear d.year (by rfl)) ?_
  refine .skip_bind (.bind (.literal '-') ?_)
  refine .bind (.relaxedField (month_lt d)) ?_
  refine .skip_bind (.bind (.literal '-') ?_)
  exact d.of?_self ▸ (Reads.relaxedField (day_lt d)).map _

/-- **The relaxed forms read an instant** on a clock as it is written, whatever divides date and
time. -/
theorem Reads.relaxed {t : DateTime} (hclock : t.IsOnClock)
    (hf : IsFraction f (t.nano % nanosPerSecond))
    (hbetween : Reads between [divider] () (clockText t ++ f)) :
    Reads (relaxed skip between) (stampText t divider f) t [] := by
  obtain ⟨hhour, hminute, -⟩ := t.isTime
  refine .bind (.relaxedDate t.date) ?_
  refine .bind (by rwa [List.append_nil]) ?_
  rw [clockText_append]
  refine .bind (.relaxedField (by omega)) ?_
  refine .skip_bind (.bind (.literal ':') ?_)
  refine .bind (.relaxedField (by omega)) ?_
  refine .skip_bind (.bind (.literal ':') ?_)
  refine .bind (.relaxedField (second_lt t)) ?_
  rw [← List.append_nil f]
  refine .bind (hf.reads rfl nofun) ?_
  exact .skip_bind (Reads.finished_bind (.lift (instant?_of_fields hclock)))

/-- **The relaxed forms refuse a date** that no hour follows, behind what divides them. -/
theorem relaxed_eq_none (d : Date) (h : (between *> relaxedField) rest = none) :
    DateReader.relaxed skip between ((dateText d).toList ++ rest) = none := by
  have hnext (f : Nat → Step DateTime) : (between >>= fun _ => relaxedField >>= f) rest = none := by
    rw [← bind_assoc]
    exact DateReader.bind_eq_none h
  exact (Reads.relaxedDate d).bind_eq_none (hnext _)

/-- The time of day starts with a digit, so that blanks end before it. -/
theorem reads_blanks (t : DateTime) : Reads blanks [' '] () (clockText t ++ f) := by
  obtain ⟨c, cs, hcs, hc⟩ := exists_padded_eq_cons (n := t.hour) Nat.zero_lt_two
  rw [Reads, clockText_append, hcs]
  exact congrArg (fun s => some ((), s)) (trimStart_cons_of_isDigit hc _)

/-- **A bare date is read** as its midnight. -/
theorem reads_dateOnly (d : Date) : Reads dateOnly (dateText d).toList (.midnight d) [] := by
  rw [← List.append_nil (dateText d).toList]
  exact .bind (.relaxedDate d) (Reads.finished_bind (.lift rfl))

end Relaxed

/-! ## No blanks at the ends -/

section Blanks

variable {t : DateTime} {f z : List Char} {nano : Nat} {minutes : Int}

theorem not_blank_padded (width n : Nat) : ∀ c ∈ (padded width n).toList, Text.isBlank c = false :=
  fun _ hc => isBlank_of_isDigit (isDigit_of_mem_padded hc)

theorem not_blank_mark {c : Char} (hc : Text.isBlank c = false) :
    ∀ d ∈ [c], Text.isBlank d = false :=
  List.forall_mem_singleton.mpr hc

theorem not_blank_yearText (y : Int) : ∀ c ∈ (yearText y).toList, Text.isBlank c = false := by
  rw [yearText, String.toList_append, List.forall_mem_append]
  refine ⟨?_, not_blank_padded 4 y.natAbs⟩
  split_ifs
  · exact not_blank_mark rfl
  · exact not_blank_mark rfl
  · exact List.forall_mem_nil _

theorem not_blank_dateText (d : Date) : ∀ c ∈ (dateText d).toList, Text.isBlank c = false := by
  simp only [toList_dateText, List.forall_mem_append]
  exact ⟨not_blank_yearText _, not_blank_mark rfl, not_blank_padded _ _, not_blank_mark rfl,
    not_blank_padded _ _⟩

theorem not_blank_clockText (t : DateTime) : ∀ c ∈ clockText t, Text.isBlank c = false := by
  simp only [clockText, List.forall_mem_append]
  exact ⟨not_blank_padded _ _, not_blank_mark rfl, not_blank_padded _ _, not_blank_mark rfl,
    not_blank_padded _ _⟩

theorem IsFraction.not_blank (h : IsFraction f nano) : ∀ c ∈ f, Text.isBlank c = false := by
  cases h with
  | none => exact List.forall_mem_nil _
  | point hdigits =>
    exact List.forall_mem_cons.mpr ⟨rfl, fun c hc => isBlank_of_isDigit (hdigits c hc)⟩

theorem IsZone.not_blank (h : IsZone z minutes) : ∀ c ∈ z, Text.isBlank c = false := by
  have htime (hours minutes : Nat) :
      ∀ c ∈ (padded 2 hours).toList ++ ([':'] ++ (padded 2 minutes).toList),
        Text.isBlank c = false := by
    simp only [List.forall_mem_append]
    exact ⟨not_blank_padded _ _, not_blank_mark rfl, not_blank_padded _ _⟩
  cases h with
  | greenwich hc => rcases hc with rfl | rfl <;> exact not_blank_mark rfl
  | east => exact List.forall_mem_cons.mpr ⟨rfl, htime _ _⟩
  | west => exact List.forall_mem_cons.mpr ⟨rfl, htime _ _⟩

theorem dateText_ne_nil (d : Date) : (dateText d).toList ≠ [] := by
  rw [toList_dateText]
  exact List.append_ne_nil_of_right_ne_nil _ (List.cons_ne_nil _ _)

theorem clockText_ne_nil (t : DateTime) : clockText t ≠ [] :=
  List.append_ne_nil_of_right_ne_nil _ (List.cons_ne_nil _ _)

/-- **An instant starts and ends without blanks**, even if one divides its date from its time. -/
theorem trim_stampText (t : DateTime) (divider : Char) {tail : List Char}
    (htail : ∀ c ∈ tail, Text.isBlank c = false) :
    Text.trim (stampText t divider tail) = stampText t divider tail :=
  Text.trim_of_not_blank_ends (not_blank_dateText t.date) (dateText_ne_nil t.date)
    (List.forall_mem_append.mpr ⟨not_blank_clockText t, htail⟩)
    (List.append_ne_nil_of_left_ne_nil (clockText_ne_nil t) tail) [divider]

end Blanks

end DateReader

/-! ## The written forms -/

namespace DateTime

open DateReader

section Writes

variable {t later : DateTime} {s lead trail : List Char}

/-- The text writes the instant, one on a clock, in one of its forms. -/
inductive Writes : List Char → DateTime → Prop where
  | plain {t : DateTime} {divider : Char} {f : List Char} (hclock : t.IsOnClock)
      (hdivider : divider = 'T' ∨ divider = ' ') (hf : IsFraction f (t.nano % nanosPerSecond)) :
      Writes (stampText t divider f) t
  | zoned {t later : DateTime} {divider : Char} {f z : List Char} {minutes : Int}
      (hclock : later.IsOnClock) (hyear : HasFourDigits later.date.year)
      (hdivider : ['T', 't', ' '].contains divider = true)
      (hf : IsFraction f (later.nano % nanosPerSecond)) (hz : IsZone z minutes)
      (hlater : later.IsLater t minutes) : Writes (stampText later divider (f ++ z)) t
  | bare (d : Date) : Writes (dateText d).toList (midnight d)

theorem Writes.trim_eq (h : Writes s t) : Text.trim s = s := by
  cases h with
  | plain hclock hdivider hf => exact trim_stampText _ _ hf.not_blank
  | zoned hclock hyear hdivider hf hz =>
    exact trim_stampText _ _ (List.forall_mem_append.mpr ⟨hf.not_blank, hz.not_blank⟩)
  | bare d => exact Text.trim_of_not_blank (not_blank_dateText d)

theorem run?_eq_none {step : Step DateTime} (h : step s = none) : run? step s = none := by
  rw [run?, h]
  rfl

theorem run?_eq_some {step : Step DateTime} (h : Reads step s t []) : run? step s = some t := by
  rw [Reads, List.append_nil] at h
  rw [run?, h]
  rfl

/-- **The forms read what is written**: none before the right one takes it. -/
theorem ofText?_of_trim_eq {text : String} (htrim : Text.trim text.toList = s) (h : Writes s t) :
    ofText? text = some t := by
  simp only [ofText?, htrim]
  cases h with
  | @plain _ _ f hclock hdivider hf =>
    -- the strict form finds no zone; before a space the form with a T does not read on either
    rcases hdivider with rfl | rfl
    · rw [run?_eq_none (strict_plain hclock (by decide) hf),
        run?_eq_some (Reads.relaxed hclock hf (.literal 'T'))]
      rfl
    · have hspace : relaxed skip (literal 'T') (stampText t ' ' f) = none :=
        relaxed_eq_none t.date rfl
      rw [run?_eq_none (strict_plain hclock (by decide) hf), run?_eq_none hspace,
        run?_eq_some (Reads.relaxed hclock hf (reads_blanks t))]
      rfl
  | zoned hclock hyear hdivider hf hz hlater =>
    rw [run?, strict_zoned hclock hyear hdivider hf hz hlater]
    rfl
  | bare d =>
    -- no hour follows the date, behind a T or behind blanks
    have hrelaxed {between : Step Unit} (h : (between *> relaxedField) [] = none) :
        run? (relaxed skip between) (dateText d).toList = none := by
      have hnone := relaxed_eq_none d h
      rw [List.append_nil] at hnone
      exact run?_eq_none hnone
    rw [run?_eq_none (strict_bare d), hrelaxed rfl, hrelaxed rfl, run?_eq_some (reads_dateOnly d)]
    rfl

/-- **Every written form is read**, between any blanks. -/
theorem ofText?_of_writes (h : Writes s t) (hlead : Text.IsBlankRun lead)
    (htrail : Text.IsBlankRun trail) : ofText? (String.ofList (lead ++ s ++ trail)) = some t := by
  have htrim : Text.trim (String.ofList (lead ++ s ++ trail)).toList = s := by
    rw [String.toList_ofList, Text.trim_append_append hlead s htrail, h.trim_eq]
  exact ofText?_of_trim_eq htrim h

/-- **A text writes one instant at most**, in whatever form. -/
theorem Writes.unique (h : Writes s t) (h' : Writes s later) : t = later := by
  have hs : Text.trim (String.ofList s).toList = s := by
    rw [String.toList_ofList, h.trim_eq]
  have ht := ofText?_of_trim_eq hs h
  rw [ofText?_of_trim_eq hs h'] at ht
  exact (Option.some.inj ht).symm

/-! ## What a text shows -/

/-- The instant as its text shows it: a leap second that no clock shows is the next second. -/
def carried (t : DateTime) : DateTime :=
  if h : nanosPerSecond ≤ t.nano ∧ t.second ≠ 59 then
    { t with
      second := t.second + 1
      nano := t.nano - nanosPerSecond
      isTime := by
        obtain ⟨hhour, hminute, hsecond, hnano⟩ := t.isTime
        exact ⟨hhour, hminute, by omega, by omega⟩ }
  else t

/-- An instant on a clock is shown as it is. -/
theorem carried_of_isOnClock (h : t.IsOnClock) : t.carried = t :=
  dif_neg fun hleap => hleap.2 (h.2 hleap.1)

theorem isOnClock_carried (t : DateTime) : t.carried.IsOnClock := by
  refine ⟨t.carried.isTime, fun hlate => ?_⟩
  obtain ⟨-, -, -, hnano⟩ := t.isTime
  unfold carried at hlate ⊢
  split_ifs at hlate ⊢ with hleap
  · exact absurd hlate (by dsimp only; omega)
  · by_contra hsecond
    exact hleap ⟨hlate, hsecond⟩

/-- The second and the nanoseconds that are written are those of the instant as it is shown. -/
theorem second_and_nano_carried (t : DateTime) :
    t.carried.second + t.carried.nano / nanosPerSecond = t.second + t.nano / nanosPerSecond ∧
      t.carried.nano % nanosPerSecond = t.nano % nanosPerSecond := by
  unfold carried
  split_ifs with hleap
  · obtain ⟨hlate, -⟩ := hleap
    dsimp only
    unfold nanosPerSecond at *
    omega
  · exact ⟨rfl, rfl⟩

theorem stampText_carried (t : DateTime) (divider : Char) (tail : List Char) :
    stampText t.carried divider tail = stampText t divider tail := by
  have hkept : t.carried.date = t.date ∧ t.carried.hour = t.hour ∧ t.carried.minute = t.minute := by
    unfold carried
    split_ifs <;> exact ⟨rfl, rfl, rfl⟩
  obtain ⟨hdate, hhour, hminute⟩ := hkept
  unfold stampText clockText
  rw [hdate, hhour, hminute, (second_and_nano_carried t).1]

/-- **An instant and the one that it is shown as have the same text.** -/
theorem toIsoText_carried (t : DateTime) : t.carried.toIsoText = t.toIsoText := by
  rw [← String.toList_inj, toList_toIsoText, toList_toIsoText, stampText_carried,
    (second_and_nano_carried t).2]

/-- **Every instant is read back from its full text** as it is shown. -/
theorem ofText?_toIsoText (t : DateTime) : ofText? t.toIsoText = some t.carried := by
  have hwrites : Writes t.carried.toIsoText.toList t.carried := by
    rw [toList_toIsoText]
    exact .plain t.isOnClock_carried (.inl rfl)
      (isFraction_fractionText (Nat.mod_lt _ (by decide)))
  rw [← toIsoText_carried]
  exact ofText?_of_trim_eq hwrites.trim_eq hwrites

/-- The instant without its fraction of a second; the second nanoseconds of a leap second are none
of it. -/
def wholeSecond (t : DateTime) : DateTime where
  __ := t
  nano := t.nano - t.nano % nanosPerSecond
  isTime := by
    obtain ⟨hhour, hminute, hsecond, hnano⟩ := t.isTime
    exact ⟨hhour, hminute, hsecond, by omega⟩

theorem isOnClock_wholeSecond (h : t.IsOnClock) : t.wholeSecond.IsOnClock :=
  ⟨t.wholeSecond.isTime, fun hlate => h.2 (Nat.le_trans hlate (Nat.sub_le _ _))⟩

theorem nano_wholeSecond_mod (t : DateTime) : t.wholeSecond.nano % nanosPerSecond = 0 :=
  Nat.sub_mod_eq_zero_of_mod_eq (Nat.mod_mod _ _).symm

theorem clockText_wholeSecond (t : DateTime) : clockText t.wholeSecond = clockText t := by
  have hsame : t.wholeSecond.nano / nanosPerSecond = t.nano / nanosPerSecond := by
    show (t.nano - t.nano % nanosPerSecond) / nanosPerSecond = _
    unfold nanosPerSecond
    omega
  unfold clockText
  rw [hsame]
  rfl

/-- **The text down to the second is read** as the instant that it shows, without its fraction. -/
theorem ofText?_toText (t : DateTime) : ofText? t.toText = some t.carried.wholeSecond := by
  have hwrites : Writes t.toText.toList t.carried.wholeSecond := by
    have hplain : Writes (stampText t.carried.wholeSecond 'T' []) t.carried.wholeSecond :=
      .plain (isOnClock_wholeSecond t.isOnClock_carried) (.inl rfl)
        (by rw [nano_wholeSecond_mod]; exact .none)
    rw [toList_toText, ← stampText_carried]
    rwa [stampText, clockText_wholeSecond] at hplain
  exact ofText?_of_trim_eq hwrites.trim_eq hwrites

/-- **Dates survive being written**: the text of a filter value gives the date that it shows back
without its fraction of a second, and every form that writes a date, between any blanks, gives it
whole. -/
theorem ofText?_written :
    (∀ t, ofText? (FilterValue.date t).toText = some t.carried.wholeSecond) ∧
      ∀ s t lead trail, Writes s t → Text.IsBlankRun lead → Text.IsBlankRun trail →
        ofText? (String.ofList (lead ++ s ++ trail)) = some t :=
  ⟨ofText?_toText, fun _ _ _ _ hs hlead htrail => ofText?_of_writes hs hlead htrail⟩

/-- Half a second past 23:30 on a leap day in Greenwich, already March five and a half hours to the
east of it. -/
def endOfLeapDay : DateTime := ⟨⟨2024, 2, 29, by decide⟩, 23, 30, 0, 500000000, by decide⟩

/-- The local time of the same instant, in March. -/
def firstOfMarch : DateTime := ⟨⟨2024, 3, 1, by decide⟩, 5, 0, 0, 500000000, by decide⟩

/-- The instant is read from its local time in March, with blanks around it. -/
theorem ofText?_written_across_leap_day :
    Writes "2024-03-01t05:00:00.50+05:30".toList endOfLeapDay ∧
      Text.IsBlankRun ['\t'] ∧ Text.IsBlankRun ['\n'] ∧
      ofText? "\t2024-03-01t05:00:00.50+05:30\n" = some endOfLeapDay ∧
      ofText? (FilterValue.date endOfLeapDay).toText = some endOfLeapDay.wholeSecond := by
  have hlater : firstOfMarch.IsLater endOfLeapDay 330 := ⟨by decide, rfl, rfl⟩
  have hfraction : IsFraction ['.', '5', '0'] (firstOfMarch.nano % nanosPerSecond) :=
    .point (List.all_eq_true.mp rfl) (by decide) (by decide)
  have hzone : IsZone ['+', '0', '5', ':', '3', '0'] 330 :=
    @IsZone.east 5 30 (by decide) (by decide)
  have hstamp : stampText firstOfMarch 't' (['.', '5', '0'] ++ ['+', '0', '5', ':', '3', '0']) =
      "2024-03-01t05:00:00.50+05:30".toList := by decide
  have hwrites : Writes "2024-03-01t05:00:00.50+05:30".toList endOfLeapDay :=
    hstamp ▸ .zoned (by decide) (by decide) (by decide) hfraction hzone hlater
  have hlead : Text.IsBlankRun ['\t'] := by decide
  have htrail : Text.IsBlankRun ['\n'] := by decide
  have hread := ofText?_written.2 _ _ ['\t'] ['\n'] hwrites hlead htrail
  have htext : String.ofList (['\t'] ++ "2024-03-01t05:00:00.50+05:30".toList ++ ['\n']) =
      "\t2024-03-01t05:00:00.50+05:30\n" := rfl
  rw [htext] at hread
  have hshown := ofText?_written.1 endOfLeapDay
  rw [carried_of_isOnClock (by decide)] at hshown
  exact ⟨hwrites, hlead, htrail, hread, hshown⟩

/-- Half a second into a leap second that no clock shows. -/
def leapOffClock : DateTime := ⟨⟨2024, 1, 15, by decide⟩, 10, 0, 30, 1500000000, by decide⟩

/-- A leap second that no clock shows does not survive: its text is that of the next second. -/
theorem exists_ofText?_toText_ne :
    (FilterValue.date leapOffClock).toText = "2024-01-15T10:00:31" ∧
      ofText? (FilterValue.date leapOffClock).toText ≠ some leapOffClock.wholeSecond := by
  refine ⟨by decide, ?_⟩
  rw [FilterValue.toText, ofText?_toText]
  decide

end Writes

end DateTime

end RecordQuery
