import DiceLedger.Proofs.Calendar.Local
import DiceLedger.Proofs.Calendar.Written
import Mathlib.Data.List.Lex

/-! # Times as calendars and clocks show them

The number of a day is worked out from years that begin in March. Counted through the
calendar, year by year and month by month, it is the same
(`DiceLedger.Date.countedDays_eq_dayNumber`). So the microseconds that a wall time is kept as
are those that pass before what a calendar and a clock show of it
(`DiceLedger.WallTime.countedMicros_civil`), everything that they can show is shown by one wall
time (`DiceLedger.WallTime.exists_civil_eq`), and to be earlier is to show less, the year first
and the microsecond last (`DiceLedger.CivilTime.countedMicros_lt_iff`).
-/

namespace DiceLedger

namespace Date

/-- The days of the first so many months of a year. -/
def daysOfMonths (year : Int) : Nat → Nat
  | 0 => 0
  | month + 1 => daysOfMonths year month + daysInMonth year (month + 1)

/-- The days of the first so many years. -/
def daysOfYears : Nat → Nat
  | 0 => 0
  | year + 1 => daysOfYears year + daysOfMonths (year + 1) 12

/-- The days before a date, counted through all the years and months before it. -/
def countedDays (date : Date) : Nat :=
  daysOfYears (date.year.toNat - 1) + daysOfMonths date.year (date.month - 1) + (date.day - 1)

/-- The months of a year have 365 days, and 366 in a leap year. -/
theorem daysOfMonths_twelve (year : Int) :
    daysOfMonths year 12 = if isLeapYear year then 366 else 365 := by
  cases leap : isLeapYear year <;> simp [daysOfMonths, daysInMonth, leap]

/-- From one March to the next a year has the days of the calendar year that it ends in. -/
theorem daysBeforeYear_add_one (year : Int) :
    daysBeforeYear (year + 1) = daysBeforeYear year + daysOfMonths (year + 1) 12 := by
  rw [daysOfMonths_twelve]
  simp only [daysBeforeYear, isLeapYear, Bool.and_eq_true, Bool.or_eq_true, decide_eq_true_eq]
  split <;> omega

/-- Counted year by year, the days before a year are those of the formula. -/
theorem daysOfYears_eq (years : Nat) : (daysOfYears years : Int) = daysBeforeYear years := by
  induction years with
  | zero => rfl
  | succ years ih =>
      rw [daysOfYears, Int.natCast_add, ih, Int.natCast_add, Int.natCast_one,
        daysBeforeYear_add_one]

/-- The months before a date, counted from January and from March. -/
theorem daysOfMonths_eq {date : Date} (first : 1 ≤ date.month) (last : date.month ≤ 12) :
    daysBeforeYear (date.year - 1) + daysOfMonths date.year (date.month - 1) =
      daysBeforeYear date.marchYear + daysBeforeMonth date.marchMonth - daysToFirst := by
  obtain ⟨year, month, day⟩ := date
  have step := daysBeforeYear_add_one (year - 1)
  rw [Int.sub_add_cancel, daysOfMonths_twelve] at step
  dsimp only at first last ⊢
  interval_cases month <;>
    cases leap : isLeapYear year <;>
    simp [daysOfMonths, daysInMonth, marchYear, marchMonth, daysBeforeMonth, daysToFirst, leap]
      at step ⊢ <;>
    omega

/-- The number of a day is the number of days before it. -/
theorem countedDays_eq_dayNumber {date : Date} (valid : date.IsValid) :
    (date.countedDays : Int) = date.dayNumber := by
  obtain ⟨year_ge, -, month_ge, month_le, day_ge, -⟩ := valid
  have months := daysOfMonths_eq month_ge month_le
  have years := daysOfYears_eq (date.year.toNat - 1)
  rw [show ((date.year.toNat - 1 : Nat) : Int) = date.year - 1 by omega] at years
  simp only [countedDays, dayNumber]
  omega

/-- More months have no fewer days. -/
theorem daysOfMonths_mono (year : Int) {fewer months : Nat} (le : fewer ≤ months) :
    daysOfMonths year fewer ≤ daysOfMonths year months := by
  induction le with
  | refl => exact Nat.le_refl _
  | step _ ih => exact Nat.le_trans ih (Nat.le_add_right _ _)

theorem daysOfYears_mono {fewer years : Nat} (le : fewer ≤ years) :
    daysOfYears fewer ≤ daysOfYears years := by
  induction le with
  | refl => exact Nat.le_refl _
  | step _ ih => exact Nat.le_trans ih (Nat.le_add_right _ _)

/-- A day of a month comes before the end of the month. -/
theorem IsValid.lt_daysOfMonths {date : Date} (valid : date.IsValid) :
    daysOfMonths date.year (date.month - 1) + (date.day - 1) <
      daysOfMonths date.year date.month := by
  obtain ⟨-, -, month_ge, -, day_ge, day_le⟩ := valid
  obtain ⟨before, month⟩ := Nat.exists_eq_add_of_le' month_ge
  rw [month] at day_le ⊢
  rw [daysOfMonths, Nat.add_sub_cancel]
  omega

/-- A day of a year comes before the end of the year. -/
theorem IsValid.lt_daysOfYears {date : Date} (valid : date.IsValid) :
    date.countedDays < daysOfYears date.year.toNat := by
  have inMonth := valid.lt_daysOfMonths
  obtain ⟨year_ge, -, -, month_le, -, -⟩ := valid
  have inYear := daysOfMonths_mono date.year month_le
  obtain ⟨before, year⟩ : ∃ before : Nat, date.year = (before + 1 : Nat) :=
    ⟨date.year.toNat - 1, by omega⟩
  have whole : daysOfYears date.year.toNat = daysOfYears before + daysOfMonths date.year 12 := by
    rw [year]
    rfl
  rw [whole, countedDays, show date.year.toNat - 1 = before by omega]
  omega

/-- What a calendar shows, the year first. -/
def fields (date : Date) : List Int := [date.year, date.month, date.day]

/-- A date that shows less comes earlier. -/
theorem countedDays_lt {first second : Date} (firstValid : first.IsValid)
    (secondValid : second.IsValid) (less : first.fields < second.fields) :
    first.countedDays < second.countedDays := by
  have inYear := firstValid.lt_daysOfYears
  have inMonth := firstValid.lt_daysOfMonths
  obtain ⟨firstYear, -, firstMonth, -, firstDay, -⟩ := firstValid
  obtain ⟨secondYear, -, secondMonth, -, secondDay, -⟩ := secondValid
  simp only [fields, List.cons_lt_cons_iff, List.lt_irrefl, and_false, or_false] at less
  rcases less with year | ⟨year, month | ⟨month, day⟩⟩
  · have later := daysOfYears_mono (show first.year.toNat ≤ second.year.toNat - 1 by omega)
    rw [countedDays.eq_def second]
    omega
  · have later := daysOfMonths_mono first.year (show first.month ≤ second.month - 1 by omega)
    simp only [countedDays, year] at later inMonth ⊢
    omega
  · simp only [countedDays, year, Int.natCast_inj.mp month]
    omega

theorem eq_of_fields_eq {first second : Date} (same : first.fields = second.fields) :
    first = second := by
  cases first
  cases second
  simpa [fields] using same

/-- Dates of the calendar with the same days before them are the same. -/
theorem eq_of_countedDays_eq {first second : Date} (firstValid : first.IsValid)
    (secondValid : second.IsValid) (same : first.countedDays = second.countedDays) :
    first = second := by
  rcases lt_trichotomy first.fields second.fields with earlier | shown | later
  · exact absurd same (Nat.ne_of_lt (countedDays_lt firstValid secondValid earlier))
  · exact eq_of_fields_eq shown
  · exact absurd same.symm (Nat.ne_of_lt (countedDays_lt secondValid firstValid later))

/-- The calendar ends with its last day. -/
theorem IsValid.countedDays_lt {date : Date} (valid : date.IsValid) :
    date.countedDays < 3652059 := by
  have inYear := valid.lt_daysOfYears
  obtain ⟨-, year_le, -⟩ := valid
  have inCalendar := daysOfYears_mono (show date.year.toNat ≤ 9999 by omega)
  have whole := daysOfYears_eq 9999
  rw [show daysBeforeYear (9999 : Nat) = 3652059 by decide] at whole
  omega

/-- A date that exists is the date of its number. -/
theorem ofDayNumber_dayNumber {date : Date} (valid : date.IsValid) :
    ofDayNumber date.dayNumber = date := by
  have counted := countedDays_eq_dayNumber valid
  have bounded := valid.countedDays_lt
  have found : (ofDayNumber date.dayNumber).IsValid := isValid_ofDayNumber (by omega) (by omega)
  refine eq_of_countedDays_eq found valid (Int.natCast_inj.mp ?_)
  rw [countedDays_eq_dayNumber found, dayNumber_ofDayNumber, counted]

end Date

/-- What a calendar and a clock show of a time. -/
structure CivilTime where
  date : Date
  hour : Nat
  minute : Nat
  second : Nat
  micro : Nat
  deriving DecidableEq, Repr

namespace CivilTime

/-- The date exists, and so does the time of day. -/
structure IsValid (time : CivilTime) : Prop where
  date : time.date.IsValid
  hour : time.hour < 24
  minute : time.minute < 60
  second : time.second < 60
  micro : time.micro < 1000000

/-- The microseconds before a time since the beginning of year 1, counted through the
calendar. -/
def countedMicros (time : CivilTime) : Int :=
  ((((time.date.countedDays * 24 + time.hour) * 60 + time.minute) * 60 + time.second) * 1000000 +
    time.micro : Nat)

/-- What is shown, the year first and the microsecond last. -/
def fields (time : CivilTime) : List Int :=
  time.date.fields ++ [(time.hour : Int), time.minute, time.second, time.micro]

theorem eq_of_fields_eq {former latter : CivilTime} (same : former.fields = latter.fields) :
    former = latter := by
  obtain ⟨⟨_, _, _⟩, _, _, _, _⟩ := former
  obtain ⟨⟨_, _, _⟩, _, _, _, _⟩ := latter
  simpa [fields, Date.fields, and_assoc] using same

section Order

variable {former latter : CivilTime} (formerValid : former.IsValid) (latterValid : latter.IsValid)

include formerValid latterValid

/-- A time that shows less comes earlier. -/
theorem countedMicros_lt (less : former.fields < latter.fields) :
    former.countedMicros < latter.countedMicros := by
  obtain ⟨dateValid, hour, minute, second, micro⟩ := formerValid
  simp only [fields, Date.fields, List.cons_append, List.nil_append, List.cons_lt_cons_iff,
    List.lt_irrefl, and_false, or_false] at less
  have byDate (date : former.date.fields < latter.date.fields) :
      former.countedMicros < latter.countedMicros := by
    have days := Date.countedDays_lt dateValid latterValid.date date
    simp only [countedMicros]
    omega
  rcases less with year | ⟨year, month | ⟨month, day | ⟨day, clock⟩⟩⟩
  · exact byDate (by simp [Date.fields, List.cons_lt_cons_iff, year])
  · exact byDate (by simp [Date.fields, List.cons_lt_cons_iff, year, Int.ofNat_lt.mp month])
  · exact byDate (by simp [Date.fields, List.cons_lt_cons_iff, year, month, Int.ofNat_lt.mp day])
  · have date : former.date.countedDays = latter.date.countedDays := by
      simp only [Date.countedDays, year, Int.natCast_inj.mp month, Int.natCast_inj.mp day]
    simp only [countedMicros]
    omega

/-- To be earlier is to show less, the year first and the microsecond last. -/
theorem countedMicros_lt_iff :
    former.countedMicros < latter.countedMicros ↔ former.fields < latter.fields := by
  refine ⟨fun less => ?_, countedMicros_lt formerValid latterValid⟩
  rcases lt_trichotomy former.fields latter.fields with earlier | same | later
  · exact earlier
  · rw [eq_of_fields_eq same] at less
    exact absurd less (Int.lt_irrefl _)
  · exact absurd (countedMicros_lt latterValid formerValid later) (lt_asymm less)

/-- Times with as many microseconds before them show the same. -/
theorem eq_of_countedMicros_eq (same : former.countedMicros = latter.countedMicros) :
    former = latter := by
  rcases lt_trichotomy former.fields latter.fields with earlier | shown | later
  · exact absurd same (Int.ne_of_lt (countedMicros_lt formerValid latterValid earlier))
  · exact eq_of_fields_eq shown
  · exact absurd same.symm (Int.ne_of_lt (countedMicros_lt latterValid formerValid later))

end Order

/-- What a calendar and a clock can show lies within the calendar. -/
theorem IsValid.countedMicros_bounds {shown : CivilTime} (valid : shown.IsValid) :
    0 ≤ shown.countedMicros ∧ shown.countedMicros < microsOfCalendar := by
  obtain ⟨date, hour, minute, second, micro⟩ := valid
  have days := date.countedDays_lt
  simp only [countedMicros, microsOfCalendar, microsPerDay, microsPerHour, microsPerMinute]
  omega

end CivilTime

namespace WallTime

/-- What a calendar and a clock show of a wall time. -/
def civil (time : WallTime) : CivilTime where
  date := time.date
  hour := (time.microsOfDay / microsPerHour).toNat
  minute := (time.microsOfDay / microsPerMinute % 60).toNat
  second := (time.microsOfDay / 1000000 % 60).toNat
  micro := (time.microsOfDay % 1000000).toNat

/-- The time of day is less than a day. -/
theorem microsOfDay_bounds (time : WallTime) :
    0 ≤ time.microsOfDay ∧ time.microsOfDay < microsPerDay :=
  ⟨Int.emod_nonneg _ (by decide), Int.emod_lt_of_pos _ (by decide)⟩

/-- What a wall time shows is a date and a time of day. -/
theorem civil_isValid (time : WallTime) : time.civil.IsValid := by
  have bounds := time.microsOfDay_bounds
  simp only [microsPerDay, microsPerHour, microsPerMinute] at bounds
  refine ⟨time.date_isValid, ?_, ?_, ?_, ?_⟩ <;>
    simp only [civil, microsPerHour, microsPerMinute] <;>
    omega

/-- The microseconds of a day are its hours, minutes, seconds and microseconds. -/
theorem microsOfDay_eq (time : WallTime) :
    time.microsOfDay =
      (((time.civil.hour * 60 + time.civil.minute) * 60 + time.civil.second) * 1000000 +
        time.civil.micro : Nat) := by
  have bounds := time.microsOfDay_bounds
  simp only [civil, microsPerDay, microsPerHour, microsPerMinute] at bounds ⊢
  omega

/-- The microseconds that a wall time is kept as are those that the calendar counts. -/
theorem countedMicros_civil (time : WallTime) : time.civil.countedMicros = time.micros := by
  have days : (time.civil.date.countedDays : Int) = time.micros / microsPerDay :=
    (Date.countedDays_eq_dayNumber time.date_isValid).trans (Date.dayNumber_ofDayNumber _)
  have whole := Int.mul_ediv_add_emod time.micros microsPerDay
  have clock := time.microsOfDay_eq
  rw [← days] at whole
  simp only [CivilTime.countedMicros, microsOfDay, microsPerDay, microsPerHour,
    microsPerMinute] at *
  omega

/-- Whatever calendar and clock can show, one wall time shows. -/
theorem exists_civil_eq {shown : CivilTime} (valid : shown.IsValid) :
    ∃ time : WallTime, time.civil = shown := by
  obtain ⟨nonneg, inCalendar⟩ := valid.countedMicros_bounds
  refine ⟨⟨shown.countedMicros, nonneg, inCalendar⟩, ?_⟩
  exact CivilTime.eq_of_countedMicros_eq (civil_isValid _) valid (countedMicros_civil _)

/-- A date and a time of day make the wall time that has them. -/
theorem ofDate?_eq_some_iff {date : Date} {microsOfDay : Int} {time : WallTime} :
    ofDate? date microsOfDay = some time ↔
      time.date = date ∧ time.microsOfDay = microsOfDay := by
  constructor
  · intro made
    have day := dayNumber_of_ofDate?_eq made
    unfold ofDate? at made
    split at made
    · next held =>
      rw [ofMicros?_eq_some_iff] at made
      obtain ⟨valid, nonneg, inDay⟩ := held
      have date : time.date = date := by
        rw [← Date.ofDayNumber_dayNumber valid, ← day]
        rfl
      refine ⟨date, ?_⟩
      rw [WallTime.microsOfDay, made, Int.add_comm, Int.add_mul_emod_self_right,
        Int.emod_eq_of_lt nonneg inDay]
    · cases made
  · rintro ⟨rfl, rfl⟩
    exact ofDate?_date time

/-- A date, an hour and a minute make the wall time that shows them. -/
theorem atMinute?_eq_some_iff {date : Date} {hour minute : Nat} {time : WallTime} :
    atMinute? date hour minute = some time ↔ time.civil = ⟨date, hour, minute, 0, 0⟩ := by
  have bounds := time.microsOfDay_bounds
  unfold atMinute?
  split
  · next held =>
    rw [ofDate?_eq_some_iff, CivilTime.mk.injEq]
    refine and_congr_right fun _ => ?_
    simp only [civil, microsPerDay, microsPerHour, microsPerMinute] at bounds ⊢
    omega
  · next beyond =>
    refine iff_of_false (Option.some_ne_none time).symm fun shown => ?_
    have valid := time.civil_isValid
    rw [shown] at valid
    exact beyond ⟨valid.hour, valid.minute⟩

end WallTime

end DiceLedger
