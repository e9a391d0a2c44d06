import DiceLedger.Calendar.Date
import Mathlib.Tactic.IntervalCases

/-! # Days and their numbers

Every day number has a date, and that date has the number
(`DiceLedger.Date.dayNumber_ofDayNumber`). From year 1 to year 9999 the date is one that
exists (`DiceLedger.Date.isValid_ofDayNumber`).

A period of 400 years is cut into centuries, cycles of four years and years, all of which
begin in March, so that only the last part of a larger one may be a day longer or shorter
than the others.
-/

namespace DiceLedger

namespace Date

/-- A day of a period of 400 years by century, cycle, year and day of the year. -/
structure PartsOfPeriod (days century cycle year day : Nat) : Prop where
  century_lt : century < 4
  cycle_lt : cycle < 25
  year_lt : year < 4
  day_le : day ≤ 365
  sum : days = 36524 * century + 1461 * cycle + 365 * year + day
  leap : day = 365 → year = 3 ∧ (cycle = 24 → century = 3)

/-- The days of a period are divided into centuries, cycles, years and days. -/
theorem exists_partsOfPeriod (days : Nat) (inPeriod : days < 146097) :
    ∃ century cycle year day, PartsOfPeriod days century cycle year day := by
  -- The fourth century is a day longer, and so is the fourth year of a cycle: the last day
  -- of either would count as a fifth, hence the bounds.
  obtain ⟨century, inCentury, century_lt, split, short⟩ : ∃ century inCentury,
      century < 4 ∧ days = 36524 * century + inCentury ∧
        (inCentury < 36524 ∨ inCentury = 36524 ∧ century = 3) :=
    ⟨min (days / 36524) 3, days - 36524 * min (days / 36524) 3, by omega, by omega, by omega⟩
  obtain ⟨year, day, year_lt, day_le, splitYear, leap⟩ : ∃ year day,
      year < 4 ∧ day ≤ 365 ∧ inCentury % 1461 = 365 * year + day ∧ (day = 365 → year = 3) :=
    ⟨min (inCentury % 1461 / 365) 3,
      inCentury % 1461 - 365 * min (inCentury % 1461 / 365) 3,
      by omega, by omega, by omega, by omega⟩
  exact ⟨century, inCentury / 1461, year, day, century_lt, by omega, year_lt, day_le, by omega,
    by omega⟩

/-- The estimate of the year takes back one day for every leap day before it. -/
theorem PartsOfPeriod.year_eq {days century cycle year day : Nat}
    (parts : PartsOfPeriod days century cycle year day) :
    (days - days / 1460 + days / 36524 - days / 146096) / 365 =
      100 * century + 4 * cycle + year := by
  obtain ⟨century_lt, cycle_lt, year_lt, day_le, sum, leap⟩ := parts
  -- A quotient counts the leap days of one kind before this day, and is one ahead at the end
  -- of a period of that kind.
  have byCycles : days / 1460 =
      25 * century + cycle + (if 1460 ≤ 24 * century + cycle + 365 * year + day then 1 else 0) := by
    split <;> omega
  have byCenturies : days / 36524 =
      century + (if century = 3 ∧ cycle = 24 ∧ year = 3 ∧ day = 365 then 1 else 0) := by
    split <;> omega
  have byPeriods : days / 146096 =
      (if century = 3 ∧ cycle = 24 ∧ year = 3 ∧ day = 365 then 1 else 0) := by
    split <;> omega
  rw [byCycles, byCenturies, byPeriods]
  split <;> split <;> omega

/-- The day of a year is what is left of the days without those of the years before. -/
theorem PartsOfPeriod.day_eq {days century cycle year day : Nat}
    (parts : PartsOfPeriod days century cycle year day) :
    days - (365 * (100 * century + 4 * cycle + year) + (100 * century + 4 * cycle + year) / 4 -
      (100 * century + 4 * cycle + year) / 100) = day := by
  obtain ⟨century_lt, cycle_lt, year_lt, day_le, sum, leap⟩ := parts
  have cycles : (100 * century + 4 * cycle + year) / 4 = 25 * century + cycle := by omega
  have centuries : (100 * century + 4 * cycle + year) / 100 = century := by omega
  rw [cycles, centuries]
  omega

/-- The days before a year and the day in it make up the days of the periods and those of the last
one. -/
theorem PartsOfPeriod.daysBeforeYear_eq {days century cycle year day : Nat}
    (parts : PartsOfPeriod days century cycle year day) (period : Int) :
    daysBeforeYear (400 * period + (100 * century + 4 * cycle + year)) + day =
      146097 * period + days := by
  obtain ⟨century_lt, cycle_lt, year_lt, day_le, sum, leap⟩ := parts
  have cycles : (400 * period + (100 * century + 4 * cycle + year)) / 4 =
      100 * period + 25 * century + cycle := by omega
  have centuries : (400 * period + (100 * century + 4 * cycle + year)) / 100 =
      4 * period + century := by omega
  have periods : (400 * period + (100 * century + 4 * cycle + year)) / 400 = period := by omega
  rw [daysBeforeYear, cycles, centuries, periods, sum]
  push_cast
  omega

/-- A year from March on has 366 days only when February of the next year has 29. -/
theorem PartsOfPeriod.isLeapYear {days century cycle year day : Nat}
    (parts : PartsOfPeriod days century cycle year day) (last : day = 365) (period : Int) :
    isLeapYear (400 * period + (100 * century + 4 * cycle + year) + 1) = true := by
  obtain ⟨century_lt, cycle_lt, -, -, -, leap⟩ := parts
  obtain ⟨rfl, lastCycle⟩ := leap last
  have fourth : (400 * period + (100 * century + 4 * cycle + (3 : Nat)) + 1) % 4 = 0 := by omega
  simp only [Date.isLeapYear, Bool.and_eq_true, Bool.or_eq_true, decide_eq_true_eq]
  refine ⟨fourth, ?_⟩
  by_cases final : cycle = 24
  · right
    have lastCentury := lastCycle final
    omega
  · left
    omega

/-- The month of a day of a year that begins in March, and the day in that month. -/
def ofMarchYear (marchYear : Int) (inYear : Nat) : Date :=
  let month := (5 * inYear + 2) / 153
  let day := inYear - daysBeforeMonth month + 1
  if month < 10 then ⟨marchYear, month + 3, day⟩ else ⟨marchYear + 1, month - 9, day⟩

/-- A day number is a day of a year that begins in March. -/
theorem exists_ofDayNumber_eq (number : Int) :
    ∃ (marchYear : Int) (inYear : Nat), ofDayNumber number = ofMarchYear marchYear inYear ∧
      daysBeforeYear marchYear + inYear = number + daysToFirst ∧ inYear ≤ 365 ∧
      (inYear = 365 → isLeapYear (marchYear + 1) = true) := by
  have whole : 146097 * ((number + daysToFirst) / 146097) +
      ((number + daysToFirst) % 146097).toNat = number + daysToFirst := by omega
  obtain ⟨century, cycle, year, day, parts⟩ :=
    exists_partsOfPeriod ((number + daysToFirst) % 146097).toNat (by omega)
  refine ⟨400 * ((number + daysToFirst) / 146097) + (100 * century + 4 * cycle + year), day, ?_,
    ?_, parts.day_le, fun last => parts.isLeapYear last _⟩
  · simp only [ofDayNumber, ofMarchYear, parts.year_eq, parts.day_eq]
    push_cast
    rw [Int.mul_comm 400]
  · rw [parts.daysBeforeYear_eq, whole]

/-- A day of a year that begins in March has its number. -/
theorem dayNumber_ofMarchYear (marchYear : Int) {inYear : Nat} (inYear_le : inYear ≤ 365) :
    (ofMarchYear marchYear inYear).dayNumber = daysBeforeYear marchYear + inYear - daysToFirst := by
  have before : daysBeforeMonth ((5 * inYear + 2) / 153) ≤ inYear := by
    unfold daysBeforeMonth
    omega
  by_cases early : (5 * inYear + 2) / 153 < 10
  · have march : ¬ (5 * inYear + 2) / 153 + 3 ≤ 2 := by omega
    simp only [ofMarchYear, early, ↓reduceIte, dayNumber, Date.marchYear, marchMonth, march,
      Nat.add_sub_cancel]
    omega
  · have march : (5 * inYear + 2) / 153 - 9 ≤ 2 := by omega
    have back : (5 * inYear + 2) / 153 - 9 + 9 = (5 * inYear + 2) / 153 := by omega
    simp only [ofMarchYear, early, ↓reduceIte, dayNumber, Date.marchYear, marchMonth, march, back,
      Int.add_sub_cancel]
    omega

/-- The date of a day number has that number. -/
theorem dayNumber_ofDayNumber (number : Int) : (ofDayNumber number).dayNumber = number := by
  obtain ⟨marchYear, inYear, date, sum, inYear_le, -⟩ := exists_ofDayNumber_eq number
  rw [date, dayNumber_ofMarchYear marchYear inYear_le, sum]
  omega

/-- The day of a month is one of its days, and from March on the year is the next one in
January and February only. -/
theorem ofMarchYear_inMonth (marchYear : Int) {inYear : Nat} (inYear_le : inYear ≤ 365)
    (leap : inYear = 365 → isLeapYear (marchYear + 1) = true) :
    1 ≤ (ofMarchYear marchYear inYear).month ∧ (ofMarchYear marchYear inYear).month ≤ 12 ∧
      1 ≤ (ofMarchYear marchYear inYear).day ∧
      (ofMarchYear marchYear inYear).day ≤
        daysInMonth (ofMarchYear marchYear inYear).year (ofMarchYear marchYear inYear).month := by
  have month_lt : (5 * inYear + 2) / 153 < 12 := by omega
  unfold ofMarchYear daysBeforeMonth
  generalize month_eq : (5 * inYear + 2) / 153 = month at month_lt
  by_cases early : month < 10
  · simp only [early, ↓reduceIte]
    refine ⟨by omega, by omega, by omega, ?_⟩
    interval_cases month <;> simp [daysInMonth] <;> omega
  · simp only [early, ↓reduceIte]
    refine ⟨by omega, by omega, by omega, ?_⟩
    obtain rfl | rfl : month = 10 ∨ month = 11 := by omega
    · simp [daysInMonth]
      omega
    · by_cases lastDay : inYear = 365
      · simp [daysInMonth, leap lastDay, lastDay]
      · simp only [daysInMonth]
        split <;> split <;> omega

/-- No month is longer than 31 days. -/
theorem daysInMonth_le (year : Int) (month : Nat) : daysInMonth year month ≤ 31 := by
  unfold daysInMonth
  split <;> split <;> omega

/-- No date is later than the 31st. -/
theorem IsValid.day_le {date : Date} (valid : date.IsValid) : date.day ≤ 31 :=
  Nat.le_trans valid.2.2.2.2.2 (daysInMonth_le date.year date.month)

/-- The date of a day of the years 1 to 9999 exists. -/
theorem isValid_ofDayNumber {number : Int} (first : 0 ≤ number) (last : number < 3652059) :
    (ofDayNumber number).IsValid := by
  obtain ⟨marchYear, inYear, date, sum, inYear_le, leap⟩ := exists_ofDayNumber_eq number
  obtain ⟨month_ge, month_le, day_ge, day_le⟩ := ofMarchYear_inMonth marchYear inYear_le leap
  have years : 1 ≤ (ofMarchYear marchYear inYear).year ∧
      (ofMarchYear marchYear inYear).year ≤ 9999 := by
    simp only [daysBeforeYear, daysToFirst] at sum
    unfold ofMarchYear
    by_cases early : (5 * inYear + 2) / 153 < 10
    · simp only [early, ↓reduceIte]
      omega
    · simp only [early, ↓reduceIte]
      omega
  rw [date]
  exact ⟨years.1, years.2, month_ge, month_le, day_ge, day_le⟩

end Date

end DiceLedger
