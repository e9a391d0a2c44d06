/-! # Calendar dates

Dates of the Gregorian calendar, extended to all years, and their day numbers,
counted from the first of January of year 1. Days are counted through years that
begin in March, so that a leap day is the last day of its year.
-/

namespace DiceLedger

/-- A year, a month and a day; `Date.IsValid` says that the day exists. -/
structure Date where
  year : Int
  month : Nat
  day : Nat
  deriving DecidableEq, Repr

namespace Date

def isLeapYear (year : Int) : Bool :=
  year % 4 = 0 && (year % 100 ≠ 0 || year % 400 = 0)

def daysInMonth (year : Int) (month : Nat) : Nat :=
  if month = 2 then (if isLeapYear year then 29 else 28)
  else if month = 4 || month = 6 || month = 9 || month = 11 then 30
  else 31

/-- The day exists in its month, the month in its year, and the year has one to four
digits. -/
def IsValid (date : Date) : Prop :=
  1 ≤ date.year ∧ date.year ≤ 9999 ∧ 1 ≤ date.month ∧ date.month ≤ 12 ∧
    1 ≤ date.day ∧ date.day ≤ daysInMonth date.year date.month

instance (date : Date) : Decidable date.IsValid :=
  inferInstanceAs (Decidable (_ ∧ _))

/-- The years before this day's year, counted from March to February. -/
def marchYear (date : Date) : Int := if date.month ≤ 2 then date.year - 1 else date.year

/-- The month counted from March as zero. -/
def marchMonth (date : Date) : Nat := if date.month ≤ 2 then date.month + 9 else date.month - 3

/-- Days of a March year before a month of it. -/
def daysBeforeMonth (month : Nat) : Nat := (153 * month + 2) / 5

/-- Days from the first of March of year 0 to the beginning of a March year. -/
def daysBeforeYear (year : Int) : Int := 365 * year + year / 4 - year / 100 + year / 400

/-- Days from the first of March of year 0 to the first of January of year 1. -/
def daysToFirst : Int := 306

/-- Days from the first of January of year 1. -/
def dayNumber (date : Date) : Int :=
  daysBeforeYear date.marchYear + daysBeforeMonth date.marchMonth + date.day - 1 - daysToFirst

/-- The date of a day number, by periods of 400 years. -/
def ofDayNumber (number : Int) : Date :=
  let days := number + daysToFirst
  let period := days / 146097
  let inPeriod := (days % 146097).toNat
  let year := (inPeriod - inPeriod / 1460 + inPeriod / 36524 - inPeriod / 146096) / 365
  let inYear := inPeriod - (365 * year + year / 4 - year / 100)
  let month := (5 * inYear + 2) / 153
  let day := inYear - daysBeforeMonth month + 1
  let marchYear := period * 400 + year
  if month < 10 then ⟨marchYear, month + 3, day⟩ else ⟨marchYear + 1, month - 9, day⟩

end Date

end DiceLedger
