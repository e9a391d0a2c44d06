import DiceLedger.Calendar.Date
import DiceLedger.Text.Digit

/-! # Points in time

A wall time is a date and a time of day with no place on earth, kept as the count of
microseconds since the beginning of year 1; it never leaves the years 1 to 9999. A
timestamp is a wall time together with its distance from universal time, when that
is known. `WallTime.localize` reads a wall time some hours east of universal time,
`Timestamp.ofEpochMillis` counts from the beginning of 1970.
-/

namespace DiceLedger

/-- Microseconds of a minute, of an hour and of a day. -/
def microsPerMinute : Int := 60000000
def microsPerHour : Int := 60 * microsPerMinute
def microsPerDay : Int := 24 * microsPerHour

/-- Microseconds from the beginning of year 1 to the end of year 9999. -/
def microsOfCalendar : Int := 3652059 * microsPerDay

structure WallTime where
  /-- Microseconds since the beginning of year 1. -/
  micros : Int
  nonneg : 0 ≤ micros
  inCalendar : micros < microsOfCalendar
  deriving DecidableEq

namespace WallTime

/-- The wall time of a count of microseconds, if it lies in the calendar. -/
def ofMicros? (micros : Int) : Option WallTime :=
  if held : 0 ≤ micros ∧ micros < microsOfCalendar then some ⟨micros, held.1, held.2⟩ else none

def date (time : WallTime) : Date := Date.ofDayNumber (time.micros / microsPerDay)

def microsOfDay (time : WallTime) : Int := time.micros % microsPerDay

/-- The wall time of a date and a time of day given in microseconds. -/
def ofDate? (date : Date) (microsOfDay : Int) : Option WallTime :=
  if date.IsValid ∧ 0 ≤ microsOfDay ∧ microsOfDay < microsPerDay then
    ofMicros? (date.dayNumber * microsPerDay + microsOfDay)
  else none

def atMinute? (date : Date) (hour minute : Nat) : Option WallTime :=
  if hour < 24 ∧ minute < 60 then
    ofDate? date (hour * microsPerHour + minute * microsPerMinute)
  else none

/-- A number with zeros in front, up to a width. -/
def padded (width n : Nat) : String :=
  let digits := toString n
  "".pushn '0' (width - digits.length) ++ digits

/-- A date as `YYYY-MM-DD`. -/
def displayDate (date : Date) : String :=
  padded 4 date.year.toNat ++ "-" ++ padded 2 date.month ++ "-" ++ padded 2 date.day

/-- Microseconds since midnight as `HH:MM:SS`, with six digits of a second's fraction
unless it is zero. -/
def displayClock (micros : Nat) : String :=
  let seconds := micros / 1000000
  let fraction := micros % 1000000
  padded 2 (seconds / 3600) ++ ":" ++ padded 2 (seconds / 60 % 60) ++ ":" ++
    padded 2 (seconds % 60) ++ (if fraction = 0 then "" else "." ++ padded 6 fraction)

/-- The form `YYYY-MM-DDTHH:MM:SS`, with six digits of a second's fraction unless it
is zero. -/
def display (time : WallTime) : String :=
  displayDate time.date ++ "T" ++ displayClock time.microsOfDay.toNat

end WallTime

/-- A distance from universal time, in minutes east of it and less than a day. -/
structure UtcOffset where
  minutes : Int
  withinDay : -1440 < minutes ∧ minutes < 1440
  deriving DecidableEq

instance : OfNat UtcOffset 0 := ⟨⟨0, by decide⟩⟩

structure Timestamp where
  wall : WallTime
  offset : Option UtcOffset
  deriving DecidableEq

namespace Timestamp

/-- The distance from universal time as `+HH:MM`. -/
def displayOffset (offset : UtcOffset) : String :=
  let size := offset.minutes.natAbs
  (if offset.minutes < 0 then "-" else "+") ++ WallTime.padded 2 (size / 60) ++ ":" ++
    WallTime.padded 2 (size % 60)

def display (time : Timestamp) : String :=
  time.wall.display ++ (time.offset.map displayOffset).getD ""

def universal (wall : WallTime) : Timestamp := ⟨wall, some 0⟩

/-- A later timestamp at the same distance from universal time, if the calendar still
holds it. -/
def later? (time : Timestamp) (micros : Int) : Option Timestamp :=
  (WallTime.ofMicros? (time.wall.micros + micros)).map (⟨·, time.offset⟩)

end Timestamp

/-- Why a wall time has no place in universal time. -/
inductive LocalizeFault where
  /-- The offset is longer than any span of time. -/
  | spanTooLong
  /-- The offset is a day or more. -/
  | offsetTooLong
  | outsideCalendar
  deriving DecidableEq, Repr

def maxSpanDays : Int := 999999999

/-- The universal time of a wall time that many hours east of it; no offset counts as
none. -/
def WallTime.localize (time : WallTime) (offset : Option Int) : Except LocalizeFault Timestamp :=
  let hours := offset.getD 0
  if hours / 24 < -maxSpanDays ∨ maxSpanDays < hours / 24 then .error .spanTooLong
  else if hours ≤ -24 ∨ 24 ≤ hours then .error .offsetTooLong
  else
    match WallTime.ofMicros? (time.micros - hours * microsPerHour) with
    | some wall => .ok (.universal wall)
    | none => .error .outsideCalendar

/-- Why a count of milliseconds since 1970 has no timestamp. -/
inductive EpochFault where
  /-- The seconds do not fit 64 bits. -/
  | secondsTooMany
  /-- The year does not fit 32 bits. -/
  | yearTooFar
  /-- The year is not one to 9999. -/
  | outsideCalendar
  deriving DecidableEq, Repr

/-- The day number of the first of January 1970. -/
def epochDay : Int := 719162

/-- The universal time that many milliseconds after the beginning of 1970. -/
def Timestamp.ofEpochMillis (millis : Int) : Except EpochFault Timestamp :=
  let seconds := millis / 1000
  if seconds < -9223372036854775808 ∨ 9223372036854775808 ≤ seconds then .error .secondsTooMany
  else
    let sinceYear1900 := (Date.ofDayNumber (seconds / 86400 + epochDay)).year - 1900
    if sinceYear1900 < -2147483648 ∨ 2147483648 ≤ sinceYear1900 then .error .yearTooFar
    else
      match WallTime.ofMicros? (millis * 1000 + epochDay * microsPerDay) with
      | some wall => .ok (.universal wall)
      | none => .error .outsideCalendar

namespace Timestamp

/-- The number that a run of exactly `width` plain digits writes, and what follows. -/
def takeNumber? (width : Nat) (text : List Char) : Option (Nat × List Char) :=
  let digits := text.take width
  if digits.length = width && digits.all Char.isDigit then
    some (Text.valueOfDigits digits, text.drop width)
  else none

/-- A number of two digits after a given mark. -/
def takeMarked? (mark : Char) : List Char → Option (Nat × List Char)
  | c :: rest => if c = mark then takeNumber? 2 rest else none
  | [] => none

/-- The offset of so many minutes, when it is less than a day. -/
def offsetOf? (minutes : Int) : Option UtcOffset :=
  if within : -1440 < minutes ∧ minutes < 1440 then some ⟨minutes, within⟩ else none

/-- The distance from universal time at the end of a written timestamp. -/
def readOffset? : List Char → Option (Option UtcOffset)
  | [] => some none
  | sign :: rest => do
    let (hours, rest) ← takeNumber? 2 rest
    let (minutes, rest) ← takeMarked? ':' rest
    let size : Int := hours * 60 + minutes
    if !rest.isEmpty then none
    else if sign = '+' then (offsetOf? size).map some
    else if sign = '-' then (offsetOf? (-size)).map some
    else none

/-- The fraction of a second and what follows it; a whole second is written without one. -/
def readFraction? : List Char → Option (Nat × List Char)
  | '.' :: rest => takeNumber? 6 rest
  | rest => some (0, rest)

/-- The date at the beginning of a written timestamp, and what follows it. -/
def readDate? (text : List Char) : Option (Date × List Char) := do
  let (year, rest) ← takeNumber? 4 text
  let (month, rest) ← takeMarked? '-' rest
  let (day, rest) ← takeMarked? '-' rest
  some (⟨year, month, day⟩, rest)

/-- The microseconds since midnight after the date of a written timestamp, and what follows
them. -/
def readClock? (text : List Char) : Option (Int × List Char) := do
  let (hour, rest) ← takeMarked? 'T' text
  let (minute, rest) ← takeMarked? ':' rest
  let (second, rest) ← takeMarked? ':' rest
  let (fraction, rest) ← readFraction? rest
  if hour < 24 ∧ minute < 60 ∧ second < 60 then
    some (((((hour * 60 + minute) * 60 + second) * 1000000 + fraction : Nat) : Int), rest)
  else none

/-- Reads back what `display` writes. -/
def ofText? (text : String) : Option Timestamp := do
  let (date, rest) ← readDate? text.toList
  let (micros, rest) ← readClock? rest
  let offset ← readOffset? rest
  let wall ← WallTime.ofDate? date micros
  some ⟨wall, offset⟩

end Timestamp

end DiceLedger
