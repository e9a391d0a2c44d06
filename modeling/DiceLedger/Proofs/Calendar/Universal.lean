import DiceLedger.Proofs.Calendar.Counting

/-! # Conversion to universal time

Both conversions are exact as long as the calendar holds the result, and fail otherwise. A count
of milliseconds since 1970 becomes the date and time of day that the calendar counts as many
milliseconds after it (`DiceLedger.Timestamp.ofEpochMillis_exact`), and a wall time read some
hours east of universal time becomes the one so many hours before it
(`DiceLedger.WallTime.localize_exact`). Both keep the order of times.
-/

namespace DiceLedger

namespace CivilTime

/-- The first moment of a year. -/
def beginningOf (year : Int) : CivilTime := ⟨⟨year, 1, 1⟩, 0, 0, 0, 0⟩

/-- The microseconds from the beginning of 1970 to a time, counted through the calendar. -/
def sinceEpoch (time : CivilTime) : Int := time.countedMicros - (beginningOf 1970).countedMicros

/-- Before a year have passed the days of the years before it. -/
theorem countedMicros_beginningOf (before : Nat) :
    (beginningOf (before + 1)).countedMicros = Date.daysBeforeYear before * microsPerDay := by
  have days : (beginningOf (before + 1)).date.countedDays = Date.daysOfYears before := by
    simp [beginningOf, Date.countedDays, Date.daysOfMonths]
  rw [countedMicros, days, ← Date.daysOfYears_eq]
  simp only [beginningOf, microsPerDay, microsPerHour, microsPerMinute]
  omega

/-- The calendar begins with year 1. -/
theorem countedMicros_first : (beginningOf 1).countedMicros = 0 :=
  countedMicros_beginningOf 0

/-- The calendar ends with year 9999. -/
theorem countedMicros_last : (beginningOf 10000).countedMicros = microsOfCalendar :=
  countedMicros_beginningOf 9999

/-- Before the epoch have passed the days up to it. -/
theorem countedMicros_epoch : (beginningOf 1970).countedMicros = epochDay * microsPerDay :=
  countedMicros_beginningOf 1969

end CivilTime

open CivilTime (beginningOf)

namespace WallTime

/-- A wall time with less before it shows less. -/
theorem fields_lt_iff {former latter : WallTime} :
    former.civil.fields < latter.civil.fields ↔ former.micros < latter.micros := by
  rw [← CivilTime.countedMicros_lt_iff former.civil_isValid latter.civil_isValid,
    countedMicros_civil, countedMicros_civil]

end WallTime

namespace Timestamp

/-- Milliseconds from the epoch are a time exactly when they lie within the calendar. -/
theorem exists_ofEpochMillis_iff {millis : Int} :
    (∃ placed, ofEpochMillis millis = .ok placed) ↔
      0 ≤ millis * 1000 + epochDay * microsPerDay ∧
        millis * 1000 + epochDay * microsPerDay < microsOfCalendar := by
  simp only [ofEpochMillis_eq_ok_iff]
  constructor
  · rintro ⟨placed, -, micros⟩
    exact micros ▸ ⟨placed.wall.nonneg, placed.wall.inCalendar⟩
  · rintro ⟨nonneg, inCalendar⟩
    exact ⟨.universal ⟨_, nonneg, inCalendar⟩, rfl, rfl⟩

/-- The milliseconds of a second are shown as they are. -/
theorem micro_of_ofEpochMillis {millis : Int} {placed : Timestamp}
    (found : ofEpochMillis millis = .ok placed) :
    (placed.wall.civil.micro : Int) = millis % 1000 * 1000 := by
  have micros := (ofEpochMillis_eq_ok_iff.mp found).2
  simp only [WallTime.civil, WallTime.microsOfDay, epochDay, microsPerDay, microsPerHour,
    microsPerMinute] at *
  omega

/-- **Milliseconds since 1970 are converted exactly**: there is a timestamp when the moment lies
in the years 1 to 9999, and it is the one that the calendar counts as many milliseconds after the
beginning of 1970, before which the milliseconds of a second count forwards too; a later moment
has a later timestamp. -/
theorem ofEpochMillis_exact (millis : Int) :
    ((∃ placed, ofEpochMillis millis = .ok placed) ↔
        (beginningOf 1).sinceEpoch ≤ millis * 1000 ∧
          millis * 1000 < (beginningOf 10000).sinceEpoch) ∧
      (∀ placed, ofEpochMillis millis = .ok placed →
        placed.offset = some 0 ∧ placed.wall.civil.IsValid ∧
          placed.wall.civil.sinceEpoch = millis * 1000 ∧
          (placed.wall.civil.micro : Int) = millis % 1000 * 1000) ∧
      ∀ later placed placedLater, millis < later → ofEpochMillis millis = .ok placed →
        ofEpochMillis later = .ok placedLater →
        placed.wall.civil.fields < placedLater.wall.civil.fields := by
  refine ⟨?_, fun placed found => ?_, fun later placed placedLater less found foundLater => ?_⟩
  · rw [exists_ofEpochMillis_iff]
    simp only [CivilTime.sinceEpoch, CivilTime.countedMicros_first, CivilTime.countedMicros_last,
      CivilTime.countedMicros_epoch]
    omega
  · obtain ⟨universal, micros⟩ := ofEpochMillis_eq_ok_iff.mp found
    refine ⟨universal, placed.wall.civil_isValid, ?_, micro_of_ofEpochMillis found⟩
    rw [CivilTime.sinceEpoch, WallTime.countedMicros_civil, CivilTime.countedMicros_epoch, micros,
      Int.add_sub_cancel]
  · obtain ⟨-, micros⟩ := ofEpochMillis_eq_ok_iff.mp found
    obtain ⟨-, microsLater⟩ := ofEpochMillis_eq_ok_iff.mp foundLater
    rw [WallTime.fields_lt_iff]
    omega

/-- The last millisecond before 1970, and the beginning of 1970. -/
theorem ofEpochMillis_exact_before_epoch :
    ∃ before epoch, ofEpochMillis (-1) = .ok before ∧ ofEpochMillis 0 = .ok epoch ∧
      before.wall.civil = ⟨⟨1969, 12, 31⟩, 23, 59, 59, 999000⟩ ∧
      before.wall.civil.sinceEpoch = -1 * 1000 ∧
      before.wall.civil.fields < epoch.wall.civil.fields := by
  let before : Timestamp := .universal ⟨62135596799999000, by decide, by decide⟩
  let epoch : Timestamp := .universal ⟨62135596800000000, by decide, by decide⟩
  have found : ofEpochMillis (-1) = .ok before := ofEpochMillis_eq_ok_iff.mpr ⟨rfl, by decide⟩
  have foundEpoch : ofEpochMillis 0 = .ok epoch := ofEpochMillis_eq_ok_iff.mpr ⟨rfl, by decide⟩
  obtain ⟨-, exact, increasing⟩ := ofEpochMillis_exact (-1)
  obtain ⟨-, -, counted, -⟩ := exact before found
  exact ⟨before, epoch, found, foundEpoch, by decide, counted,
    increasing 0 before epoch (by decide) found foundEpoch⟩

end Timestamp

namespace WallTime

/-- **A wall time is moved to universal time exactly**: there is a timestamp when the offset is
less than a day and the moved time lies in the years 1 to 9999; it is so many hours before the
wall time, and the same number of hours later it is the wall time again. The order of times and
the spans between them stay. -/
theorem localize_exact (time : WallTime) (offset : Option Int) :
    ((∃ placed, time.localize offset = .ok placed) ↔
        (offset.getD 0).natAbs < 24 ∧
          (beginningOf 1).countedMicros ≤
            time.civil.countedMicros - offset.getD 0 * microsPerHour ∧
          time.civil.countedMicros - offset.getD 0 * microsPerHour <
            (beginningOf 10000).countedMicros) ∧
      (∀ placed, time.localize offset = .ok placed →
        placed.offset = some 0 ∧ placed.wall.civil.IsValid ∧
          placed.wall.civil.countedMicros =
            time.civil.countedMicros - offset.getD 0 * microsPerHour ∧
          placed.later? (offset.getD 0 * microsPerHour) = some (.universal time)) ∧
      ∀ (other : WallTime) (placed placedOther : Timestamp), time.localize offset = .ok placed →
        other.localize offset = .ok placedOther →
        (placed.wall.civil.fields < placedOther.wall.civil.fields ↔
            time.civil.fields < other.civil.fields) ∧
          placedOther.wall.civil.countedMicros - placed.wall.civil.countedMicros =
            other.civil.countedMicros - time.civil.countedMicros := by
  simp only [fields_lt_iff, countedMicros_civil, CivilTime.countedMicros_first,
    CivilTime.countedMicros_last, localize_eq_ok_iff]
  refine ⟨⟨?_, ?_⟩, ?_, ?_⟩
  · rintro ⟨placed, within, -, micros⟩
    exact ⟨by omega, micros ▸ placed.wall.nonneg, micros ▸ placed.wall.inCalendar⟩
  · rintro ⟨within, nonneg, inCalendar⟩
    exact ⟨.universal ⟨_, nonneg, inCalendar⟩, by omega, rfl, rfl⟩
  · rintro placed ⟨-, universal, micros⟩
    refine ⟨universal, placed.wall.civil_isValid, micros, ?_⟩
    refine Timestamp.later?_eq_some_iff.mpr ⟨universal.symm, ?_⟩
    rw [micros, Int.sub_add_cancel]
    rfl
  · rintro other placed placedOther ⟨-, -, micros⟩ ⟨-, -, microsOther⟩
    omega

/-- The first hour of a year east of universal time, and the second. -/
theorem localize_exact_new_year :
    ∃ (time other : WallTime) (placed placedOther : Timestamp),
      time.localize (some 5) = .ok placed ∧
      other.localize (some 5) = .ok placedOther ∧
      time.civil = ⟨⟨2001, 1, 1⟩, 0, 30, 0, 7⟩ ∧ other.civil = ⟨⟨2001, 1, 1⟩, 1, 30, 0, 7⟩ ∧
      placed.wall.civil = ⟨⟨2000, 12, 31⟩, 19, 30, 0, 7⟩ ∧
      placed.later? (5 * microsPerHour) = some (.universal time) ∧
      (placed.wall.civil.fields < placedOther.wall.civil.fields ↔
        time.civil.fields < other.civil.fields) := by
  let time : WallTime := ⟨63113905800000007, by decide, by decide⟩
  let other : WallTime := ⟨63113909400000007, by decide, by decide⟩
  have east : -24 < (5 : Int) ∧ (5 : Int) < 24 := by decide
  have found :
      time.localize (some 5) = .ok (.universal ⟨63113887800000007, by decide, by decide⟩) :=
    localize_eq_ok_iff.mpr ⟨east, rfl, by decide⟩
  have foundOther :
      other.localize (some 5) = .ok (.universal ⟨63113891400000007, by decide, by decide⟩) :=
    localize_eq_ok_iff.mpr ⟨east, rfl, by decide⟩
  obtain ⟨-, exact, order⟩ := localize_exact time (some 5)
  obtain ⟨-, -, -, back⟩ := exact _ found
  exact ⟨time, other, _, _, found, foundOther, by decide, by decide, by decide, back,
    (order other _ _ found foundOther).1⟩

end WallTime

end DiceLedger
