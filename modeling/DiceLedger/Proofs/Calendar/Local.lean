import DiceLedger.Proofs.Calendar.Day
import DiceLedger.Calendar.Timestamp

/-! # Local times and the ends of the calendar

A wall time that is read less than a day from universal time has a place in it unless it
stands on the day of the calendar that the distance leads out of: its first day east of
universal time, its last day west of it (`DiceLedger.WallTime.exists_localize_eq`).
-/

namespace DiceLedger

/-- The number of the last day of the calendar. -/
def lastDay : Int := 3652058

/-- A day that does not lead out of the calendar, so many hours east of universal time. -/
structure StaysInCalendar (hours day : Int) : Prop where
  east : 0 < hours → 0 < day
  west : hours < 0 → day < lastDay

/-- Wall times are the same if their microseconds are. -/
theorem WallTime.eq_of_micros_eq {former latter : WallTime}
    (same : former.micros = latter.micros) : former = latter := by
  cases former
  cases latter
  cases same
  rfl

/-- A time without an offset is the universal one of its wall time. -/
theorem Timestamp.eq_universal {time : Timestamp} {wall : WallTime}
    (offset : time.offset = some 0) (micros : time.wall.micros = wall.micros) :
    time = universal wall := by
  obtain ⟨_, _⟩ := time
  obtain rfl := WallTime.eq_of_micros_eq micros
  exact congrArg _ offset

namespace WallTime

/-- Microseconds are those of one wall time, if of any. -/
theorem ofMicros?_eq_some_iff {micros : Int} {time : WallTime} :
    ofMicros? micros = some time ↔ time.micros = micros := by
  unfold ofMicros?
  constructor
  · intro made
    split at made
    · obtain rfl := Option.some.inj made
      rfl
    · cases made
  · rintro rfl
    exact dif_pos ⟨time.nonneg, time.inCalendar⟩

/-- The number of the day of a wall time. -/
def dayNumber (time : WallTime) : Int := time.micros / microsPerDay

theorem dayNumber_date (time : WallTime) : time.date.dayNumber = time.dayNumber :=
  Date.dayNumber_ofDayNumber _

/-- A wall time that is made of a date is on that day. -/
theorem dayNumber_of_ofDate?_eq {date : Date} {microsOfDay : Int} {time : WallTime}
    (made : ofDate? date microsOfDay = some time) : time.dayNumber = date.dayNumber := by
  unfold ofDate? at made
  split at made
  · next held =>
    obtain ⟨_, nonneg, inDay⟩ := held
    rw [dayNumber, ofMicros?_eq_some_iff.mp made, Int.mul_comm, Int.add_comm,
      Int.add_mul_ediv_left _ _ (by decide), Int.ediv_eq_zero_of_lt nonneg inDay, Int.zero_add]
  · cases made

/-- A wall time is on a day of the calendar. -/
theorem dayNumber_bounds (time : WallTime) : 0 ≤ time.dayNumber ∧ time.dayNumber ≤ lastDay := by
  have nonneg := time.nonneg
  have inCalendar := time.inCalendar
  simp only [dayNumber, lastDay, microsOfCalendar, microsPerDay, microsPerHour,
    microsPerMinute] at *
  omega

/-- Only the first and the last day of the calendar lead out of it. -/
theorem staysInCalendar_of_date {time : WallTime} {hours : Int}
    (notFirst : 0 < hours → time.date ≠ ⟨1, 1, 1⟩)
    (notLast : hours < 0 → time.date ≠ ⟨9999, 12, 31⟩) :
    StaysInCalendar hours time.dayNumber := by
  have bounds := time.dayNumber_bounds
  have date : time.date = Date.ofDayNumber time.dayNumber := rfl
  refine ⟨fun east => ?_, fun west => ?_⟩
  · have other : time.dayNumber ≠ 0 := by
      intro first
      exact notFirst east (by rw [date, first]; decide)
    omega
  · have other : time.dayNumber ≠ lastDay := by
      intro last
      exact notLast west (by rw [date, last]; decide)
    omega

/-- The universal time of a wall time is as many hours earlier as it is east of it, less than a
day in either direction. -/
theorem localize_eq_ok_iff {time : WallTime} {offset : Option Int} {placed : Timestamp} :
    time.localize offset = .ok placed ↔
      (-24 < offset.getD 0 ∧ offset.getD 0 < 24) ∧ placed.offset = some 0 ∧
        placed.wall.micros = time.micros - offset.getD 0 * microsPerHour := by
  simp only [localize]
  split
  · next beyond =>
    simp only [maxSpanDays] at beyond
    exact ⟨nofun, fun ⟨within, _⟩ => by omega⟩
  split
  · exact ⟨nofun, fun ⟨within, _⟩ => by omega⟩
  next within =>
  have within : -24 < offset.getD 0 ∧ offset.getD 0 < 24 := by omega
  split
  · next wall made =>
    rw [ofMicros?_eq_some_iff] at made
    constructor
    · intro found
      obtain rfl := Except.ok.inj found
      exact ⟨within, rfl, made⟩
    · rintro ⟨-, universal, moved⟩
      exact congrArg Except.ok (Timestamp.eq_universal universal (moved.trans made.symm)).symm
  · next absent =>
    refine ⟨nofun, fun ⟨_, _, moved⟩ => ?_⟩
    rw [ofMicros?_eq_some_iff.mpr moved] at absent
    cases absent

/-- A wall time has a place in universal time unless its day leads out of the calendar. -/
theorem exists_localize_eq {time : WallTime} {offset : Option Int}
    (within : -24 < offset.getD 0 ∧ offset.getD 0 < 24)
    (stays : StaysInCalendar (offset.getD 0) time.dayNumber) :
    ∃ found, time.localize offset = .ok found := by
  obtain ⟨east, west⟩ := stays
  have nonneg := time.nonneg
  have inCalendar := time.inCalendar
  -- The move is by less than a day, and there is a day on the side that it leads to.
  have moved : 0 ≤ time.micros - offset.getD 0 * microsPerHour ∧
      time.micros - offset.getD 0 * microsPerHour < microsOfCalendar := by
    simp only [dayNumber, lastDay, microsOfCalendar, microsPerDay, microsPerHour,
      microsPerMinute] at *
    omega
  exact ⟨.universal ⟨_, moved.1, moved.2⟩, localize_eq_ok_iff.mpr ⟨within, rfl, rfl⟩⟩

/-- A wall time is placed in universal time, whatever its distance from it. -/
theorem offset_of_localize {time : WallTime} {offset : Option Int} {placed : Timestamp}
    (found : time.localize offset = .ok placed) : placed.offset = some 0 :=
  (localize_eq_ok_iff.mp found).2.1

end WallTime

namespace Timestamp

/-- The universal time of a count of milliseconds is as many after the beginning of 1970. -/
theorem ofEpochMillis_eq_ok_iff {millis : Int} {placed : Timestamp} :
    ofEpochMillis millis = .ok placed ↔
      placed.offset = some 0 ∧ placed.wall.micros = millis * 1000 + epochDay * microsPerDay := by
  -- The two faults before the last are for times that the calendar does not hold either.
  have inCalendar (universal : placed.wall.micros = millis * 1000 + epochDay * microsPerDay) :
      0 ≤ millis / 1000 / 86400 + epochDay ∧ millis / 1000 / 86400 + epochDay < 3652059 := by
    have nonneg := placed.wall.nonneg
    have inCalendar := placed.wall.inCalendar
    simp only [epochDay, microsOfCalendar, microsPerDay, microsPerHour, microsPerMinute] at *
    omega
  simp only [ofEpochMillis]
  split
  · next beyond =>
    refine ⟨nofun, fun ⟨_, universal⟩ => ?_⟩
    have day := inCalendar universal
    simp only [epochDay] at day
    omega
  split
  · next beyond =>
    refine ⟨nofun, fun ⟨_, universal⟩ => ?_⟩
    obtain ⟨first, last⟩ := inCalendar universal
    obtain ⟨year_ge, year_le, -⟩ := Date.isValid_ofDayNumber first last
    omega
  split
  · next wall made =>
    rw [WallTime.ofMicros?_eq_some_iff] at made
    constructor
    · intro found
      obtain rfl := Except.ok.inj found
      exact ⟨rfl, made⟩
    · rintro ⟨universal, moved⟩
      exact congrArg Except.ok (eq_universal universal (moved.trans made.symm)).symm
  · next absent =>
    refine ⟨nofun, fun ⟨_, moved⟩ => ?_⟩
    rw [WallTime.ofMicros?_eq_some_iff.mpr moved] at absent
    cases absent

/-- Times that are counted from the epoch are universal. -/
theorem offset_of_ofEpochMillis {millis : Int} {placed : Timestamp}
    (found : ofEpochMillis millis = .ok placed) : placed.offset = some 0 :=
  (ofEpochMillis_eq_ok_iff.mp found).1

/-- A later time has the same offset, and the microseconds that have passed. -/
theorem later?_eq_some_iff {time later : Timestamp} {micros : Int} :
    time.later? micros = some later ↔
      later.offset = time.offset ∧ later.wall.micros = time.wall.micros + micros := by
  simp only [later?, Option.map_eq_some_iff, WallTime.ofMicros?_eq_some_iff]
  constructor
  · rintro ⟨wall, moved, rfl⟩
    exact ⟨rfl, moved⟩
  · rintro ⟨offset, moved⟩
    exact ⟨later.wall, moved, congrArg (Timestamp.mk later.wall) offset.symm⟩

/-- Time that passes does not change the offset. -/
theorem offset_of_later? {time later : Timestamp} {micros : Int}
    (moved : time.later? micros = some later) : later.offset = time.offset :=
  (later?_eq_some_iff.mp moved).1

theorem later?_zero (time : Timestamp) : time.later? 0 = some time :=
  later?_eq_some_iff.mpr ⟨rfl, (Int.add_zero _).symm⟩

/-- Two moves one after another are one by their sum. -/
theorem later?_add (time : Timestamp) {first second : Int} (forth : 0 ≤ first)
    (further : 0 ≤ second) :
    time.later? (first + second) = (time.later? first).bind (·.later? second) := by
  ext last
  simp only [Option.bind_eq_some_iff, later?_eq_some_iff]
  constructor
  · rintro ⟨offset, moved⟩
    have nonneg := time.wall.nonneg
    have inCalendar := last.wall.inCalendar
    exact ⟨⟨⟨time.wall.micros + first, by omega, by omega⟩, time.offset⟩, ⟨rfl, rfl⟩, offset,
      by rw [moved, Int.add_assoc]⟩
  · rintro ⟨between, ⟨offset, moved⟩, lastOffset, lastMoved⟩
    exact ⟨lastOffset.trans offset, by rw [lastMoved, moved, Int.add_assoc]⟩

end Timestamp

end DiceLedger
