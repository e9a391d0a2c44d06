import DiceLedger.Calendar.Timestamp
import DiceLedger.Proofs.Calendar.Day
import DiceLedger.Proofs.Text.Digits
import Mathlib.Tactic.NormNum

/-! # Timestamps as text

A timestamp that was written is read back as it was, whether it has a fraction of a second
or a distance from universal time or not (`DiceLedger.Timestamp.ofText?_display`). Every
number in it fills the width it is written in, so what follows a number does not matter to
its reading.
-/

namespace DiceLedger

namespace WallTime

theorem toList_pushn (text : String) (c : Char) (count : Nat) :
    (text.pushn c count).toList = text.toList ++ List.replicate count c := by
  rw [String.pushn_eq_repeat_push]
  induction count with
  | zero => simp [Nat.repeat]
  | succ count ih => simp [Nat.repeat, ih, List.replicate_succ']

/-- A padded number is zeros and its digits. -/
theorem toList_padded (width n : Nat) :
    (padded width n).toList =
      List.replicate (width - (Nat.toDigits 10 n).length) '0' ++ Nat.toDigits 10 n := by
  have digits : toString n = String.ofList (Nat.toDigits 10 n) := Nat.toString_eq_ofList_toDigits
  simp only [padded, digits, String.toList_append, toList_pushn, String.toList_ofList,
    String.length_ofList, String.toList_empty, List.nil_append]

/-- Zeros in front do not change a number. -/
theorem valueOfDigits_padded (width n : Nat) :
    Text.valueOfDigits (padded width n).toList = n := by
  have zeros : ∀ count, Nat.ofDigitChars 10 (List.replicate count '0') 0 = 0 := by
    intro count
    induction count with
    | zero => rfl
    | succ count ih => simpa [Nat.ofDigitChars, List.replicate_succ] using ih
  rw [Text.valueOfDigits_eq_ofDigitChars, toList_padded, Nat.ofDigitChars_append, zeros,
    Nat.ofDigitChars_toDigits (by decide) (by decide)]

/-- A number that fits is as wide as it is padded to. -/
theorem length_padded {width n : Nat} (wide : 0 < width) (fits : n < 10 ^ width) :
    (padded width n).toList.length = width := by
  have short := (Nat.length_toDigits_le_iff (b := 10) (by decide) wide).mpr fits
  rw [toList_padded, List.length_append, List.length_replicate]
  omega

/-- A padded number is written in digits. -/
theorem isDigit_padded {width n : Nat} : ∀ c ∈ (padded width n).toList, c.isDigit = true := by
  intro c member
  rw [toList_padded, List.mem_append] at member
  rcases member with zero | digit
  · rw [(List.mem_replicate.mp zero).2]
    rfl
  · exact Nat.isDigit_of_mem_toDigits (by decide) (by decide) digit

/-- A date is written as year, month and day, with hyphens between them. -/
theorem toList_displayDate_append (date : Date) (rest : List Char) :
    (displayDate date).toList ++ rest =
      (padded 4 date.year.toNat).toList ++ '-' ::
        ((padded 2 date.month).toList ++ '-' :: ((padded 2 date.day).toList ++ rest)) := by
  simp [displayDate]

/-- The date of a time is one of the calendar. -/
theorem date_isValid (time : WallTime) : time.date.IsValid := by
  have nonneg := time.nonneg
  have inCalendar := time.inCalendar
  simp only [microsOfCalendar, microsPerDay, microsPerHour, microsPerMinute] at inCalendar
  apply Date.isValid_ofDayNumber
  · simp only [microsPerDay, microsPerHour, microsPerMinute]
    omega
  · simp only [microsPerDay, microsPerHour, microsPerMinute]
    omega

/-- A wall time is its date and its time of day. -/
theorem ofDate?_date (time : WallTime) : ofDate? time.date time.microsOfDay = some time := by
  have day : 0 ≤ time.microsOfDay ∧ time.microsOfDay < microsPerDay :=
    ⟨Int.emod_nonneg _ (by decide), Int.emod_lt_of_pos _ (by decide)⟩
  have whole : time.date.dayNumber * microsPerDay + time.microsOfDay = time.micros := by
    rw [date, Date.dayNumber_ofDayNumber, microsOfDay, Int.mul_comm]
    exact Int.mul_ediv_add_emod _ _
  simp only [ofDate?, time.date_isValid, day.1, day.2, and_self, ↓reduceIte, whole, ofMicros?,
    time.nonneg, time.inCalendar, ↓reduceDIte]

end WallTime

namespace Timestamp

open WallTime (padded)

/-- A number is read back from the width it was padded to. -/
theorem takeNumber?_padded {width n : Nat} (rest : List Char) (wide : 0 < width)
    (fits : n < 10 ^ width) :
    takeNumber? width ((padded width n).toList ++ rest) = some (n, rest) := by
  have length := WallTime.length_padded wide fits
  have front : ((padded width n).toList ++ rest).take width = (padded width n).toList := by
    rw [List.take_append_of_le_length (by omega), List.take_of_length_le (by omega)]
  have back : ((padded width n).toList ++ rest).drop width = rest := by
    rw [List.drop_append_of_le_length (by omega), List.drop_of_length_le (by omega),
      List.nil_append]
  have digits : (padded width n).toList.all Char.isDigit = true :=
    List.all_eq_true.mpr WallTime.isDigit_padded
  simp only [takeNumber?, front, back, length, digits, decide_true, Bool.and_self, ↓reduceIte,
    WallTime.valueOfDigits_padded]

/-- A number of two digits is read behind its mark. -/
theorem takeMarked?_padded (mark : Char) {n : Nat} (rest : List Char) (fits : n < 100) :
    takeMarked? mark (mark :: ((padded 2 n).toList ++ rest)) = some (n, rest) := by
  simp only [takeMarked?, ↓reduceIte]
  exact takeNumber?_padded rest (by decide) fits

/-- An offset is written as a sign, hours and minutes. -/
theorem toList_displayOffset (offset : UtcOffset) :
    (displayOffset offset).toList =
      (if offset.minutes < 0 then '-' else '+') ::
        ((padded 2 (offset.minutes.natAbs / 60)).toList ++
          ':' :: ((padded 2 (offset.minutes.natAbs % 60)).toList ++ [])) := by
  unfold displayOffset
  split <;> simp

/-- An offset is made of its minutes. -/
theorem offsetOf?_minutes (offset : UtcOffset) : offsetOf? offset.minutes = some offset :=
  dif_pos offset.withinDay

/-- An offset that is written is read. -/
theorem readOffset?_display (offset : UtcOffset) :
    readOffset? (displayOffset offset).toList = some (some offset) := by
  have within := offset.withinDay
  have hours : offset.minutes.natAbs / 60 < 10 ^ 2 := by omega
  have sixtieths : offset.minutes.natAbs % 60 < 100 := by omega
  rw [toList_displayOffset]
  simp only [readOffset?, takeNumber?_padded _ (by decide) hours,
    takeMarked?_padded ':' _ sixtieths, Option.bind_eq_bind, Option.bind_some, List.isEmpty_nil,
    Bool.not_true, Bool.false_eq_true, ↓reduceIte]
  by_cases west : offset.minutes < 0
  · have size : -(((offset.minutes.natAbs / 60 : Nat) : Int) * 60 +
        ((offset.minutes.natAbs % 60 : Nat) : Int)) = offset.minutes := by omega
    simp only [west, ↓reduceIte, size, offsetOf?_minutes, Option.map_some, Char.reduceEq]
  · have size : ((offset.minutes.natAbs / 60 : Nat) : Int) * 60 +
        ((offset.minutes.natAbs % 60 : Nat) : Int) = offset.minutes := by omega
    simp only [west, ↓reduceIte, size, offsetOf?_minutes, Option.map_some]

/-- No offset begins with a point. -/
theorem offset_head_ne_point (offset : Option UtcOffset) (rest : List Char) :
    ((offset.map displayOffset).getD "").toList ≠ '.' :: rest := by
  cases offset with
  | none => simp
  | some offset =>
      rw [Option.map_some, Option.getD_some, toList_displayOffset]
      split <;> simp

/-- The fraction of a second is written only when there is one, so what follows it must not
begin with a point. -/
theorem readFraction?_display {fraction : Nat} (fits : fraction < 1000000) {rest : List Char}
    (noPoint : ∀ after, rest ≠ '.' :: after) :
    readFraction? ((if fraction = 0 then "" else "." ++ padded 6 fraction).toList ++ rest) =
      some (fraction, rest) := by
  by_cases whole : fraction = 0
  · subst whole
    simp only [↓reduceIte, String.toList_empty, List.nil_append]
    unfold readFraction?
    split
    · exact absurd rfl (noPoint _)
    · rfl
  · have written : ("." ++ padded 6 fraction).toList ++ rest =
        '.' :: ((padded 6 fraction).toList ++ rest) := by simp
    rw [if_neg whole, written]
    simp only [readFraction?]
    exact takeNumber?_padded rest (by decide) (by norm_num; exact fits)

/-- A date that is written is read. -/
theorem readDate?_displayDate {date : Date} (valid : date.IsValid) (rest : List Char) :
    readDate? ((WallTime.displayDate date).toList ++ rest) = some (date, rest) := by
  have day_lt : date.day < 100 := Nat.lt_of_le_of_lt valid.day_le (by decide)
  obtain ⟨year_ge, year_le, month_ge, month_le, -, -⟩ := valid
  have year : ((date.year.toNat : Nat) : Int) = date.year := by omega
  rw [WallTime.toList_displayDate_append]
  simp only [readDate?, takeNumber?_padded _ (show 0 < 4 by decide)
    (show date.year.toNat < 10 ^ 4 by omega), takeMarked?_padded '-' _ day_lt,
    takeMarked?_padded '-' _ (show date.month < 100 by omega), Option.bind_eq_bind,
    Option.bind_some, year]

/-- A time of day that is written is read, to the microsecond. -/
theorem readClock?_displayClock {micros : Nat} (inDay : micros < 86400000000) {rest : List Char}
    (noPoint : ∀ after, rest ≠ '.' :: after) :
    readClock? ('T' :: ((WallTime.displayClock micros).toList ++ rest)) =
      some ((micros : Int), rest) := by
  have hour : micros / 1000000 / 3600 < 24 := by omega
  have minute : micros / 1000000 / 60 % 60 < 60 := by omega
  have second : micros / 1000000 % 60 < 60 := by omega
  have sum : ((micros / 1000000 / 3600 * 60 + micros / 1000000 / 60 % 60) * 60 +
      micros / 1000000 % 60) * 1000000 + micros % 1000000 = micros := by omega
  have written : 'T' :: ((WallTime.displayClock micros).toList ++ rest) =
      'T' :: ((padded 2 (micros / 1000000 / 3600)).toList ++
        ':' :: ((padded 2 (micros / 1000000 / 60 % 60)).toList ++
        ':' :: ((padded 2 (micros / 1000000 % 60)).toList ++
          ((if micros % 1000000 = 0 then "" else "." ++ padded 6 (micros % 1000000)).toList ++
            rest)))) := by
    simp [WallTime.displayClock]
  have fraction := readFraction?_display (Nat.mod_lt micros (show 0 < 1000000 by decide)) noPoint
  rw [written]
  simp only [readClock?, takeMarked?_padded 'T' _ (show micros / 1000000 / 3600 < 100 by omega),
    takeMarked?_padded ':' _ (show micros / 1000000 / 60 % 60 < 100 by omega),
    takeMarked?_padded ':' _ (show micros / 1000000 % 60 < 100 by omega), fraction,
    Option.bind_eq_bind, Option.bind_some, hour, minute, second, and_self, ↓reduceIte, sum]

/-- A timestamp is read back from the text that displays it. -/
theorem ofText?_display (time : Timestamp) : ofText? time.display = some time := by
  obtain ⟨wall, offset⟩ := time
  have inDay : 0 ≤ wall.microsOfDay ∧ wall.microsOfDay < 86400000000 :=
    ⟨Int.emod_nonneg _ (by decide), Int.emod_lt_of_pos _ (by decide)⟩
  have clock := readClock?_displayClock
    (show wall.microsOfDay.toNat < 86400000000 by omega) (offset_head_ne_point offset)
  have offsetRead : readOffset? ((offset.map displayOffset).getD "").toList = some offset := by
    cases offset with
    | none => rfl
    | some offset => exact readOffset?_display offset
  have written : (display ⟨wall, offset⟩).toList =
      (WallTime.displayDate wall.date).toList ++
        'T' :: ((WallTime.displayClock wall.microsOfDay.toNat).toList ++
          ((offset.map displayOffset).getD "").toList) := by
    simp [display, WallTime.display]
  rw [ofText?, written, readDate?_displayDate wall.date_isValid]
  simp only [Option.bind_eq_bind, Option.bind_some, clock, offsetRead,
    Int.toNat_of_nonneg inDay.1, WallTime.ofDate?_date]

end Timestamp

end DiceLedger
