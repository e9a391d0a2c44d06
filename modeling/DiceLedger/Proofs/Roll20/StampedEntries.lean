import DiceLedger.Proofs.Calendar.Stamps
import DiceLedger.Proofs.Roll20.CarryForward

/-! # Stamps of Roll20 entries that were written

A full stamp that was written, in any spelling and with any blanks between its words, is read as
the minute that it writes (`DiceLedger.Transcript.Roll20.stampTime_of_full`), and a bare time as
one on the date carried along (`DiceLedger.Transcript.Roll20.stampTime_of_bare`). The date stays
until the next full stamp, so every bare time on the way to it is read on the same date
(`DiceLedger.Transcript.Roll20.readFragment_stamps`).
-/

namespace DiceLedger

namespace Transcript

namespace Roll20

open Markup (Node)
open Stamp (Spells Numbers ClockText)
open WallTime (padded)

/-- A text writes a date and a time of day: the month's name, the day, a comma, the year in four
digits and the clock, with blanks between these words and perhaps around them. -/
inductive FullStamp (date : Date) (hour minute : Nat) : List Char → Prop
  | mk {before month afterMonth day afterDay afterYear clock after : List Char}
      (blank : ∀ gap ∈ [before, afterMonth, afterDay, afterYear, after],
        ∀ c ∈ gap, Text.isBlank c = true)
      (apart : afterMonth ≠ [] ∧ afterDay ≠ [] ∧ afterYear ≠ [])
      (named : Spells (Stamp.monthName date.month) month) (numbered : Numbers date.day day)
      (timed : ClockText hour minute clock) :
      FullStamp date hour minute
        (before ++ (month ++ (afterMonth ++ (day ++ [','] ++ (afterDay ++
          ((padded 4 date.year.toNat).toList ++ (afterYear ++ (clock ++ after))))))))

/-- A text writes a time of day, perhaps with blanks around it. -/
inductive BareStamp (hour minute : Nat) : List Char → Prop
  | mk {before clock after : List Char}
      (blank : ∀ gap ∈ [before, after], ∀ c ∈ gap, Text.isBlank c = true)
      (timed : ClockText hour minute clock) :
      BareStamp hour minute (before ++ (clock ++ after))

section Written

variable {date : Date} {hour minute : Nat} {text : List Char}

/-- A time of day is one word. -/
theorem words_clock (timed : ClockText hour minute text) : Text.words text = [text] :=
  Text.words_eq_singleton timed.startsWithDigit.ne_nil timed.isBlank

/-- The name of a month is made of letters. -/
theorem monthName_letters {month : Nat} (least : 1 ≤ month) (greatest : month ≤ 12) :
    (Stamp.monthName month).toList.all Char.isAlpha = true ∧
      (Stamp.monthName month).toList ≠ [] := by
  interval_cases month <;> decide

/-- The name of a month is one word. -/
theorem words_month (valid : date.IsValid) (named : Spells (Stamp.monthName date.month) text) :
    Text.words text = [text] := by
  obtain ⟨-, -, month_ge, month_le, -, -⟩ := valid
  obtain ⟨letters, nonempty⟩ := monthName_letters month_ge month_le
  refine Text.words_eq_singleton ?_ (named.isBlank letters)
  rintro rfl
  exact nonempty named.symm

/-- A day with its comma is one word. -/
theorem words_day (numbered : Numbers date.day text) :
    Text.words (text ++ [',']) = [text ++ [',']] := by
  refine Text.words_eq_singleton (List.append_ne_nil_of_right_ne_nil _ (by decide)) ?_
  intro c member
  rcases List.mem_append.mp member with digit | comma
  · exact Stamp.isBlank_of_isDigit (numbered.isDigit c digit)
  · obtain rfl := List.mem_singleton.mp comma
    decide

/-- A year has a digit in front. -/
theorem startsWithDigit_year (valid : date.IsValid) :
    Stamp.StartsWithDigit (padded 4 date.year.toNat).toList := by
  obtain ⟨-, year_le, -⟩ := valid
  have four : (padded 4 date.year.toNat).toList.length = 4 :=
    WallTime.length_padded (by decide) (by omega)
  refine Stamp.startsWithDigit ?_ WallTime.isDigit_padded
  rintro none
  rw [none] at four
  cases four

/-- A year is one word. -/
theorem words_year (valid : date.IsValid) :
    Text.words (padded 4 date.year.toNat).toList = [(padded 4 date.year.toNat).toList] :=
  Text.words_eq_singleton (startsWithDigit_year valid).ne_nil
    fun c member => Stamp.isBlank_of_isDigit (WallTime.isDigit_padded c member)

/-- Squashed, a full stamp has one space between its words. -/
theorem FullStamp.squash (valid : date.IsValid) (written : FullStamp date hour minute text) :
    ∃ month day clock, Spells (Stamp.monthName date.month) month ∧ Numbers date.day day ∧
      ClockText hour minute clock ∧
      Text.squash text =
        month ++ ' ' :: (day ++ ',' :: ' ' :: ((padded 4 date.year.toNat).toList ++
          ' ' :: clock)) := by
  obtain ⟨blank, ⟨apartMonth, apartDay, apartYear⟩, named, numbered, timed⟩ := written
  simp only [List.forall_mem_cons, List.not_mem_nil, false_implies, implies_true, and_true]
    at blank
  obtain ⟨before, afterMonth, afterDay, afterYear, after⟩ := blank
  refine ⟨_, _, _, named, numbered, timed, ?_⟩
  rw [Text.squash, Text.words_gap_append before, Text.words_append_gap apartMonth afterMonth,
    Text.words_append_gap apartDay afterDay, Text.words_append_gap apartYear afterYear,
    Text.words_append_of_blank after, words_month valid named, words_day numbered,
    words_year valid, words_clock timed]
  simp [List.intercalate, List.intersperse]

/-- With single blanks a bare stamp is a time of day. -/
theorem BareStamp.squash (written : BareStamp hour minute text) :
    ClockText hour minute (Text.squash text) := by
  obtain ⟨blank, timed⟩ := written
  simp only [List.forall_mem_cons, List.not_mem_nil, false_implies, implies_true, and_true]
    at blank
  obtain ⟨before, after⟩ := blank
  rw [Text.squash, Text.words_gap_append before, Text.words_append_of_blank after,
    words_clock timed]
  simpa [List.intercalate] using timed

end Written

section Reading

variable {date : Date} {hour minute : Nat} {wall : WallTime} {text : List Char}

/-- What a wall time shows is a date and a minute of a day. -/
theorem valid_of_shows (shows : wall.civil = ⟨date, hour, minute, 0, 0⟩) :
    date.IsValid ∧ hour < 24 ∧ minute < 60 := by
  have valid : CivilTime.IsValid ⟨date, hour, minute, 0, 0⟩ := shows ▸ wall.civil_isValid
  exact ⟨valid.date, valid.hour, valid.minute⟩

/-- A clock of twelve hours and the half of the day tell the hour. -/
theorem hour_of_half (inDay : hour < 24) :
    (if decide (12 ≤ hour) = true then hour % 12 + 12 else hour % 12) = hour := by
  simp only [decide_eq_true_eq]
  split <;> omega

/-- A full stamp is read as the wall time that shows what it writes. -/
theorem read?_of_full (shows : wall.civil = ⟨date, hour, minute, 0, 0⟩)
    (written : FullStamp date hour minute text) :
    Stamp.read? fullPattern (Text.squash text) = some wall := by
  obtain ⟨valid, hour_lt, minute_lt⟩ := valid_of_shows shows
  obtain ⟨month, day, clock, named, numbered, timed, squashed⟩ := written.squash valid
  have digitsOfYear := startsWithDigit_year valid
  have day_le := valid.day_le
  obtain ⟨year_ge, year_le, month_ge, month_le, day_ge, -⟩ := valid
  have read : (Stamp.readParts fullPattern {} (Text.squash text)).head? =
      some (⟨date.year.toNat, date.month, date.day, hour % 12, minute, decide (12 ≤ hour)⟩,
        []) := by
    rw [squashed]
    refine Stamp.readParts_cons (Stamp.read_monthName month_ge month_le named _ _) ?_
    refine Stamp.readParts_cons (Stamp.read_blanks (numbered.startsWithDigit.append _) _) ?_
    refine Stamp.readParts_cons (Stamp.read_day day_ge day_le numbered _ _) ?_
    refine Stamp.readParts_cons (Stamp.read_literal _ _ _) ?_
    refine Stamp.readParts_cons (Stamp.read_blanks (digitsOfYear.append _) _) ?_
    refine Stamp.readParts_cons (Stamp.read_year (by omega) _ _) ?_
    refine Stamp.readParts_cons (Stamp.read_blanks timed.startsWithDigit _) ?_
    exact timed.head?_readParts minute_lt _
  rw [Stamp.read?_eq_of_head? read, hour_of_half hour_lt, WallTime.atMinute?_eq_some_iff, shows]
  simp only [Int.toNat_of_nonneg (show 0 ≤ date.year by omega)]

/-- No bare time is a full stamp. -/
theorem read?_full_of_bare (written : BareStamp hour minute text) :
    Stamp.read? fullPattern (Text.squash text) = none := by
  have none : Stamp.readParts fullPattern {} (Text.squash text) = [] := by
    simp only [fullPattern, Stamp.readParts, Stamp.Part.read,
      Stamp.readMonthName_eq_nil written.squash.startsWithDigit, List.map_nil, List.flatMap_nil]
  rw [Stamp.read?, none]

/-- A bare time is read as one on some day. -/
theorem exists_read?_of_bare (hour_lt : hour < 24) (minute_lt : minute < 60)
    (written : BareStamp hour minute text) :
    ∃ clock day, Stamp.read? timePattern (Text.squash text) = some clock ∧
      clock.civil = ⟨day, hour, minute, 0, 0⟩ := by
  have newYear : Date.IsValid ⟨1900, 1, 1⟩ := by decide
  have valid : CivilTime.IsValid ⟨⟨1900, 1, 1⟩, hour, minute, 0, 0⟩ :=
    ⟨newYear, hour_lt, minute_lt, Nat.zero_lt_succ _, Nat.zero_lt_succ _⟩
  obtain ⟨clock, shows⟩ := WallTime.exists_civil_eq valid
  refine ⟨clock, _, ?_, shows⟩
  have read := written.squash.head?_readParts minute_lt {}
  rw [timePattern, Stamp.read?_eq_of_head? read, hour_of_half hour_lt,
    WallTime.atMinute?_eq_some_iff, shows]
  rfl

/-- A full stamp tells its date and its time, whatever was carried. -/
theorem stampTime_of_full (shows : wall.civil = ⟨date, hour, minute, 0, 0⟩)
    (written : FullStamp date hour minute text) (carried : Option Date) :
    stampTime carried (Text.squash text) = .ok (wall, some date) := by
  have day : wall.date = date := congrArg CivilTime.date shows
  simp only [stampTime, read?_of_full shows written, day]

/-- A bare stamp tells its time, on the date that is carried. -/
theorem stampTime_of_bare (shows : wall.civil = ⟨date, hour, minute, 0, 0⟩)
    (written : BareStamp hour minute text) :
    stampTime (some date) (Text.squash text) = .ok (wall, some date) := by
  obtain ⟨-, hour_lt, minute_lt⟩ := valid_of_shows shows
  obtain ⟨clock, day, read, clockShows⟩ := exists_read?_of_bare hour_lt minute_lt written
  have onDate : WallTime.ofDate? date clock.microsOfDay = some wall := by
    refine WallTime.ofDate?_eq_some_iff.mpr ⟨congrArg CivilTime.date shows, ?_⟩
    rw [wall.microsOfDay_eq, clock.microsOfDay_eq, shows, clockShows]
  simp only [stampTime, read?_full_of_bare written, read, Option.bind_some, onDate]

end Reading

/-- The stamp that a message shows, as it stands there. -/
def shownStamp? (message : Node) : Option (List Char) :=
  (message.select (·.hasClass "tstamp")).head?.map Node.fullText

/-- The stamp that a fragment shows. -/
def shownIn? (fragment : List Char) : Option (List Char) :=
  (messageIn? fragment).bind fun found => shownStamp? found.1

/-- The text of a stamp is what is shown of it, with single blanks. -/
theorem stampText?_eq (message : Node) :
    stampText? message = (shownStamp? message).map Text.squash := by
  rw [stampText?, shownStamp?, Option.map_map]
  rfl

/-- A stamp that is no full one leaves the date. -/
theorem withTime_date {offset : Option Int} {carried later : Carried} {message : Node}
    {notices : List Notice} (bare : (stampText? message).bind (Stamp.read? fullPattern) = none)
    (timed : carried.withTime offset message = .ok (notices, later)) :
    later.date = carried.date := by
  rcases Carried.withTime_cases timed with ⟨rfl, -⟩ | ⟨_, _, -, -, rfl⟩
  · rfl
  · rw [bare]
    rfl

/-- A message carries on what its name and its stamp make of what was carried. -/
theorem readMessage_carried {offset : Option Int} {carried later : Carried} {message : Node}
    {notices : List Notice}
    (timed : (carried.withSender message).withTime offset message = .ok (notices, later))
    (id : String) : (readMessage offset carried message id).2 = later := by
  simp only [readMessage, timed]
  split
  · rfl
  · split <;> rfl

section Setting

variable {offset : Option Int} {carried : Carried} {fragment text : List Char}

/-- A readable stamp sets the time and the date, whatever becomes of the entry. -/
theorem readFragment_of_stampTime (shown : shownIn? fragment = some text) {wall : WallTime}
    {date : Option Date} (told : stampTime carried.date (Text.squash text) = .ok (wall, date))
    {placed : Timestamp} (found : wall.localize offset = .ok placed) :
    (readFragment offset carried fragment).2.time = some placed ∧
      (readFragment offset carried fragment).2.date = date := by
  obtain ⟨⟨message, id⟩, present, stamp⟩ := Option.bind_eq_some_iff.mp shown
  have squashed : stampText? message = some (Text.squash text) := by
    rw [stampText?_eq, stamp]
    rfl
  have timed : (carried.withSender message).withTime offset message =
      .ok ([], { carried.withSender message with date := date, time := some placed }) := by
    simp only [Carried.withTime, squashed, Carried.withSender_date, told, found]
  simp only [readFragment_of_message present, readMessage_carried timed, and_self]

/-- Without a full stamp the date stays. -/
theorem readFragment_date (silent : fullStampIn? fragment = none) :
    (readFragment offset carried fragment).2.date = carried.date := by
  cases present : messageIn? fragment with
  | none => rw [(readFragment_of_no_message present offset carried).1]
  | some found =>
      obtain ⟨message, id⟩ := found
      rw [readFragment_of_message present]
      have bare : (stampText? message).bind (Stamp.read? fullPattern) = none := by
        rwa [fullStampIn?, stampIn?, present] at silent
      cases timed : (carried.withSender message).withTime offset message with
      | error fault => simp only [readMessage, timed]
      | ok noted =>
          obtain ⟨notices, later⟩ := noted
          rw [readMessage_carried timed, withTime_date bare timed, Carried.withSender_date]

/-- Entries without a full stamp leave the date that is carried. -/
theorem carriedOn_date {fragments : List (List Char)}
    (silent : ∀ fragment ∈ fragments, fullStampIn? fragment = none) :
    (carriedOn offset carried fragments).date = carried.date := by
  induction fragments generalizing carried with
  | nil => rfl
  | cons fragment rest ih =>
      rw [carriedOn, List.foldl_cons, ← carriedOn,
        ih fun other member => silent other (List.mem_cons_of_mem _ member),
        readFragment_date (silent fragment List.mem_cons_self)]

end Setting

/-- The offset places there what a calendar and a clock show. -/
def Places (offset : Option Int) (shown : CivilTime) (placed : Timestamp) : Prop :=
  ∃ wall : WallTime, wall.civil = shown ∧ wall.localize offset = .ok placed

/-- **Stamps are read back**: an entry that shows a full stamp, in any spelling and whatever was
carried before, sets the time to what the stamp writes, in universal time, and the date to its
date; an entry that shows a bare time behind it, with no other full stamp in between, sets the
time to what it writes on that date, and leaves the date. -/
theorem readFragment_stamps {offset : Option Int} {date : Date} {hour minute : Nat}
    {placed : Timestamp} (places : Places offset ⟨date, hour, minute, 0, 0⟩ placed)
    {fragment text : List Char} (shown : shownIn? fragment = some text)
    (written : FullStamp date hour minute text) (carried : Carried) :
    let after := (readFragment offset carried fragment).2
    after.time = some placed ∧ after.date = some date ∧
      ∀ (between : List (List Char)) (bare bareText : List Char) (bareHour bareMinute : Nat)
        (placedLater : Timestamp), (∀ other ∈ between, fullStampIn? other = none) →
        shownIn? bare = some bareText → BareStamp bareHour bareMinute bareText →
        Places offset ⟨date, bareHour, bareMinute, 0, 0⟩ placedLater →
        let last := (readFragment offset (carriedOn offset after between) bare).2
        last.time = some placedLater ∧ last.date = some date := by
  obtain ⟨wall, shows, found⟩ := places
  obtain ⟨time, onDate⟩ :=
    readFragment_of_stampTime shown (stampTime_of_full shows written carried.date) found
  refine ⟨time, onDate, ?_⟩
  intro between bare bareText bareHour bareMinute placedLater silent bareShown bareWritten places
  obtain ⟨later, laterShows, laterFound⟩ := places
  have kept : (carriedOn offset _ between).date = some date := (carriedOn_date silent).trans onDate
  have told := stampTime_of_bare laterShows bareWritten
  rw [← kept] at told
  obtain ⟨laterTime, laterDate⟩ := readFragment_of_stampTime bareShown told laterFound
  exact ⟨laterTime, laterDate.trans kept⟩

/-- A stamp of the first hour of a day in capitals and small letters, an entry without a stamp,
and a bare time of the first hour of the afternoon. -/
def midnightEntry : List Char := stampedEntry '1' " mAY  01,\n2021 12:05Am"
def silentEntry : List Char := "<div class=message data-messageid=2>hello</div>".toList
def noonEntry : List Char := stampedEntry '3' "12:07pm "

/-- Five hours east of universal time the first of them is still on the day before. -/
theorem readFragment_stamps_midnight :
    ∃ placed placedLater : Timestamp,
      Places (some 5) ⟨⟨2021, 5, 1⟩, 0, 5, 0, 0⟩ placed ∧
      placed.wall.civil = ⟨⟨2021, 4, 30⟩, 19, 5, 0, 0⟩ ∧
      Places (some 5) ⟨⟨2021, 5, 1⟩, 12, 7, 0, 0⟩ placedLater ∧
      (readFragment (some 5) .start midnightEntry).2.time = some placed ∧
      (readFragment (some 5) (carriedOn (some 5) (readFragment (some 5) .start midnightEntry).2
        [silentEntry]) noonEntry).2.time = some placedLater := by
  have east : -24 < (5 : Int) ∧ (5 : Int) < 24 := by decide
  have places : Places (some 5) ⟨⟨2021, 5, 1⟩, 0, 5, 0, 0⟩
      (.universal ⟨63755406300000000, by decide, by decide⟩) :=
    ⟨⟨63755424300000000, by decide, by decide⟩, by decide,
      WallTime.localize_eq_ok_iff.mpr ⟨east, rfl, by decide⟩⟩
  have placesLater : Places (some 5) ⟨⟨2021, 5, 1⟩, 12, 7, 0, 0⟩
      (.universal ⟨63755449620000000, by decide, by decide⟩) :=
    ⟨⟨63755467620000000, by decide, by decide⟩, by decide,
      WallTime.localize_eq_ok_iff.mpr ⟨east, rfl, by decide⟩⟩
  have shown : shownIn? midnightEntry = some " mAY  01,\n2021 12:05Am".toList := by
    decide +kernel
  have bareShown : shownIn? noonEntry = some "12:07pm ".toList := by decide +kernel
  have silent : ∀ other ∈ [silentEntry], fullStampIn? other = none := by
    intro other member
    obtain rfl := List.mem_singleton.mp member
    decide +kernel
  have blank {gaps : List (List Char)} (all : (gaps.all fun gap => gap.all Text.isBlank) = true) :
      ∀ gap ∈ gaps, ∀ c ∈ gap, Text.isBlank c = true :=
    fun gap member => List.all_eq_true.mp (List.all_eq_true.mp all gap member)
  have clock : ClockText 0 5 "12:05Am".toList :=
    @ClockText.mk 0 5 ['1', '2'] ['A', 'm'] (by decide) (by decide)
  have bareClock : ClockText 12 7 "12:07pm".toList :=
    @ClockText.mk 12 7 ['1', '2'] ['p', 'm'] (by decide) (by decide)
  have written : FullStamp ⟨2021, 5, 1⟩ 0 5 " mAY  01,\n2021 12:05Am".toList :=
    @FullStamp.mk ⟨2021, 5, 1⟩ 0 5 [' '] "mAY".toList [' ', ' '] ['0', '1'] ['\n'] [' '] _ []
      (blank (by decide)) (by decide) (by decide) (by decide) clock
  have bareWritten : BareStamp 12 7 "12:07pm ".toList :=
    @BareStamp.mk 12 7 [] _ [' '] (blank (by decide)) bareClock
  obtain ⟨time, -, later⟩ := readFragment_stamps places shown written .start
  exact ⟨_, _, places, by decide, placesLater, time,
    (later _ _ _ _ _ _ silent bareShown bareWritten placesLater).1⟩

end Roll20

end Transcript

end DiceLedger
