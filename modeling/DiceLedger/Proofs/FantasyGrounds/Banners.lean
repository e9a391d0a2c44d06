import DiceLedger.Proofs.Calendar.NumberedDates
import DiceLedger.Proofs.Text.Splitting
import DiceLedger.Transcript.FantasyGrounds

/-! # The two banners

A session banner names its date in an anchor, a banner of a chat log writes day, month and year
behind its opening words. Both come to the same text before it is read
(`DiceLedger.Transcript.FantasyGrounds.readChatBanner?_eq`), so both announce the minute that they
write, and neither announces anything when the day does not exist
(`DiceLedger.Transcript.FantasyGrounds.banners_agree`).
-/

namespace DiceLedger

namespace Transcript

namespace FantasyGrounds

open Markup (Node)
open Stamp (Numbers MinuteText)
open WallTime (padded displayDate)

variable {date : Date} {hour minute : Nat} {text : List Char}

/-- A date is written without blanks. -/
theorem isBlank_displayDate (date : Date) :
    ∀ c ∈ (displayDate date).toList, Text.isBlank c = false := by
  have digits {width n : Nat} : ∀ c ∈ (padded width n).toList, Text.isBlank c = false :=
    fun c member => Stamp.isBlank_of_isDigit (WallTime.isDigit_padded c member)
  have dash : Text.isBlank '-' = false := by decide
  have parts := WallTime.toList_displayDate_append date []
  rw [List.append_nil, List.append_nil] at parts
  rw [parts]
  simp only [List.forall_mem_append, List.forall_mem_cons]
  exact ⟨digits, dash, digits, dash, digits⟩

/-- A stamp is read from its date and its time, with one blank between them. -/
theorem readStamp?_eq (date : Date) (time : List Char) :
    readStamp? (displayDate date).toList time =
      Stamp.read? stampPattern ((displayDate date).toList ++ ' ' :: Text.trim time) := by
  rw [readStamp?, Text.trim_of_plain (isBlank_displayDate date)]

/-- A date that exists is read with the minute behind it. -/
theorem readStamp?_of_valid (valid : date.IsValid) (hour_lt : hour < 24) (minute_lt : minute < 60)
    {wall : WallTime} (shows : wall.civil = ⟨date, hour, minute, 0, 0⟩)
    (written : MinuteText hour minute (Text.trim text)) :
    readStamp? (displayDate date).toList text = some wall := by
  have year_ge := valid.1
  have read := Stamp.head?_readParts_date valid
    (Stamp.readParts_cons (Stamp.read_blanks written.startsWithDigit _)
      (written.head?_readParts hour_lt minute_lt _))
  rw [readStamp?_eq, stampPattern, Stamp.read?_eq_of_head? read]
  refine WallTime.atMinute?_eq_some_iff.mpr (shows.trans ?_)
  simp only [Int.toNat_of_nonneg (show 0 ≤ date.year by omega), Bool.false_eq_true, ↓reduceIte]

/-- A date that does not exist is not read, whatever stands behind it. -/
theorem readStamp?_of_invalid (least : 0 ≤ date.year) (greatest : date.year ≤ 9999)
    (invalid : ¬date.IsValid) (time : List Char) :
    readStamp? (displayDate date).toList time = none := by
  rw [readStamp?_eq, Stamp.read?]
  split
  · next fields _ read =>
    have first : (fields, []) ∈ Stamp.readParts stampPattern {}
        ((displayDate date).toList ++ ' ' :: Text.trim time) := read ▸ List.mem_cons_self
    have same : fields.date = date := Stamp.date_of_mem_readParts least greatest (by decide) first
    refine Option.eq_none_iff_forall_ne_some.mpr fun wall made => invalid ?_
    have shows := WallTime.atMinute?_eq_some_iff.mp made
    have valid := wall.civil_isValid
    rw [shows] at valid
    exact same ▸ valid.date
  · rfl

/-- A text writes a date as day, month and year, the year in four digits. -/
inductive DayText (date : Date) : List Char → Prop
  | mk {day month : List Char} (days : Numbers date.day day) (months : Numbers date.month month) :
      DayText date (day ++ ['.'] ++ (month ++ ['.'] ++ (padded 4 date.year.toNat).toList))

/-- A sign apart, zeros go in front of everything. -/
theorem twoDigits_eq (digits : Stamp.StartsWithDigit text) :
    twoDigits text = List.replicate (2 - text.length) '0' ++ text := by
  obtain ⟨c, rest, rfl, digit⟩ := digits
  have unsigned : ¬(decide (c = '+') || decide (c = '-')) = true := by
    rw [Bool.or_eq_true, decide_eq_true_eq, decide_eq_true_eq]
    rintro (rfl | rfl)
    · cases digit
    · cases digit
  exact if_neg unsigned

/-- A number of one or two digits is filled up to two. -/
theorem twoDigits_of_numbers {n : Nat} (written : Numbers n text) :
    twoDigits text = (padded 2 n).toList := by
  rw [twoDigits_eq written.startsWithDigit, WallTime.toList_padded]
  rcases written with short | filled
  · rw [short]
  · rw [filled, WallTime.toList_padded, List.length_append, List.length_replicate]
    have filled : 2 - (2 - (Nat.toDigits 10 n).length + (Nat.toDigits 10 n).length) = 0 := by omega
    rw [filled]
    rfl

/-- Two digits stay as they are. -/
theorem twoDigits_of_length (digits : Stamp.StartsWithDigit text) (long : 2 ≤ text.length) :
    twoDigits text = text := by
  rw [twoDigits_eq digits, Nat.sub_eq_zero_of_le long]
  rfl

theorem trim_of_isDigit (digits : ∀ c ∈ text, c.isDigit = true) : Text.trim text = text :=
  Text.trim_of_plain fun c member => Stamp.isBlank_of_isDigit (digits c member)

/-- What is no digit does not stand among digits. -/
theorem not_mem_of_isDigit {mark : Char} (other : mark.isDigit = false)
    (digits : ∀ c ∈ text, c.isDigit = true) : mark ∉ text := by
  intro member
  rw [digits mark member] at other
  cases other

section Chat

variable (least : 0 ≤ date.year) (greatest : date.year ≤ 9999) (dated : DayText date text)

include dated

/-- A day is written in digits and points alone. -/
theorem not_mem_of_dayText {mark : Char} (other : mark.isDigit = false) (apart : mark ≠ '.') :
    mark ∉ text := by
  obtain ⟨days, months⟩ := dated
  simp only [List.mem_append, List.mem_singleton, not_or]
  exact ⟨⟨not_mem_of_isDigit other days.isDigit, apart⟩,
    ⟨not_mem_of_isDigit other months.isDigit, apart⟩,
    not_mem_of_isDigit other WallTime.isDigit_padded⟩

include least greatest

/-- The numbers of a date, filled up, write the date as a session banner does. -/
theorem displayDate_of_dayText :
    ∃ day month year, Text.split ['.'] text = [day, month, year] ∧
      twoDigits (Text.trim year) ++ '-' :: twoDigits (Text.trim month) ++
        '-' :: twoDigits (Text.trim day) = (displayDate date).toList := by
  obtain @⟨day, month, days, months⟩ := dated
  have yearDigits : ∀ c ∈ (padded 4 date.year.toNat).toList, c.isDigit = true :=
    WallTime.isDigit_padded
  have four : (padded 4 date.year.toNat).toList.length = 4 :=
    WallTime.length_padded (by decide) (by omega)
  have yearFront : Stamp.StartsWithDigit (padded 4 date.year.toNat).toList :=
    Stamp.startsWithDigit (List.ne_nil_of_length_pos (by omega)) yearDigits
  have point : '.' ∈ ['.'] := List.mem_singleton_self _
  refine ⟨day, month, (padded 4 date.year.toNat).toList, ?_, ?_⟩
  · rw [Text.split_first point (not_mem_of_isDigit rfl days.isDigit),
      Text.split_once point (not_mem_of_isDigit rfl months.isDigit)
        (not_mem_of_isDigit rfl yearDigits)]
  · rw [trim_of_isDigit yearDigits, trim_of_isDigit days.isDigit, trim_of_isDigit months.isDigit,
      twoDigits_of_length yearFront (by omega), twoDigits_of_numbers days,
      twoDigits_of_numbers months]
    simp [displayDate]

/-- A banner of a chat log is read as a session banner of its date, with the hour and the minute
of its clock. -/
theorem readChatBanner?_eq (time : List Char) :
    readChatBanner? (chatStarted ++ (text ++ slash ++ time)) =
      match Text.split slash time with
      | [clock] =>
        match Text.split [':'] clock with
        | hours :: minutes :: _ => readStamp? (displayDate date).toList (hours ++ ':' :: minutes)
        | _ => none
      | _ => none := by
  obtain ⟨day, month, year, pieces, filled⟩ := displayDate_of_dayText least greatest dated
  have cut : Text.split slash (text ++ slash ++ time) = text :: Text.split slash time :=
    Text.split_first (by decide : ' ' ∈ slash) (not_mem_of_dayText dated rfl (by decide)) time
  rw [readChatBanner?, List.drop_left, cut]
  cases Text.split slash time with
  | nil => rfl
  | cons clock more =>
      cases more with
      | cons _ _ => rfl
      | nil =>
          simp only [pieces, ← filled]
          cases Text.split [':'] clock with
          | nil => rfl
          | cons hours minutes => cases minutes <;> rfl

end Chat

/-- A text writes the time of day, perhaps with the seconds behind it. -/
inductive ChatClock (hour minute : Nat) : List Char → Prop
  | short {clock : List Char} (timed : MinuteText hour minute clock) : ChatClock hour minute clock
  | long {clock : List Char} (timed : MinuteText hour minute clock) (second : Nat) :
      ChatClock hour minute (clock ++ ':' :: (padded 2 second).toList)

/-- The hour and the minute are the first two pieces of a clock. -/
theorem ChatClock.split (written : ChatClock hour minute text) :
    ' ' ∉ text ∧ ∃ hours minutes more, Text.split [':'] text = hours :: minutes :: more ∧
      MinuteText hour minute (hours ++ ':' :: minutes) := by
  have colon : ':' ∈ [':'] := List.mem_singleton_self _
  have minuteDigits : ∀ c ∈ (padded 2 minute).toList, c.isDigit = true := WallTime.isDigit_padded
  have unspaced {clock : List Char} (timed : MinuteText hour minute clock) : ' ' ∉ clock := by
    intro member
    rcases timed.isDigit ' ' member with same | digit
    · cases same
    · cases digit
  cases written with
  | short timed =>
      refine ⟨unspaced timed, ?_⟩
      obtain @⟨hours, numbered⟩ := timed
      refine ⟨hours, _, [], ?_, .mk numbered⟩
      have marked : hours ++ ':' :: (padded 2 minute).toList =
          hours ++ [':'] ++ (padded 2 minute).toList := by simp
      rw [marked, Text.split_once colon (not_mem_of_isDigit rfl numbered.isDigit)
          (not_mem_of_isDigit rfl minuteDigits)]
  | @long clock timed second =>
      constructor
      · simp only [List.mem_append, List.mem_cons, not_or]
        exact ⟨unspaced timed, by decide, not_mem_of_isDigit rfl WallTime.isDigit_padded⟩
      obtain @⟨hours, numbered⟩ := timed
      refine ⟨hours, _, Text.split [':'] (padded 2 second).toList, ?_, .mk numbered⟩
      have marked : hours ++ ':' :: (padded 2 minute).toList ++ ':' :: (padded 2 second).toList =
          hours ++ [':'] ++ ((padded 2 minute).toList ++ [':'] ++ (padded 2 second).toList) := by
        simp
      rw [marked, Text.split_first colon (not_mem_of_isDigit rfl numbered.isDigit),
        Text.split_first colon (not_mem_of_isDigit rfl minuteDigits)]

/-- The banner of a chat tells its date and its minute. -/
theorem readChatBanner?_of_valid (valid : date.IsValid) (hour_lt : hour < 24)
    (minute_lt : minute < 60) {wall : WallTime} (shows : wall.civil = ⟨date, hour, minute, 0, 0⟩)
    (dated : DayText date text) {time : List Char} (timed : ChatClock hour minute time) :
    readChatBanner? (chatStarted ++ (text ++ slash ++ time)) = some wall := by
  obtain ⟨unspaced, hours, minutes, more, pieces, written⟩ := timed.split
  have visible : ∀ c ∈ hours ++ ':' :: minutes, Text.isBlank c = false := by
    intro c member
    rcases written.isDigit c member with rfl | digit
    · decide
    · exact Stamp.isBlank_of_isDigit digit
  have trimmed := Text.trim_of_plain visible
  rw [readChatBanner?_eq (Int.le_of_lt valid.1) valid.2.1 dated,
    Text.split_of_not_mem (by decide : ' ' ∈ slash) unspaced]
  simp only [pieces]
  refine readStamp?_of_valid valid hour_lt minute_lt shows ?_
  rwa [trimmed]

/-- The banner of a chat tells nothing if its date is none of the calendar. -/
theorem readChatBanner?_of_invalid (least : 0 ≤ date.year) (greatest : date.year ≤ 9999)
    (invalid : ¬date.IsValid) (dated : DayText date text) (time : List Char) :
    readChatBanner? (chatStarted ++ (text ++ slash ++ time)) = none := by
  rw [readChatBanner?_eq least greatest dated]
  split
  · split
    · exact readStamp?_of_invalid least greatest invalid _
    · rfl
  · rfl

/-- The last text of the first bold element. -/
def boldText? (nodes : List Node) : Option (List Char) :=
  ((Node.elementsOfAll nodes).find? (·.hasName "b")).bind (·.strings.getLast?)

/-- The first anchor. -/
def anchor? (nodes : List Node) : Option Node := (Node.elementsOfAll nodes).find? (·.hasName "a")

/-- A session banner: the anchor names a date, and the bold text says that a session started, with
a time behind its last slash. -/
inductive SessionBanner (date : Date) (time : List Char) (nodes : List Node) : Prop
  | mk {bold : List Char} (worded : boldText? nodes = some bold)
      (started : Text.hasPart sessionStarted bold = true)
      (last : (Text.split slash bold).getLast? = some time)
      (named : (anchor? nodes).bind (·.attribute? "name") = some (displayDate date).toList)

/-- A banner of a chat log: no anchor, and a bold text with a date and a time behind its opening
words. -/
inductive ChatBanner (date : Date) (time : List Char) (nodes : List Node) : Prop
  | mk {day : List Char} (worded : boldText? nodes = some (chatStarted ++ (day ++ slash ++ time)))
      (dated : DayText date day) (unanchored : anchor? nodes = none)

variable {time : List Char} {nodes : List Node}

/-- The banner of a session is read from its date and its time. -/
theorem SessionBanner.bannerTime?_eq (banner : SessionBanner date time nodes) :
    bannerTime? nodes = readStamp? (displayDate date).toList time := by
  obtain ⟨worded, started, last, named⟩ := banner
  obtain ⟨anchor, anchored, named⟩ := Option.bind_eq_some_iff.mp named
  have nonempty : (displayDate date).toList.isEmpty = false := by
    simp [displayDate]
  rw [boldText?] at worded
  rw [anchor?] at anchored
  simp only [bannerTime?, worded, anchored, named, Option.getD_some, nonempty, started, last,
    Bool.not_true, Bool.or_false, Bool.false_eq_true, ↓reduceIte]

/-- The banner of a chat is read from its day and its time. -/
theorem ChatBanner.exists_bannerTime?_eq (banner : ChatBanner date time nodes) :
    ∃ day, DayText date day ∧
      bannerTime? nodes = readChatBanner? (chatStarted ++ (day ++ slash ++ time)) := by
  obtain @⟨day, worded, dated, unanchored⟩ := banner
  have begins : chatStarted.isPrefixOf (chatStarted ++ (day ++ slash ++ time)) = true :=
    List.isPrefixOf_iff_prefix.mpr (List.prefix_append _ _)
  rw [boldText?] at worded
  rw [anchor?] at unanchored
  refine ⟨day, dated, ?_⟩
  simp only [bannerTime?, worded, unanchored, begins, ↓reduceIte]

/-- **The two banners agree.** For every date with a year of four digits: if it exists, a session
banner of the date and a banner of a chat log of the date announce every minute of the day that
they write; if it does not, neither announces anything, whatever time it writes. -/
theorem banners_agree {date : Date} (least : 0 ≤ date.year) (greatest : date.year ≤ 9999) :
    (date.IsValid → ∀ hour minute, hour < 24 → minute < 60 →
      ∃ wall : WallTime, wall.civil = ⟨date, hour, minute, 0, 0⟩ ∧
        (∀ nodes time, SessionBanner date time nodes → MinuteText hour minute (Text.trim time) →
          bannerTime? nodes = some wall) ∧
        (∀ nodes time, ChatBanner date time nodes → ChatClock hour minute time →
          bannerTime? nodes = some wall)) ∧
    (¬date.IsValid → ∀ nodes time,
      SessionBanner date time nodes ∨ ChatBanner date time nodes → bannerTime? nodes = none) := by
  constructor
  · intro valid hour minute hour_lt minute_lt
    have shown : CivilTime.IsValid ⟨date, hour, minute, 0, 0⟩ :=
      ⟨valid, hour_lt, minute_lt, Nat.zero_lt_succ _, Nat.zero_lt_succ _⟩
    obtain ⟨wall, shows⟩ := WallTime.exists_civil_eq shown
    refine ⟨wall, shows, ?_, ?_⟩
    · intro nodes time banner timed
      rw [banner.bannerTime?_eq]
      exact readStamp?_of_valid valid hour_lt minute_lt shows timed
    · intro nodes time banner timed
      obtain ⟨day, dated, read⟩ := banner.exists_bannerTime?_eq
      rw [read]
      exact readChatBanner?_of_valid valid hour_lt minute_lt shows dated timed
  · rintro invalid nodes time (banner | banner)
    · rw [banner.bannerTime?_eq]
      exact readStamp?_of_invalid least greatest invalid time
    · obtain ⟨day, dated, read⟩ := banner.exists_bannerTime?_eq
      rw [read]
      exact readChatBanner?_of_invalid least greatest invalid dated time

/-- The nodes of a line that can be parsed. -/
def nodesOf (line : List Char) : List Node := (Markup.parse line).toOption.getD []

def leapSession : List Node :=
  nodesOf "<a name=2024-02-29 /><b>Session started at 2024-02-29 / 7:05 </b><br />".toList
def leapChat : List Node :=
  nodesOf "<b>Chat log started at 29.02.2024 / 07:05:59</b><br />".toList
def commonChat : List Node :=
  nodesOf "<b>Chat log started at 29.2.2023 / 7:05</b><br />".toList

/-- The last day of February in a leap year and in another one. -/
theorem banners_agree_leap_day :
    (SessionBanner ⟨2024, 2, 29⟩ "7:05 ".toList leapSession ∧
      ChatBanner ⟨2024, 2, 29⟩ "07:05:59".toList leapChat ∧
      ChatBanner ⟨2023, 2, 29⟩ "7:05".toList commonChat) ∧
    (∃ wall : WallTime, wall.civil = ⟨⟨2024, 2, 29⟩, 7, 5, 0, 0⟩ ∧
      bannerTime? leapSession = some wall ∧ bannerTime? leapChat = some wall) ∧
    bannerTime? commonChat = none := by
  have session : SessionBanner ⟨2024, 2, 29⟩ "7:05 ".toList leapSession :=
    @SessionBanner.mk _ _ _ "Session started at 2024-02-29 / 7:05 ".toList (by decide +kernel)
      (by decide +kernel) (by decide +kernel) (by decide +kernel)
  have chat : ChatBanner ⟨2024, 2, 29⟩ "07:05:59".toList leapChat :=
    @ChatBanner.mk _ _ _ "29.02.2024".toList (by decide +kernel)
      (@DayText.mk ⟨2024, 2, 29⟩ ['2', '9'] ['0', '2'] (by decide) (by decide))
      (Option.isNone_iff_eq_none.mp (by decide +kernel))
  have common : ChatBanner ⟨2023, 2, 29⟩ "7:05".toList commonChat :=
    @ChatBanner.mk _ _ _ "29.2.2023".toList (by decide +kernel)
      (@DayText.mk ⟨2023, 2, 29⟩ ['2', '9'] ['2'] (by decide) (by decide))
      (Option.isNone_iff_eq_none.mp (by decide +kernel))
  have minute : MinuteText 7 5 (Text.trim "7:05 ".toList) := @MinuteText.mk 7 5 ['7'] (by decide)
  have clock : ChatClock 7 5 "07:05:59".toList :=
    .long (@MinuteText.mk 7 5 ['0', '7'] (by decide)) 59
  have exists_leap : Date.IsValid ⟨2024, 2, 29⟩ := by decide
  obtain ⟨agree, -⟩ := @banners_agree ⟨2024, 2, 29⟩ (by decide) (by decide)
  obtain ⟨-, silent⟩ := @banners_agree ⟨2023, 2, 29⟩ (by decide) (by decide)
  obtain ⟨wall, shows, sessionTime, chatTime⟩ := agree exists_leap 7 5 (by decide) (by decide)
  exact ⟨⟨session, chat, common⟩,
    ⟨wall, shows, sessionTime _ _ session minute, chatTime _ _ chat clock⟩,
    silent (by decide) _ _ (.inr common)⟩

end FantasyGrounds

end Transcript

end DiceLedger
