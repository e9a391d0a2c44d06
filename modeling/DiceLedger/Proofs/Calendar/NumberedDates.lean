import DiceLedger.Proofs.Calendar.Stamps

/-! # Dates in numbers

A date written as `YYYY-MM-DD` is read back, whatever stands behind it
(`DiceLedger.Stamp.head?_readParts_date`), and no way through a pattern reads another date in
it (`DiceLedger.Stamp.date_of_mem_readParts`): a number that a mark ends is read to its last digit
or not at all (`DiceLedger.Stamp.of_mem_readForms`).
-/

namespace DiceLedger

namespace Stamp

open WallTime (padded)

/-- The date among what was read. -/
def Fields.date (fields : Fields) : Date := ⟨fields.year, fields.month, fields.day⟩

/-- A month of two digits is read first. -/
theorem read_month {n : Nat} (least : 1 ≤ n) (greatest : n ≤ 12) (fields : Fields)
    (rest : List Char) :
    (Part.month.read fields ((padded 2 n).toList ++ rest)).head? =
      some ({ fields with month := n }, rest) := by
  rw [WallTime.toList_padded]
  have read : (readForms monthForms (List.replicate (2 - (Nat.toDigits 10 n).length) '0' ++
      Nat.toDigits 10 n ++ rest)).head? = some (n, rest) := by
    interval_cases n <;> rfl
  rw [Part.read, List.head?_map, read]
  rfl

/-- A day of two digits is read first. -/
theorem read_paddedDay {n : Nat} (least : 1 ≤ n) (greatest : n ≤ 31) (fields : Fields)
    (rest : List Char) :
    (Part.day.read fields ((padded 2 n).toList ++ rest)).head? =
      some ({ fields with day := n }, rest) := by
  rw [WallTime.toList_padded]
  have read : (readForms dayForms (List.replicate (2 - (Nat.toDigits 10 n).length) '0' ++
      Nat.toDigits 10 n ++ rest)).head? = some (n, rest) := by
    interval_cases n <;> rfl
  rw [Part.read, List.head?_map, read]
  rfl

/-- An hour of the day is read whole in front of a colon. -/
theorem read_hourOfDay {n : Nat} (inDay : n < 24) {text : List Char} (written : Numbers n text)
    (fields : Fields) (rest : List Char) :
    (Part.hour.read fields (text ++ ':' :: rest)).head? =
      some ({ fields with hour := n }, ':' :: rest) := by
  rw [Numbers, WallTime.toList_padded] at written
  have read : (readForms hourForms (text ++ ':' :: rest)).head? = some (n, ':' :: rest) := by
    interval_cases n <;> rcases written with rfl | rfl <;> rfl
  rw [Part.read, List.head?_map, read]
  rfl

/-- The date is read, if what stands behind it is. -/
theorem head?_readParts_date {date : Date} (valid : date.IsValid) {parts : List Part}
    {rest : List Char} {result : Fields × List Char}
    (later : (readParts parts ⟨date.year.toNat, date.month, date.day, 0, 0, false⟩ rest).head? =
      some result) :
    (readParts (.year :: .literal '-' :: .month :: .literal '-' :: .day :: parts) {}
      ((WallTime.displayDate date).toList ++ rest)).head? = some result := by
  have day_le := valid.day_le
  obtain ⟨year_ge, year_le, month_ge, month_le, day_ge, -⟩ := valid
  rw [WallTime.toList_displayDate_append]
  refine readParts_cons (read_year (by omega) _ _) ?_
  refine readParts_cons (read_literal _ _ _) ?_
  refine readParts_cons (read_month month_ge month_le _ _) ?_
  refine readParts_cons (read_literal _ _ _) ?_
  refine readParts_cons (read_paddedDay day_ge day_le _ _) ?_
  exact later

/-- A text writes the time of day: the hour, with or without a zero in front, and the minute in
two digits. -/
inductive MinuteText (hour minute : Nat) : List Char → Prop
  | mk {hourText : List Char} (numbered : Numbers hour hourText) :
      MinuteText hour minute (hourText ++ ':' :: (padded 2 minute).toList)

section Minute

variable {hour minute : Nat} {text : List Char} (written : MinuteText hour minute text)

include written

/-- A time to the minute has a digit in front. -/
theorem MinuteText.startsWithDigit : StartsWithDigit text := by
  obtain ⟨numbered⟩ := written
  exact numbered.startsWithDigit.append _

/-- Nothing but digits and the colon stands in it. -/
theorem MinuteText.isDigit : ∀ c ∈ text, c = ':' ∨ c.isDigit = true := by
  obtain ⟨numbered⟩ := written
  intro c member
  rw [List.mem_append, List.mem_cons] at member
  rcases member with inHour | rfl | inMinute
  · exact .inr (numbered.isDigit c inHour)
  · exact .inl rfl
  · exact .inr (WallTime.isDigit_padded c inMinute)

/-- A time to the minute is read as its hour and its minute. -/
theorem MinuteText.head?_readParts (hour_lt : hour < 24) (minute_lt : minute < 60)
    (fields : Fields) :
    (readParts [.hour, .literal ':', .minute] fields text).head? =
      some ({ fields with hour := hour, minute := minute }, []) := by
  obtain ⟨numbered⟩ := written
  refine readParts_cons (read_hourOfDay hour_lt numbered _ _) ?_
  refine readParts_cons (read_literal _ _ _) ?_
  have read := read_minute minute_lt { fields with hour := hour } []
  rw [List.append_nil] at read
  exact readParts_cons read rfl

end Minute

/-- The digits that a number is read from have their values. -/
theorem DigitClass.value_of_isDigit {kind : DigitClass} {c : Char} (digit : c.isDigit = true)
    {value : Nat} (read : kind.value? c = some value) :
    kind ≠ .space ∧ value = c.toNat - 48 := by
  cases kind with
  | space =>
      have blank : c ≠ ' ' := by
        rintro rfl
        cases digit
      simp [DigitClass.value?, blank] at read
  | between least greatest =>
      simp only [DigitClass.value?, Option.ite_none_right_eq_some, Option.some.injEq] at read
      exact ⟨DigitClass.noConfusion, read.2.symm⟩
  | any =>
      rw [DigitClass.value?, Text.digitValue?_of_isDigit digit] at read
      exact ⟨DigitClass.noConfusion, (Option.some.inj read).symm⟩

/-- What is no digit in any script is read as none. -/
theorem DigitClass.value?_eq_none {kind : DigitClass} (plain : kind ≠ .space) {c : Char}
    (mark : Text.digitValue? c = none) : kind.value? c = none := by
  have other : c.isDigit = false := by
    refine Bool.eq_false_iff.mpr fun digit => ?_
    rw [Text.digitValue?_of_isDigit digit] at mark
    cases mark
  cases kind with
  | space => exact absurd rfl plain
  | between least greatest => simp [DigitClass.value?, other]
  | any => exact mark

section Marked

variable {digits : List Char} (all : ∀ c ∈ digits, c.isDigit = true) {stop next : Char}
  (stopMark : Text.digitValue? stop = none) (nextMark : Text.digitValue? next = none)
  {tail rest : List Char} {value : Nat}

include all stopMark nextMark

/-- Classes that stop before a mark have read all digits before it. -/
theorem of_readClasses {classes : List DigitClass} (plain : .space ∉ classes) {start : Nat}
    (read : readClasses classes start (digits ++ stop :: tail) = some (value, next :: rest)) :
    value = digits.foldl (fun value c => value * 10 + (c.toNat - 48)) start ∧
      next :: rest = stop :: tail := by
  induction classes generalizing digits start with
  | nil =>
      obtain ⟨rfl, same⟩ := Prod.mk.inj (Option.some.inj read)
      cases digits with
      | nil => exact ⟨rfl, same.symm⟩
      | cons c digits =>
          obtain ⟨rfl, -⟩ := List.cons.inj same
          rw [Text.digitValue?_of_isDigit (all _ List.mem_cons_self)] at nextMark
          cases nextMark
  | cons kind classes ih =>
      obtain ⟨other, others⟩ := not_or.mp (List.mem_cons.not.mp plain)
      cases digits with
      | nil =>
          rw [List.nil_append, readClasses, DigitClass.value?_eq_none (Ne.symm other) stopMark]
            at read
          cases read
      | cons c digits =>
          rw [List.cons_append, readClasses] at read
          split at read
          · next digit here =>
            obtain ⟨-, rfl⟩ := DigitClass.value_of_isDigit (all c List.mem_cons_self) here
            exact ih (fun d member => all d (List.mem_cons_of_mem c member)) others read
          · cases read

/-- A number that a mark ends is read to its last digit. -/
theorem of_mem_readForms (nonempty : digits ≠ []) {forms : List (List DigitClass)}
    (plain : ∀ classes ∈ forms, .space ∉ classes.tail)
    (member : (value, next :: rest) ∈ readForms forms (digits ++ stop :: tail)) :
    value = Text.valueOfDigits digits ∧ next :: rest = stop :: tail := by
  obtain ⟨classes, held, read⟩ := List.mem_filterMap.mp member
  refine of_readClasses all stopMark nextMark (fun space => ?_) read
  -- A space could only be read where the first digit stands.
  obtain ⟨c, others, rfl⟩ := List.exists_cons_of_ne_nil nonempty
  obtain ⟨kind, later, rfl⟩ := List.exists_cons_of_ne_nil (List.ne_nil_of_mem space)
  rcases List.mem_cons.mp space with rfl | further
  · rw [List.cons_append, readClasses] at read
    split at read
    · next digit here =>
      exact (DigitClass.value_of_isDigit (all c List.mem_cons_self) here).1 rfl
    · cases read
  · exact plain _ held further

end Marked

/-- Whether a part leaves the date. -/
def Part.isTimed : Part → Bool
  | .year | .month | .monthName | .day => false
  | _ => true

/-- Every reading of parts is one of the first part and one of the others behind it. -/
theorem mem_readParts_cons {part : Part} {parts : List Part} {fields : Fields}
    {text : List Char} {result : Fields × List Char} :
    result ∈ readParts (part :: parts) fields text ↔
      ∃ middle rest, (middle, rest) ∈ part.read fields text ∧
        result ∈ readParts parts middle rest := by
  rw [readParts, List.mem_flatMap, Prod.exists]

/-- A character that stands for itself is there, and changes nothing. -/
theorem mem_read_literal {mark : Char} {fields middle : Fields} {text rest : List Char} :
    (middle, rest) ∈ (Part.literal mark).read fields text ↔
      middle = fields ∧ text = mark :: rest := by
  cases text with
  | nil => simp [Part.read]
  | cons c text =>
      by_cases same : c = mark
      · simp [Part.read, same, eq_comm]
      · simp [Part.read, same]

/-- Parts of the time of day leave the date as it is. -/
theorem Part.date_of_mem_read {part : Part} (timed : part.isTimed = true)
    {fields middle : Fields} {text rest : List Char}
    (member : (middle, rest) ∈ part.read fields text) : middle.date = fields.date := by
  cases part with
  | year | month | monthName | day => cases timed
  | hour | hourOfHalf | minute | blanks =>
      obtain ⟨_, -, same⟩ := List.mem_map.mp member
      obtain ⟨rfl, -⟩ := Prod.mk.inj same
      rfl
  | half =>
      rcases List.mem_append.mp member with first | second
      · obtain ⟨_, -, same⟩ := Option.map_eq_some_iff.mp (Option.mem_toList.mp first)
        obtain ⟨rfl, -⟩ := Prod.mk.inj same
        rfl
      · obtain ⟨_, -, same⟩ := Option.map_eq_some_iff.mp (Option.mem_toList.mp second)
        obtain ⟨rfl, -⟩ := Prod.mk.inj same
        rfl
  | literal mark => rw [(mem_read_literal.mp member).1]

/-- Parts that leave the date read no other. -/
theorem date_of_mem_timed {parts : List Part} (timed : ∀ part ∈ parts, part.isTimed = true)
    {fields : Fields} {text : List Char} {result : Fields × List Char}
    (member : result ∈ readParts parts fields text) : result.1.date = fields.date := by
  induction parts generalizing fields text with
  | nil =>
      obtain rfl := List.mem_singleton.mp member
      rfl
  | cons part parts ih =>
      obtain ⟨middle, rest, first, later⟩ := mem_readParts_cons.mp member
      rw [ih (fun other held => timed other (List.mem_cons_of_mem part held)) later,
        Part.date_of_mem_read (timed part List.mem_cons_self) first]

/-- Every reading passes over a character that stands for itself. -/
theorem of_mem_literal {mark : Char} {parts : List Part} {fields : Fields} {text : List Char}
    {result : Fields × List Char}
    (member : result ∈ readParts (.literal mark :: parts) fields text) :
    ∃ rest, text = mark :: rest ∧ result ∈ readParts parts fields rest := by
  obtain ⟨middle, rest, first, later⟩ := mem_readParts_cons.mp member
  obtain ⟨rfl, rfl⟩ := mem_read_literal.mp first
  exact ⟨rest, rfl, later⟩

/-- Blanks are read where there is one. -/
theorem exists_blank_of_mem {fields middle : Fields} {text rest : List Char}
    (member : (middle, rest) ∈ Part.blanks.read fields text) :
    ∃ c later, text = c :: later ∧ Text.isBlank c = true := by
  obtain ⟨left, held, -⟩ := List.mem_map.mp member
  cases text with
  | nil => cases held
  | cons c text =>
      rw [readBlanks] at held
      split at held
      · next blank => exact ⟨c, text, rfl, blank⟩
      · cases held

/-- A blank is no digit. -/
theorem digitValue?_of_isBlank {c : Char} (blank : Text.isBlank c = true) :
    Text.digitValue? c = none := by
  refine Option.not_isSome_iff_eq_none.mp fun digit => ?_
  rw [Text.isBlank_eq_false (fun d => (Text.digitValue? d).isSome) (by decide) digit] at blank
  cases blank

section Padded

variable {n : Nat} {stop next : Char} (stopMark : Text.digitValue? stop = none)
  (nextMark : Text.digitValue? next = none) {tail rest : List Char} {fields middle : Fields}

include stopMark nextMark

/-- A part that reads a number of two digits into the fields. -/
theorem of_mem_padded {forms : List (List DigitClass)} (set : Nat → Fields)
    (plain : ∀ classes ∈ forms, .space ∉ classes.tail)
    (member : (middle, next :: rest) ∈
      (readForms forms ((padded 2 n).toList ++ stop :: tail)).map
        fun read => (set read.1, read.2)) :
    middle = set n ∧ next :: rest = stop :: tail := by
  have nonempty : (padded 2 n).toList ≠ [] := by
    rw [WallTime.toList_padded]
    exact List.append_ne_nil_of_right_ne_nil _ Nat.toDigits_ne_nil
  obtain ⟨⟨value, left⟩, held, same⟩ := List.mem_map.mp member
  obtain ⟨rfl, rfl⟩ := Prod.mk.inj same
  obtain ⟨read, behind⟩ :=
    of_mem_readForms WallTime.isDigit_padded stopMark nextMark nonempty plain held
  rw [read, WallTime.valueOfDigits_padded]
  exact ⟨rfl, behind⟩

/-- In front of what is no digit, a month of two digits has one reading. -/
theorem of_mem_month
    (member : (middle, next :: rest) ∈
      Part.month.read fields ((padded 2 n).toList ++ stop :: tail)) :
    middle = { fields with month := n } ∧ next :: rest = stop :: tail :=
  of_mem_padded stopMark nextMark (fun n => { fields with month := n }) (by decide) member

/-- In front of what is no digit, a day of two digits has one reading. -/
theorem of_mem_day
    (member : (middle, next :: rest) ∈
      Part.day.read fields ((padded 2 n).toList ++ stop :: tail)) :
    middle = { fields with day := n } ∧ next :: rest = stop :: tail :=
  of_mem_padded stopMark nextMark (fun n => { fields with day := n }) (by decide) member

end Padded

/-- Whatever is read behind a date in numbers, no other date is read in its place. -/
theorem date_of_mem_readParts {date : Date} (least : 0 ≤ date.year) (greatest : date.year ≤ 9999)
    {parts : List Part} (timed : ∀ part ∈ parts, part.isTimed = true) {rest : List Char}
    {result : Fields × List Char}
    (member : result ∈ readParts
      (.year :: .literal '-' :: .month :: .literal '-' :: .day :: .blanks :: parts) {}
      ((WallTime.displayDate date).toList ++ ' ' :: rest)) :
    result.1.date = date := by
  have dash : Text.digitValue? '-' = none := by decide
  have space : Text.digitValue? ' ' = none := by decide
  rw [WallTime.toList_displayDate_append] at member
  obtain ⟨_, _, year, afterYear⟩ := mem_readParts_cons.mp member
  rw [Part.read, readForms_year (by omega), List.map_singleton, List.mem_singleton,
    Prod.mk.injEq] at year
  obtain ⟨rfl, rfl⟩ := year
  obtain ⟨_, behindYear, onMonth⟩ := of_mem_literal afterYear
  rw [← List.tail_eq_of_cons_eq behindYear] at onMonth
  obtain ⟨_, _, month, afterMonth⟩ := mem_readParts_cons.mp onMonth
  obtain ⟨_, rfl, onDay⟩ := of_mem_literal afterMonth
  obtain ⟨rfl, behindMonth⟩ := of_mem_month dash dash month
  rw [List.tail_eq_of_cons_eq behindMonth] at onDay
  obtain ⟨_, _, day, afterDay⟩ := mem_readParts_cons.mp onDay
  obtain ⟨_, _, blanks, -⟩ := mem_readParts_cons.mp afterDay
  obtain ⟨c, _, rfl, blank⟩ := exists_blank_of_mem blanks
  obtain ⟨rfl, -⟩ := of_mem_day space (digitValue?_of_isBlank blank) day
  have kept := date_of_mem_timed (List.forall_mem_cons.mpr ⟨rfl, timed⟩) afterDay
  rw [kept, Fields.date, Int.toNat_of_nonneg least]

end Stamp

end DiceLedger
