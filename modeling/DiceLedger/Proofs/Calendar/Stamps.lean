import DiceLedger.Calendar.Stamp
import DiceLedger.Proofs.Calendar.Counting
import DiceLedger.Proofs.Text.Words
import Mathlib.Data.List.Infix
import Mathlib.Tactic.IntervalCases

/-! # Dates and clocks that were written

A stamp is read by the first way through its pattern, so it is enough to follow the preferred
reading of each part (`DiceLedger.Stamp.readParts_cons`). The preferred reading of a part that
was written is what was written: a month's name in any letter case, a number with or without a
zero in front, a clock of twelve hours (`DiceLedger.Stamp.ClockText.head?_readParts`). A number
in front is no month's name (`DiceLedger.Stamp.readMonthName_eq_nil`).
-/

namespace DiceLedger

namespace Stamp

open WallTime (padded)

/-- A text writes a word, in capital or small letters. -/
def Spells (word : String) (text : List Char) : Prop := text.map Char.toLower = word.toList

instance (word : String) (text : List Char) : Decidable (Spells word text) :=
  inferInstanceAs (Decidable (_ = _))

/-- A text writes a number, with or without a zero in front of a single digit. -/
def Numbers (n : Nat) (text : List Char) : Prop :=
  text = Nat.toDigits 10 n ∨ text = (padded 2 n).toList

instance (n : Nat) (text : List Char) : Decidable (Numbers n text) :=
  inferInstanceAs (Decidable (_ ∨ _))

/-- The name of a month. -/
def monthName (month : Nat) : String := (monthNames[month - 1]?).getD ""

/-- The hour that a clock of twelve hours shows. -/
def hourShown (hour : Nat) : Nat := if hour % 12 = 0 then 12 else hour % 12

/-- The word for a half of the day. -/
def halfName (hour : Nat) : String := if hour < 12 then "am" else "pm"

/-- Digits are not blank. -/
theorem isBlank_of_isDigit {c : Char} (digit : c.isDigit = true) : Text.isBlank c = false :=
  Text.isBlank_eq_false Char.isDigit (by decide) digit

/-- A word of letters has no blank, in capital or small letters. -/
theorem Spells.isBlank {word : String} {text : List Char} (spelled : Spells word text)
    (letters : word.toList.all Char.isAlpha = true) : ∀ c ∈ text, Text.isBlank c = false := by
  intro c member
  have lower : c.toLower ∈ word.toList := spelled ▸ List.mem_map_of_mem member
  have letter : c.toLower.isAlpha = true := List.all_eq_true.mp letters _ lower
  exact Text.isBlank_eq_false (fun d => d.toLower.isAlpha) (by decide) letter

/-- A text has a digit in front. -/
def StartsWithDigit (text : List Char) : Prop := ∃ c rest, text = c :: rest ∧ c.isDigit = true

theorem StartsWithDigit.ne_nil {text : List Char} (digits : StartsWithDigit text) : text ≠ [] := by
  obtain ⟨c, rest, rfl, -⟩ := digits
  exact List.cons_ne_nil c rest

theorem StartsWithDigit.append {text : List Char} (digits : StartsWithDigit text)
    (more : List Char) : StartsWithDigit (text ++ more) := by
  obtain ⟨c, rest, rfl, digit⟩ := digits
  exact ⟨c, rest ++ more, rfl, digit⟩

/-- A text of digits has one in front, unless it is empty. -/
theorem startsWithDigit {text : List Char} (nonempty : text ≠ [])
    (digits : ∀ c ∈ text, c.isDigit = true) : StartsWithDigit text := by
  obtain ⟨c, rest, rfl⟩ := List.exists_cons_of_ne_nil nonempty
  exact ⟨c, rest, rfl, digits c List.mem_cons_self⟩

/-- A number is written in digits. -/
theorem Numbers.isDigit {n : Nat} {text : List Char} (written : Numbers n text) :
    ∀ c ∈ text, c.isDigit = true := by
  rcases written with short | filled
  · rw [short]
    exact fun _ member => Nat.isDigit_of_mem_toDigits (by decide) (by decide) member
  · rw [filled]
    exact WallTime.isDigit_padded

/-- A number has a digit in front. -/
theorem Numbers.startsWithDigit {n : Nat} {text : List Char} (written : Numbers n text) :
    StartsWithDigit text := by
  refine Stamp.startsWithDigit ?_ written.isDigit
  rcases written with short | filled
  · rw [short]
    exact Nat.toDigits_ne_nil
  · rw [filled, WallTime.toList_padded]
    exact List.append_ne_nil_of_right_ne_nil _ Nat.toDigits_ne_nil

/-- Neither of two words begins with the other. -/
def Apart (first second : String) : Prop :=
  ¬first.toList <+: second.toList ∧ ¬second.toList <+: first.toList

instance (first second : String) : Decidable (Apart first second) :=
  inferInstanceAs (Decidable (_ ∧ _))

section Words

variable {word other : String} {text : List Char} (spelled : Spells word text)

include spelled

/-- A word that is spelled is read, in capital or small letters. -/
theorem afterWord?_append (rest : List Char) : afterWord? word (text ++ rest) = some rest := by
  have length : text.length = word.length := by
    rw [← String.length_toList, ← spelled, List.length_map]
  have front : ((text ++ rest).take word.length).map Char.toLower = word.toList := by
    rw [← length, List.take_left, spelled]
  rw [afterWord?, if_pos front, ← length, List.drop_left]

/-- A text that begins with a word begins with no other, unless one of the two begins with the
other. -/
theorem afterWord?_eq_none (apart : Apart other word) (rest : List Char) :
    afterWord? other (text ++ rest) = none := by
  refine if_neg fun front => ?_
  have whole : (text ++ rest).map Char.toLower = word.toList ++ rest.map Char.toLower := by
    rw [List.map_append, spelled]
  rw [List.map_take, whole] at front
  have found : other.toList <+: word.toList ++ rest.map Char.toLower :=
    front ▸ List.take_prefix _ _
  rcases List.prefix_or_prefix_of_prefix found (List.prefix_append _ _) with begins | begins
  · exact apart.1 begins
  · exact apart.2 begins

end Words

/-- No name of a month begins with another. -/
theorem monthNames_apart : monthNames.Pairwise Apart := by decide

/-- Of words that are apart, the one that a text begins with is found. -/
theorem head?_filterMap_afterWord? {names : List String} (apart : names.Pairwise Apart)
    {index : Nat} {word : String} (here : names[index]? = some word) {text : List Char}
    (spelled : Spells word text) (rest : List Char) :
    ∀ first, ((names.zipIdx first).filterMap fun (name, index) =>
      (afterWord? name (text ++ rest)).map fun rest => (index + 1, rest)).head? =
        some (first + index + 1, rest) := by
  induction names generalizing index with
  | nil => cases here
  | cons name names ih =>
      intro first
      obtain ⟨nameApart, namesApart⟩ := List.pairwise_cons.mp apart
      cases index with
      | zero =>
          obtain rfl := Option.some.inj here
          simp only [List.zipIdx_cons, List.filterMap_cons, afterWord?_append spelled,
            Option.map_some, List.head?_cons, Nat.add_zero]
      | succ index =>
          have other := nameApart word (List.mem_of_getElem? here)
          simp only [List.zipIdx_cons, List.filterMap_cons, afterWord?_eq_none spelled other,
            Option.map_none, ih namesApart here]
          rw [Nat.add_assoc first 1, Nat.add_comm 1]

/-- The name of a month is read as that month, and as no other first. -/
theorem head?_readMonthName {month : Nat} (least : 1 ≤ month) (greatest : month ≤ 12)
    {text : List Char} (named : Spells (monthName month) text) (rest : List Char) :
    (readMonthName (text ++ rest)).head? = some (month, rest) := by
  have here : monthNames[month - 1]? = some (monthName month) := by
    interval_cases month <;> rfl
  have found := head?_filterMap_afterWord? monthNames_apart here named rest 0
  rwa [Nat.zero_add, Nat.sub_add_cancel least] at found

/-- No month's name has a digit in front. -/
theorem readMonthName_eq_nil {text : List Char} (digits : StartsWithDigit text) :
    readMonthName text = [] := by
  obtain ⟨c, rest, rfl, digit⟩ := digits
  have lower : c.toLower.isDigit = true := by
    have kept : "0123456789".toList.all (·.toLower.isDigit) = true := by decide
    exact List.all_eq_true.mp kept c (Text.mem_of_isDigit digit)
  have letters : monthNames.all (fun name => name.toList.head?.any (!·.isDigit)) = true := by
    decide
  rw [readMonthName, List.filterMap_eq_nil_iff]
  rintro ⟨name, index⟩ member
  have letter := List.all_eq_true.mp letters name (List.fst_mem_of_mem_zipIdx member)
  rw [Option.map_eq_none_iff]
  refine if_neg fun front => ?_
  cases written : name.toList with
  | nil => simp [written] at letter
  | cons d others =>
      rw [← String.length_toList, written, List.length_cons, List.take_succ_cons, List.map_cons]
        at front
      obtain rfl := List.head_eq_of_cons_eq front
      simp [written, lower] at letter

/-- A pattern is read through when the preferred reading of its first part lets the others
through. -/
theorem readParts_cons {part : Part} {parts : List Part} {fields middle : Fields}
    {text rest : List Char} {result : Fields × List Char}
    (first : (part.read fields text).head? = some (middle, rest))
    (later : (readParts parts middle rest).head? = some result) :
    (readParts (part :: parts) fields text).head? = some result := by
  obtain ⟨others, read⟩ := List.head?_eq_some_iff.mp first
  rw [readParts, read, List.flatMap_cons, List.head?_append, later]
  rfl

/-- The name of a month sets the month. -/
theorem read_monthName {month : Nat} (least : 1 ≤ month) (greatest : month ≤ 12)
    {text : List Char} (named : Spells (monthName month) text) (fields : Fields)
    (rest : List Char) :
    (Part.monthName.read fields (text ++ rest)).head? =
      some ({ fields with month := month }, rest) := by
  rw [Part.read, List.head?_map, head?_readMonthName least greatest named]
  rfl

/-- A blank in front of a digit is passed over. -/
theorem read_blanks {text : List Char} (digits : StartsWithDigit text) (fields : Fields) :
    (Part.blanks.read fields (' ' :: text)).head? = some (fields, text) := by
  obtain ⟨c, rest, rfl, digit⟩ := digits
  have single : readBlanks (' ' :: c :: rest) = [c :: rest] := by
    simp [readBlanks, isBlank_of_isDigit digit, show Text.isBlank ' ' = true by decide]
  rw [Part.read, single]
  rfl

/-- A character that stands for itself is passed over. -/
theorem read_literal (c : Char) (fields : Fields) (rest : List Char) :
    ((Part.literal c).read fields (c :: rest)).head? = some (fields, rest) := by
  simp [Part.read]

/-- A day with a comma behind it is read whole. -/
theorem read_day {n : Nat} (least : 1 ≤ n) (greatest : n ≤ 31) {text : List Char}
    (written : Numbers n text) (fields : Fields) (rest : List Char) :
    (Part.day.read fields (text ++ ',' :: rest)).head? =
      some ({ fields with day := n }, ',' :: rest) := by
  rw [Numbers, WallTime.toList_padded] at written
  have read : (readForms dayForms (text ++ ',' :: rest)).head? = some (n, ',' :: rest) := by
    interval_cases n <;> rcases written with rfl | rfl <;> rfl
  rw [Part.read, List.head?_map, read]
  rfl

/-- An hour of a clock of twelve hours is read whole in front of a colon, and twelve as none. -/
theorem read_hour {n : Nat} (least : 1 ≤ n) (greatest : n ≤ 12) {text : List Char}
    (written : Numbers n text) (fields : Fields) (rest : List Char) :
    (Part.hourOfHalf.read fields (text ++ ':' :: rest)).head? =
      some ({ fields with hour := n % 12 }, ':' :: rest) := by
  rw [Numbers, WallTime.toList_padded] at written
  have read : (readForms hourOfHalfForms (text ++ ':' :: rest)).head? = some (n, ':' :: rest) := by
    interval_cases n <;> rcases written with rfl | rfl <;> rfl
  rw [Part.read, List.head?_map, read]
  rfl

/-- A minute of two digits is read. -/
theorem read_minute {n : Nat} (inHour : n < 60) (fields : Fields) (rest : List Char) :
    (Part.minute.read fields ((padded 2 n).toList ++ rest)).head? =
      some ({ fields with minute := n }, rest) := by
  rw [WallTime.toList_padded]
  have read : (readForms minuteForms (List.replicate (2 - (Nat.toDigits 10 n).length) '0' ++
      Nat.toDigits 10 n ++ rest)).head? = some (n, rest) := by
    interval_cases n <;> rfl
  rw [Part.read, List.head?_map, read]
  rfl

/-- Digits without a limit are read as the number that they write. -/
theorem readClasses_any (digits : List Char) (all : ∀ c ∈ digits, c.isDigit = true) :
    ∀ value rest, readClasses (List.replicate digits.length .any) value (digits ++ rest) =
      some (digits.foldl (fun value c => value * 10 + (c.toNat - 48)) value, rest) := by
  induction digits with
  | nil => exact fun _ _ => rfl
  | cons c digits ih =>
      intro value rest
      have digit := all c List.mem_cons_self
      have read : DigitClass.any.value? c = some (c.toNat - 48) :=
        Text.digitValue?_of_isDigit digit
      rw [List.length_cons, List.replicate_succ, List.cons_append, readClasses, read]
      exact ih (fun d member => all d (List.mem_cons_of_mem _ member)) _ _

/-- A year of four digits is read in one way only. -/
theorem readForms_year {n : Nat} (fits : n < 10000) (rest : List Char) :
    readForms yearForms ((padded 4 n).toList ++ rest) = [(n, rest)] := by
  have four : (padded 4 n).toList.length = 4 := WallTime.length_padded (by decide) fits
  have read := readClasses_any (padded 4 n).toList WallTime.isDigit_padded 0 rest
  have value := WallTime.valueOfDigits_padded 4 n
  rw [Text.valueOfDigits] at value
  rw [four, value] at read
  have classes : yearForms = [List.replicate 4 .any] := rfl
  rw [readForms, classes, List.filterMap_cons, read]
  rfl

/-- A year of four digits sets the year. -/
theorem read_year {n : Nat} (fits : n < 10000) (fields : Fields) (rest : List Char) :
    (Part.year.read fields ((padded 4 n).toList ++ rest)).head? =
      some ({ fields with year := n }, rest) := by
  rw [Part.read, List.head?_map, readForms_year fits]
  rfl

/-- The word for a half of the day says whether it is the afternoon. -/
theorem read_half {hour : Nat} {text : List Char} (named : Spells (halfName hour) text)
    (fields : Fields) :
    (Part.half.read fields text).head? =
      some ({ fields with afternoon := decide (12 ≤ hour) }, []) := by
  unfold halfName at named
  split at named
  · next early =>
    have first := afterWord?_append named []
    rw [List.append_nil] at first
    simp [Part.read, first, show ¬12 ≤ hour by omega]
  · next late =>
    have first := afterWord?_append named []
    have apart : Apart "am" "pm" := by decide
    have none := afterWord?_eq_none named apart []
    rw [List.append_nil] at first none
    simp [Part.read, first, none, show 12 ≤ hour by omega]

/-- A text writes the time of day as a clock of twelve hours shows it: the hour, the minute in
two digits, and the half of the day. -/
inductive ClockText (hour minute : Nat) : List Char → Prop
  | mk {hourText half : List Char} (numbered : Numbers (hourShown hour) hourText)
      (named : Spells (halfName hour) half) :
      ClockText hour minute (hourText ++ ':' :: ((padded 2 minute).toList ++ half))

section Clock

variable {hour minute : Nat} {text : List Char} (written : ClockText hour minute text)

include written

/-- A time of day has a digit in front. -/
theorem ClockText.startsWithDigit : StartsWithDigit text := by
  obtain ⟨numbered, -⟩ := written
  exact numbered.startsWithDigit.append _

/-- A time of day is written without blanks. -/
theorem ClockText.isBlank : ∀ c ∈ text, Text.isBlank c = false := by
  obtain ⟨numbered, named⟩ := written
  have letters : (halfName hour).toList.all Char.isAlpha = true := by
    unfold halfName
    split <;> decide
  intro c member
  rw [List.mem_append, List.mem_cons, List.mem_append] at member
  rcases member with inHour | rfl | inMinute | inHalf
  · exact isBlank_of_isDigit (numbered.isDigit c inHour)
  · decide
  · exact isBlank_of_isDigit (WallTime.isDigit_padded c inMinute)
  · exact named.isBlank letters c inHalf

/-- The clock is read as it was written; noon and midnight show twelve. -/
theorem ClockText.head?_readParts (minute_lt : minute < 60) (fields : Fields) :
    (readParts [.hourOfHalf, .literal ':', .minute, .half] fields text).head? =
      some ({ fields with
        hour := hour % 12, minute := minute, afternoon := decide (12 ≤ hour) }, []) := by
  obtain ⟨numbered, named⟩ := written
  have shown : 1 ≤ hourShown hour ∧ hourShown hour ≤ 12 ∧ hourShown hour % 12 = hour % 12 := by
    unfold hourShown
    split <;> omega
  obtain ⟨least, greatest, same⟩ := shown
  refine readParts_cons (read_hour least greatest numbered _ _) ?_
  refine readParts_cons (read_literal _ _ _) ?_
  refine readParts_cons (read_minute minute_lt _ _) ?_
  refine readParts_cons (read_half named _) ?_
  rw [same]
  rfl

end Clock

/-- What the preferred way through a pattern leaves nothing of is read as what it found. -/
theorem read?_eq_of_head? {pattern : List Part} {text : List Char} {fields : Fields}
    (first : (readParts pattern {} text).head? = some (fields, [])) :
    read? pattern text =
      WallTime.atMinute? ⟨fields.year, fields.month, fields.day⟩
        (if fields.afternoon then fields.hour + 12 else fields.hour) fields.minute := by
  obtain ⟨others, read⟩ := List.head?_eq_some_iff.mp first
  rw [read?, read]

end Stamp

end DiceLedger
