import DiceLedger.Calendar.Timestamp
import DiceLedger.Text.Blank

/-! # Written dates and times

A stamp is read by a pattern of parts. A part may read more than one way (`12` is
twelve, or one followed by a two); the ways are tried in order of preference, and the
first that lets the whole pattern through is taken. What it leaves over makes the
stamp unreadable.
-/

namespace DiceLedger

namespace Stamp

inductive Part where
  | year
  | month
  | monthName
  | day
  | hour
  | hourOfHalf
  | minute
  | half
  | blanks
  | literal (c : Char)
  deriving DecidableEq, Repr

/-- The numbers read so far; parts that a pattern lacks keep their first value. -/
structure Fields where
  year : Nat := 1900
  month : Nat := 1
  day : Nat := 1
  hour : Nat := 0
  minute : Nat := 0
  afternoon : Bool := false
  deriving DecidableEq, Repr

inductive DigitClass where
  /-- A plain digit between two values. -/
  | between (least greatest : Nat)
  | any
  | space
  deriving DecidableEq, Repr

/-- The value of a character in a class; a space adds nothing. -/
def DigitClass.value? : DigitClass → Char → Option Nat
  | between least greatest, c =>
    if c.isDigit && least ≤ c.toNat - 48 && c.toNat - 48 ≤ greatest then some (c.toNat - 48)
    else none
  | any, c => Text.digitValue? c
  | space, c => if c = ' ' then some 0 else none

/-- The number that a sequence of classes reads in front of a text. -/
def readClasses : List DigitClass → Nat → List Char → Option (Nat × List Char)
  | [], value, rest => some (value, rest)
  | _ :: _, _, [] => none
  | first :: others, value, c :: rest =>
    match first.value? c with
    | some digit => readClasses others (value * 10 + digit) rest
    | none => none

/-- The ways to write a number, in order of preference. -/
def yearForms : List (List DigitClass) := [[.any, .any, .any, .any]]
def monthForms : List (List DigitClass) :=
  [[.between 1 1, .between 0 2], [.between 0 0, .between 1 9], [.between 1 9]]
def dayForms : List (List DigitClass) :=
  [[.between 3 3, .between 0 1], [.between 1 2, .any], [.between 0 0, .between 1 9],
   [.between 1 9], [.space, .between 1 9]]
def hourForms : List (List DigitClass) :=
  [[.between 2 2, .between 0 3], [.between 0 1, .any], [.any]]
def hourOfHalfForms : List (List DigitClass) := monthForms
def minuteForms : List (List DigitClass) := [[.between 0 5, .any], [.any]]

/-- All readings of a number in front of a text. -/
def readForms (forms : List (List DigitClass)) (text : List Char) : List (Nat × List Char) :=
  forms.filterMap fun classes => readClasses classes 0 text

def monthNames : List String :=
  ["january", "february", "march", "april", "may", "june", "july", "august", "september",
   "october", "november", "december"]

/-- What follows a word in front of a text, case aside. -/
def afterWord? (word : String) (text : List Char) : Option (List Char) :=
  let front := text.take word.length
  if front.map Char.toLower = word.toList then some (text.drop word.length) else none

/-- All readings of a month's name, as a number from one. -/
def readMonthName (text : List Char) : List (Nat × List Char) :=
  monthNames.zipIdx.filterMap fun (name, index) =>
    (afterWord? name text).map fun rest => (index + 1, rest)

/-- All ways to leave one or more of the blanks in front of a text behind, most
first. -/
def readBlanks : List Char → List (List Char)
  | [] => []
  | c :: rest => if Text.isBlank c then readBlanks rest ++ [rest] else []

/-- All readings of a part in front of a text, in order of preference. -/
def Part.read (part : Part) (fields : Fields) (text : List Char) : List (Fields × List Char) :=
  match part with
  | year => (readForms yearForms text).map fun (n, rest) => ({ fields with year := n }, rest)
  | month => (readForms monthForms text).map fun (n, rest) => ({ fields with month := n }, rest)
  | monthName => (readMonthName text).map fun (n, rest) => ({ fields with month := n }, rest)
  | day => (readForms dayForms text).map fun (n, rest) => ({ fields with day := n }, rest)
  | hour => (readForms hourForms text).map fun (n, rest) => ({ fields with hour := n }, rest)
  | hourOfHalf =>
    (readForms hourOfHalfForms text).map fun (n, rest) => ({ fields with hour := n % 12 }, rest)
  | minute => (readForms minuteForms text).map fun (n, rest) => ({ fields with minute := n }, rest)
  | half =>
    ((afterWord? "am" text).map fun rest => ({ fields with afternoon := false }, rest)).toList ++
      ((afterWord? "pm" text).map fun rest => ({ fields with afternoon := true }, rest)).toList
  | blanks => (readBlanks text).map fun rest => (fields, rest)
  | literal c =>
    match text with
    | first :: rest => if first = c then [(fields, rest)] else []
    | [] => []

/-- All readings of a pattern in front of a text, in order of preference. -/
def readParts : List Part → Fields → List Char → List (Fields × List Char)
  | [], fields, text => [(fields, text)]
  | part :: parts, fields, text =>
    (part.read fields text).flatMap fun (fields, rest) => readParts parts fields rest

/-- The wall time that a text writes in a pattern: the preferred reading has to leave
nothing over, and its day has to exist. -/
def read? (pattern : List Part) (text : List Char) : Option WallTime :=
  match readParts pattern {} text with
  | (fields, []) :: _ =>
    WallTime.atMinute? ⟨fields.year, fields.month, fields.day⟩
      (if fields.afternoon then fields.hour + 12 else fields.hour) fields.minute
  | _ => none

end Stamp

end DiceLedger
