import DiceLedger.Binary64.Decimal
import DiceLedger.Text.Blank
import DiceLedger.Text.Digit

/-! # Numbers written as text

The forms of whole and decimal numbers that people type: blanks around, a sign,
digits of any script, single underscores between digits; for decimals also a point,
an exponent, and the words for infinity and not-a-number in any case.
-/

namespace DiceLedger

namespace Text

/-- Text converted to a whole number may have at most this many digits. -/
def maxWholeDigits : Nat := 4300

/-- Digits of other scripts become plain ones and foreign blanks become spaces; any
other foreign character becomes one that no number holds. -/
def plainForm (c : Char) : Char :=
  if c.toNat < 127 then c
  else if isBlank c then ' '
  else match digitValue? c with
    | some value => Char.ofNat (48 + value)
    | none => '?'

/-- The plain form of a text without the blanks around it. -/
def plainNumeral (text : List Char) : List Char :=
  dropEndWhile isPlainBlank ((text.map plainForm).dropWhile isPlainBlank)

/-- Removes the underscores, each of which must stand between two digits;
`afterDigit` says whether the character before is a digit. -/
def joinDigits? : Bool → List Char → Option (List Char)
  | _, [] => some []
  | afterDigit, '_' :: rest =>
    match rest with
    | next :: _ => if afterDigit && next.isDigit then joinDigits? false rest else none
    | [] => none
  | _, c :: rest => (joinDigits? c.isDigit rest).map (c :: ·)

/-- The sign in front of a text, negative or not, and what follows it. -/
def takeSign : List Char → Bool × List Char
  | '+' :: rest => (false, rest)
  | '-' :: rest => (true, rest)
  | text => (false, text)

/-- The whole number a text writes. -/
def readInt? (text : List Char) : Option Int := do
  let digits ← joinDigits? false (plainNumeral text)
  let (negative, digits) := takeSign digits
  if digits.isEmpty || !digits.all Char.isDigit || maxWholeDigits < digits.length then none
  else
    let value := valueOfDigits digits
    some (if negative then -value else value)

/-- The exponent of a decimal: nothing, or `e` and a signed run of digits. -/
def readExponent? : List Char → Option Int
  | [] => some 0
  | e :: rest =>
    let (negative, digits) := takeSign rest
    if (e = 'e' || e = 'E') && !digits.isEmpty && digits.all Char.isDigit then
      let value := valueOfDigits digits
      some (if negative then -value else value)
    else none

/-- The number an unsigned decimal without underscores writes. -/
def readDecimal? (negative : Bool) (text : List Char) : Option Binary64 := do
  let whole := text.takeWhile Char.isDigit
  let rest := text.dropWhile Char.isDigit
  let (fraction, rest) := match rest with
    | '.' :: after => (after.takeWhile Char.isDigit, after.dropWhile Char.isDigit)
    | _ => ([], rest)
  if whole.isEmpty && fraction.isEmpty then none
  else
    let exponent ← readExponent? rest
    some (.ofDecimal negative (valueOfDigits (whole ++ fraction)) (exponent - fraction.length))

/-- The number a text writes. -/
def readDouble? (text : List Char) : Option Binary64 := do
  let plain ← joinDigits? false (plainNumeral text)
  let (negative, body) := takeSign plain
  let word := String.ofList (body.map Char.toLower)
  if word = "inf" || word = "infinity" then some (.infinity negative)
  else if word = "nan" then some .nan
  else readDecimal? negative body

end Text

end DiceLedger
