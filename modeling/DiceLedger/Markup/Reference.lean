import DiceLedger.Markup.EntityTable
import DiceLedger.Text.Blank
import DiceLedger.Text.Digit
import DiceLedger.Text.Numeral

/-! # Character references

A reference stands for a character: by name (`&amp;`) or by number (`&#38;`). In text
the reader of markup finds the references and asks for their characters here
(`namedText`, `numberedText`). In the value of an attribute `decodeValue` finds and
replaces them itself, and there a name may be followed directly by other text.
-/

namespace DiceLedger

namespace Markup

/-- Why markup has no tree. -/
inductive Fault where
  /-- A marked section with no keyword, or an unknown one. -/
  | badSection
  /-- A numbered reference of too many digits. -/
  | tooManyDigits
  deriving DecidableEq, Repr

structure Entity where
  name : List Char
  /-- The name is also known without a semicolon. -/
  bare : Bool
  text : List Char

/-- The entity that an entry of the table writes. -/
def Entity.ofEntry (entry : List Char) : Entity :=
  let (bare, entry) := match entry with
    | '!' :: rest => (true, rest)
    | _ => (false, entry)
  let codes := (Text.split ['-'] ((entry.dropWhile (· ≠ ':')).drop 1))
  { name := entry.takeWhile (· ≠ ':')
    bare := bare
    text := codes.map fun code => Char.ofNat (Text.valueOfHexDigits code) }

def entities : List Entity := (Text.words entityText.toList).map .ofEntry

def entity? (name : List Char) : Option Entity := entities.find? (·.name = name)

/-- The text of a named reference in running text; an unknown one stays as it is,
without its semicolon. -/
def namedText (name : List Char) : List Char :=
  match entity? name with
  | some entity => entity.text
  | none => '&' :: name

/-- The characters that the numbers 128 to 159 stand for, when they stand for any. -/
def windowsChars : List Nat :=
  [0x20ac, 0x81, 0x201a, 0x192, 0x201e, 0x2026, 0x2020, 0x2021, 0x2c6, 0x2030, 0x160, 0x2039,
   0x152, 0x8d, 0x17d, 0x8f, 0x90, 0x2018, 0x2019, 0x201c, 0x201d, 0x2022, 0x2013, 0x2014,
   0x2dc, 0x2122, 0x161, 0x203a, 0x153, 0x9d, 0x17e, 0x178]

/-- Whether a number is no code point of a character. -/
def isNoCharacter (code : Nat) : Bool := 0x10FFFF < code || (0xD800 ≤ code && code ≤ 0xDFFF)

def charOfNumber (code : Nat) : Char :=
  if code = 0 || isNoCharacter code then '\uFFFD'
  else if 0x80 ≤ code && code < 0xA0 then Char.ofNat (windowsChars.getD (code - 0x80) code)
  else Char.ofNat code

/-- The number that a numbered reference writes: digits, or `x` and hexadecimal
digits. -/
def readNumber (text : List Char) : Except Fault Nat :=
  match text with
  | 'x' :: digits | 'X' :: digits => .ok (Text.valueOfHexDigits digits)
  | digits =>
    if Text.maxWholeDigits < digits.length then .error .tooManyDigits
    else .ok (Text.valueOfDigits digits)

/-- The text of a numbered reference in running text. -/
def numberedText (text : List Char) : Except Fault (List Char) :=
  (readNumber text).map fun code => [charOfNumber code]

/-- Whether a code point is left out of values: controls and places that no character
will ever take. -/
def isOmitted (code : Nat) : Bool :=
  (1 ≤ code && code ≤ 8) || code = 0xB || (0xE ≤ code && code ≤ 0x1F) ||
    (0x7F ≤ code && code ≤ 0x9F) || (0xFDD0 ≤ code && code ≤ 0xFDEF) ||
    code % 0x10000 = 0xFFFE || code % 0x10000 = 0xFFFF

def valueOfNumber (code : Nat) : List Char :=
  if code = 0 then ['\uFFFD']
  else if 0x80 ≤ code && code < 0xA0 then [Char.ofNat (windowsChars.getD (code - 0x80) code)]
  else if isNoCharacter code then ['\uFFFD']
  else if isOmitted code then []
  else [Char.ofNat code]

/-- The longest beginning of a name, at least two characters, that is known without a
semicolon; the first part counts the characters to try. -/
def bareBeginning? (name : List Char) : Nat → Option (List Char × List Char)
  | 0 | 1 => none
  | count + 1 =>
    match entity? (name.take (count + 1)) with
    | some entity =>
      if entity.bare then some (entity.text, name.drop (count + 1))
      else bareBeginning? name count
    | none => bareBeginning? name count

/-- The text of a named reference in a value; `closed` says whether a semicolon follows
the name. -/
def valueOfName (name : List Char) (closed : Bool) : List Char :=
  let known := (entity? name).filter fun entity => closed || entity.bare
  let stop := if closed then [';'] else []
  match known with
  | some entity => entity.text
  | none =>
    match bareBeginning? name (if closed then name.length else name.length - 1) with
    | some (text, rest) => text ++ rest ++ stop
    | none => '&' :: name ++ stop

def isReferenceChar (c : Char) : Bool :=
  c ∉ ['\t', '\n', '\x0c', ' ', '<', '&', '#', ';']

/-- A reference right after its ampersand: its text and what follows it. -/
def readReference? (text : List Char) : Except Fault (Option (List Char × List Char)) :=
  let afterStop (rest : List Char) : Bool × List Char := match rest with
    | ';' :: rest => (true, rest)
    | _ => (false, rest)
  match text with
  | '#' :: rest =>
    let digits := rest.takeWhile Char.isDigit
    let (mark, digits, rest) :=
      if !digits.isEmpty then ([], digits, rest.drop digits.length)
      else match rest with
        | x :: rest =>
          if x = 'x' || x = 'X' then
            let digits := rest.takeWhile fun c => (Text.hexValue? c).isSome
            ([x], digits, rest.drop digits.length)
          else ([], [], rest)
        | [] => ([], [], [])
    if digits.isEmpty then .ok none
    else
      match readNumber (mark ++ digits) with
      | .error fault => .error fault
      | .ok code => .ok (some (valueOfNumber code, (afterStop rest).2))
  | _ =>
    let name := (text.take 32).takeWhile isReferenceChar
    if name.isEmpty then .ok none
    else
      let (closed, rest) := afterStop (text.drop name.length)
      .ok (some (valueOfName name closed, rest))

/-- Replaces the references in a value; `fuel` is at least its length. -/
def decodeFrom : (fuel : Nat) → List Char → Except Fault (List Char)
  | 0, text => .ok text
  | _ + 1, [] => .ok []
  | fuel + 1, '&' :: rest =>
    match readReference? rest with
    | .error fault => .error fault
    | .ok (some (text, rest)) => (decodeFrom fuel rest).map (text ++ ·)
    | .ok none => (decodeFrom fuel rest).map ('&' :: ·)
  | fuel + 1, c :: rest => (decodeFrom fuel rest).map (c :: ·)

def decodeValue (text : List Char) : Except Fault (List Char) := decodeFrom text.length text

end Markup

end DiceLedger
