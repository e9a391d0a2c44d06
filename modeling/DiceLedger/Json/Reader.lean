import DiceLedger.Json.Basic
import DiceLedger.Text.Numeral

/-! # Reading JSON text

One value with blanks around it. Besides the standard forms the reader takes the
words `NaN`, `Infinity` and `-Infinity`; it refuses control characters in strings, and
keeps a half of a character that an escape writes without the other half.
A whole number of more digits than `Text.maxWholeDigits` is a fault of its own, and so
are arrays and objects nested deeper than `maxNesting`.
-/

namespace DiceLedger

namespace Json

/-- Why a text is not a JSON value. -/
inductive Fault where
  | malformed
  | tooManyDigits
  | tooDeep
  deriving DecidableEq, Repr

/-- A part of the text read, and the text after it. -/
abbrev Read (α : Type) := Except Fault (α × List Letter)

/-- Arrays and objects stand inside one another at most this deep. -/
def maxNesting : Nat := 980

def skipBlanks (text : List Letter) : List Letter :=
  text.dropWhile ([' ', '\t', '\n', '\r'].map Letter.char).contains

/-- The number written by exactly four hexadecimal digits. -/
def readHex4? : List Letter → Option (Nat × List Letter)
  | .char a :: .char b :: .char c :: .char d :: rest => do
    let a ← Text.hexValue? a
    let b ← Text.hexValue? b
    let c ← Text.hexValue? c
    let d ← Text.hexValue? d
    some (((a * 16 + b) * 16 + c) * 16 + d, rest)
  | _ => none

/-- What a numeric escape writes. The two halves of a character are one letter when the second
follows the first; a half without the other stays a half. -/
def readNumericEscape (text : List Letter) : Read Letter :=
  match readHex4? text with
  | none => .error .malformed
  | some (unit, rest) =>
    match rest with
    | .char '\\' :: .char 'u' :: more =>
      if 0xD800 ≤ unit && unit < 0xDC00 then
        match readHex4? more with
        | none => .error .malformed
        | some (low, after) =>
          if 0xDC00 ≤ low && low < 0xE000 then
            .ok (.char (Char.ofNat (0x10000 + (unit - 0xD800) * 0x400 + (low - 0xDC00))), after)
          else .ok (.ofUnit unit, rest)
      else .ok (.ofUnit unit, rest)
    | _ => .ok (.ofUnit unit, rest)

/-- The characters that write another one behind a backslash. -/
def escapes : List (Char × Char) :=
  [('"', '"'), ('\\', '\\'), ('/', '/'), ('b', '\x08'), ('f', '\x0c'), ('n', '\n'), ('r', '\r'),
   ('t', '\t')]

/-- What stands behind a backslash. -/
def readEscape : List Letter → Read Letter
  | .char 'u' :: rest => readNumericEscape rest
  | .char c :: rest =>
    match escapes.lookup c with
    | some other => .ok (.char other, rest)
    | none => .error .malformed
  | _ => .error .malformed

def isControl : Letter → Bool
  | .char c => c.toNat < 0x20
  | .half _ => false

/-- The rest of a string after its opening quote; `held` is what was read, reversed,
and `fuel` bounds the letters still to come. -/
def readStringFrom : (fuel : Nat) → List Letter → List Letter → Read LooseText
  | 0, _, _ => .error .malformed
  | _ + 1, _, [] => .error .malformed
  | _ + 1, held, .char '"' :: rest => .ok (.ofLetters held.reverse, rest)
  | fuel + 1, held, .char '\\' :: rest =>
    match readEscape rest with
    | .error fault => .error fault
    | .ok (letter, rest) => readStringFrom fuel (letter :: held) rest
  | fuel + 1, held, letter :: rest =>
    if isControl letter then .error .malformed else readStringFrom fuel (letter :: held) rest

def readString (text : List Letter) : Read LooseText := readStringFrom (text.length + 1) [] text

/-- The digits in front of a text, and what follows them. -/
def takeDigits : List Letter → List Char × List Letter
  | .char c :: rest =>
    if c.isDigit then
      let (digits, rest) := takeDigits rest
      (c :: digits, rest)
    else ([], .char c :: rest)
  | text => ([], text)

/-- The digits after a point, when there are any; otherwise the point is not part of
the number. -/
def takeFraction (text : List Letter) : List Char × List Letter :=
  match text with
  | .char '.' :: after =>
    let (digits, rest) := takeDigits after
    if digits.isEmpty then ([], text) else ('.' :: digits, rest)
  | _ => ([], text)

/-- The sign in front of a text, if there is one. -/
def takeSign : List Letter → List Char × List Letter
  | .char '+' :: rest => (['+'], rest)
  | .char '-' :: rest => (['-'], rest)
  | text => ([], text)

/-- An exponent, when it has digits. -/
def takeExponent (text : List Letter) : List Char × List Letter :=
  match text with
  | .char e :: after =>
    if e = 'e' || e = 'E' then
      let (sign, after) := takeSign after
      let (digits, rest) := takeDigits after
      if digits.isEmpty then ([], text) else (e :: sign ++ digits, rest)
    else ([], text)
  | _ => ([], text)

/-- The whole part of a number: a single zero, or digits that start with another. -/
def takeWhole : List Letter → List Char × List Letter
  | .char '0' :: rest => (['0'], rest)
  | text => takeDigits text

def readNumber (text : List Letter) : Read Json :=
  let (negative, body) := match text with
    | .char '-' :: rest => (true, rest)
    | _ => (false, text)
  let (whole, rest) := takeWhole body
  if whole.isEmpty then .error .malformed
  else
    let (fraction, rest) := takeFraction rest
    let (exponent, rest) := takeExponent rest
    if fraction.isEmpty && exponent.isEmpty then
      if Text.maxWholeDigits < whole.length then .error .tooManyDigits
      else
        let value : Int := Text.valueOfDigits whole
        .ok (.integer (if negative then -value else value), rest)
    else
      match Text.readDecimal? negative (whole ++ fraction ++ exponent) with
      | some value => .ok (.number value, rest)
      | none => .error .malformed

/-- The words that stand for a value. -/
def literals : List (String × Json) :=
  [("null", .null), ("true", .bool true), ("false", .bool false), ("NaN", .number .nan),
   ("Infinity", .number (.infinity false)), ("-Infinity", .number (.infinity true))]

/-- The literal in front of a text. -/
def readLiteral? (text : List Letter) : Option (Json × List Letter) :=
  literals.findSome? fun (word, value) =>
    if (word.toList.map Letter.char).isPrefixOf text then some (value, text.drop word.length)
    else none

mutual

/-- A value; `fuel` bounds the length of what is read, and `room` the depth to which
arrays and objects may still nest. -/
def readValue : (fuel : Nat) → (room : Nat) → List Letter → Read Json
  | 0, _, _ => .error .malformed
  | fuel + 1, room, text =>
    match text with
    | .char '"' :: rest =>
      match readString rest with
      | .ok (value, rest) => .ok (.string value, rest)
      | .error fault => .error fault
    | .char '[' :: rest =>
      match room with
      | 0 => .error .tooDeep
      | room + 1 =>
        match skipBlanks rest with
        | .char ']' :: rest => .ok (.array [], rest)
        | rest => readItems fuel room [] rest
    | .char '\x7b' :: rest =>
      match room with
      | 0 => .error .tooDeep
      | room + 1 =>
        match skipBlanks rest with
        | .char '\x7d' :: rest => .ok (.object [], rest)
        | rest => readFields fuel room [] rest
    | text =>
      match readLiteral? text with
      | some found => .ok found
      | none => readNumber text

/-- The items of an array up to its closing bracket; `held` is reversed. -/
def readItems : (fuel : Nat) → (room : Nat) → List Json → List Letter → Read Json
  | 0, _, _, _ => .error .malformed
  | fuel + 1, room, held, text =>
    match readValue fuel room text with
    | .error fault => .error fault
    | .ok (item, rest) =>
      match skipBlanks rest with
      | .char ']' :: rest => .ok (.array (item :: held).reverse, rest)
      | .char ',' :: rest => readItems fuel room (item :: held) (skipBlanks rest)
      | _ => .error .malformed

/-- The fields of an object up to its closing brace. -/
def readFields : (fuel : Nat) → (room : Nat) → List (LooseText × Json) → List Letter → Read Json
  | 0, _, _, _ => .error .malformed
  | fuel + 1, room, held, text =>
    match text with
    | .char '"' :: rest =>
      match readString rest with
      | .error fault => .error fault
      | .ok (name, rest) =>
        match skipBlanks rest with
        | .char ':' :: rest =>
          match readValue fuel room (skipBlanks rest) with
          | .error fault => .error fault
          | .ok (value, rest) =>
            let fields := setField name value held
            match skipBlanks rest with
            | .char '\x7d' :: rest => .ok (.object fields, rest)
            | .char ',' :: rest => readFields fuel room fields (skipBlanks rest)
            | _ => .error .malformed
        | _ => .error .malformed
    | _ => .error .malformed

end

/-- The value that a whole text of letters writes. -/
def readLetters (text : List Letter) : Except Fault Json :=
  match readValue (text.length + 1) maxNesting (skipBlanks text) with
  | .error fault => .error fault
  | .ok (value, rest) => if (skipBlanks rest).isEmpty then .ok value else .error .malformed

/-- The value that a whole text writes. -/
def read (text : List Char) : Except Fault Json := readLetters (text.map .char)

end Json

end DiceLedger
