/-! # Text from bytes

Bytes are read as UTF-8. Where they are no UTF-8, one replacement character stands for
every longest beginning of a character that breaks off; a strict reader refuses such
bytes.
-/

namespace DiceLedger

namespace Text

/-- The bytes that may follow a first byte of a character: the number of bytes to come,
the bits of the first byte, and the range of the second byte. -/
def leadByte? (byte : Nat) : Option (Nat × Nat × Nat × Nat) :=
  if 0xC2 ≤ byte && byte ≤ 0xDF then some (1, byte - 0xC0, 0x80, 0xBF)
  else if byte = 0xE0 then some (2, 0, 0xA0, 0xBF)
  else if byte = 0xED then some (2, 0xD, 0x80, 0x9F)
  else if 0xE1 ≤ byte && byte ≤ 0xEF then some (2, byte - 0xE0, 0x80, 0xBF)
  else if byte = 0xF0 then some (3, 0, 0x90, 0xBF)
  else if 0xF1 ≤ byte && byte ≤ 0xF3 then some (3, byte - 0xF0, 0x80, 0xBF)
  else if byte = 0xF4 then some (3, 4, 0x80, 0x8F)
  else none

/-- Reads bytes, a character of which `awaited` bytes are still to come, its bits so far,
and the range of its next byte; nothing is awaited between characters. A place where the
bytes are no UTF-8 holds nothing. -/
def decodeBytes : (awaited code least greatest : Nat) → List Nat → List (Option Char)
  | 0, _, _, _, [] => []
  | _ + 1, _, _, _, [] => [none]
  | awaited, code, least, greatest, byte :: rest =>
    let begin : List (Option Char) :=
      if byte < 0x80 then some (Char.ofNat byte) :: decodeBytes 0 0 0 0 rest
      else match leadByte? byte with
        | some (awaited, code, least, greatest) => decodeBytes awaited code least greatest rest
        | none => none :: decodeBytes 0 0 0 0 rest
    match awaited with
    | 0 => begin
    | left + 1 =>
      if least ≤ byte && byte ≤ greatest then
        let code := code * 64 + (byte - 0x80)
        if left = 0 then some (Char.ofNat code) :: decodeBytes 0 0 0 0 rest
        else decodeBytes left code 0x80 0xBF rest
      else none :: begin

/-- The text of bytes. -/
def ofUtf8 (bytes : List Nat) : List Char :=
  (decodeBytes 0 0 0 0 bytes).map (·.getD '\uFFFD')

/-- The text of bytes that are UTF-8 throughout. -/
def ofUtf8? (bytes : List Nat) : Option (List Char) := (decodeBytes 0 0 0 0 bytes).mapM id

/-- Text with one line break for every way to end a line. -/
def unifyLineEnds : List Char → List Char
  | '\r' :: '\n' :: rest => '\n' :: unifyLineEnds rest
  | '\r' :: rest => '\n' :: unifyLineEnds rest
  | c :: rest => c :: unifyLineEnds rest
  | [] => []

/-- The lines of a text after the reversed `line` in progress. -/
def linesAfter : List Char → List Char → List (List Char)
  | line, [] => if line.isEmpty then [] else [line.reverse]
  | line, c :: rest =>
    if c = '\n' then line.reverse :: linesAfter [] rest else linesAfter (c :: line) rest

/-- The lines of a text, without what ends them. -/
def lines (text : List Char) : List (List Char) := linesAfter [] text

end Text

end DiceLedger
