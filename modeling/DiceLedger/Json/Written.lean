import DiceLedger.Json.Basic

/-! # Writing JSON text

The plainest text of a value: nothing between its parts, and of a string's characters
only the quote, the backslash, the controls and halves of characters escaped.
-/

namespace DiceLedger

namespace Json

/-- A letter inside a written string. -/
def writtenLetter : Letter → List Char
  | .char c =>
    if c = '"' || c = '\\' then ['\\', c]
    else if c.toNat < 0x20 then '\\' :: 'u' :: Text.hexDigits 4 c.toNat
    else [c]
  | .half half => half.escape

def writtenString (text : LooseText) : List Char :=
  '"' :: text.letters.flatMap writtenLetter ++ ['"']

/-- A number; the words for what is not finite are those of `Json.read`. -/
def writtenNumber : Binary64 → List Char
  | .nan => "NaN".toList
  | .infinity negative => Binary64.signChars negative ++ "Infinity".toList
  | value => value.displayChars

mutual

def writtenChars : Json → List Char
  | null => "null".toList
  | bool value => (if value then "true" else "false").toList
  | integer value => (toString value).toList
  | number value => writtenNumber value
  | string value => writtenString value
  | array items => '[' :: writtenItems items ++ [']']
  | object fields => '\x7b' :: writtenFields fields ++ ['\x7d']

def writtenItems : List Json → List Char
  | [] => []
  | [item] => writtenChars item
  | item :: rest => writtenChars item ++ ',' :: writtenItems rest

def writtenFields : List (LooseText × Json) → List Char
  | [] => []
  | [(name, value)] => writtenString name ++ ':' :: writtenChars value
  | (name, value) :: rest =>
    writtenString name ++ ':' :: writtenChars value ++ ',' :: writtenFields rest

end

/-- The text of a value. -/
def written (json : Json) : String := String.ofList json.writtenChars

end Json

end DiceLedger
