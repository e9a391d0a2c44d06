import DiceLedger.Text.Loose
import DiceLedger.Text.Printable

/-! # Text in quotes

A quoted text stands between single quotes, or between double quotes when it holds
a single quote and no double one. The quote in use and the backslash are escaped,
and so is every character without a visible form.
-/

namespace DiceLedger

namespace Text

/-- One character inside quotes. -/
def quotedChar (quote c : Char) : List Char :=
  if c = quote || c = '\\' then ['\\', c]
  else if c = '\n' then ['\\', 'n']
  else if c = '\r' then ['\\', 'r']
  else if c = '\t' then ['\\', 't']
  else if isPrintable c then [c]
  else if c.toNat < 0x100 then '\\' :: 'x' :: hexDigits 2 c.toNat
  else if c.toNat < 0x10000 then '\\' :: 'u' :: hexDigits 4 c.toNat
  else '\\' :: 'U' :: hexDigits 8 c.toNat

/-- One letter inside quotes. -/
def quotedLetter (quote : Char) : Letter → List Char
  | .char c => quotedChar quote c
  | .half half => half.escape

/-- The quote that surrounds a text. -/
def quoteFor (text : LooseText) : Char :=
  if text.letters.contains (.char '\'') && !text.letters.contains (.char '"') then '"' else '\''

def quotedChars (text : LooseText) : List Char :=
  let quote := quoteFor text
  quote :: text.letters.flatMap (quotedLetter quote) ++ [quote]

def quoted (text : String) : String := String.ofList (quotedChars text)

end Text

end DiceLedger
