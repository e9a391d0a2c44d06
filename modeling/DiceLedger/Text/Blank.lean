/-! # Blank characters

The characters that separate words, and the cutting, trimming and squashing of
text at them.
-/

namespace DiceLedger

namespace Text

/-- The code points of the characters that separate words. -/
def blankCodes : List Nat :=
  [0x9, 0xa, 0xb, 0xc, 0xd, 0x1c, 0x1d, 0x1e, 0x1f, 0x20, 0x85, 0xa0, 0x1680, 0x2000, 0x2001,
   0x2002, 0x2003, 0x2004, 0x2005, 0x2006, 0x2007, 0x2008, 0x2009, 0x200a, 0x2028, 0x2029,
   0x202f, 0x205f, 0x3000]

def isBlank (c : Char) : Bool := blankCodes.contains c.toNat

/-- Blanks of the ASCII text formats: the space and the five controls from tab to
carriage return. -/
def isPlainBlank (c : Char) : Bool :=
  c = ' ' || (9 ≤ c.toNat && c.toNat ≤ 13)

/-- Drops the characters at the end that satisfy `drop`. -/
def dropEndWhile (drop : Char → Bool) (text : List Char) : List Char :=
  (text.reverse.dropWhile drop).reverse

def trimEnd (text : List Char) : List Char := dropEndWhile isBlank text

def trimStart (text : List Char) : List Char := text.dropWhile isBlank

def trim (text : List Char) : List Char := trimEnd (trimStart text)

/-- The maximal runs of characters outside `separator`, in order; `run` is the
run being read, reversed. -/
def runs (separator : Char → Bool) : List Char → List Char → List (List Char)
  | run, [] => if run.isEmpty then [] else [run.reverse]
  | run, c :: rest =>
    if separator c then
      if run.isEmpty then runs separator [] rest else run.reverse :: runs separator [] rest
    else runs separator (c :: run) rest

/-- The words of a text. -/
def words (text : List Char) : List (List Char) := runs isBlank [] text

/-- The words of a text joined by single spaces. -/
def squash (text : List Char) : List Char := [' '].intercalate (words text)

/-- Whether `part` stands somewhere in `text`. -/
def hasPart (part : List Char) : List Char → Bool
  | [] => part.isEmpty
  | c :: rest => part.isPrefixOf (c :: rest) || hasPart part rest

/-- The text before and after the first place where `mark` stands. -/
def cutAt? (mark : List Char) : List Char → Option (List Char × List Char)
  | [] => if mark.isEmpty then some ([], []) else none
  | c :: rest =>
    if mark.isPrefixOf (c :: rest) then some ([], (c :: rest).drop mark.length)
    else (cutAt? mark rest).map fun (before, after) => (c :: before, after)

/-- The pieces of a text between the places where the nonempty `mark` stands, read
from left to right; `held` counts the characters of a mark still to be passed. -/
def splitAtMark (mark : List Char) : List Char → Nat → List Char → List (List Char)
  | piece, _, [] => [piece.reverse]
  | piece, held + 1, _ :: rest => splitAtMark mark piece held rest
  | piece, 0, c :: rest =>
    if mark.isPrefixOf (c :: rest) then
      piece.reverse :: splitAtMark mark [] (mark.length - 1) rest
    else splitAtMark mark (c :: piece) 0 rest

def split (mark text : List Char) : List (List Char) := splitAtMark mark [] 0 text

end Text

end DiceLedger
