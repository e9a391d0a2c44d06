import DiceLedger.Markup.Reference

/-! # Tokens of markup

Markup is cut into text, tags and asides (comments and everything else that is written
in angle brackets without being a tag). No input is wrong, save for marked sections
without a known keyword: what is not a tag is text.

A text is read twice. The first pass stops at the first thing that is not finished
inside the text: a tag or comment without an end, a reference that may go on. The
second pass begins there, knowing that nothing follows: it takes unfinished tags as
text, and at the next unfinished reference takes all the rest as text.
-/

namespace DiceLedger

namespace Markup

/-- An attribute as written: a name in lower case, and a value with its references
replaced, empty when there is none. -/
abbrev Attribute := String × List Char

inductive Token where
  | text (content : List Char)
  | opening (name : String) (attributes : List Attribute)
  /-- A tag that ends in a slash, so that its element ends where it begins. -/
  | selfClosing (name : String) (attributes : List Attribute)
  | closing (name : String)
  /-- A comment, a declaration or an instruction, without its delimiters. -/
  | aside (content : List Char)
  | section (content : List Char)
  deriving DecidableEq, Repr

def lowerName (name : List Char) : String :=
  String.ofList (name.map fun c => if c.toNat = 0x212A then 'k' else c.toLower)

/-- What follows the first place where `mark` stands, and what comes before. -/
def upTo? (mark : Char) : List Char → Option (List Char × List Char)
  | [] => none
  | c :: rest =>
    if c = mark then some ([], rest)
    else (upTo? mark rest).map fun (before, after) => (c :: before, after)

/-- A character of a tag's name after the first. -/
def isTagNameChar (c : Char) : Bool :=
  c ∉ ['\t', '\n', '\r', '\x0c', ' ', '/', '>', '\x00']

/-- Passes over blanks and over slashes that no closing bracket follows. The first
part of the result is the character before the rest. -/
def skipInTag (last : Char) : List Char → Char × List Char
  | [] => (last, [])
  | '/' :: rest =>
    match rest with
    | '>' :: _ => (last, '/' :: rest)
    | _ => skipInTag '/' rest
  | c :: rest => if Text.isBlank c then skipInTag c rest else (last, c :: rest)

/-- The value of an attribute after its name: absent, or the text between quotes, or
the text up to a blank or closing bracket. A quote that is never closed opens no
value. The last part is the last character taken. -/
def takeValue? (text : List Char) : Option (List Char × Char × List Char) :=
  let afterBlanks := Text.trimStart text
  match afterBlanks with
  | '=' :: _ =>
    let signs := afterBlanks.takeWhile (· = '=')
    let afterSigns := afterBlanks.drop signs.length
    let value := Text.trimStart afterSigns
    let bare (last : Char) (text : List Char) : List Char × Char × List Char :=
      let content := text.takeWhile fun c => c ≠ '>' && !Text.isBlank c
      (content, content.getLast?.getD last, text.drop content.length)
    match value with
    | quote :: rest =>
      if quote = '"' || quote = '\'' then
        match upTo? quote rest with
        | some (content, after) => some (content, quote, after)
        | none =>
          if value.length < afterSigns.length then some ([], ' ', value)
          else if 1 < signs.length then some (bare '=' ('=' :: value))
          else none
      else some (bare (if value.length < afterSigns.length then ' ' else '=') value)
    | [] => some ([], if afterSigns.isEmpty then '=' else ' ', [])
  | _ => none

/-- An attribute as it stands in a tag: its name, and its value with references. -/
abbrev RawAttribute := List Char × List Char

/-- An attribute in front of a text, given the character before it; a name begins after
a quote, a blank or a slash. Gives the attribute, the last character taken and the
rest. -/
def takeAttribute? (last : Char) (text : List Char) : Option (RawAttribute × Char × List Char) :=
  match text with
  | [] => none
  | first :: rest =>
    if !(last = '"' || last = '\'' || last = '/' || Text.isBlank last) ||
        Text.isBlank first || first = '/' || first = '>' then none
    else
      let tail := rest.takeWhile fun c =>
        !(Text.isBlank c || c = '/' || c = '=' || c = '>')
      let name := first :: tail
      let rest := rest.drop tail.length
      let (value, last, rest) := (takeValue? rest).getD ([], name.getLast?.getD first, rest)
      some ((name, value), skipInTag last rest)

/-- All attributes in front of a text; `fuel` is at least its length. -/
def takeAttributes : (fuel : Nat) → Char → List Char → List RawAttribute × List Char
  | 0, _, text => ([], text)
  | fuel + 1, last, text =>
    match takeAttribute? last text with
    | none => ([], text)
    | some (first, last, rest) =>
      let (others, rest) := takeAttributes fuel last rest
      (first :: others, rest)

def decodeAttributes : List RawAttribute → Except Fault (List Attribute)
  | [] => .ok []
  | (name, value) :: rest => do
    let value ← decodeValue value
    return (lowerName name, value) :: (← decodeAttributes rest)

/-- What stands in angle brackets: tokens and the text after them, or nothing finished
yet. -/
abbrev Bracketed := Except Fault (Option (List Token × List Char))

/-- A tag that opens an element, after its bracket. A tag that is broken off by a
character that belongs to no attribute is text up to there. -/
def readOpening (text : List Char) : Bracketed :=
  let name := text.takeWhile isTagNameChar
  let (last, rest) := skipInTag (name.getLast?.getD '<') (text.drop name.length)
  let (raw, rest) := takeAttributes rest.length last rest
  match rest with
  | [] => .ok none
  | c :: after =>
    if c.isAlpha || c = '=' then .ok none
    else
      match decodeAttributes raw with
      | .error fault => .error fault
      | .ok attributes =>
        if c = '>' then .ok (some ([.opening (lowerName name) attributes], after))
        else if c = '/' then
          .ok (some ([.selfClosing (lowerName name) attributes], after.drop 1))
        else .ok (some ([.text ('<' :: text.take (text.length - rest.length))], rest))

/-- A tag that closes an element, after its bracket and slash. Without a name it is an
aside, or nothing when it is empty. -/
def readClosing (text : List Char) : Bracketed :=
  match upTo? '>' text with
  | none => .ok none
  | some (content, after) =>
    let inner := Text.trimStart content
    let plain := inner.takeWhile fun c =>
      c.isAlphanum || c = '-' || c = '.' || c = ':' || c = '_'
    let isPlain := (plain.head?.map Char.isAlpha).getD false &&
      (Text.trimStart (inner.drop plain.length)).isEmpty
    if isPlain then .ok (some ([.closing (lowerName plain)], after))
    else if (content.head?.map Char.isAlpha).getD false then
      .ok (some ([.closing (lowerName (content.takeWhile isTagNameChar))], after))
    else if content.isEmpty then .ok (some ([], after))
    else .ok (some ([.aside content], after))

/-- The first place where `marks` stand one after another with blanks between them:
the text before and after. The first mark may be preceded by anything. -/
def closeAt (marks : List Char) (text : List Char) : Option (List Char) :=
  match marks, text with
  | [], rest => some rest
  | mark :: marks, c :: rest =>
    if c = mark then
      closeAt marks (if marks.isEmpty then rest else Text.trimStart rest)
    else none
  | _ :: _, [] => none

/-- Cuts a text at the first place where the given function finds an end. -/
def cutWhere? (stop : List Char → Option (List Char)) :
    List Char → Option (List Char × List Char)
  | [] => none
  | c :: rest =>
    match stop (c :: rest) with
    | some after => some ([], after)
    | none => (cutWhere? stop rest).map fun (before, after) => (c :: before, after)

/-- The end of a comment: two hyphens, blanks, a bracket. -/
def commentEnd (text : List Char) : Option (List Char) :=
  match text with
  | '-' :: '-' :: rest => closeAt ['>'] (Text.trimStart rest)
  | _ => none

/-- A comment after its first four characters. -/
def readComment (text : List Char) : Bracketed :=
  .ok ((cutWhere? commentEnd text).map fun (content, rest) => ([.aside content], rest))

def readAside (text : List Char) : Bracketed :=
  .ok ((upTo? '>' text).map fun (content, rest) => ([.aside content], rest))

/-- The keyword of a marked section, unless the text ends with it. -/
def sectionKeyword (text : List Char) : Except Fault (Option String) :=
  match text with
  | [] => .ok none
  | first :: _ =>
    if !first.isAlpha then .error .badSection
    else
      let name := text.takeWhile fun c => c.isAlphanum || c = '-' || c = '_' || c = '.'
      if (Text.trimStart (text.drop name.length)).isEmpty then .ok none
      else .ok (some (lowerName name))

/-- Keywords of sections that end in two square brackets and an angle bracket. -/
def longSections : List String := ["temp", "cdata", "ignore", "include", "rcdata"]

/-- Keywords of sections that end in one square bracket and an angle bracket. -/
def shortSections : List String := ["if", "else", "endif"]

/-- The token of a marked section: the keyword `CDATA[` is taken off. -/
def sectionToken (content : List Char) : Token :=
  if (content.take 6).map Char.toUpper = "CDATA[".toList then .section (content.drop 6)
  else .aside content

/-- A marked section after its first three characters. -/
def readSection (text : List Char) : Bracketed :=
  match sectionKeyword text with
  | .error fault => .error fault
  | .ok none => .ok none
  | .ok (some keyword) =>
    let marks := if longSections.contains keyword then some [']', ']', '>']
      else if shortSections.contains keyword then some [']', '>']
      else none
    match marks with
    | none => .error .badSection
    | some marks =>
      .ok ((cutWhere? (closeAt marks) text).map fun (content, rest) =>
        ([sectionToken content], rest))

/-- A declaration after its first two characters; that of a document type loses its
keyword and the character after it. -/
def readDeclaration (text : List Char) : Bracketed :=
  if (text.take 7).map Char.toLower = "doctype".toList then
    .ok ((upTo? '>' (text.drop 7)).map fun (content, rest) => ([.aside (content.drop 1)], rest))
  else readAside text

/-- What an opening bracket begins, given the text after it; `none` in the second place
when it is not finished, and no token at all when the bracket is mere text. -/
def readBracketed (text : List Char) : Bracketed :=
  match text with
  | '/' :: rest => readClosing rest
  | '!' :: '-' :: '-' :: rest => readComment rest
  | '?' :: rest => readAside rest
  | '!' :: '[' :: rest => readSection rest
  | '!' :: rest => readDeclaration rest
  | c :: rest =>
    if c.isAlpha then readOpening (c :: rest) else .ok (some ([.text ['<']], c :: rest))
  | [] => .ok none

/-- The text that an unfinished bracket amounts to when nothing follows: up to the next
closing bracket, or else up to the next opening one. -/
def unfinished (text : List Char) : List Char × List Char :=
  match upTo? '>' text with
  | some (content, rest) => ('<' :: content ++ ['>'], rest)
  | none =>
    if text.contains '<' then
      ('<' :: text.takeWhile (· ≠ '<'), text.dropWhile (· ≠ '<'))
    else (['<'], text)

/-- The outcome of looking for a reference after an ampersand. -/
inductive ReferenceRead where
  /-- The text of a reference, and what follows it. -/
  | found (text rest : List Char)
  | literal
  | pending
  /-- A number sign that no number follows. -/
  | broken

/-- A reference that `name` writes before `rest`, which may begin with a semicolon. -/
def dropStop (rest : List Char) : List Char :=
  match rest with
  | ';' :: rest => rest
  | _ => rest

/-- A numbered reference, after the number sign. The number has to be followed by a
character that is no hexadecimal digit. -/
def readNumbered (text : List Char) : Except Fault ReferenceRead :=
  let decimal := text.takeWhile Char.isDigit
  let (name, rest) :=
    if !decimal.isEmpty then (decimal, text.drop decimal.length)
    else match text with
      | x :: rest =>
        if x = 'x' || x = 'X' then
          let digits := rest.takeWhile fun c => (Text.hexValue? c).isSome
          (if digits.isEmpty then [] else x :: digits, rest.drop digits.length)
        else ([], text)
      | [] => ([], [])
  match name, rest with
  | [], _ => .ok .broken
  | _, [] => .ok .broken
  | name, c :: _ =>
    if (Text.hexValue? c).isSome then .ok .broken
    else (numberedText name).map fun decoded => .found decoded (dropStop rest)

/-- The name of a reference, and the text after it. At the end of all text a name goes
only up to its last point or hyphen. -/
def takeReferenceName? (text : List Char) : Option (List Char × List Char) :=
  let isNameChar (c : Char) : Bool := c.isAlphanum || c = '-' || c = '.'
  let name := text.takeWhile isNameChar
  match text.drop name.length with
  | [] =>
    let cut := Text.dropEndWhile Char.isAlphanum (name.drop 1)
    if cut.isEmpty then none else some (name.take cut.length, name.drop cut.length)
  | rest => some (name, rest)

def readReferenceInText (text : List Char) : Except Fault ReferenceRead :=
  match text with
  | '#' :: rest => readNumbered rest
  | c :: _ =>
    if c.isAlpha then
      match takeReferenceName? text with
      | some (name, rest) => .ok (.found (namedText name) (dropStop rest))
      | none => .ok .pending
    else .ok .literal
  | [] => .ok .pending

/-- Elements whose content is text up to their own closing tag. -/
def rawElements : List String := ["script", "style"]

/-- The closing tag of a raw element in front of a text: what follows it. -/
def rawEnd (name : String) (text : List Char) : Option (List Char) :=
  match text with
  | '<' :: '/' :: rest =>
    let rest := Text.trimStart rest
    if (rest.take name.length).map Char.toLower = name.toList then
      closeAt ['>'] (Text.trimStart (rest.drop name.length))
    else none
  | _ => none

/-- What a pass has read: its tokens, and where it stopped, inside a raw element or
not. -/
structure Pass where
  tokens : List Token
  rest : List Char
  raw : Option String

def Pass.push (tokens : List Token) (pass : Pass) : Pass :=
  { pass with tokens := tokens ++ pass.tokens }

def textToken (content : List Char) : List Token :=
  if content.isEmpty then [] else [.text content]

def rawBegun (tokens : List Token) : Option String :=
  match tokens with
  | [.opening name _] => if rawElements.contains name then some name else none
  | _ => none

/-- Reads tokens. In the `final` pass nothing follows the text. `fuel` is more than the
length of the text. -/
def readPass (final : Bool) : (fuel : Nat) → Option String → List Char → Except Fault Pass
  | 0, raw, text => .ok ⟨[], text, raw⟩
  | _ + 1, raw, [] => .ok ⟨[], [], raw⟩
  | fuel + 1, some name, text =>
    match cutWhere? (rawEnd name) text with
    | none => .ok ⟨[], text, some name⟩
    | some (content, rest) =>
      (readPass final fuel none rest).map (.push (textToken content ++ [.closing name]))
  | fuel + 1, none, '<' :: rest =>
    match readBracketed rest with
    | .error fault => .error fault
    | .ok (some (tokens, after)) =>
      (readPass final fuel (rawBegun tokens) after).map (.push tokens)
    | .ok none =>
      if final && !rest.isEmpty then
        let (content, after) := unfinished rest
        (readPass final fuel none after).map (.push [.text content])
      else .ok ⟨[], '<' :: rest, none⟩
  | fuel + 1, none, '&' :: rest =>
    match readReferenceInText rest with
    | .error fault => .error fault
    | .ok (.found content after) =>
      (readPass final fuel none after).map (.push [.text content])
    | .ok .literal => (readPass final fuel none rest).map (.push [.text ['&']])
    | .ok .broken =>
      if rest.contains ';' then .ok ⟨[.text ['&', '#']], rest.drop 1, none⟩
      else .ok ⟨[], '&' :: rest, none⟩
    | .ok .pending =>
      if final && rest.length = 1 then .ok ⟨[], rest, none⟩ else .ok ⟨[], '&' :: rest, none⟩
  | fuel + 1, none, text =>
    let content := text.takeWhile fun c => c ≠ '<' && c ≠ '&'
    (readPass final fuel none (text.drop content.length)).map (.push (textToken content))

/-- The tokens of a text. What the final pass leaves is text, unless it stands in a raw
element that is never closed. -/
def tokens (text : List Char) : Except Fault (List Token) := do
  let first ← readPass false (text.length + 1) none text
  let second ← readPass true (first.rest.length + 1) first.raw first.rest
  let last := if second.raw.isSome then [] else textToken second.rest
  return first.tokens ++ second.tokens ++ last

end Markup

end DiceLedger
