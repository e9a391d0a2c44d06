import DiceLedger.Transcript.TagDepth
import DiceLedger.Transcript.Entry

/-! # Well-formed archives

An archive is a tree of `div` elements with text and tags of other elements between them. Its
wrapper stands behind a preamble without `div`s, and its entries are the children of the
wrapper (`DiceLedger.Transcript.Roll20.Document.entries`). Every character of an archive has
its place: it is text, it stands within a tag, or it is one of the signs that begin and end a
tag or a quoted value. An archive can be broken into lines anywhere
(`DiceLedger.Transcript.Roll20.Document.BrokenInto`).
-/

namespace DiceLedger

namespace Transcript

namespace Roll20

/-- Where a character of an archive stands. -/
inductive Place where
  | text
  /-- A bracket of a tag, or a quote around a value. -/
  | sign
  /-- Between the brackets of a tag, or behind the wrapper. -/
  | within
  deriving DecidableEq

/-- A character of an archive. -/
structure Glyph where
  char : Char
  place : Place
  deriving DecidableEq

def Glyph.at (place : Place) (chars : List Char) : List Glyph := chars.map (⟨·, place⟩)

@[simp] theorem Glyph.map_char_at (place : Place) (chars : List Char) :
    (Glyph.at place chars).map Glyph.char = chars := by
  rw [Glyph.at, List.map_map]
  exact List.map_id chars

/-- Glyphs in the given clusters of their characters. -/
def Glyph.groups : List (List Char) → List Glyph → List (List Glyph)
  | [], _ => []
  | cluster :: rest, glyphs =>
    glyphs.take cluster.length :: groups rest (glyphs.drop cluster.length)

/-- No cluster of a line joins a sign to its neighbour, and no `<` of a text is a cluster of
its own. -/
def Isolated (line : List Glyph) : Prop :=
  ∀ group ∈ Glyph.groups (Text.clusters (line.map Glyph.char)) line,
    (∀ glyph ∈ group, glyph.place = .sign → group = [glyph]) ∧ group ≠ [⟨'<', .text⟩]

/-- A line that begins outside of tags declares no title. -/
def Untitled (line : List Glyph) : Prop :=
  line.head?.map Glyph.place = some .text → startsWithTitle (line.map Glyph.char) = false

instance (line : List Glyph) : Decidable (Isolated line) :=
  inferInstanceAs (Decidable (∀ group ∈ _, _))

instance (line : List Glyph) : Decidable (Untitled line) :=
  inferInstanceAs (Decidable (_ → _))

def isQuote (c : Char) : Bool := c = '"' || c = '\''

/-- A part of a tag behind its name. -/
inductive TagPart where
  | bare (c : Char)
  /-- A value in quotes. -/
  | quoted (quote : Char) (value : List Char)
  deriving DecidableEq

def TagPart.glyphs : TagPart → List Glyph
  | bare c => [⟨c, .within⟩]
  | quoted quote value => ⟨quote, .sign⟩ :: Glyph.at .within value ++ [⟨quote, .sign⟩]

/-- The last character outside of values, blanks aside; `before` stands before the part. -/
def TagPart.sign (before : Char) : TagPart → Char
  | bare c => if Text.isBlank c then before else c
  | quoted quote _ => quote

/-- Quotes behind an equals sign enclose a value, which does not hold its own quote, and nothing
but a value holds a `>`. -/
def TagPart.proper (before : Char) : TagPart → Bool
  | bare c => c ≠ '>' && !(isQuote c && before = '=')
  | quoted quote value => before = '=' && isQuote quote && !value.contains quote

def lastSign (before : Char) : List TagPart → Char
  | [] => before
  | part :: rest => lastSign (part.sign before) rest

def wellQuoted (before : Char) : List TagPart → Bool
  | [] => true
  | part :: rest => part.proper before && wellQuoted (part.sign before) rest

def isNameChar (c : Char) : Bool := c.isAlphanum || c = '-'

/-- Whether a name ends before these parts. A line break alone does not end it: where breaks
outside of values stand beside a space, a space follows the break behind a name. -/
def endsName : List TagPart → Bool
  | .bare c :: rest => if c = '\n' then endsName rest else !isNameChar c
  | _ => true

/-- A tag: the name of its element is a letter with letters, digits and hyphens behind it. The
name of a declaration begins with `!` or `?`. -/
structure Tag where
  closes : Bool
  first : Char
  more : List Char
  parts : List TagPart
  begins : (first.isAlpha || first = '!' || first = '?') = true
  named : more.all isNameChar = true
  ended : endsName parts = true
  quoted : wellQuoted '<' parts = true

namespace Tag

/-- What a tag begins with, up to the end of its name. -/
def head (tag : Tag) : List Char :=
  (if tag.closes then ['/'] else []) ++ tag.first :: tag.more

def glyphs (tag : Tag) : List Glyph :=
  ⟨'<', .sign⟩ :: Glyph.at .within tag.head ++ tag.parts.flatMap TagPart.glyphs ++ [⟨'>', .sign⟩]

def isDiv (tag : Tag) : Bool := (tag.first :: tag.more).map Char.toLower = ['d', 'i', 'v']

/-- A `div` that does not close itself begins. -/
def opensDiv (tag : Tag) : Bool := tag.isDiv && !tag.closes && lastSign '<' tag.parts ≠ '/'

/-- A `div` ends. -/
def closesDiv (tag : Tag) : Bool := tag.isDiv && tag.closes

end Tag

/-- What stands between `div`s: text, or a tag of another element. -/
inductive Item where
  | text (chars : List Char)
  | tag (tag : Tag) (other : tag.isDiv = false)

def Item.glyphs : Item → List Glyph
  | text chars => Glyph.at .text chars
  | tag written _ => written.glyphs

/-- A `div` element's opening tag, and its closing tag. -/
abbrev OpeningTag : Type := { tag : Tag // tag.opensDiv = true }

abbrev ClosingTag : Type := { tag : Tag // tag.closesDiv = true }

/-- A child of the wrapper: the glyphs before it, back to the child before it or to the
beginning of the wrapper, and its own from its opening tag to its closing tag. -/
structure Child where
  before : List Glyph
  whole : List Glyph

/-- The text that is read for a child. -/
def Child.fragment (child : Child) : List Char := (child.before ++ child.whole).map Glyph.char

/-- What stands in an element, in document order. -/
inductive Content where
  | empty
  | item (first : Item) (rest : Content)
  | div (opening : OpeningTag) (inner : Content) (closing : ClosingTag) (rest : Content)

namespace Content

def glyphs : Content → List Glyph
  | empty => []
  | item first rest => first.glyphs ++ rest.glyphs
  | div opening inner closing rest =>
    opening.1.glyphs ++ inner.glyphs ++ closing.1.glyphs ++ rest.glyphs

/-- The `div`s of a content that stand in no other one of it, in document order; `before` is
what stands between the content and the child before it. -/
def children (before : List Glyph) : Content → List Child
  | empty => []
  | item first rest => rest.children (before ++ first.glyphs)
  | div opening inner closing rest =>
    ⟨before, opening.1.glyphs ++ inner.glyphs ++ closing.1.glyphs⟩ :: rest.children []

end Content

/-- An archive: a preamble, the wrapper, and what stands behind the wrapper on its last
line. -/
structure Document where
  preamble : List Item
  opening : OpeningTag
  content : Content
  closing : ClosingTag
  tail : List Char

namespace Document

def glyphs (document : Document) : List Glyph :=
  document.preamble.flatMap Item.glyphs ++ document.opening.1.glyphs ++
    document.content.glyphs ++ document.closing.1.glyphs ++ Glyph.at .within document.tail

def lines (document : Document) : List (List Glyph) :=
  document.glyphs.splitOnP (·.char = '\n')

/-- The entries of an archive are the children of its wrapper. -/
def entries (document : Document) : List Child := document.content.children []

/-- An archive as it is broken into lines: every cluster keeps to one sign, and no line outside
of tags begins with a title. -/
structure BrokenInto (document : Document) (lines : List (List Char)) : Prop where
  written : lines.map withoutLineEnd = document.lines.map (·.map Glyph.char)
  isolated : ∀ line ∈ document.lines, Isolated line
  untitled : ∀ line ∈ document.lines, Untitled line

end Document

end Roll20

end Transcript

end DiceLedger
