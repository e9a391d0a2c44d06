import DiceLedger.Markup.Token

/-! # Trees of markup

Tokens are put together into a tree without any rules about which element may stand
where: a closing tag closes the nearest open element of its name with everything inside
it, and means nothing when no such element is open. Elements that never have content
close at once, and one later closing tag of theirs means nothing.
-/

namespace DiceLedger

namespace Markup

inductive TextKind where
  | plain
  | section
  | aside
  /-- Text inside an element that keeps its text to itself. -/
  | kept (element : String)
  deriving DecidableEq, Repr

/-- A piece of text, or an element with its attributes and content. -/
inductive Node where
  | text (kind : TextKind) (content : List Char)
  | element (name : String) (attributes : List Attribute) (children : List Node)
  deriving Repr

def emptyElements : List String :=
  ["area", "base", "br", "col", "embed", "hr", "img", "input", "keygen", "link", "menuitem",
   "meta", "param", "source", "track", "wbr", "basefont", "bgsound", "command", "frame",
   "image", "isindex", "nextid", "spacer"]

/-- Elements in which blanks count. -/
def spacedElements : List String := ["pre", "textarea"]

def keepingElements : List String := ["rt", "rp", "style", "script", "template"]

/-- An element that is still open: its content so far is reversed. -/
structure OpenElement where
  name : String
  attributes : List Attribute
  content : List Node

/-- A tree in progress: open elements, innermost first; finished parts, and text not yet
placed, both reversed; and the names of elements without content whose closing tag may
still come. -/
structure Builder where
  openElements : List OpenElement
  finished : List Node
  pending : List Char
  closedEarly : List String

namespace Builder

def new : Builder := ⟨[], [], [], []⟩

/-- Puts a node behind the content of the innermost open element. -/
def place (builder : Builder) (node : Node) : Builder :=
  match builder.openElements with
  | [] => { builder with finished := node :: builder.finished }
  | innermost :: others =>
    { builder with
      openElements := { innermost with content := node :: innermost.content } :: others }

/-- Whether a character is one of the blanks that a run of nothing else is reduced by. -/
def isSpace (c : Char) : Bool :=
  c = ' ' || c = '\n' || c = '\t' || c = '\x0c' || c = '\r'

/-- Text as it goes into the tree: a run of blanks becomes one line break or one space,
unless blanks count here. -/
def reduced (builder : Builder) (content : List Char) : List Char :=
  if builder.openElements.any fun element => spacedElements.contains element.name then content
  else if content.all isSpace then (if content.contains '\n' then ['\n'] else [' '])
  else content

/-- The kind of plain text at this place. -/
def plainKind (builder : Builder) : TextKind :=
  match builder.openElements.find? fun element => keepingElements.contains element.name with
  | some element => .kept element.name
  | none => .plain

/-- Places the text that is pending. -/
def flush (builder : Builder) : Builder :=
  if builder.pending.isEmpty then builder
  else
    { builder.place (.text builder.plainKind (builder.reduced builder.pending.reverse)) with
      pending := [] }

def closeInnermost (builder : Builder) : Builder :=
  match builder.openElements with
  | [] => builder
  | innermost :: others =>
    { builder with openElements := others }.place
      (.element innermost.name innermost.attributes innermost.content.reverse)

def closeMany : Nat → Builder → Builder
  | 0, builder => builder
  | count + 1, builder => closeMany count builder.closeInnermost

/-- Closes the nearest open element of a name, with everything inside it. -/
def closeNamed (builder : Builder) (name : String) : Builder :=
  match builder.openElements.findIdx? (·.name = name) with
  | some index => closeMany (index + 1) builder
  | none => builder

def openNamed (builder : Builder) (name : String) (attributes : List Attribute) : Builder :=
  let builder := builder.flush
  { builder with openElements := ⟨name, attributes, []⟩ :: builder.openElements }

/-- Takes a closing tag, which may be one that was expected to mean nothing. -/
def takeClosing (builder : Builder) (name : String) : Builder :=
  if builder.closedEarly.contains name then
    { builder with closedEarly := builder.closedEarly.erase name }
  else builder.flush.closeNamed name

def take (builder : Builder) : Token → Builder
  | .text content => { builder with pending := content.reverse ++ builder.pending }
  | .opening name attributes =>
    let builder := builder.openNamed name attributes
    if emptyElements.contains name then
      { builder.closeNamed name with closedEarly := builder.closedEarly ++ [name] }
    else builder
  | .selfClosing name attributes => (builder.openNamed name attributes).takeClosing name
  | .closing name => builder.takeClosing name
  | .aside content =>
    let builder := builder.flush
    builder.place (.text .aside (builder.reduced content))
  | .section content =>
    let builder := builder.flush
    builder.place (.text .section (builder.reduced content))

/-- The tree, with all open elements closed. -/
def finish (builder : Builder) : List Node :=
  let builder := builder.flush
  (closeMany builder.openElements.length builder).finished.reverse

end Builder

def parse (text : List Char) : Except Fault (List Node) :=
  (tokens text).map fun tokens => (tokens.foldl Builder.take .new).finish

namespace Node

/-- The value of an attribute; a repeated one has its last value. -/
def attribute? (name : String) : Node → Option (List Char)
  | element _ attributes _ => (attributes.reverse.find? (·.1 = name)).map (·.2)
  | text .. => none

/-- The words of the `class` attribute. -/
def classes (node : Node) : List (List Char) := Text.words ((node.attribute? "class").getD [])

def hasClass (name : String) (node : Node) : Bool := node.classes.contains name.toList

def hasName (name : String) : Node → Bool
  | element other _ _ => other = name
  | text .. => false

def children : Node → List Node
  | element _ _ children => children
  | text .. => []

mutual

/-- The element itself and all elements inside, in document order. -/
def elements : Node → List Node
  | text .. => []
  | element name attributes children =>
    element name attributes children :: elementsOfAll children

def elementsOfAll : List Node → List Node
  | [] => []
  | node :: rest => elements node ++ elementsOfAll rest

end

mutual

/-- All pieces of text in a node, in document order. -/
def texts : Node → List (TextKind × List Char)
  | text kind content => [(kind, content)]
  | element _ _ children => textsOfAll children

def textsOfAll : List Node → List (TextKind × List Char)
  | [] => []
  | node :: rest => texts node ++ textsOfAll rest

end

mutual

/-- A node without the elements inside it that `drop` picks. -/
def without (drop : Node → Bool) : Node → Node
  | text kind content => text kind content
  | element name attributes children => element name attributes (withoutInAll drop children)

def withoutInAll (drop : Node → Bool) : List Node → List Node
  | [] => []
  | node :: rest =>
    if drop node then withoutInAll drop rest
    else without drop node :: withoutInAll drop rest

end

/-- Whether a kind of text is part of what an element says: plain text and character
sections, or for an element that keeps its text to itself that text alone. -/
def expresses (node : Node) (kind : TextKind) : Bool :=
  match node with
  | element name _ _ =>
    if keepingElements.contains name then kind = .kept name
    else kind = .plain || kind = .section
  | text .. => false

/-- The pieces of text that an element says. -/
def strings (node : Node) : List (List Char) :=
  (node.texts.filter fun (kind, _) => node.expresses kind).map (·.2)

/-- What an element says, without breaks. -/
def fullText (node : Node) : List Char := node.strings.flatten

/-- The pieces of text that an element says, trimmed, without the blank ones. -/
def trimmedStrings (node : Node) : List (List Char) :=
  (node.strings.map Text.trim).filter (!·.isEmpty)

/-- What an element says, every piece trimmed. -/
def trimmedText (node : Node) : List Char := node.trimmedStrings.flatten

/-- The elements inside an element that `pick` picks, in document order. -/
def select (pick : Node → Bool) (node : Node) : List Node :=
  (elementsOfAll node.children).filter pick

end Node

end Markup

end DiceLedger
