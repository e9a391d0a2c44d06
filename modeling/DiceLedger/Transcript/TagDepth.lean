import DiceLedger.Text.Blank
import DiceLedger.Text.Cluster

/-! # Depth of one element in broken markup

A scanner walks over text line by line and keeps count of how deeply one element is
nested, without ever building a tree. It walks by grapheme clusters, so a bracket that
carries a combining mark is no bracket. Between lines it keeps the tag in progress,
whose quoted values it passes over.
-/

namespace DiceLedger

namespace Transcript

/-- Where a scanner stands. Inside a tag it holds the text of the tag so far, without
the content of quoted values. -/
inductive ScanState where
  | outsideTag
  | insideTag (tag : List Char)
  | insideQuotedValue (tag : List Char) (quote : Char)
  deriving DecidableEq, Repr

structure TagScanner where
  element : String
  /-- The number of open elements less one: the outermost element is at depth zero. -/
  depth : Int
  state : ScanState
  deriving DecidableEq, Repr

/-- A change of depth, with the number of characters of the line up to just past the
bracket that made it. -/
structure DepthChange where
  stop : Nat
  previous : Int
  current : Int
  deriving DecidableEq, Repr

/-- Lower case for the names of elements: the letters from `A` to `Z`, and the one
foreign sign whose lower case is among `a` to `z`. -/
def lowerNameChar (c : Char) : Char := if c.toNat = 0x212A then 'k' else c.toLower

def lowerName (name : String) : String := name.map lowerNameChar

/-- A line that begins, after blanks, with `title`, an equals sign and a quote. -/
def startsWithTitle (line : List Char) : Bool :=
  let rest := Text.trimStart line
  if "title".toList.isPrefixOf rest then
    match Text.trimStart (rest.drop 5) with
    | '=' :: value =>
      match Text.trimStart value with
      | quote :: _ => quote = '"' || quote = '\''
      | [] => false
    | _ => false
  else false

/-- Whether a tag so far ends in an equals sign, blanks aside. -/
def awaitsValue (tag : List Char) : Bool := (Text.trimEnd tag).getLast? = some '='

/-- What the text of a tag says: whether it closes an element, and which. -/
def tagName? (tag : List Char) : Option (Bool × List Char) :=
  match tag with
  | '<' :: rest =>
    let (closes, rest) := match rest with
      | '/' :: rest => (true, rest)
      | _ => (false, rest)
    let name := Text.trimStart rest
    match name with
    | c :: _ =>
      if c.isAlpha then some (closes, name.takeWhile fun c => c.isAlphanum || c = '-')
      else none
    | [] => none
  | _ => none

/-- What a finished tag does to the depth of an element: it opens or closes it, or
does nothing when it is another element's or closes itself. -/
def depthStep? (element : String) (tag : List Char) : Option Int :=
  match tagName? tag with
  | none => none
  | some (closes, name) =>
    if String.ofList (name.map Char.toLower) ≠ element then none
    else if closes then some (-1)
    else if (Text.trimEnd tag).getLast? = some '/' then none
    else some 1

namespace TagScanner

/-- A scanner before the first line. -/
def new (element : String) : TagScanner := ⟨lowerName element, -1, .outsideTag⟩

/-- A cluster that is one of the two quotes. -/
def quote? (cluster : List Char) : Option Char :=
  match cluster with
  | [c] => if c = '"' || c = '\'' then some c else none
  | _ => none

def closeTag (scanner : TagScanner) (tag : List Char) (stop : Nat) :
    Option DepthChange × TagScanner :=
  match depthStep? scanner.element tag with
  | none => (none, { scanner with state := .outsideTag })
  | some delta =>
    (some ⟨stop, scanner.depth, scanner.depth + delta⟩,
      { scanner with depth := scanner.depth + delta, state := .outsideTag })

/-- Advances over one cluster that ends at position `stop`. With `ignoreOpening` an
opening bracket outside a tag is passed over. -/
def advance (scanner : TagScanner) (ignoreOpening : Bool) (cluster : List Char) (stop : Nat) :
    Option DepthChange × TagScanner :=
  match scanner.state with
  | .outsideTag =>
    if cluster = ['<'] && !ignoreOpening then
      (none, { scanner with state := .insideTag ['<'] })
    else (none, scanner)
  | .insideTag tag =>
    match quote? cluster with
    | some quote =>
      if awaitsValue tag then
        (none, { scanner with state := .insideQuotedValue (tag ++ [quote]) quote })
      else (none, { scanner with state := .insideTag (tag ++ cluster) })
    | none =>
      if cluster = ['>'] then scanner.closeTag tag stop
      else (none, { scanner with state := .insideTag (tag ++ cluster) })
  | .insideQuotedValue tag quote =>
    if cluster = [quote] then (none, { scanner with state := .insideTag (tag ++ [quote]) })
    else (none, scanner)

/-- Advances over clusters from a position on. -/
def advanceAll (scanner : TagScanner) (ignoreOpening : Bool) (start : Nat) :
    List (List Char) → List DepthChange × TagScanner
  | [] => ([], scanner)
  | cluster :: rest =>
    let stop := start + cluster.length
    let ignored := ignoreOpening && scanner.state = .outsideTag && cluster = ['<']
    let (change, scanner) := scanner.advance ignoreOpening cluster stop
    let (changes, scanner) := scanner.advanceAll (ignoreOpening && !ignored) stop rest
    (change.toList ++ changes, scanner)

/-- Advances over one line. On a line that begins with a title outside any tag the
first opening bracket is part of that title. -/
def feed (scanner : TagScanner) (line : List Char) : List DepthChange × TagScanner :=
  let ignoreOpening := scanner.state = .outsideTag && startsWithTitle line
  scanner.advanceAll ignoreOpening 0 (Text.clusters line)

end TagScanner

end Transcript

end DiceLedger
