import DiceLedger.Text.Blank
import DiceLedger.Text.Utf8

/-! # Environment files

A file of lines `NAME=VALUE` that gives variables of the environment a value where they
have none. Names and values may stand between quotes, a value between double quotes may
hold escapes, `export` may stand in front, and `#` starts a comment. A line that does not
follow these rules is passed over. Inside values, `$` and a name in braces stand for the
value of another variable.
-/

namespace DiceLedger

namespace EnvironmentFile

/-- A blank that does not end the line. -/
def isInlineBlank (c : Char) : Bool := Text.isBlank c && c ≠ '\r' && c ≠ '\n'

def skipInlineBlanks (text : List Char) : List Char := text.dropWhile isInlineBlank

def isLineEnd (c : Char) : Bool := c = '\r' || c = '\n'

inductive Statement where
  /-- Nothing but blanks or a comment. -/
  | blank
  /-- A name and, after an equals sign, its value. -/
  | binding (name : String) (value : Option String)
  deriving DecidableEq, Repr

/-- A part of a statement and the text after it, or, where the rules are broken, the text
from there on. -/
abbrev Reading (α : Type) := Except (List Char) (α × List Char)

/-- Drops `export` and the blanks after it. -/
def skipExport (text : List Char) : List Char :=
  if "export".toList.isPrefixOf text then
    let rest := text.drop "export".length
    let after := skipInlineBlanks rest
    if after.length < rest.length then after else text
  else text

/-- The text up to a single quote, and what follows the quote. -/
def untilQuote? (text : List Char) : Option (List Char × List Char) := Text.cutAt? ['\''] text

/-- A name; a comment in its place gives none. -/
def readName (text : List Char) : Reading (Option String) :=
  match text with
  | '#' :: _ => .ok (none, text)
  | '\'' :: rest =>
    match untilQuote? rest with
    | some (name, after) =>
      if name.isEmpty then .error text else .ok (some (String.ofList name), after)
    | none => .error text
  | _ =>
    let belongs (c : Char) : Bool := c ≠ '=' && c ≠ '#' && !Text.isBlank c
    let name := text.takeWhile belongs
    if name.isEmpty then .error text
    else .ok (some (String.ofList name), text.dropWhile belongs)

/-- The text between quotes, after the opening one, and what follows the closing one. A
quote after a backslash does not close, unless no other does and it is the last of its
kind. -/
def untilOpenQuote? (quote : Char) : List Char → Option (List Char × List Char)
  | '\\' :: c :: rest =>
    if c = quote then
      match untilOpenQuote? quote rest with
      | some (inside, after) => some ('\\' :: c :: inside, after)
      | none => some (['\\'], rest)
    else (untilOpenQuote? quote (c :: rest)).map fun (inside, after) => ('\\' :: inside, after)
  | c :: rest =>
    if c = quote then some ([], rest)
    else (untilOpenQuote? quote rest).map fun (inside, after) => (c :: inside, after)
  | [] => none

/-- The characters that escapes between double quotes stand for. -/
def escapes : List (Char × Char) :=
  [('\\', '\\'), ('\'', '\''), ('"', '"'), ('a', '\x07'), ('b', '\x08'), ('f', '\x0c'),
   ('n', '\n'), ('r', '\r'), ('t', '\t'), ('v', '\x0b')]

/-- The characters that escapes between single quotes stand for. -/
def singleEscapes : List (Char × Char) := [('\\', '\\'), ('\'', '\'')]

/-- Replaces escapes; a backslash in front of any other character stays. -/
def unescape (known : List (Char × Char)) : List Char → List Char
  | '\\' :: c :: rest =>
    match known.lookup c with
    | some meant => meant :: unescape known rest
    | none => '\\' :: unescape known (c :: rest)
  | c :: rest => c :: unescape known rest
  | [] => []

/-- Cuts off a comment, which starts at a `#` after a blank. -/
def withoutComment : List Char → List Char
  | [] => []
  | c :: rest =>
    if Text.isBlank c && (Text.trimStart rest).head? = some '#' then []
    else c :: withoutComment rest

def readValue (text : List Char) : Reading String :=
  match text with
  | '\'' :: rest =>
    match untilOpenQuote? '\'' rest with
    | some (inside, after) => .ok (String.ofList (unescape singleEscapes inside), after)
    | none => .error text
  | '"' :: rest =>
    match untilOpenQuote? '"' rest with
    | some (inside, after) => .ok (String.ofList (unescape escapes inside), after)
    | none => .error text
  | _ =>
    let line := text.takeWhile fun c => !isLineEnd c
    .ok (String.ofList (Text.trimEnd (withoutComment line)), text.drop line.length)

/-- Drops a comment and the end of the line, which has to follow. -/
def endLine (text : List Char) : Except (List Char) (List Char) :=
  let afterBlanks := skipInlineBlanks text
  let text := match afterBlanks with
    | '#' :: _ => afterBlanks.dropWhile fun c => !isLineEnd c
    | _ => text
  match skipInlineBlanks text with
  | '\r' :: '\n' :: rest | '\r' :: rest | '\n' :: rest => .ok rest
  | [] => .ok []
  | _ => .error text

/-- A statement, from its first character to the end of its last line. -/
def readStatement (text : List Char) : Reading Statement :=
  match readName (skipExport text) with
  | .error broken => .error broken
  | .ok (name, rest) =>
    let value : Reading (Option String) := match skipInlineBlanks rest with
      | '=' :: rest =>
        (readValue (skipInlineBlanks rest)).map fun (value, rest) => (some value, rest)
      | rest => .ok (none, rest)
    match value with
    | .error broken => .error broken
    | .ok (value, rest) =>
      (endLine rest).map fun rest =>
        ((name.map fun name => Statement.binding name value).getD .blank, rest)

/-- What follows the line in which a statement broke off. -/
def skipLine (text : List Char) : List Char := (text.dropWhile fun c => !isLineEnd c).drop 1

/-- What a file holds: names with their values in order, and the lines from which
statements that break the rules were read, counted from one. -/
structure Content where
  bindings : List (String × Option String)
  brokenLines : List Nat
  deriving DecidableEq, Repr

def lineEnds (text : List Char) : Nat := text.count '\n'

/-- The line that a rest of a text begins in. -/
def lineOf (text rest : List Char) : Nat := 1 + (lineEnds text - lineEnds rest)

/-- Reads the statements of a text from `rest` on; `fuel` is at least the length of
`rest`, and every statement takes a character. -/
def readFrom (text : List Char) : (fuel : Nat) → (rest : List Char) → Content
  | 0, _ => ⟨[], []⟩
  | fuel + 1, rest =>
    match Text.trimStart rest with
    | [] => ⟨[], []⟩
    | start =>
      match readStatement start with
      | .ok (.blank, after) => readFrom text fuel after
      | .ok (.binding name value, after) =>
        let others := readFrom text fuel after
        ⟨(name, value) :: others.bindings, others.brokenLines⟩
      | .error broken =>
        let others := readFrom text fuel (skipLine broken)
        ⟨others.bindings, lineOf text rest :: others.brokenLines⟩

/-- Reads a text with line feeds at the ends of its lines. -/
def read (text : List Char) : Content := readFrom text text.length text

def brokenNotice (line : Nat) : String :=
  "Python-dotenv could not parse statement starting at line " ++ toString line

/-- A piece of a value: text, or a variable with what stands for it when it is not
set. -/
inductive Piece where
  | text (text : List Char)
  | variable (name usual : List Char)
  deriving DecidableEq, Repr

/-- A variable in braces, after the opening brace, and what follows it. -/
def readVariable? (text : List Char) : Option (Piece × List Char) :=
  let belongs (c : Char) : Bool := c ≠ ':' && c ≠ '\x7d'
  let name := text.takeWhile belongs
  match text.dropWhile belongs with
  | '\x7d' :: rest => some (.variable name [], rest)
  | ':' :: '-' :: rest =>
    (Text.cutAt? ['\x7d'] rest).map fun (usual, after) => (.variable name usual, after)
  | _ => none

/-- The pieces of a value; `fuel` is at least its length. -/
def piecesFrom : (fuel : Nat) → List Char → List Piece
  | 0, _ => []
  | _ + 1, [] => []
  | fuel + 1, '$' :: '\x7b' :: rest =>
    match readVariable? rest with
    | some (piece, after) => piece :: piecesFrom fuel after
    | none => .text ['$', '\x7b'] :: piecesFrom fuel rest
  | fuel + 1, c :: rest => .text [c] :: piecesFrom fuel rest

def pieces (value : String) : List Piece := piecesFrom value.length value.toList

def namesIn (value : String) : List String :=
  (pieces value).filterMap fun piece =>
    match piece with
    | .variable name _ => some (String.ofList name)
    | .text _ => none

/-- The text of a value where the variables have the given values. -/
def resolve (value? : String → Option String) (value : String) : String :=
  String.ofList ((pieces value).flatMap fun piece =>
    match piece with
    | .text text => text
    | .variable name usual =>
      match value? (String.ofList name) with
      | some value => value.toList
      | none => usual)

/-- Sets a variable; a name that is there keeps its place. -/
def setVariable (name : String) (value : Option String) :
    List (String × Option String) → List (String × Option String)
  | [] => [(name, value)]
  | (other, old) :: rest =>
    if other = name then (name, value) :: rest else (other, old) :: setVariable name value rest

/-- The value of a variable: that of the environment, or else that of the file so far. A
name without a value counts as empty. -/
def valueOf? (environment : String → Option String) (soFar : List (String × Option String))
    (name : String) : Option String :=
  (environment name).or ((soFar.lookup name).map (·.getD ""))

/-- The variables of a file, their values with all pieces put in. -/
def assignments (environment : String → Option String)
    (bindings : List (String × Option String)) : List (String × Option String) :=
  bindings.foldl
    (fun soFar (name, value) =>
      setVariable name (value.map (resolve (valueOf? environment soFar))) soFar) []

end EnvironmentFile

end DiceLedger
