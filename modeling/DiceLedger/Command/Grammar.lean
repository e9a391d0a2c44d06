import DiceLedger.Text.Digit
import DiceLedger.Text.Quoted

/-! # Grammars of arguments

A grammar says which options and operands the arguments of a command have. Arguments that
start with a dash are options, save negative numbers, what holds a space and all that
follows `--`; an option's name may be cut short as long as one option is meant. Operands
are taken in order wherever they stand. `Grammar.read` goes through the arguments from
left to right, so that the first of several faults is the one reported; arguments for
which there is no place are handed back.
-/

namespace DiceLedger

namespace Command

inductive ArgumentFault where
  | ambiguous (argument : String) (meant : List String)
  /-- A value was attached to an option that takes none. -/
  | needlessValue (option value : String)
  | missingValue (option : String)
  | unreadable (argument kind value : String)
  | unknownChoice (argument value : String) (choices : List String)
  | missing (operands : List String)
  | unplaced (arguments : List String)
  deriving DecidableEq, Repr

def ArgumentFault.message : ArgumentFault → String
  | ambiguous argument meant =>
    "ambiguous option: " ++ argument ++ " could match " ++ ", ".intercalate meant
  | needlessValue option value =>
    "argument " ++ option ++ ": ignored explicit argument " ++ Text.quoted value
  | missingValue option => "argument " ++ option ++ ": expected one argument"
  | unreadable argument kind value =>
    "argument " ++ argument ++ ": invalid " ++ kind ++ " value: " ++ Text.quoted value
  | unknownChoice argument value choices =>
    "argument " ++ argument ++ ": invalid choice: " ++ Text.quoted value ++
      " (choose from " ++ ", ".intercalate (choices.map Text.quoted) ++ ")"
  | missing operands => "the following arguments are required: " ++ ", ".intercalate operands
  | unplaced arguments => "unrecognized arguments: " ++ " ".intercalate arguments

/-- Why reading arguments ends without a result. -/
inductive Stop where
  | help (usage : String)
  | refused (program : String) (fault : ArgumentFault)
  deriving DecidableEq, Repr

def refusalLine (program : String) (fault : ArgumentFault) : String :=
  program ++ ": error: " ++ fault.message

/-- What an option does to the choices made so far. -/
inductive Effect (α : Type) where
  | help
  | flag (set : α → α)
  /-- Takes a value of a named kind, if it can be read. -/
  | value (kind : String) (set : String → α → Option α)

structure OptionForm (α : Type) where
  names : List String
  effect : Effect α

/-- The name of an option in messages. -/
def OptionForm.title {α : Type} (form : OptionForm α) : String := "/".intercalate form.names

inductive Taking (α : Type) where
  /-- One argument of a named kind, if it can be read. -/
  | one (kind : String) (set : String → α → Option α)
  /-- One argument out of some choices together with all arguments after it, some of which
  it may hand back. -/
  | rest (choices : List String) (set : String → List String → α → Except Stop (α × List String))

structure Operand (α : Type) where
  title : String
  isRequired : Bool
  taking : Taking α

/-- The options and operands of a command; every command has an option that asks for
help. -/
structure Grammar (α : Type) where
  program : String
  options : List (OptionForm α)
  operands : List (Operand α)

def helpForm (α : Type) : OptionForm α := ⟨["-h", "--help"], .help⟩

/-- An option as an argument writes it: its form unless it is unknown, and the value
attached to it, after an equals sign or directly. -/
structure Written (α : Type) where
  form : Option (OptionForm α)
  attached : Option (Bool × List Char)

inductive Mark (α : Type) where
  /-- The argument `--`, after which there are no options. -/
  | separator
  | operand
  | option (written : Written α)

/-- Whether a text is a negative number without an exponent. -/
def isNegativeNumber (argument : List Char) : Bool :=
  let isDigit (c : Char) : Bool := (Text.digitValue? c).isSome
  let body := match argument.reverse with
    | '\n' :: rest => rest.reverse
    | _ => argument
  match body with
  | '-' :: number =>
    match number.dropWhile isDigit with
    | [] => !number.isEmpty
    | '.' :: places => !places.isEmpty && places.all isDigit
    | _ => false
  | _ => false

namespace Grammar

variable {α : Type} (grammar : Grammar α)

/-- All names with their forms, in order. -/
def names : List (String × OptionForm α) :=
  (helpForm α :: grammar.options).flatMap fun form => form.names.map fun name => (name, form)

/-- How an option is shown where its use is explained. -/
def optionUsage (form : OptionForm α) : String :=
  match form.effect with
  | .value kind _ => "[" ++ form.names.headD "" ++ " " ++ kind.toUpper ++ "]"
  | _ => "[" ++ form.names.headD "" ++ "]"

/-- How an operand is shown where its use is explained. -/
def operandUsage (operand : Operand α) : String :=
  match operand.taking with
  | .one _ _ => operand.title
  | .rest choices _ => "[" ++ "|".intercalate choices ++ "] ..."

def usage : String :=
  " ".intercalate (["usage:", grammar.program] ++
    (helpForm α :: grammar.options).map optionUsage ++ grammar.operands.map operandUsage)

/-- The form of that very name. -/
def form? (name : List Char) : Option (OptionForm α) :=
  (grammar.names.find? (·.1.toList = name)).map (·.2)

/-- An argument cut at its first equals sign. -/
def cutAtEquals (argument : List Char) : List Char × Option (Bool × List Char) :=
  match argument.dropWhile (· ≠ '=') with
  | _ :: value => (argument.takeWhile (· ≠ '='), some (true, value))
  | [] => (argument, none)

/-- The options that an argument may mean when it is no whole name, each with the name it
would stand for. -/
def meanings (argument : List Char) : List (String × Written α) :=
  match argument with
  | '-' :: '-' :: _ =>
    let (start, attached) := cutAtEquals argument
    (grammar.names.filter fun (name, _) => start.isPrefixOf name.toList).map
      fun (name, form) => (name, ⟨some form, attached⟩)
  | _ =>
    grammar.names.filterMap fun (name, form) =>
      if name.toList = argument.take 2 then
        some (name, ⟨some form, some (false, argument.drop 2)⟩)
      else if argument.isPrefixOf name.toList then some (name, ⟨some form, none⟩)
      else none

/-- What an argument before any `--` is taken for. -/
def markOf (argument : String) : Except ArgumentFault (Mark α) :=
  let text := argument.toList
  match text with
  | '-' :: _ :: _ =>
    let (start, attached) := cutAtEquals text
    match grammar.form? text, grammar.form? start with
    | some form, _ => .ok (.option ⟨some form, none⟩)
    | none, some form => .ok (.option ⟨some form, attached⟩)
    | none, none =>
      match grammar.meanings text with
      | [(_, written)] => .ok (.option written)
      | [] =>
        if isNegativeNumber text || text.contains ' ' then .ok .operand
        else .ok (.option ⟨none, none⟩)
      | several => .error (.ambiguous argument (several.map (·.1)))
  | _ => .ok .operand

/-- All arguments with what they are taken for. -/
def marks : List String → Except ArgumentFault (List (String × Mark α))
  | [] => .ok []
  | argument :: rest =>
    if argument = "--" then
      .ok ((argument, .separator) :: rest.map fun argument => (argument, .operand))
    else do
      let mark ← grammar.markOf argument
      let others ← marks rest
      return (argument, mark) :: others

structure Progress (α : Type) where
  choices : α
  awaited : List (Operand α)
  unplaced : List String

def refuse {β : Type} (fault : ArgumentFault) : Except Stop β :=
  .error (.refused grammar.program fault)

def isOption : Mark α → Bool
  | .option _ => true
  | _ => false

def isSeparator : Mark α → Bool
  | .separator => true
  | _ => false

/-- The arguments that the next operand would take from those before the next option: one
argument with the separators around it. The first of them that is a separator is not part
of what it takes. -/
def takeOperand? (segment : List (String × Mark α)) : Option (String × List (String × Mark α)) :=
  match segment.dropWhile (isSeparator ·.2) with
  | (argument, _) :: rest => some (argument, rest.dropWhile (isSeparator ·.2))
  | [] => none

/-- Gives arguments between options to single operands in order, as far as they go; gives
back the arguments that are left. -/
def placeSingles (segment : List (String × Mark α)) :
    List (Operand α) → α →
      Except Stop (α × List (Operand α) × List (String × Mark α))
  | [], choices => .ok (choices, [], segment)
  | operand :: others, choices =>
    match operand.taking with
    | .rest _ _ => .ok (choices, operand :: others, segment)
    | .one kind set =>
      match takeOperand? segment with
      | none => .ok (choices, operand :: others, segment)
      | some (argument, left) =>
        match set argument choices with
        | some choices => placeSingles left others choices
        | none => grammar.refuse (.unreadable operand.title kind argument)

/-- Gives all arguments from here on to an operand that takes them. -/
def placeRest (title : String) (choices : List String)
    (set : String → List String → α → Except Stop (α × List String))
    (all : List String) (progress : Progress α) : Except Stop (Progress α) :=
  match all with
  | [] => .ok progress
  | choice :: arguments =>
    if choices.contains choice then do
      let (chosen, handedBack) ← set choice arguments progress.choices
      return { choices := chosen
               awaited := progress.awaited.tail
               unplaced := progress.unplaced ++ handedBack }
    else grammar.refuse (.unknownChoice title choice choices)

/-- Asks for help through a short name with something attached, after an equals sign if
`sign` holds: more short names may follow, and help is the only one there is. -/
def attachedHelp (title : String) : (sign : Bool) → List Char → Except Stop α
  | true, value => grammar.refuse (.needlessValue title (String.ofList value))
  | false, [] => .error (.help grammar.usage)
  | false, '-' :: rest => grammar.refuse (.needlessValue title (String.ofList ('-' :: rest)))
  | false, 'h' :: '=' :: value =>
    grammar.refuse (.needlessValue title (String.ofList value))
  | false, 'h' :: rest => attachedHelp title false rest
  | false, _ => .error (.help grammar.usage)

/-- Carries out an option. `next?` is the argument after it, if an option may take it; the
result says whether it was taken. -/
def obey (argument : String) (written : Written α) (next? : Option String)
    (progress : Progress α) : Except Stop (Progress α × Bool) :=
  match written.form with
  | none => .ok ({ progress with unplaced := progress.unplaced ++ [argument] }, false)
  | some form =>
    match form.effect, written.attached with
    | .help, none => .error (.help grammar.usage)
    | .help, some (sign, value) =>
      if "--".toList.isPrefixOf argument.toList then
        grammar.refuse (.needlessValue form.title (String.ofList value))
      else (grammar.attachedHelp form.title sign value).map fun choices =>
        ({ progress with choices := choices }, false)
    | .flag set, none => .ok ({ progress with choices := set progress.choices }, false)
    | .flag _, some (_, value) =>
      grammar.refuse (.needlessValue form.title (String.ofList value))
    | .value kind set, attached =>
      match (attached.map (String.ofList ·.2)).or next? with
      | none => grammar.refuse (.missingValue form.title)
      | some value =>
        match set value progress.choices with
        | some choices => .ok ({ progress with choices := choices }, attached.isNone)
        | none => grammar.refuse (.unreadable form.title kind value)

/-- The argument that an option may take as its value. -/
def nextValue? : List (String × Mark α) → Option String
  | (argument, .operand) :: _ => some argument
  | _ => none

/-- Goes through marked arguments; `fuel` is at least twice their number, and every second
step takes an argument. -/
def readFrom : (fuel : Nat) → List (String × Mark α) → Progress α → Except Stop (Progress α)
  | 0, _, progress => .ok progress
  | _ + 1, [], progress => .ok progress
  | fuel + 1, (argument, .option written) :: rest, progress =>
    match grammar.obey argument written (nextValue? rest) progress with
    | .error stop => .error stop
    | .ok (progress, tookNext) => readFrom fuel (if tookNext then rest.drop 1 else rest) progress
  | fuel + 1, arguments, progress =>
    let segment := arguments.takeWhile fun argument => !isOption argument.2
    let after := arguments.dropWhile fun argument => !isOption argument.2
    match grammar.placeSingles segment progress.awaited progress.choices with
    | .error stop => .error stop
    | .ok (choices, awaited, left) =>
      let progress := { progress with choices := choices, awaited := awaited }
      match awaited, takeOperand? left with
      | ⟨title, _, .rest known set⟩ :: _, some _ =>
        grammar.placeRest title known set ((left ++ after).map (·.1)) progress
      | _, _ =>
        readFrom fuel after { progress with unplaced := progress.unplaced ++ left.map (·.1) }

/-- Reads arguments: the choices that they make and the arguments without a place. -/
def read (start : α) (arguments : List String) : Except Stop (α × List String) :=
  match grammar.marks arguments with
  | .error fault => grammar.refuse fault
  | .ok marked =>
    match grammar.readFrom (2 * marked.length + 1) marked ⟨start, grammar.operands, []⟩ with
    | .error stop => .error stop
    | .ok progress =>
      match (progress.awaited.filter (·.isRequired)).map (·.title) with
      | [] => .ok (progress.choices, progress.unplaced)
      | missing => grammar.refuse (.missing missing)

/-- Reads arguments that all have to have a place. -/
def readAll (start : α) (arguments : List String) : Except Stop α :=
  match grammar.read start arguments with
  | .error stop => .error stop
  | .ok (choices, []) => .ok choices
  | .ok (_, unplaced) => grammar.refuse (.unplaced unplaced)

end Grammar

end Command

end DiceLedger
