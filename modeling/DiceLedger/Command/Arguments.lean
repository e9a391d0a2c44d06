import DiceLedger.Binary64.Decimal
import DiceLedger.Command.Grammar
import DiceLedger.Text.Numeral

/-! # The commands and their arguments

Seven commands, of which one reads the logs of all campaigns and is the one that runs when
no command is named.
-/

namespace DiceLedger

namespace Command

structure OddsRequest where
  expression : String := ""
  threshold : Binary64 := 0
  trials : Option Int := none

structure LuckRequest where
  player : String := ""
  repetitions : Option Int := none

inductive Task where
  /-- Read the logs of all campaigns into the store. -/
  | ingest
  /-- List the senders that nobody posts under. -/
  | senders
  | roll (expression : String)
  | odds (request : OddsRequest)
  | luck (request : LuckRequest)
  /-- Find the least likely roll, the worst or the best. -/
  | superlative (worst precise : Bool)

structure Invocation where
  /-- Tell everything on the channel of messages. -/
  verbose : Bool := false
  task : Task := .ingest

def programName : String := "rollcall"

/-- The name under which a command refuses its arguments. -/
def programOf (name : String) : String := programName ++ " " ++ name

def required {α : Type} (title kind : String) (set : String → α → Option α) : Operand α :=
  ⟨title, true, .one kind set⟩

def wholeOption {α : Type} (name : String) (set : Int → α → α) : OptionForm α :=
  ⟨[name], .value "int" fun text choices =>
    (Text.readInt? text.toList).map fun n => set n choices⟩

def plainGrammar (name : String) : Grammar Unit := ⟨programOf name, [], []⟩

def rollGrammar : Grammar String :=
  ⟨programOf "roll", [], [required "expression" "str" fun text _ => some text]⟩

def oddsGrammar : Grammar OddsRequest :=
  { program := programOf "odds"
    options := [wholeOption "--trials" fun n request => { request with trials := some n }]
    operands := [
      required "expression" "str" fun text request => some { request with expression := text },
      required "threshold" "float" fun text request =>
        (Text.readDouble? text.toList).map fun threshold => { request with threshold }] }

def luckGrammar : Grammar LuckRequest :=
  { program := programOf "luck"
    options := [wholeOption "--repetitions" fun n request => { request with repetitions := some n }]
    operands := [required "player" "str" fun text request => some { request with player := text }] }

/-- The grammar of a command that looks for a superlative; the choice is whether to be
precise. -/
def superlativeGrammar (name : String) : Grammar Bool :=
  ⟨programOf name, [⟨["--precise"], .flag fun _ => true⟩], []⟩

def taskNames : List String := ["ingest", "senders", "roll", "odds", "luck", "worst", "best"]

/-- Reads the arguments of a command into its task. -/
def readTask (name : String) (arguments : List String) : Except Stop (Task × List String) :=
  match name with
  | "senders" => ((plainGrammar name).read () arguments).map fun (_, left) => (.senders, left)
  | "roll" => (rollGrammar.read "" arguments).map fun (expression, left) => (.roll expression, left)
  | "odds" => (oddsGrammar.read {} arguments).map fun (request, left) => (.odds request, left)
  | "luck" => (luckGrammar.read {} arguments).map fun (request, left) => (.luck request, left)
  | "worst" => ((superlativeGrammar name).read false arguments).map fun (precise, left) =>
      (.superlative true precise, left)
  | "best" => ((superlativeGrammar name).read false arguments).map fun (precise, left) =>
      (.superlative false precise, left)
  | _ => ((plainGrammar name).read () arguments).map fun (_, left) => (.ingest, left)

def mainGrammar : Grammar Invocation :=
  { program := programName
    options := [⟨["--verbose"], .flag fun invocation => { invocation with verbose := true }⟩]
    operands := [{
      title := "command"
      isRequired := false
      taking := .rest taskNames fun name arguments invocation =>
        (readTask name arguments).map fun (task, left) => ({ invocation with task }, left) }] }

/-- What the arguments of the program ask for. -/
def readArguments (arguments : List String) : Except Stop Invocation :=
  mainGrammar.readAll {} arguments

end Command

end DiceLedger
