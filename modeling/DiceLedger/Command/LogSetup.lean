import DiceLedger.Host.Path
import DiceLedger.Json.Access
import DiceLedger.Notice

/-! # Where notices go

The settings say from which rank on notices are written, and whether to the channel of
messages, to a file, or both. Without a place to go nothing is set up.
-/

namespace DiceLedger

namespace Command

open Json (Mismatch)

/-- What a name stands for where the rank of notices is given. -/
inductive NamedLevel where
  | rank (rank : Nat)
  /-- Names of other things than ranks: texts and collections. -/
  | text
  | collection
  deriving DecidableEq, Repr

/-- The names that stand for something. -/
def namedLevels : List (String × NamedLevel) :=
  [("CRITICAL", .rank 50), ("FATAL", .rank 50), ("ERROR", .rank 40), ("WARNING", .rank 30),
   ("WARN", .rank 30), ("INFO", .rank 20), ("DEBUG", .rank 10), ("NOTSET", .rank 0),
   ("BASIC_FORMAT", .text), ("_STYLES", .collection)]

/-- The upper-case form of the letters that have one of the plain letters as theirs. -/
def upperChar (c : Char) : Char :=
  if c = 'ı' then 'I' else if c = 'ſ' then 'S' else c.toUpper

/-- What a level of the settings stands for; unknown names stand for the rank of
informative notices. -/
def levelNamed (level : Json) : NamedLevel :=
  let upper? := level.display.plain?.map fun name => String.ofList (name.toList.map upperChar)
  (upper?.bind (List.lookup · namedLevels)).getD (.rank 20)

structure LogFile where
  /-- The path as the settings give it, from the root folder on. -/
  path : String
  /-- The size at which a new file is begun; never if it is zero. -/
  maxBytes : Int
  /-- How many old files are kept. -/
  backupCount : Int
  deriving DecidableEq, Repr

/-- The section of the settings on a file, if notices go to one. -/
def fileSection? (config : Json) : Except Mismatch (Option Json) := do
  let section? ← config.fieldOr "file" .null
  if !section?.isTruthy then return none
  let enabled ← section?.fieldOr "enabled" .null
  return if enabled.isTruthy then some section? else none

def logFilePath (root : String) (config : Json) : Except Mismatch String := do
  match ← config.fieldOr "path" (.string "logs/rollcall.log") with
  | .string (.text path) => return Path.join root path
  | .string (.broken ..) => .error .unencodable
  | _ => .error .wrongKind

/-- The file at that path; its numbers are read once its folder is there. -/
def logFile (path : String) (config : Json) : Except Mismatch LogFile := do
  let maxBytes ← (← config.fieldOr "max_bytes" (.integer 5242880)).toWhole
  let backupCount ← (← config.fieldOr "backup_count" (.integer 5)).toWhole
  return { path, maxBytes, backupCount }

/-- Where notices go, and from which rank on. -/
structure LogSetup where
  rank : Nat
  console : Bool
  file : Option LogFile
  deriving DecidableEq, Repr

/-- What is asked for: the level, and where to. -/
structure LogRequest where
  level : NamedLevel
  console : Bool
  file : Option Json

/-- What the settings and the wish to be told everything ask for, if anything. -/
def LogRequest.ofSettings (logging : Json) (verbose : Bool) :
    Except Mismatch (Option LogRequest) := do
  let config := if logging.isTruthy then logging else .object []
  let enabled ← config.fieldOr "enabled" .null
  if !enabled.isTruthy && !verbose then return none
  let level ← config.fieldOr "level" (.string "INFO")
  let console ← config.fieldOr "console" .null
  let file ← fileSection? config
  return some {
    level := if verbose then .rank 10 else levelNamed level
    console := console.isTruthy || verbose
    file := file }

def LogSetup.takes (setup : LogSetup) (notice : Notice) : Bool := setup.rank ≤ notice.level.rank

/-- The text of the notices that are important enough. -/
def LogSetup.text (setup : LogSetup) (notices : List Notice) : String :=
  String.join ((notices.filter setup.takes).map fun notice => notice.line ++ "\n")

end Command

end DiceLedger
