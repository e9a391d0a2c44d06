import DiceLedger.Text.Quoted
import DiceLedger.Text.Utf8
import DiceLedger.Transcript.FantasyGrounds
import DiceLedger.Transcript.Foundry
import DiceLedger.Transcript.Roll20.Message

/-! # The format of a log

The name of a log's file tells the platform it comes from: `fnd_*.db` for Foundry,
`r20_*.html` for Roll20 and `fg_*.html` for Fantasy Grounds.
-/

namespace DiceLedger

namespace Transcript

inductive Format where
  | foundry
  | roll20
  | fantasyGrounds
  deriving DecidableEq, Repr

namespace Format

def all : List Format := [foundry, roll20, fantasyGrounds]

def name : Format → String
  | foundry => "foundry"
  | roll20 => "roll20"
  | fantasyGrounds => "fantasy_grounds"

/-- How names of files begin. -/
def opening : Format → String
  | foundry => "fnd_"
  | roll20 => "r20_"
  | fantasyGrounds => "fg_"

/-- How names of files end, in lower case. -/
def extension : Format → String
  | foundry => ".db"
  | roll20 => ".html"
  | fantasyGrounds => ".html"

/-- The last part of a path. -/
def fileName (path : List Char) : List Char := (path.reverse.takeWhile (· ≠ '/')).reverse

/-- The part of a file's name from its last point on; points at the beginning of a name
do not count. -/
def extensionOf (name : List Char) : List Char :=
  let rest := name.dropWhile (· = '.')
  if rest.contains '.' then '.' :: (rest.reverse.takeWhile (· ≠ '.')).reverse else []

/-- The format that the path of a log names. -/
def ofPath? (path : String) : Option Format :=
  let name := fileName path.toList
  all.find? fun format =>
    format.opening.toList.isPrefixOf name &&
      (extensionOf name).map Char.toLower = format.extension.toList

/-- What is said about a path that names no format. -/
def unrecognized (path : String) : String :=
  "Unrecognized log filename " ++ Text.quoted (String.ofList (fileName path.toList)) ++
    ": expected fnd_*.db, r20_*.html or fg_*.html"

/-- What is said about a log that is not there. -/
def notFound (path : String) : String := "Log file not found: " ++ path

/-- The notice that a log is being read. -/
def reading (format : Format) (path : String) : Notice :=
  ⟨.info, "adapters.log_files", "Reading " ++ format.name ++ " log " ++ path⟩

/-- The entries of a log in a format, its local times so many hours east of universal
time. -/
def read (format : Format) (offset : Option Int) (lines : List (List Char)) : List Entry :=
  match format with
  | foundry => Foundry.read lines
  | roll20 => Roll20.read offset lines
  | fantasyGrounds => FantasyGrounds.read offset lines

/-- The entries of a log's bytes. -/
def readBytes (format : Format) (offset : Option Int) (bytes : List Nat) : List Entry :=
  format.read offset (Text.lines (Text.unifyLineEnds (Text.ofUtf8 bytes)))

end Format

end Transcript

end DiceLedger
