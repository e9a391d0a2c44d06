import DiceLedger.Chance.History
import DiceLedger.Command.LogSetup
import DiceLedger.Host.Basic
import DiceLedger.Transcript.Format

/-! # Failures

What ends a run of the program before its work is done, and what is said about it.
-/

namespace DiceLedger

namespace Command

inductive Failure where
  /-- A file that has to be text is not. -/
  | notText (path : String)
  /-- A name or value that no variable of the environment can have. -/
  | unusableVariable (name : String)
  | settingsMissing (path : String)
  | settingsUnreadable (fault : Json.Fault)
  | mismatch (fault : Json.Mismatch)
  /-- The level of notices names something that is no rank. -/
  | noRank (level : NamedLevel)
  | place (path : String) (fault : PlaceFault)
  | storeUnreachable (path : String)
  | notAStore (path : String)
  | unrecognizedLog (path : String)
  | logMissing (path : String)
  | ingest (fault : Ingest.Fault)
  | read (fault : Transcript.ReadFault)
  | chance (fault : Chance.Fault)
  /-- A line with a half of a character, which no channel takes. -/
  | unprintable
  deriving DecidableEq, Repr

/-- What is said about values of the settings that do not fit. -/
def mismatchMessage : Json.Mismatch → String
  | .noFields => "The settings hold another value where an object is needed"
  | .missingField => "A field of the settings is missing"
  | .wrongKind => "The settings hold a value of a wrong kind"
  | .unreadable => "The settings hold a number that cannot be read"
  | .tooLarge => "The settings hold a number that is too large"
  | .unencodable => "The settings hold a path with a half of a character"

def placeMessage (path : String) : PlaceFault → String
  | .missing => "There is no folder for " ++ path
  | .isFolder => path ++ " is a folder"
  | .isFile => path ++ " is a file"
  | .throughFile => path ++ " leads through a file"

def storeMessage : StoreFault → String
  | .noTables => "The store is not prepared"
  | .unsupportedContent => "The store cannot keep a content of this kind"
  | .wholeTooLarge => "The store cannot keep a number of more than 64 bits"
  | .notANumber => "The store cannot keep a roll without a total"
  | .unreadableTime => "The store holds a time that cannot be read"
  | .unencodable => "The store cannot keep a half of a character"

def readMessage : Transcript.ReadFault → String
  | .record _ => "A record of the log is malformed"
  | .tooManyDigits => "The log holds a number of too many digits"
  | .tooDeep => "The log holds values nested too deep"
  | .markup _ => "The log holds markup that cannot be read"
  | .localize _ => "The log holds a time that has no place in universal time"
  | .clockEnds => "The clock of the log leaves the calendar"

def chanceMessage : Chance.Fault → String
  | .store fault => storeMessage fault
  | .trials fault => fault.message "trials"
  | .repetitions fault => fault.message "repetitions"

def Failure.message : Failure → String
  | notText path => path ++ " is not text"
  | unusableVariable name => "No variable of the environment can be set to this: " ++ name
  | settingsMissing path => "Config file not found: " ++ path
  | settingsUnreadable _ => "The settings are not JSON"
  | mismatch fault => mismatchMessage fault
  | noRank _ => "The level of notices is no rank"
  | place path fault => placeMessage path fault
  | storeUnreachable path => "There is no place for a store at " ++ path
  | notAStore path => path ++ " is not a store"
  | unrecognizedLog path => Transcript.Format.unrecognized path
  | logMissing path => Transcript.Format.notFound path
  | ingest (.store fault) => storeMessage fault
  | ingest (.read fault) => readMessage fault
  | read fault => readMessage fault
  | chance fault => chanceMessage fault
  | unprintable => "A line with a half of a character cannot be printed"

end Command

end DiceLedger
