import DiceLedger.Campaign
import DiceLedger.Host.Path

/-! # Settings

The settings are one JSON object. Every field may be missing; paths that are not absolute
start from the root folder.
-/

namespace DiceLedger

structure Settings where
  storePath : String
  logFolder : String
  campaigns : List Campaign
  counts : TrialCounts
  /-- What to do with notices; it is read when a command is about to run. -/
  logging : Json

namespace Settings

open Json (Mismatch)

def readPath (root : String) : Json → Except Mismatch String
  | .string (.text path) => .ok (Path.join root path)
  | .string (.broken ..) => .error .unencodable
  | _ => .error .wrongKind

/-- The fields of a value that has to be an object. -/
def fieldsOf : Json → Except Mismatch (List (LooseText × Json))
  | .object fields => .ok fields
  | _ => .error .noFields

/-- The settings that an object writes; a store path given from elsewhere takes the place
of the written one, which is then not looked at. -/
def ofJson (root : String) (storePath? : Option String) (json : Json) :
    Except Mismatch Settings := do
  let storePath ← match storePath? with
    | some path => .ok (.string path)
    | none => json.fieldOr "database_path" (.string "rollcall.db")
  let storePath ← readPath root storePath
  let logFolder ← readPath root (← json.fieldOr "chatlogs_dir" (.string "chatlogs"))
  let campaigns ← Campaign.ofEntries (← fieldsOf (← json.fieldOr "campaigns" (.object [])))
  let counts ← TrialCounts.ofSettings (← json.fieldOr "simulation" (.object []))
  let logging ← json.fieldOr "logging" (.object [])
  return { storePath, logFolder, campaigns, counts, logging }

def logPath (settings : Settings) (campaign : Campaign) : Except Mismatch String :=
  readPath settings.logFolder campaign.log

end Settings

end DiceLedger
