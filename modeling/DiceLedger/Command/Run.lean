import DiceLedger.Command.Arguments
import DiceLedger.Command.Failure
import DiceLedger.Command.Report
import DiceLedger.Host.Basic
import DiceLedger.Settings.Basic
import DiceLedger.Settings.EnvironmentFile
import DiceLedger.Store.Written
import DiceLedger.Transcript.Format

/-! # Running a command

One run of the program on a host: the settings are read first, then the arguments, then
the place for notices is set up, and only then does the command do its work. What was
printed and stored before a failure stays.
-/

namespace DiceLedger

namespace Command

/-- How a run ends. -/
inductive Ending where
  | finished
  | stopped (stop : Stop)
  | failed (failure : Failure)
  deriving DecidableEq, Repr

/-- How a run ended, and where its notices went if they went anywhere. -/
structure Outcome where
  ending : Ending
  log : Option LogSetup

section

variable {σ : Type} {m : Type → Type} [Monad m] (host : Host σ m)

/-- Turns a result into one of the run. -/
def orFail {ε α : Type} (failure : ε → Failure) (result : Except ε α) : ExceptT Failure m α :=
  match result with
  | .ok value => pure value
  | .error fault => throw (failure fault)

/-- The text of a file's bytes, with line feeds at the ends of its lines. -/
def textOf (path : String) (bytes : List Nat) : ExceptT Failure m (List Char) :=
  match Text.ofUtf8? bytes with
  | some text => pure (Text.unifyLineEnds text)
  | none => throw (.notText path)

/-- What the environment file holds; without one, nothing. -/
def readEnvironmentFile : ExceptT Failure m EnvironmentFile.Content := do
  let path := Path.join host.root ".env"
  match ← host.look path with
  | .file bytes => return EnvironmentFile.read (← textOf path bytes)
  | _ => return ⟨[], []⟩

def settingsVariable : String := "ROLLCALL_CONFIG"

def storeVariable : String := "ROLLCALL_DB_PATH"

/-- The variables that a run asks the host for. -/
def namesAsked (content : EnvironmentFile.Content) : List String :=
  settingsVariable :: storeVariable :: content.bindings.flatMap fun (name, value) =>
    name :: (value.map EnvironmentFile.namesIn).getD []

/-- Whether a variable can be set to a value. -/
def isUsable (name value : String) : Bool :=
  !name.toList.contains '=' && !name.toList.contains '\x00' && !value.toList.contains '\x00'

/-- The value of a variable: that of the environment, or else that of its file. -/
def readVariables : ExceptT Failure m (String → Option String) := do
  let content ← readEnvironmentFile host
  for line in content.brokenLines do
    host.warn (EnvironmentFile.brokenNotice line ++ "\n")
  let known ← (namesAsked content).mapM fun name => do return (name, ← host.environment name)
  let environment (name : String) : Option String := (known.lookup name).join
  let added := EnvironmentFile.assignments environment content.bindings
  for (name, value) in added do
    if (environment name).isNone && !(value.map (isUsable name)).getD true then
      throw (.unusableVariable name)
  return fun name => (environment name).or (added.lookup name).join

def readSettings : ExceptT Failure m Settings := do
  let value? ← readVariables host
  let path := (value? settingsVariable).getD (Path.join host.root "config.json")
  match ← host.look path with
  | .nothing => throw (.settingsMissing path)
  | .folder => throw (.place path .isFolder)
  | .file bytes =>
    let json ← orFail .settingsUnreadable (Json.read (← textOf path bytes))
    let storePath? := (value? storeVariable).filter (· ≠ "")
    orFail .mismatch (Settings.ofJson host.root storePath? json)

def openLogFile (config : Json) : ExceptT Failure m LogFile := do
  let path ← orFail .mismatch (logFilePath host.root config)
  let folder := Path.parent path
  orFail (.place folder) (← host.makeFolder folder)
  let file ← orFail .mismatch (logFile (Path.normal path) config)
  orFail (.place file.path) (← host.append file.path "")
  return file

/-- Sets up where notices go. -/
def setUpLog (logging : Json) (verbose : Bool) : ExceptT Failure m (Option LogSetup) := do
  match ← orFail .mismatch (LogRequest.ofSettings logging verbose) with
  | none => return none
  | some request =>
    let file ← request.file.mapM (openLogFile host)
    if !request.console && file.isNone then return none
    match request.level with
    | .rank rank => return some { rank := rank, console := request.console, file := file }
    | level => throw (.noRank level)

def tell (log : Option LogSetup) (notices : List Notice) : ExceptT Failure m Unit := do
  match log with
  | none => return
  | some setup =>
    let text := setup.text notices
    if text = "" then return
    if setup.console then host.warn text
    match setup.file with
    | none => return
    | some file => orFail (.place file.path) (← host.append file.path text)

/-- Writes the notices of a result, and gives the result. -/
def told {α : Type} (log : Option LogSetup) (noted : Noted α) : ExceptT Failure m α := do
  tell host log noted.notices
  return noted.result

/-- Keeps a store at a path. -/
def keepStore (path : String) (store : Store) : ExceptT Failure m Unit := do
  orFail (fun _ => .storeUnreachable path) (← host.replace path store.written)

/-- Opens the store at a path, making it if there is none, and prepares it. -/
def openStore (path : String) : ExceptT Failure m Store := do
  let found ← match ← host.look path with
    | .folder => throw (.storeUnreachable path)
    | .nothing => pure (some .unprepared)
    | .file bytes => pure ((Text.ofUtf8? bytes).bind Store.ofWritten?)
  match found with
  | none => throw (.notAStore path)
  | some store =>
    keepStore host path store.prepare
    return store.prepare

def openLog (log : Option LogSetup) (settings : Settings) (campaign : Campaign) :
    ExceptT Failure m (List Transcript.Entry) := do
  let path ← orFail .mismatch (settings.logPath campaign)
  match Transcript.Format.ofPath? path with
  | none => throw (.unrecognizedLog path)
  | some format =>
    let place ← host.look path
    if place = .nothing then throw (.logMissing path)
    tell host log [format.reading path]
    match place with
    | .file bytes => return format.readBytes campaign.timezoneOffset bytes
    | _ => throw (.place path .isFolder)

/-- Prints lines, up to the first that cannot be printed. -/
def printLines (lines : List LooseText) : ExceptT Failure m Unit := do
  for line in lines do
    match line with
    | .text line => host.print (text [line])
    | .broken .. => throw .unprintable

def ingestCampaign (log : Option LogSetup) (settings : Settings) (store : Store)
    (campaign : Campaign) : ExceptT Failure m Store := do
  let entries ← openLog host log settings campaign
  match campaign.name with
  | .broken .. => throw (.ingest (.store .unencodable))
  | .text name =>
    let (store, counts) ← told host log (Ingest.run store name entries)
    keepStore host settings.storePath store
    host.print (text [ingestLine name (← orFail .ingest counts)])
    return store

def runIngest (log : Option LogSetup) (settings : Settings) : ExceptT Failure m Unit := do
  host.print (text banner)
  let store ← openStore host settings.storePath
  tell host log [campaignsNotice settings.campaigns]
  let _ ← settings.campaigns.foldlM (ingestCampaign host log settings) store

/-- Lists the unmapped senders of one campaign; says whether there were any so far. -/
def listSenders (log : Option LogSetup) (settings : Settings) (found : Bool)
    (campaign : Campaign) : ExceptT Failure m Bool := do
  let entries ← openLog host log settings campaign
  let senders ← orFail .read (← told host log (Ingest.unmappedSenders campaign entries))
  printLines host (senders.map (senderLine campaign.name))
  return found || !senders.isEmpty

def runSenders (log : Option LogSetup) (settings : Settings) : ExceptT Failure m Unit := do
  let found ← settings.campaigns.foldlM (listSenders host log settings) false
  if !found then host.print (text [allMappedLine])

/-- Runs a simulation and tells its notices. -/
def simulate {α : Type} (log : Option LogSetup) (run : σ → Chance.Simulated σ α) :
    ExceptT Failure m α := do
  let noted ← (host.chance run : m (Noted (Except Chance.Fault α)))
  orFail .chance (← told host log noted)

variable (source : Dice.Source σ)

def runTask (log : Option LogSetup) (settings : Settings) : Task → ExceptT Failure m Unit
  | .ingest => runIngest host log settings
  | .senders => runSenders host log settings
  | .roll expression => do
    let value ← (host.chance (Dice.evaluate source expression) : m (Option Binary64))
    host.print (text [rollLine expression value])
  | .odds request => do
    let _ ← openStore host settings.storePath
    let estimate ← simulate host log
      (Chance.runOdds source settings.counts request.expression request.threshold request.trials)
    host.print (text [oddsLine estimate])
  | .luck request => do
    let store ← openStore host settings.storePath
    let senders := Campaign.sendersForPlayer settings.campaigns (.string request.player)
    let report ← simulate host log
      (Chance.runLuck source settings.counts store senders request.repetitions)
    host.print (text (luckLines request.player report))
  | .superlative worst precise => do
    let store ← openStore host settings.storePath
    let found ← simulate host log
      (Chance.runSuperlative source settings.counts store worst precise)
    printLines host [superlativeLine settings.campaigns worst found]

/-- Runs the program on its arguments. -/
def run (arguments : List String) : m Outcome := do
  match ← (readSettings host).run with
  | .error failure => return ⟨.failed failure, none⟩
  | .ok settings =>
    match readArguments arguments with
    | .error stop =>
      match stop with
      | .refused program fault => host.warn (refusalLine program fault ++ "\n")
      | .help _ => pure ()
      return ⟨.stopped stop, none⟩
    | .ok invocation =>
      match ← (setUpLog host settings.logging invocation.verbose).run with
      | .error failure => return ⟨.failed failure, none⟩
      | .ok log =>
        match ← (runTask host source log settings invocation.task).run with
        | .error failure => return ⟨.failed failure, log⟩
        | .ok () => return ⟨.finished, log⟩

end

end Command

end DiceLedger
