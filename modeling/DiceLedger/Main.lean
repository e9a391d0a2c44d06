import DiceLedger.Command.Run

/-! # The program

The command line on the machine's own files, variables and channels. Relative paths of the
settings start from the folder in which the program is run.
-/

namespace DiceLedger

namespace Main

/-- Draws with the machine's generator. -/
def source : Dice.Source StdGen where
  draw sides generator := randNat generator 1 sides

/-- What stands at a path; what is there and cannot be read counts as a folder. -/
def look (path : String) : IO Place := do
  try return .file ((← IO.FS.readBinFile path).toList.map (·.toNat))
  catch
    | .noFileOrDirectory .. => return .nothing
    | _ => return .folder

/-- Runs an action that writes to a place. -/
def writing (action : IO Unit) : IO (Except PlaceFault Unit) := do
  try return .ok (← action)
  catch
    | .noFileOrDirectory .. => return .error .missing
    | .alreadyExists .. => return .error .isFile
    | _ => return .error .isFolder

/-- The machine as a host, with a generator of its own. -/
def host (root : String) (generator : IO.Ref StdGen) : Host StdGen IO where
  root := root
  environment name := IO.getEnv name
  look := look
  makeFolder path := writing (IO.FS.createDirAll path)
  append path text := writing (IO.FS.withFile path .append fun handle => handle.putStr text)
  replace path text := writing (IO.FS.writeFile path text)
  print text := IO.print text
  warn text := IO.eprint text
  chance run := do
    let (result, next) := run (← generator.get)
    generator.set next
    return result

/-- The number that an ending is reported as. -/
def exitCode : Command.Ending → UInt32
  | .finished | .stopped (.help _) => 0
  | .failed _ => 1
  | .stopped (.refused ..) => 2

/-- What is still to be said after a run. -/
def farewell : Command.Ending → IO Unit
  | .finished | .stopped (.refused ..) => return
  | .stopped (.help usage) => IO.println usage
  | .failed failure => IO.eprintln (Command.programName ++ ": " ++ failure.message)

/-- A seed out of random bytes. -/
def seedOf (bytes : ByteArray) : Nat :=
  bytes.toList.foldl (fun seed byte => seed * 256 + byte.toNat) 0

def run (arguments : List String) : IO UInt32 := do
  let root := (← IO.currentDir).toString
  let generator ← IO.mkRef (mkStdGen (seedOf (← IO.getRandomBytes 8)))
  let outcome ← Command.run (host root generator) source arguments
  farewell outcome.ending
  return exitCode outcome.ending

end Main

end DiceLedger

def main (arguments : List String) : IO UInt32 := DiceLedger.Main.run arguments
