import DiceLedger.Host.Path

/-! # The host

What the program needs from the machine that it runs on: variables of the environment,
files, two channels of text and a source of chance. The program is written over these
effects, whatever they are: `Host.inMemory` keeps them in a value, and the program's
entry point uses the machine's own.
-/

namespace DiceLedger

inductive Place where
  | nothing
  | folder
  | file (bytes : List Nat)
  deriving DecidableEq, Repr

inductive PlaceFault where
  /-- There is no folder that could hold it. -/
  | missing
  | isFolder
  /-- It should be a folder, and it is a file. -/
  | isFile
  /-- The path leads through a file. -/
  | throughFile
  deriving DecidableEq, Repr

/-- The effects that a machine offers; `σ` is the state of its source of chance. -/
structure Host (σ : Type) (m : Type → Type) where
  /-- The folder that relative paths of the settings start from, as an absolute path. -/
  root : String
  environment : String → m (Option String)
  look : String → m Place
  /-- Makes a folder and those around it, as far as they are missing. -/
  makeFolder : String → m (Except PlaceFault Unit)
  /-- Writes text at the end of a file, which is made if it is missing. -/
  append : String → String → m (Except PlaceFault Unit)
  /-- Puts text in the place of all that a file holds. -/
  replace : String → String → m (Except PlaceFault Unit)
  /-- Writes to the channel of answers. -/
  print : String → m Unit
  /-- Writes to the channel of messages. -/
  warn : String → m Unit
  /-- Runs a computation on the source of chance. -/
  chance : {α : Type} → (σ → α × σ) → m α

end DiceLedger
