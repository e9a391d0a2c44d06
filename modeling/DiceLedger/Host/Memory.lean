import DiceLedger.Host.Basic
import DiceLedger.Text.Utf8

/-! # A host in memory

A host whose files, variables and channels are a value. A folder is there when it was
made or when something lies in it.
-/

namespace DiceLedger

/-- The state of a host in memory. Paths are absolute and normal, and nothing lies
inside a file. -/
structure Memory (σ : Type) where
  environment : List (String × String)
  files : List (String × List Nat)
  folders : List String
  printed : String := ""
  warned : String := ""
  source : σ

namespace Memory

variable {σ : Type}

/-- Whether the place with the second walk lies inside that with the first. -/
def contains (outer inner : List (List Char)) : Bool :=
  outer.length < inner.length && outer.isSuffixOf inner

/-- What stands at a path; relative paths lead nowhere. -/
def look (memory : Memory σ) (path : String) : Place :=
  if !Path.isAbsolute path then .nothing
  else
    match memory.files.find? (·.1 = Path.normal path) with
    | some (_, bytes) => .file bytes
    | none =>
      let inside := Path.walk path
      let isFolder := memory.folders.contains (Path.normal path) ||
        memory.folders.any (fun folder => contains inside (Path.walk folder)) ||
        memory.files.any (fun file => contains inside (Path.walk file.1))
      if isFolder then .folder else .nothing

/-- The folder around the place that a path leads to. -/
def around (path : String) : String := Path.ofWalk (Path.walk path).tail

def isThroughFile (memory : Memory σ) (path : String) : Bool :=
  memory.files.any fun file => contains (Path.walk file.1) (Path.walk path)

/-- Makes a folder, unless something else is in the way. -/
def makeFolder (memory : Memory σ) (path : String) : Except PlaceFault Unit × Memory σ :=
  if memory.isThroughFile path then (.error .throughFile, memory)
  else
    match memory.look path with
    | .file _ => (.error .isFile, memory)
    | .folder => (.ok (), memory)
    | .nothing => (.ok (), { memory with folders := Path.normal path :: memory.folders })

def bytesOf (text : String) : List Nat := text.toUTF8.toList.map (·.toNat)

/-- Sets the bytes of a file, which keeps its place. -/
def setFile (path : String) (bytes : List Nat) :
    List (String × List Nat) → List (String × List Nat)
  | [] => [(path, bytes)]
  | (other, old) :: rest =>
    if other = path then (path, bytes) :: rest else (other, old) :: setFile path bytes rest

/-- Writes a file, given what becomes of the bytes that it holds. -/
def write (memory : Memory σ) (path : String) (change : List Nat → List Nat) :
    Except PlaceFault Unit × Memory σ :=
  let place := Path.normal path
  match memory.look path with
  | .folder => (.error .isFolder, memory)
  | .file bytes => (.ok (), { memory with files := setFile place (change bytes) memory.files })
  | .nothing =>
    if memory.isThroughFile path then (.error .throughFile, memory)
    else
      match memory.look (around path) with
      | .folder => (.ok (), { memory with files := setFile place (change []) memory.files })
      | _ => (.error .missing, memory)

def text? (memory : Memory σ) (path : String) : Option String :=
  match memory.look path with
  | .file bytes => some (String.ofList (Text.ofUtf8 bytes))
  | _ => none

end Memory

/-- The host that keeps everything in a value. -/
def Host.inMemory (σ : Type) (root : String) : Host σ (StateM (Memory σ)) where
  root := root
  environment name := do return ((← get).environment.find? (·.1 = name)).map (·.2)
  look path := do return (← get).look path
  makeFolder path := modifyGet (·.makeFolder path)
  append path text := modifyGet (·.write path (· ++ Memory.bytesOf text))
  replace path text := modifyGet (·.write path fun _ => Memory.bytesOf text)
  print text := modify fun memory => { memory with printed := memory.printed ++ text }
  warn text := modify fun memory => { memory with warned := memory.warned ++ text }
  chance run := modifyGet fun memory =>
    let (result, source) := run memory.source
    (result, { memory with source := source })

end DiceLedger
