import DiceLedger.Json.Reader
import DiceLedger.Json.Written
import DiceLedger.Store

/-! # Stores as text

A prepared store is kept as one JSON text with its three tables, each row an array. A
store without tables is an empty text.
-/

namespace DiceLedger

namespace Store

def PostRow.toJson (row : PostRow) : Json :=
  .array [row.campaign, .string row.id, .string row.sender, row.time]

def RollRow.toJson (row : RollRow) : Json :=
  .array [.integer row.number, row.campaign, .string row.postId, .string row.formula,
    .number row.outcome]

def DieRow.toJson (row : DieRow) : Json :=
  .array [.integer row.rollNumber, .integer row.die.faces, .integer row.die.outcome]

def Tables.toJson (tables : Tables) : Json :=
  .object [("posts", .array (tables.posts.map PostRow.toJson)),
    ("rolls", .array (tables.rolls.map RollRow.toJson)),
    ("dice", .array (tables.dice.map DieRow.toJson))]

/-- The text that keeps a store. -/
def written (store : Store) : String := (store.tables.map (Tables.toJson · |>.written)).getD ""

def PostRow.ofJson? : Json → Option PostRow
  | .array [.string (.text campaign), .string id, .string sender, .string (.text time)] =>
    some { campaign, id, sender, time }
  | _ => none

def RollRow.ofJson? : Json → Option RollRow
  | .array [.integer (.ofNat number), .string (.text campaign), .string postId, .string formula,
      .number outcome] => some { number, campaign, postId, formula, outcome }
  | _ => none

def DieRow.ofJson? : Json → Option DieRow
  | .array [.integer (.ofNat rollNumber), .integer faces, .integer outcome] =>
    some { rollNumber, die := ⟨faces, outcome⟩ }
  | _ => none

/-- The rows of a written table. -/
def rowsOfJson? {α : Type} (row? : Json → Option α) : Json → Option (List α)
  | .array rows => rows.mapM row?
  | _ => none

def Tables.ofJson? : Json → Option Tables
  | .object [("posts", posts), ("rolls", rolls), ("dice", dice)] => do
    let posts ← rowsOfJson? PostRow.ofJson? posts
    let rolls ← rowsOfJson? RollRow.ofJson? rolls
    let dice ← rowsOfJson? DieRow.ofJson? dice
    some { posts, rolls, dice }
  | _ => none

/-- The store that a text keeps. -/
def ofWritten? (text : List Char) : Option Store :=
  if text.isEmpty then some .unprepared
  else
    match Json.read text with
    | .ok json => (Tables.ofJson? json).map fun tables => ⟨some tables⟩
    | .error _ => none

end Store

end DiceLedger
