import DiceLedger.Campaign
import DiceLedger.Post

/-! # The store

Posts are kept in three tables that refer to one another: posts by campaign and
identifier, rolls by the post they belong to, and single dice by the number of their
roll. A post whose identifier the campaign already has is left as it is. A post is
saved by one statement for its row, one for every roll and one for every die, any of
which may fail; they are run as one transaction.
-/

namespace DiceLedger

/-- A row of the table of posts. The time is kept as it is displayed. -/
structure PostRow where
  campaign : String
  id : LooseText
  sender : LooseText
  time : String

structure RollRow where
  number : Nat
  campaign : String
  postId : LooseText
  formula : LooseText
  outcome : Binary64

structure DieRow where
  rollNumber : Nat
  die : Die

/-- The tables, each in the order in which its rows were written. -/
structure Tables where
  posts : List PostRow
  rolls : List RollRow
  dice : List DieRow

/-- A connection to the tables: as they are kept, and as the statements of its open
transaction have made them. Nobody else sees the latter. -/
structure Connection where
  kept : Tables
  working : Tables

namespace Connection

def opened (tables : Tables) : Connection := ⟨tables, tables⟩

/-- A statement writes to the open transaction. -/
def write (connection : Connection) (change : Tables → Tables) : Connection :=
  { connection with working := change connection.working }

def commit (connection : Connection) : Connection := { connection with kept := connection.working }

def rollBack (connection : Connection) : Connection :=
  { connection with working := connection.kept }

end Connection

/-- A store; before it is prepared it has no tables. -/
structure Store where
  tables : Option Tables

inductive StoreFault where
  /-- The store was not prepared, or there is no place to keep it. -/
  | noTables
  /-- A content of a kind that cannot be kept. -/
  | unsupportedContent
  /-- A whole number of more than 64 bits. -/
  | wholeTooLarge
  /-- A roll without a total. -/
  | notANumber
  /-- A kept time that cannot be read back. -/
  | unreadableTime
  /-- A text with a half of a character, for which there is no encoding. -/
  | unencodable
  deriving DecidableEq, Repr

namespace Store

def unprepared : Store := ⟨none⟩

/-- Makes the tables unless they are there. -/
def prepare (store : Store) : Store := ⟨some (store.tables.getD ⟨[], [], []⟩)⟩

def fits64 (n : Int) : Bool := -9223372036854775808 ≤ n && n ≤ 9223372036854775807

/-- A text, if there is an encoding for it. -/
def encodable (text : LooseText) : Except StoreFault LooseText :=
  if text.isPlain then .ok text else .error .unencodable

/-- Whether a content can be kept. Not-a-number counts as no content, and such a post is
passed over without a fault. -/
def checkContent : Json → Except StoreFault Bool
  | .string text => (encodable text).map fun _ => true
  | .array _ | .object _ => .error .unsupportedContent
  | .integer n => if fits64 n then .ok true else .error .wholeTooLarge
  | .number value => .ok !value.isNaN
  | .null => .ok false
  | _ => .ok true

/-- Whether the row of a post can be written: its texts come before its content. -/
def checkPost (post : Post) : Except StoreFault Bool := do
  let _ ← encodable post.id
  let _ ← encodable post.sender
  checkContent post.content

/-- Whether the row of a roll can be written: a roll without a total has none. -/
def checkRoll (roll : Roll) : Except StoreFault Unit := do
  let _ ← encodable roll.formula
  if roll.outcome.isNaN then .error .notANumber else .ok ()

/-- A total as it is kept: a zero loses its sign. -/
def keptOutcome (outcome : Binary64) : Binary64 := if outcome.eqv 0 then 0 else outcome

def Tables.has (tables : Tables) (campaign : String) (id : LooseText) : Bool :=
  tables.posts.any fun row => row.campaign = campaign && row.id = id

/-- How statements ended, and the connection as they left it: what they wrote before one of
them failed is on it. -/
abbrev Executed (α : Type) := Except StoreFault α × Connection

/-- Writes the row of a post, and answers whether it did: not when there is no content, or
when the campaign has the identifier. -/
def insertPost (campaign : String) (post : Post) (connection : Connection) : Executed Bool :=
  match checkPost post with
  | .error fault => (.error fault, connection)
  | .ok present =>
    if !present || Tables.has connection.working campaign post.id then (.ok false, connection)
    else
      let row : PostRow := ⟨campaign, post.id, post.sender, post.time.display⟩
      (.ok true, connection.write fun tables => { tables with posts := tables.posts ++ [row] })

/-- Writes the rows of dice one by one. -/
def insertDice (number : Nat) : List Die → Connection → Executed Unit
  | [], connection => (.ok (), connection)
  | die :: rest, connection =>
    if fits64 die.faces && fits64 die.outcome then
      insertDice number rest
        (connection.write fun tables => { tables with dice := tables.dice ++ [⟨number, die⟩] })
    else (.error .wholeTooLarge, connection)

/-- Writes the rows of rolls, numbered on, each with its dice. -/
def insertRolls (campaign : String) (id : LooseText) : List Roll → Connection → Executed Unit
  | [], connection => (.ok (), connection)
  | roll :: rest, connection =>
    match checkRoll roll with
    | .error fault => (.error fault, connection)
    | .ok () =>
      let number := connection.working.rolls.length + 1
      let row : RollRow := ⟨number, campaign, id, roll.formula, keptOutcome roll.outcome⟩
      match insertDice number roll.dice
          (connection.write fun tables => { tables with rolls := tables.rolls ++ [row] }) with
      | (.ok (), connection) => insertRolls campaign id rest connection
      | (.error fault, connection) => (.error fault, connection)

/-- Writes all rows of a new post. -/
def writePost (campaign : String) (post : Post) (connection : Connection) : Executed Unit :=
  match insertPost campaign post connection with
  | (.ok true, connection) => insertRolls campaign post.id post.rolls connection
  | (.ok false, connection) => (.ok (), connection)
  | (.error fault, connection) => (.error fault, connection)

/-- Runs statements as one transaction, and gives the tables that are kept afterwards. -/
def transact (statements : Connection → Executed Unit) (tables : Tables) :
    Except StoreFault Unit × Tables :=
  match statements (.opened tables) with
  | (.ok (), connection) => (.ok (), connection.commit.kept)
  | (.error fault, connection) => (.error fault, connection.rollBack.kept)

/-- Tries to save a post of a campaign: how that ended, and the store that is left. -/
def attempt (store : Store) (campaign : String) (post : Post) : Except StoreFault Unit × Store :=
  match store.tables with
  | none => (.error .noTables, store)
  | some tables =>
    let (ended, tables) := transact (writePost campaign post) tables
    (ended, ⟨some tables⟩)

/-- Saves a post of a campaign, unless the campaign has its identifier. -/
def save (store : Store) (campaign : String) (post : Post) : Except StoreFault Store :=
  match store.attempt campaign post with
  | (.ok (), saved) => .ok saved
  | (.error fault, _) => .error fault

/-- The identifiers of a campaign's posts, in the order of saving. -/
def knownIds (store : Store) (campaign : String) : Except StoreFault (List LooseText) :=
  match store.tables with
  | none => .error .noTables
  | some tables => .ok ((tables.posts.filter (·.campaign = campaign)).map (·.id))

/-- The post that a roll belongs to. -/
def Tables.postOf? (tables : Tables) (roll : RollRow) : Option PostRow :=
  tables.posts.find? fun row => row.campaign = roll.campaign && row.id = roll.postId

/-- A kept roll with the sender and time of its post. -/
def recordedRoll (post : PostRow) (roll : RollRow) : Except StoreFault RecordedRoll :=
  match Timestamp.ofText? post.time with
  | none => .error .unreadableTime
  | some time =>
    .ok
      { campaign := post.campaign
        sender := post.sender.shown
        formula := roll.formula.shown
        outcome := roll.outcome
        time := time }

/-- The kept rolls, each with its post. -/
def Tables.postedRolls (tables : Tables) : List (PostRow × RollRow) :=
  tables.rolls.filterMap fun roll => (Tables.postOf? tables roll).map fun post => (post, roll)

/-- All rolls in the order of saving, each with the sender and time of its post. -/
def rolls (store : Store) : Except StoreFault (List RecordedRoll) :=
  match store.tables with
  | none => .error .noTables
  | some tables => (Tables.postedRolls tables).mapM fun posted => recordedRoll posted.1 posted.2

/-- The text by which a sender is looked up; a null matches nobody. -/
def senderText? : Json → Except StoreFault (Option LooseText)
  | .string name => (encodable name).map some
  | .null => .ok none
  | .bool value => .ok (some (if value then "1" else "0"))
  | .integer n => if fits64 n then .ok (some (toString n)) else .error .wholeTooLarge
  | .number value => .ok (if value.isNaN then none else some value.display)
  | .array _ | .object _ => .error .unsupportedContent

/-- Senders with the texts by which they are looked up, each in its campaign. -/
def lookupKeys : List CampaignSender → Except StoreFault (List (LooseText × LooseText))
  | [] => .ok []
  | sender :: rest => do
    let campaign ← encodable sender.campaign
    let text ← senderText? sender.sender
    let others ← lookupKeys rest
    return (text.map fun text => (campaign, text)).toList ++ others

/-- The dice of the posts by any of the keys, in the order of saving. -/
def diceOf (tables : Tables) (keys : List (LooseText × LooseText)) : List Die :=
  tables.dice.filterMap fun row => do
    let roll ← tables.rolls.find? (·.number = row.rollNumber)
    let post ← Tables.postOf? tables roll
    if keys.contains (↑post.campaign, post.sender) then some row.die else none

/-- The single dice of senders, each once, in the order of saving. -/
def singleDice (store : Store) (senders : List CampaignSender) : Except StoreFault (List Die) :=
  if senders.isEmpty then .ok []
  else
    match store.tables with
    | none => .error .noTables
    | some tables => (lookupKeys senders).map (diceOf tables)

end Store

end DiceLedger
