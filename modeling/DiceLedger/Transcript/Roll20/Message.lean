import DiceLedger.Calendar.Stamp
import DiceLedger.Dice.Term
import DiceLedger.Markup.Tree
import DiceLedger.Transcript.Entry
import DiceLedger.Transcript.Roll20.Archive

/-! # Entries of a Roll20 archive

An entry leaves out what it shares with the one before: its sender, and the date of its
time. Both are carried from entry to entry, also by entries that make no post. Rolls
stand in an entry as the text that the page shows for formula, dice and total; an entry
whose dice do not fit its formula makes no post.
-/

namespace DiceLedger

namespace Transcript

namespace Roll20

open Markup (Node)

def part : String := "adapters.roll20_log"

def debug (text : String) : Notice := ⟨.debug, part, text⟩

/-- How a full stamp is written, and how a bare time is. -/
def fullPattern : List Stamp.Part :=
  [.monthName, .blanks, .day, .literal ',', .blanks, .year, .blanks, .hourOfHalf, .literal ':',
   .minute, .half]
def timePattern : List Stamp.Part := [.hourOfHalf, .literal ':', .minute, .half]

/-- Why the rolls of an entry cannot be told. -/
inductive RollFault where
  | noFormulaOrTotal
  | unreadableDice (formula : String)
  | mismatch (count : Nat) (formula : String)
  deriving DecidableEq, Repr

def RollFault.message : RollFault → String
  | noFormulaOrTotal => "roll result without formula or total"
  | unreadableDice formula => "unreadable dice in " ++ Text.quoted formula
  | mismatch count formula => toString count ++ " dice do not fit " ++ Text.quoted formula

/-- What stops the reading of rolls: the entry is discarded, or its numbers are too long
and reading is interrupted. -/
inductive RollStop where
  | discard (fault : RollFault)
  | interrupt (fault : ReadFault)
  deriving DecidableEq, Repr

/-- The word in front of a formula that is none of it. -/
def rollingWord : List Char := "rolling".toList

/-- Lower case, the dotted capital and the dotless small letter among the forms of
`i`. -/
def foldCase (c : Char) : Char := if c.toNat = 0x130 || c.toNat = 0x131 then 'i' else c.toLower

/-- A formula as shown: squashed, and without the word in front. -/
def formulaText (text : List Char) : String :=
  let squashed := Text.squash text
  let front := squashed.take rollingWord.length
  match squashed.drop rollingWord.length with
  | ' ' :: rest =>
    String.ofList (if front.map foldCase = rollingWord then rest else squashed)
  | _ => String.ofList squashed

/-- The results that elements show; `none` when one is no whole number. -/
def outcomes? (elements : List Node) : Option (List Int) :=
  elements.mapM fun element => Text.readInt? element.trimmedText

/-- The roll of a formula with its outcomes. -/
def dealRoll (formula : String) (outcomes : List Int) (total : Binary64) : Except RollStop Roll :=
  match Dice.buildRoll formula outcomes total with
  | .error .tooManyDigits => .error (.interrupt .tooManyDigits)
  | .ok (some roll) => .ok roll
  | .ok none => .error (.discard (.mismatch outcomes.length formula))

/-- The roll of an entry that shows one: a formula, dice, and a total. -/
def plainRoll (message : Node) : Except RollStop Roll :=
  let formula := (message.select (·.hasClass "formula")).find? fun element =>
    !element.hasClass "formattedformula"
  let total := (message.select (·.hasClass "rolled")).head?
  match formula, total with
  | some formula, some total =>
    let text := formulaText formula.fullText
    match outcomes? (message.select (·.hasClass "didroll")), Text.readDouble? total.trimmedText with
    | some outcomes, some total => dealRoll text outcomes total
    | _, _ => .error (.discard (.unreadableDice text))
  | _, _ => .error (.discard .noFormulaOrTotal)

/-- The formula and the dice in the title of a roll inside a line of text. -/
def titleParts? (element : Node) : Option (List Char × List Char) :=
  Text.cutAt? " = ".toList ((element.attribute? "title").getD [])

/-- The roll inside a line of text: its element shows the total, and its title the
formula and the dice. Without such a title or total it is no roll. -/
def inlineRoll (element : Node) : Except RollStop (Option Roll) :=
  match titleParts? element with
  | none => .ok none
  | some (head, detail) =>
    match Text.readDouble? element.trimmedText with
    | none => .ok none
    | some total =>
      let formula := formulaText head
      match Markup.parse detail with
      | .error fault => .error (.interrupt (.markup fault))
      | .ok nodes =>
        match outcomes? ((Node.elementsOfAll nodes).filter (·.hasClass "basicdiceroll")) with
        | none => .error (.discard (.unreadableDice formula))
        | some outcomes => (dealRoll formula outcomes total).map some

/-- The roll that an entry shows, if it is there to show one. -/
def shownRoll (message : Node) : Except RollStop (List Roll) :=
  if message.hasClass "rollresult" then (plainRoll message).map fun roll => [roll] else .ok []

def messageRolls (message : Node) : Except RollStop (List Roll) := do
  let first ← shownRoll message
  let inline ← (message.select (·.hasClass "inlinerollresult")).mapM inlineRoll
  return first ++ inline.filterMap id

/-- Classes of elements that are not part of what was said. -/
def chromeClasses : List String := ["tstamp", "by", "avatar", "spacer"]

def messageText (message : Node) : List Char :=
  let said := message.without fun node => chromeClasses.any fun name => node.hasClass name
  Text.squash ([' '].intercalate said.trimmedStrings)

/-- What is carried from entry to entry. -/
structure Carried where
  sender : Option (List Char)
  date : Option Date
  time : Option Timestamp

def Carried.start : Carried := ⟨none, none, none⟩

/-- The name that an entry gives to its sender; a colon may follow it. -/
def senderName? (message : Node) : Option (List Char) :=
  match (message.select (·.hasClass "by")).head? with
  | none => none
  | some element =>
    let text := element.trimmedText
    let name := Text.trim (if text.getLast? = some ':' then text.dropLast else text)
    if name.isEmpty then none else some name

def Carried.withSender (carried : Carried) (message : Node) : Carried :=
  match senderName? message with
  | some name => { carried with sender := some name }
  | none => carried

/-- The stamp of an entry as shown. -/
def stampText? (message : Node) : Option (List Char) :=
  (message.select (·.hasClass "tstamp")).head?.map fun element => Text.squash element.fullText

/-- The wall time of a stamp, and the date that later bare times belong to; a notice
when the stamp cannot be read. -/
def stampTime (date : Option Date) (text : List Char) : Except Notice (WallTime × Option Date) :=
  match Stamp.read? fullPattern text with
  | some wall => .ok (wall, some wall.date)
  | none =>
    match date with
    | none =>
      .error (debug ("Bare time " ++ Text.quoted (String.ofList text) ++ " before any full date"))
    | some day =>
      match (Stamp.read? timePattern text).bind fun clock =>
          WallTime.ofDate? day clock.microsOfDay with
      | some wall => .ok (wall, date)
      | none =>
        .error (debug ("Unrecognized Roll20 timestamp " ++ Text.quoted (String.ofList text)))

def Carried.withTime (carried : Carried) (offset : Option Int) (message : Node) :
    Except ReadFault (List Notice × Carried) :=
  match stampText? message with
  | none => .ok ([], carried)
  | some text =>
    match stampTime carried.date text with
    | .error notice => .ok ([notice], carried)
    | .ok (wall, date) =>
      match wall.localize offset with
      | .error fault => .error (.localize fault)
      | .ok time => .ok ([], { carried with date := date, time := some time })

/-- Classes of entries that not everybody may read. -/
def isPrivate (message : Node) : Bool := message.hasClass "private" || message.hasClass "whisper"

/-- The post of an entry with all it needs; without rolls it has to say something of its
own. -/
def messagePost (message : Node) (id : String) (sender : List Char) (time : Timestamp)
    (rolls : List Roll) : Option Post :=
  let text := messageText message
  if rolls.isEmpty && (!message.hasClass "general" || text.isEmpty || text = sender) then none
  else
    some
      { id := id
        sender := String.ofList sender
        time := time
        content := .string (String.ofList text)
        isMessage := rolls.isEmpty
        rolls := rolls }

/-- The entry of a message whose sender and time are known. -/
def messageEntry (message : Node) (id : String) (sender : List Char) (time : Timestamp) : Entry :=
  match messageRolls message with
  | .error (.interrupt fault) => .fault fault
  | .error (.discard fault) =>
    .skippedWith (debug ("Discarding Roll20 entry " ++ id ++ ": " ++ fault.message))
  | .ok rolls => ⟨[], .ok (messagePost message id sender time rolls)⟩

/-- Reads a message with its identifier. -/
def readMessage (offset : Option Int) (carried : Carried) (message : Node) (id : String) :
    Entry × Carried :=
  match (carried.withSender message).withTime offset message with
  | .error fault => (.fault fault, carried)
  | .ok (notices, carried) =>
    if isPrivate message then (⟨notices, .ok none⟩, carried)
    else
      match carried.sender, carried.time with
      | some sender, some time =>
        let entry := messageEntry message id sender time
        (⟨notices ++ entry.notices, entry.outcome⟩, carried)
      | _, _ =>
        let notice := debug ("Skipping Roll20 entry " ++ id ++ " without sender or time")
        (⟨notices ++ [notice], .ok none⟩, carried)

/-- The message of a fragment with its identifier. -/
def message? (nodes : List Node) : Option (Node × String) :=
  match (Node.elementsOfAll nodes).find? fun node =>
      node.hasName "div" && node.hasClass "message" with
  | none => none
  | some message =>
    let id := (message.attribute? "data-messageid").getD []
    if id.isEmpty then none else some (message, String.ofList id)

def readFragment (offset : Option Int) (carried : Carried) (fragment : List Char) :
    Entry × Carried :=
  match Markup.parse fragment with
  | .error fault => (.fault (.markup fault), carried)
  | .ok nodes =>
    match message? nodes with
    | none => (.skipped, carried)
    | some (message, id) => readMessage offset carried message id

/-- Reads fragments in order, up to the first interruption. -/
def readFragments (offset : Option Int) : Carried → List (List Char) → List Entry
  | _, [] => []
  | carried, fragment :: rest =>
    let (entry, carried) := readFragment offset carried fragment
    match entry.outcome with
    | .error _ => [entry]
    | .ok _ => entry :: readFragments offset carried rest

def read (offset : Option Int) (lines : List (List Char)) : List Entry :=
  readFragments offset .start (fragments lines)

end Roll20

end Transcript

end DiceLedger
