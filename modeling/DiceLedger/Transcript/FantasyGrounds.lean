import DiceLedger.Calendar.Stamp
import DiceLedger.Markup.Tree
import DiceLedger.Transcript.Entry

/-! # Fantasy Grounds logs

A Fantasy Grounds log is a row of markup fragments that each end in a line break
element at the end of a line. Posts have no times of their own: banners set a clock,
and every post moves it on by a minute. Posts are numbered from one.
-/

namespace DiceLedger

namespace Transcript

namespace FantasyGrounds

open Markup (Node)

/-- Whether a line ends in a line break element. -/
def endsFragment (line : List Char) : Bool :=
  match (Text.trimEnd line).reverse with
  | '>' :: '/' :: rest =>
    match Text.trimStart rest with
    | r :: b :: '<' :: _ => (r = 'r' || r = 'R') && (b = 'b' || b = 'B')
    | _ => false
  | _ => false

/-- How a banner writes a date and a time. -/
def stampPattern : List Stamp.Part :=
  [.year, .literal '-', .month, .literal '-', .day, .blanks, .hour, .literal ':', .minute]

/-- The wall time of a date and a time written apart. -/
def readStamp? (date time : List Char) : Option WallTime :=
  Stamp.read? stampPattern (Text.trim date ++ ' ' :: Text.trim time)

/-- Fills up with zeros in front, to two characters. -/
def twoDigits (text : List Char) : List Char :=
  match text with
  | sign :: rest =>
    if sign = '+' || sign = '-' then sign :: List.replicate (2 - text.length) '0' ++ rest
    else List.replicate (2 - text.length) '0' ++ text
  | [] => ['0', '0']

def chatStarted : List Char := "Chat log started at ".toList
def sessionStarted : List Char := "Session started".toList
def slash : List Char := " / ".toList

/-- The time in a banner of a chat log, `D.M.YYYY / HH:MM:SS` after its opening
words. -/
def readChatBanner? (text : List Char) : Option WallTime :=
  match Text.split slash (text.drop chatStarted.length) with
  | [date, time] =>
    match Text.split ['.'] date, Text.split [':'] time with
    | [day, month, year], hours :: minutes :: _ =>
      let two (part : List Char) := twoDigits (Text.trim part)
      readStamp? (two year ++ '-' :: two month ++ '-' :: two day) (hours ++ ':' :: minutes)
    | _, _ => none
  | _ => none

/-- The wall time that a banner announces, if the nodes are one: the last text of the
first bold element says so, and an anchor, if there is one, names the date. -/
def bannerTime? (nodes : List Node) : Option WallTime :=
  let elements := Node.elementsOfAll nodes
  match (elements.find? (·.hasName "b")).bind (·.strings.getLast?) with
  | none => none
  | some bold =>
    match elements.find? (·.hasName "a") with
    | none => if chatStarted.isPrefixOf bold then readChatBanner? bold else none
    | some anchor =>
      let date := (anchor.attribute? "name").getD []
      if date.isEmpty || !Text.hasPart sessionStarted bold then none
      else readStamp? date ((Text.split slash bold).getLast?.getD [])

/-- The letters that stand for a die. -/
def isDieMarker (c : Char) : Bool := c = 'd' || c = 'g' || c = 'r'

/-- Where the reading of an annotation stands. -/
structure AnnotationState where
  inside : Bool
  hasFormula : Bool
  hasOutcome : Bool
  /-- The text in the brackets, reversed, with one letter for all dice. -/
  held : List Char

/-- The text of an annotation up to the bracket that ends it; that bracket counts only
after a die and an equals sign. -/
def annotationText? : AnnotationState → List Char → Option (List Char)
  | _, [] => none
  | state, c :: rest =>
    if state.held.isEmpty && c = '[' then annotationText? { state with inside := true } rest
    else if c = ']' && state.hasOutcome then some state.held.reverse
    else if !state.inside then annotationText? state rest
    else if isDieMarker c then
      annotationText? { state with hasFormula := true, held := 'd' :: state.held } rest
    else
      annotationText?
        { state with
          hasOutcome := state.hasOutcome || (c = '=' && state.hasFormula)
          held := c :: state.held }
        rest

/-- The roll that an annotation such as ` [d20+3 = 15]` writes. Its dice are not
listed. -/
def readAnnotation? (text : List Char) : Option Roll := do
  let inner ← annotationText? ⟨false, false, false, []⟩ text
  match Text.split " = ".toList inner with
  | [formula, outcome] =>
    let outcome ← Text.readDouble? outcome
    some ⟨String.ofList formula, outcome, []⟩
  | _ => none

/-- The last text of a fragment, when it looks like an annotation. -/
def annotation? (nodes : List Node) : Option (List Char) :=
  match (Node.textsOfAll nodes).getLast? with
  | some (_, text) =>
    if [' ', '['].isPrefixOf text && text.getLast? = some ']' then some text else none
  | none => none

/-- Whether a text holds remains of markup. -/
def hasRemains (text : List Char) : Bool :=
  Text.hasPart "&#62;".toList text || text.contains '>'

def isSender (name : List Char) : Bool :=
  !(hasRemains name || Text.hasPart "Extension".toList name)

/-- Announcements that are no chat. -/
def announcements : List (List Char) :=
  ["Party taking long rest.".toList, "Party taking short rest.".toList]

def isBody (body : List Char) : Bool :=
  !hasRemains body && !announcements.any fun part => Text.hasPart part body

/-- A body that begins with a notice in brackets is no message, unless the notice names
another tongue. -/
def isMessageBody (body : List Char) : Bool :=
  !(" [".toList.isPrefixOf body) || " [Translation]".toList.isPrefixOf body

/-- What a reader carries from fragment to fragment. -/
structure State where
  clock : Option Timestamp
  nextId : Nat

def State.start : State := ⟨none, 1⟩

def beforeBanner : Notice :=
  ⟨.debug, "adapters.fantasy_grounds_log",
    "Skipping Fantasy Grounds line before any session banner"⟩

/-- What a fragment with a font element says: a sender and a body, and the roll of a
roll entry. -/
structure Utterance where
  sender : List Char
  body : List Char
  roll : Option Roll

/-- The utterance in a fragment, given its font element. -/
def utterance? (nodes : List Node) (font : Node) : Option Utterance :=
  let text := font.strings.getLast?.getD []
  if text.isEmpty || text.head? = some '[' then none
  else
    match Text.cutAt? [':'] text with
    | none => none
    | some (sender, body) =>
      if !isSender sender || !isBody body then none
      else
        match annotation? nodes with
        | some annotation =>
          (readAnnotation? annotation).map fun roll => ⟨sender, body, some roll⟩
        | none =>
          if (Text.trim body).isEmpty || !isMessageBody body then none
          else some ⟨sender, body, none⟩

def Utterance.post (utterance : Utterance) (id : Nat) (time : Timestamp) : Post :=
  { id := toString id
    sender := String.ofList (Text.trim utterance.sender)
    time := time
    content := .string (String.ofList (Text.trim utterance.body))
    isMessage := utterance.roll.isNone
    rolls := utterance.roll.toList }

def readFragment (offset : Option Int) (state : State) (fragment : List Char) : Entry × State :=
  match Markup.parse fragment with
  | .error fault => (.fault (.markup fault), state)
  | .ok nodes =>
    match (Node.elementsOfAll nodes).find? (·.hasName "font") with
    | none =>
      match bannerTime? nodes with
      | none => (.skipped, state)
      | some wall =>
        match wall.localize offset with
        | .error fault => (.fault (.localize fault), state)
        | .ok time => (.skipped, { state with clock := some time })
    | some font =>
      match utterance? nodes font, state.clock with
      | none, _ => (.skipped, state)
      | some _, none => (.skippedWith beforeBanner, state)
      | some utterance, some clock =>
        let counted := { state with nextId := state.nextId + 1 }
        match clock.later? microsPerMinute with
        | none => (.fault .clockEnds, counted)
        | some later =>
          (.post (utterance.post state.nextId clock), { counted with clock := some later })

/-- The fragments of a log after the lines of one in progress, which are reversed. What
follows the last end of a fragment is no fragment. -/
def fragmentsAfter : List (List Char) → List (List Char) → List (List Char)
  | _, [] => []
  | held, line :: rest =>
    let line := withoutLineEnd line
    if endsFragment line then
      ['\n'].intercalate (line :: held).reverse :: fragmentsAfter [] rest
    else fragmentsAfter (line :: held) rest

def fragments (lines : List (List Char)) : List (List Char) := fragmentsAfter [] lines

def readFragments (offset : Option Int) : State → List (List Char) → List Entry
  | _, [] => []
  | state, fragment :: rest =>
    let (entry, state) := readFragment offset state fragment
    entry :: readFragments offset state rest

def read (offset : Option Int) (lines : List (List Char)) : List Entry :=
  readFragments offset .start (fragments lines)

end FantasyGrounds

end Transcript

end DiceLedger
