import DiceLedger.Store
import DiceLedger.Transcript.Entry

/-! # Ingesting a transcript

A transcript is read from the beginning every time; posts whose identifiers the store
already has, or that came earlier in the same transcript, are skipped.
-/

namespace DiceLedger

/-- A result with the notices given on the way to it. -/
structure Noted (α : Type) where
  notices : List Notice
  result : α

namespace Ingest

open Transcript (Entry ReadFault)

/-- What was done with the posts of a transcript. -/
structure Counts where
  read : Nat := 0
  saved : Nat := 0
  skipped : Nat := 0
  messages : Nat := 0
  rolls : Nat := 0
  deriving DecidableEq, Repr

def Counts.addSkipped (counts : Counts) : Counts :=
  { counts with read := counts.read + 1, skipped := counts.skipped + 1 }

def Counts.addSaved (counts : Counts) (post : Post) : Counts :=
  { read := counts.read + 1
    saved := counts.saved + 1
    skipped := counts.skipped
    messages := counts.messages + (if post.isMessage then 1 else 0)
    rolls := counts.rolls + post.rolls.length }

/-- What ended an ingestion early. -/
inductive Fault where
  | store (fault : StoreFault)
  | read (fault : ReadFault)
  deriving DecidableEq, Repr

structure Progress where
  store : Store
  known : List LooseText
  counts : Counts

/-- Takes a post: how that ended, and the progress made, also when the post was refused. -/
def takePost (campaign : String) (progress : Progress) (post : Post) :
    Except StoreFault Unit × Progress :=
  if progress.known.contains post.id then
    (.ok (), { progress with counts := progress.counts.addSkipped })
  else
    match progress.store.attempt campaign post with
    | (.ok (), store) =>
      (.ok (), ⟨store, post.id :: progress.known, progress.counts.addSaved post⟩)
    | (.error fault, store) => (.error fault, { progress with store := store })

/-- Takes entries in order, up to the first fault. -/
def takeEntries (campaign : String) : List Entry → Progress → Noted (Progress × Option Fault)
  | [], progress => ⟨[], (progress, none)⟩
  | entry :: rest, progress =>
    match entry.outcome with
    | .error fault => ⟨entry.notices, (progress, some (.read fault))⟩
    | .ok none =>
      let after := takeEntries campaign rest progress
      ⟨entry.notices ++ after.notices, after.result⟩
    | .ok (some post) =>
      match takePost campaign progress post with
      | (.error fault, progress) => ⟨entry.notices, (progress, some (.store fault))⟩
      | (.ok (), progress) =>
        let after := takeEntries campaign rest progress
        ⟨entry.notices ++ after.notices, after.result⟩

/-- The notice on a finished ingestion. -/
def summary (campaign : String) (counts : Counts) : Notice :=
  ⟨.info, "core.processor",
    "Ingested " ++ campaign ++ ": read=" ++ toString counts.read ++ ", saved=" ++
      toString counts.saved ++ ", skipped=" ++ toString counts.skipped ++ ", messages=" ++
      toString counts.messages ++ ", rolls=" ++ toString counts.rolls⟩

/-- Ingests a transcript of a campaign: the store afterwards, and the counts or what
ended the ingestion. -/
def run (store : Store) (campaign : String) (entries : List Entry) :
    Noted (Store × Except Fault Counts) :=
  match store.knownIds campaign with
  | .error fault => ⟨[], (store, .error (.store fault))⟩
  | .ok known =>
    let taken := takeEntries campaign entries ⟨store, known, {}⟩
    match taken.result with
    | (progress, some fault) => ⟨taken.notices, (progress.store, .error fault)⟩
    | (progress, none) =>
      ⟨taken.notices ++ [summary campaign progress.counts], (progress.store, .ok progress.counts)⟩

/-- Adds a post's sender to the unmapped ones, if the campaign knows no player for the
name and it is new. -/
def addUnmapped (campaign : Campaign) (unmapped : List LooseText) (post : Post) :
    List LooseText :=
  if post.sender = "" || unmapped.contains post.sender || campaign.isMapped post.sender then
    unmapped
  else unmapped ++ [post.sender]

/-- Collects unmapped senders up to the first fault. -/
def collectUnmapped (campaign : Campaign) :
    List Entry → List LooseText → Noted (Except ReadFault (List LooseText))
  | [], unmapped => ⟨[], .ok unmapped⟩
  | entry :: rest, unmapped =>
    match entry.outcome with
    | .error fault => ⟨entry.notices, .error fault⟩
    | .ok post =>
      let after := collectUnmapped campaign rest
        ((post.map (addUnmapped campaign unmapped)).getD unmapped)
      ⟨entry.notices ++ after.notices, after.result⟩

/-- The senders of a transcript that no player of the campaign posts under, in order of
first appearance. -/
def unmappedSenders (campaign : Campaign) (entries : List Entry) :
    Noted (Except ReadFault (List LooseText)) :=
  let collected := collectUnmapped campaign entries []
  match collected.result with
  | .error fault => ⟨collected.notices, .error fault⟩
  | .ok unmapped =>
    let notice : Notice :=
      ⟨.info, "core.processor",
        campaign.name.shown ++ " has " ++ toString unmapped.length ++ " unmapped senders"⟩
    ⟨collected.notices ++ [notice], .ok unmapped⟩

end Ingest

end DiceLedger
