import DiceLedger.Transcript.Entry
import DiceLedger.Transcript.TagDepth

/-! # Cutting a Roll20 archive into entries

An archive is one huge page, often broken. Its chat stands inside one wrapping element,
every entry in a child of the wrapper. A depth scanner finds where children end, and
each fragment runs from the end of the one before it to the end of its child. Nothing
after the end of the wrapper is chat.
-/

namespace DiceLedger

namespace Transcript

namespace Roll20

/-- A cut in progress. -/
structure Cutter where
  scanner : TagScanner
  /-- The text since the last fragment, or since the wrapper began. -/
  pending : List Char

def Cutter.start : Cutter := ⟨.new "div", []⟩

/-- What one line gives: fragments in order, and the cut after it; no cut when the
wrapper ended. -/
structure LineCut where
  fragments : List (List Char)
  after : Option Cutter

/-- Follows the changes of depth on a line. `start` is where the text not yet used
begins, `scanner` the state at the end of the line. -/
def cutAtChanges (line : List Char) (scanner : TagScanner) :
    (start : Nat) → (pending : List Char) → List DepthChange → LineCut
  | start, pending, [] =>
    if scanner.depth < 0 then ⟨[], some ⟨scanner, pending⟩⟩
    else ⟨[], some ⟨scanner, pending ++ line.drop start ++ ['\n']⟩⟩
  | start, pending, change :: rest =>
    if change.current < 0 then ⟨[], none⟩
    else if change.previous < 0 then cutAtChanges line scanner change.stop [] rest
    else if change.previous = 1 && change.current = 0 then
      let fragment := pending ++ (line.take change.stop).drop start
      let others := cutAtChanges line scanner change.stop [] rest
      { others with fragments := fragment :: others.fragments }
    else cutAtChanges line scanner start pending rest

/-- Cuts one line. -/
def Cutter.cutLine (cutter : Cutter) (line : List Char) : LineCut :=
  let line := withoutLineEnd line
  let (changes, scanner) := cutter.scanner.feed line
  cutAtChanges line scanner 0 cutter.pending changes

/-- Cuts lines in order. -/
def Cutter.cutLines : Cutter → List (List Char) → List (List Char)
  | _, [] => []
  | cutter, line :: rest =>
    let cut := cutter.cutLine line
    match cut.after with
    | some next => cut.fragments ++ next.cutLines rest
    | none => cut.fragments

/-- The fragments of an archive. -/
def fragments (lines : List (List Char)) : List (List Char) := Cutter.start.cutLines lines

end Roll20

end Transcript

end DiceLedger
