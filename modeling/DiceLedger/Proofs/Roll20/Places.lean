import DiceLedger.Proofs.Transcript.Scanning
import DiceLedger.Transcript.Roll20.Archive

/-! # Places in an archive

The changes of depth that an archive makes, with their places in its text, and what it is for
fragments to be consecutive parts of that text that end at places
(`DiceLedger.Transcript.Roll20.Partitioned`).
-/

namespace DiceLedger

namespace Transcript

namespace Roll20

/-- A line, ended by one line break. -/
def endedLine (line : List Char) : List Char := withoutLineEnd line ++ ['\n']

/-- The text of an archive, each line ended by one line break. -/
def joined (lines : List (List Char)) : List Char := lines.flatMap endedLine

/-- A line joins what stands in front of it with its end. -/
theorem append_joined (front line : List Char) (rest : List (List Char)) :
    front ++ joined (line :: rest) = front ++ endedLine line ++ joined rest := by
  rw [joined, List.flatMap_cons, List.append_assoc, joined]

/-- A line joins what stands in front of it, and the line break behind it the rest. -/
theorem append_joined_line (front line : List Char) (rest : List (List Char)) :
    front ++ joined (line :: rest) =
      front ++ (withoutLineEnd line ++ (['\n'] ++ joined rest)) := by
  rw [append_joined, endedLine, List.append_assoc, List.append_assoc]

/-- A text from one place to another. -/
def slice (text : List Char) (start stop : Nat) : List Char := (text.take stop).drop start

/-- A change of depth in an archive, its end counted from the beginning of the archive. -/
structure PlacedChange extends DepthChange where
  /-- Where the line of the change begins. -/
  line : Nat
  deriving DecidableEq, Repr

def PlacedChange.on (line : Nat) (change : DepthChange) : PlacedChange :=
  { change with stop := line + change.stop, line }

/-- The changes of depth that lines make, when the first of them begins at a place. -/
def changesFrom : TagScanner → Nat → List (List Char) → List PlacedChange
  | _, _, [] => []
  | scanner, place, line :: rest =>
    let text := withoutLineEnd line
    (scanner.feed text).1.map (PlacedChange.on place) ++
      changesFrom (scanner.feed text).2 (place + (endedLine line).length) rest

/-- The changes of depth that an archive makes. -/
def depthChanges (lines : List (List Char)) : List PlacedChange :=
  changesFrom Cutter.start.scanner 0 lines

/-- The change that takes the depth below zero. -/
def ending? (changes : List PlacedChange) : Option PlacedChange :=
  changes.find? fun change => change.current < 0

/-- The changes before the one that takes the depth below zero. -/
def beforeEnd (changes : List PlacedChange) : List PlacedChange :=
  changes.takeWhile fun change => 0 ≤ change.current

/-- The place behind the tag that opens the wrapper. -/
def opening? (changes : List PlacedChange) : Option Nat :=
  ((beforeEnd changes).find? fun change => change.previous = -1 && change.current = 0).map (·.stop)

/-- The places behind tags that end a child of the wrapper. -/
def entryEnds (changes : List PlacedChange) : List Nat :=
  ((beforeEnd changes).filter fun change => change.previous = 1 && change.current = 0).map (·.stop)

/-- The place that reading comes to: behind the change that takes the depth below zero, or the
end of the text. -/
def reached (text : List Char) (changes : List PlacedChange) : Nat :=
  ((ending? changes).map (·.stop)).getD text.length

/-- A text from a place on, cut at places. -/
def pieces (text : List Char) : Nat → List Nat → List (List Char)
  | _, [] => []
  | start, stop :: stops => slice text start stop :: pieces text stop stops

/-- Slices that meet make one slice. -/
theorem slice_append {start middle stop : Nat} (text : List Char) (first : start ≤ middle)
    (second : middle ≤ stop) :
    slice text start middle ++ slice text middle stop = slice text start stop := by
  have whole : stop - start = (middle - start) + (stop - middle) := by omega
  have between : start + (middle - start) = middle := Nat.add_sub_cancel' first
  simp only [slice, List.drop_take]
  rw [whole, List.take_add, List.drop_drop, between]

theorem slice_self (text : List Char) (place : Nat) : slice text place place = [] := by
  rw [slice, List.drop_take, Nat.sub_self, List.take_zero]

/-- The slice up to the end is what is left behind its start. -/
theorem slice_length (text : List Char) (start : Nat) :
    slice text start text.length = text.drop start := by
  rw [slice, List.take_length]

/-- A slice of a line is a slice of the text that the line stands in. -/
theorem slice_line (front line later : List Char) (start : Nat) {stop : Nat}
    (within : stop ≤ line.length) :
    slice (front ++ (line ++ later)) (front.length + start) (front.length + stop) =
      slice line start stop := by
  rw [slice, List.take_length_add_append, List.drop_length_add_append,
    List.take_append_of_le_length within, slice]

section Changes

variable {change : PlacedChange} {changes : List PlacedChange}

/-- Behind the end of the log there are no entries. -/
theorem entryEnds_of_ended (ended : change.current < 0) : entryEnds (change :: changes) = [] := by
  simp [entryEnds, beforeEnd, Int.not_le.mpr ended]

/-- An element of the first level that closes ends an entry. -/
theorem entryEnds_of_end (previous : change.previous = 1) (current : change.current = 0) :
    entryEnds (change :: changes) = change.stop :: entryEnds changes := by
  simp [entryEnds, beforeEnd, previous, current]

/-- No other change ends an entry. -/
theorem entryEnds_of_other (inside : 0 ≤ change.current)
    (other : ¬ (change.previous = 1 ∧ change.current = 0)) :
    entryEnds (change :: changes) = entryEnds changes := by
  simp [entryEnds, beforeEnd, inside, other]

/-- A log that ends first is never opened. -/
theorem opening?_of_ended (ended : change.current < 0) : opening? (change :: changes) = none := by
  simp [opening?, beforeEnd, Int.not_le.mpr ended]

/-- The first element that opens opens the log. -/
theorem opening?_of_opening (previous : change.previous = -1) (current : change.current = 0) :
    opening? (change :: changes) = some change.stop := by
  simp [opening?, beforeEnd, previous, current]

/-- The log ends with the change below its level. -/
theorem ending?_of_ended (ended : change.current < 0) :
    ending? (change :: changes) = some change := by
  simp [ending?, ended]

/-- Changes within the log do not end it. -/
theorem ending?_of_inside (inside : 0 ≤ change.current) :
    ending? (change :: changes) = ending? changes := by
  simp [ending?, Int.not_lt.mpr inside]

/-- The log ends among the first changes, or among those that follow. -/
theorem ending?_append (changes more : List PlacedChange) :
    ending? (changes ++ more) = (ending? changes).or (ending? more) :=
  List.find?_append

/-- Entries that follow count only while the log has not ended. -/
theorem entryEnds_append (changes more : List PlacedChange) :
    entryEnds (changes ++ more) =
      entryEnds changes ++ (if (ending? changes).isSome then [] else entryEnds more) := by
  induction changes with
  | nil => rfl
  | cons change changes ih =>
      rw [List.cons_append]
      by_cases ended : change.current < 0
      · rw [entryEnds_of_ended ended, entryEnds_of_ended ended, ending?_of_ended ended]
        rfl
      have inside := Int.not_lt.mp ended
      rw [ending?_of_inside inside]
      by_cases child : change.previous = 1 ∧ change.current = 0
      · rw [entryEnds_of_end child.1 child.2, entryEnds_of_end child.1 child.2, ih,
          List.cons_append]
      · rw [entryEnds_of_other inside child, entryEnds_of_other inside child, ih]

end Changes

/-- Fragments are consecutive parts of a text that end at places, and what is left in hand goes
from the last of them to the place that was reached. -/
inductive Partitioned (text : List Char) :
    (start : Nat) → (stops : List Nat) → (fragments : List (List Char)) → (left : List Char) →
      (reached : Nat) → Prop
  | inHand {start reached : Nat} {left : List Char} (forward : start ≤ reached)
      (part : left = slice text start reached) : Partitioned text start [] [] left reached
  | fragment {start stop reached : Nat} {stops : List Nat} {fragment left : List Char}
      {fragments : List (List Char)} (forward : start ≤ stop)
      (part : fragment = slice text start stop)
      (rest : Partitioned text stop stops fragments left reached) :
      Partitioned text start (stop :: stops) (fragment :: fragments) left reached

namespace Partitioned

variable {text left later : List Char} {start reached further : Nat} {stops others : List Nat}
  {fragments more : List (List Char)}

theorem le (parts : Partitioned text start stops fragments left reached) : start ≤ reached := by
  induction parts with
  | inHand forward => exact forward
  | fragment forward _ _ within => exact Nat.le_trans forward within

/-- The fragments are the pieces between the stops. -/
theorem fragments_eq (parts : Partitioned text start stops fragments left reached) :
    fragments = pieces text start stops := by
  induction parts with
  | inHand => rfl
  | fragment _ part _ others => rw [pieces, part, others]

/-- The fragments and what is left make up the slice that is reached. -/
theorem flatten_eq (parts : Partitioned text start stops fragments left reached) :
    fragments.flatten ++ left = slice text start reached := by
  induction parts with
  | inHand _ part => exact part
  | fragment forward part rest whole =>
      rw [List.flatten_cons, List.append_assoc, whole, part, slice_append text forward rest.le]

/-- Reading on without a cut. -/
theorem extend (parts : Partitioned text start stops fragments left reached)
    (forward : reached ≤ further) (part : later = slice text reached further) :
    Partitioned text start stops fragments (left ++ later) further := by
  induction parts with
  | inHand before this =>
      refine .inHand (Nat.le_trans before forward) ?_
      rw [this, part, slice_append text before forward]
  | fragment before this _ ih => exact .fragment before this (ih forward part)

/-- What is left in hand goes on from the last cut. -/
theorem last (parts : Partitioned text start stops fragments left reached) :
    stops.getLastD start ≤ reached ∧ left = slice text (stops.getLastD start) reached := by
  induction parts with
  | inHand forward part => exact ⟨forward, part⟩
  | fragment _ _ _ ih =>
      rw [List.getLastD_cons]
      exact ih

/-- Reading on from the last cut. -/
theorem append (parts : Partitioned text start stops fragments left reached)
    (rest : Partitioned text (stops.getLastD start) others more later further) :
    Partitioned text start (stops ++ others) (fragments ++ more) later further := by
  induction parts with
  | inHand => exact rest
  | fragment forward part _ ih =>
      rw [List.getLastD_cons] at rest
      exact .fragment forward part (ih rest)

end Partitioned

end Roll20

end Transcript

end DiceLedger
