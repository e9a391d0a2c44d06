import DiceLedger.Proofs.Transcript.QuotedValues

/-! # Lines cut anywhere

A scanner carries all that matters from one line to the next, but for a title on whose line an
opening bracket is still to be passed over. So where no title is declared a line may be cut at any
boundary between clusters, in a name, in a value or in front of a closing bracket: the parts make
the changes of the whole, and the scanner ends as behind the whole
(`DiceLedger.Transcript.TagScanner.feed_append`,
`DiceLedger.Transcript.TagScanner.transitions_of_pieces`), and the quote of the latest value is that
of the value the scanner is within (`DiceLedger.Transcript.TagScanner.Keeps.behind`). Over any lines
the changes lead from depth to depth, one step at a time, and on each line they stand behind closing
brackets of their own (`DiceLedger.Transcript.TagScanner.steps_transitions`,
`DiceLedger.Transcript.Reported.placed`). The whole is
`DiceLedger.Transcript.TagScanner.feed_cut`.
-/

namespace DiceLedger

namespace Transcript

/-- Depths that lead from one to another: each pair begins where the one before it ended, and goes
up or down by one. -/
inductive Steps : Int → List (Int × Int) → Int → Prop
  | none {depth : Int} : Steps depth [] depth
  | step {depth next last : Int} {rest : List (Int × Int)}
      (byOne : next = depth + 1 ∨ next = depth - 1) (later : Steps next rest last) :
      Steps depth ((depth, next) :: rest) last

theorem Steps.append {first middle last : Int} {front back : List (Int × Int)}
    (steps : Steps first front middle) (later : Steps middle back last) :
    Steps first (front ++ back) last := by
  induction steps with
  | none => exact later
  | step byOne _ ih => exact .step byOne (ih later)

/-- Changes that stand on a line one behind another, each just behind a closing bracket. -/
structure Placed (line : List Char) (changes : List DepthChange) : Prop where
  increasing : changes.Pairwise (·.stop < ·.stop)
  bracket : ∀ change ∈ changes, ∃ before behind,
    line = before ++ '>' :: behind ∧ change.stop = (before ++ ['>']).length

namespace Reported

variable {line : List Char} {place : Nat} {depth last : Int} {changes : List DepthChange}

/-- Changes that are reported lead from depth to depth, one step at a time. -/
theorem steps (reported : Reported line place depth changes last) :
    Steps depth (changes.map DepthChange.transition) last := by
  induction reported with
  | none => exact .none
  | change _ _ byOne _ ih => exact .step byOne ih

/-- Changes that are reported stand behind the place they are reported from. -/
theorem lt_stop (reported : Reported line place depth changes last) :
    ∀ change ∈ changes, place < change.stop := by
  induction reported with
  | none => exact fun _ member => (List.not_mem_nil member).elim
  | change forward _ _ _ ih =>
      intro change member
      rcases List.mem_cons.mp member with rfl | later
      · exact forward
      · exact Nat.lt_trans forward (ih change later)

/-- Changes that are reported stand one behind another, each just behind a bracket. -/
theorem placed (reported : Reported line place depth changes last) : Placed line changes := by
  induction reported with
  | none => exact ⟨.nil, fun _ member => (List.not_mem_nil member).elim⟩
  | @change place stop depth next last changes forward bracket byOne rest ih =>
      refine ⟨.cons rest.lt_stop ih.increasing, ?_⟩
      intro change member
      rcases List.mem_cons.mp member with rfl | later
      · obtain ⟨before, taken⟩ := List.getLast?_eq_some_iff.mp bracket
        have whole : line = before ++ '>' :: line.drop stop := by
          rw [← List.singleton_append, ← List.append_assoc, ← taken, List.take_append_drop]
        refine ⟨before, line.drop stop, whole, ?_⟩
        rw [← taken, List.length_take_of_le rest.place_le]
      · exact ih.bracket change later

end Reported

/-- The quote of the value that a scanner is within. -/
def ScanState.openQuote? : ScanState → Option Char
  | insideQuotedValue _ quote => some quote
  | _ => none

namespace TagScanner

variable {scanner : TagScanner}

/-- Over any lines the depth changes one step at a time. -/
theorem steps_transitions (scanner : TagScanner) (lines : List (List Char)) :
    Steps scanner.depth (scanner.transitions lines) (scanner.after lines).depth := by
  induction lines generalizing scanner with
  | nil => exact .none
  | cons line rest ih => exact (scanner.feed_reported line).steps.append (ih (scanner.feed line).2)

/-- The quote of the latest value that has begun, over clusters: the one kept from before until
another value begins. -/
def quoteOver (scanner : TagScanner) (kept : Option Char) (ignoreOpening : Bool) :
    List (List Char) → Option Char
  | [] => kept
  | cluster :: rest =>
    let next := (scanner.advance ignoreOpening cluster 0).2
    next.quoteOver (next.state.openQuote?.or kept)
      (scanner.ignoresBehind ignoreOpening cluster) rest

/-- The quote of the latest value that has begun, behind a line. -/
def quoteBehind (scanner : TagScanner) (kept : Option Char) (line : List Char) : Option Char :=
  scanner.quoteOver kept (scanner.ignoresOn line) (Text.clusters line)

/-- The quote that is kept is that of the value that the scanner is within, if it is within one. -/
def Keeps (scanner : TagScanner) (kept : Option Char) : Prop :=
  ∀ quote ∈ scanner.state.openQuote?, kept = some quote

/-- The quote of a value that has begun takes the place of the one from before. -/
theorem keeps_or (scanner : TagScanner) (kept : Option Char) :
    scanner.Keeps (scanner.state.openQuote?.or kept) := by
  intro quote opened
  rw [Option.mem_def.mp opened]
  rfl

/-- The quote of the value that a scanner is within stays the latest one, over clusters. -/
theorem Keeps.over (clusters : List (List Char)) :
    ∀ {scanner : TagScanner} {kept : Option Char} (ignoreOpening : Bool) (start : Nat),
      scanner.Keeps kept →
        (scanner.advanceAll ignoreOpening start clusters).2.Keeps
          (scanner.quoteOver kept ignoreOpening clusters) := by
  induction clusters with
  | nil => exact fun _ _ keeps => keeps
  | cons cluster rest ih =>
      intro scanner kept ignoreOpening start _
      rw [advanceAll_cons, advance_next]
      exact ih _ _ (keeps_or _ kept)

/-- Behind a line the latest quote is that of the value that the scanner is within, if it is within
one. -/
theorem Keeps.behind {kept : Option Char} (keeps : scanner.Keeps kept) (line : List Char) :
    (scanner.feed line).2.Keeps (scanner.quoteBehind kept line) :=
  Keeps.over (Text.clusters line) (scanner.ignoresOn line) 0 keeps

/-- The latest quote over two lists of clusters is the latest over the second, or else over the
first. -/
theorem quoteOver_append (front : List (List Char)) :
    ∀ (scanner : TagScanner) (kept : Option Char) (start : Nat) (back : List (List Char)),
      scanner.quoteOver kept false (front ++ back) =
        (scanner.advanceAll false start front).2.quoteOver (scanner.quoteOver kept false front)
          false back := by
  induction front with
  | nil => exact fun _ _ _ _ => rfl
  | cons cluster rest ih =>
      intro scanner kept start back
      rw [advanceAll_cons, advance_next]
      exact ih _ _ _ back

/-- A line that declares no title does not begin with one that does. -/
theorem ignoresOn_of_append {front back : List Char}
    (untitled : scanner.ignoresOn (front ++ back) = false) : scanner.ignoresOn front = false := by
  refine ignoresOn_eq_false fun outside => Bool.eq_false_iff.mpr fun titled => ?_
  rw [ignoresOn, outside, startsWithTitle_append titled] at untitled
  cases untitled

/-- What is fed at once without a title may be fed in two parts without one. -/
theorem feed_append {front back : List Char} (boundary : Text.Boundary front back)
    (whole : scanner.ignoresOn (front ++ back) = false)
    (rest : (scanner.feed front).2.ignoresOn back = false) :
    scanner.feed (front ++ back) =
      ((scanner.feed front).1 ++ ((scanner.feed front).2.feed back).1.map (·.further front.length),
        ((scanner.feed front).2.feed back).2) := by
  rw [feed_eq_append (List.prefix_append front back) (Text.boundary_iff.mp boundary), whole,
    Bool.false_and, feed_of_untitled rest]

/-- The latest quote behind a line that is cut is the one behind the whole. -/
theorem quoteBehind_append {front back : List Char} (boundary : Text.Boundary front back)
    (whole : scanner.ignoresOn (front ++ back) = false)
    (rest : (scanner.feed front).2.ignoresOn back = false) (kept : Option Char) :
    scanner.quoteBehind kept (front ++ back) =
      (scanner.feed front).2.quoteBehind (scanner.quoteBehind kept front) back := by
  -- Here the flag of the first part matters too: a title there would be one of the whole line.
  have first := ignoresOn_of_append whole
  rw [quoteBehind, whole, Text.boundary_iff.mp boundary, quoteOver_append _ _ _ 0,
    ← feed_of_untitled first, quoteBehind, quoteBehind, rest, first]

/-- Where no piece declares a title, only the scanner leads from one piece to the next. -/
theorem transitions_of_untitled {pieces : List (List Char)} :
    ∀ {scanner : TagScanner}, (∀ piece ∈ pieces, startsWithTitle piece = false) →
      scanner.transitions pieces =
          (scanner.advanceAll false 0 (pieces.flatMap Text.clusters)).1.map
            DepthChange.transition ∧
        scanner.after pieces = (scanner.advanceAll false 0 (pieces.flatMap Text.clusters)).2 := by
  induction pieces with
  | nil => exact fun _ => ⟨rfl, rfl⟩
  | cons piece rest ih =>
      intro scanner untitled
      -- No flag is set on any piece, so nothing but the scanner leads from one to the next.
      obtain ⟨changes, last⟩ := @ih (scanner.feed piece).2 fun other member =>
        untitled other (List.mem_cons_of_mem _ member)
      have fed : scanner.feed piece = scanner.advanceAll false 0 (Text.clusters piece) :=
        feed_of_untitled (ignoresOn_eq_false fun _ => untitled piece List.mem_cons_self)
      rw [List.flatMap_cons, advanceAll_append _ (fun ignores => absurd ignores Bool.false_ne_true),
        Bool.false_and, advanceAll_further, ← fed, List.map_append, List.map_map, transitions,
        after, List.foldl_cons, changes]
      exact ⟨rfl, last⟩

/-- **A line may be cut into any pieces** that part no cluster and declare no title. -/
theorem transitions_of_pieces {pieces : List (List Char)}
    (apart : Text.clusters pieces.flatten = pieces.flatMap Text.clusters)
    (whole : startsWithTitle pieces.flatten = false)
    (untitled : ∀ piece ∈ pieces, startsWithTitle piece = false) :
    scanner.transitions pieces = (scanner.feed pieces.flatten).1.map DepthChange.transition ∧
      scanner.after pieces = (scanner.feed pieces.flatten).2 := by
  rw [feed_of_untitled (ignoresOn_eq_false fun _ => whole), apart]
  exact transitions_of_untitled untitled

/-- **Where a line is cut does not matter.** At any boundary between clusters, a line without a
title may be cut in front of what declares none: the changes are those of the whole line, counted
from the cut behind it, and the scanner ends at the same depth, in the same state, with the same
text of a tag and the same latest quote. That quote is the one of the value that the scanner is
within. Cut into any number of pieces, too, a line leads through the same depths to the same
scanner. And over any lines each change begins at the depth that the one before it ended at and is
by one, and on each line the changes stand one behind another, each just behind a closing bracket.
-/
theorem feed_cut (scanner : TagScanner) :
    (∀ {front back : List Char}, Text.Boundary front back →
      (scanner.state = .outsideTag → startsWithTitle (front ++ back) = false) →
      ((scanner.feed front).2.state = .outsideTag → startsWithTitle back = false) →
      scanner.feed (front ++ back) =
          ((scanner.feed front).1 ++
              ((scanner.feed front).2.feed back).1.map (·.further front.length),
            ((scanner.feed front).2.feed back).2) ∧
        ∀ kept, scanner.quoteBehind kept (front ++ back) =
          (scanner.feed front).2.quoteBehind (scanner.quoteBehind kept front) back) ∧
    (∀ kept, scanner.Keeps kept →
      ∀ line, (scanner.feed line).2.Keeps (scanner.quoteBehind kept line)) ∧
    (∀ pieces : List (List Char), Text.clusters pieces.flatten = pieces.flatMap Text.clusters →
      startsWithTitle pieces.flatten = false →
      (∀ piece ∈ pieces, startsWithTitle piece = false) →
      scanner.transitions pieces = (scanner.feed pieces.flatten).1.map DepthChange.transition ∧
        scanner.after pieces = (scanner.feed pieces.flatten).2) ∧
    ∀ lines : List (List Char),
      Steps scanner.depth (scanner.transitions lines) (scanner.after lines).depth ∧
        ∀ line, Placed line ((scanner.after lines).feed line).1 := by
  refine ⟨?_, fun kept keeps line => keeps.behind line, ?_,
    fun lines => ⟨scanner.steps_transitions lines, fun line => ?_⟩⟩
  · intro front back boundary untitled untitledRest
    have whole := ignoresOn_eq_false untitled
    have rest := ignoresOn_eq_false untitledRest
    exact ⟨feed_append boundary whole rest, quoteBehind_append boundary whole rest⟩
  · intro pieces apart whole untitled
    exact transitions_of_pieces apart whole untitled
  · exact ((scanner.after lines).feed_reported line).placed

/-- A line up to within a value, behind a letter with its mark and in front of a bracket. -/
def begunValue : List Char := "<div title=\"e\u0301".toList

/-- The rest of that line, with another value of brackets. -/
def endedValue : List Char := ">\" id='</div>'></div>".toList

/-- A line cut within a value, also into three pieces, and brackets that lead below the depth of a
new scanner. -/
theorem feed_cut_in_value :
    (((new "div").feed begunValue).2.feed endedValue).1 = [⟨15, -1, 0⟩, ⟨21, 0, -1⟩] ∧
      ((new "div").feed (begunValue ++ endedValue)).1 = [⟨29, -1, 0⟩, ⟨35, 0, -1⟩] ∧
      (new "div").quoteBehind none (begunValue ++ endedValue) = some '\'' ∧
      ((new "div").feed begunValue).2.Keeps (some '"') ∧
      (new "div").transitions ["<di".toList, "v a='".toList, "'>".toList] = [(-1, 0)] ∧
      Steps (-1) [(-1, 0), (0, -1)] (-1) ∧
      Placed "</div></div>".toList [⟨6, -1, -2⟩, ⟨12, -2, -3⟩] := by
  have boundary : Text.Boundary begunValue endedValue := by decide +kernel
  obtain ⟨fed, quote⟩ := (feed_cut (new "div")).1 boundary (fun _ => by decide +kernel)
    (fun _ => by decide +kernel)
  have first : ((new "div").feed begunValue).1 = [] := by decide +kernel
  have later : (((new "div").feed begunValue).2.feed endedValue).1 =
      [⟨15, -1, 0⟩, ⟨21, 0, -1⟩] := by decide +kernel
  have whole := congrArg Prod.fst fed
  rw [first, later] at whole
  have opened := (feed_cut (new "div")).2.1 none nofun begunValue
  rw [show (new "div").quoteBehind none begunValue = some '"' by decide +kernel] at opened
  obtain ⟨inPieces, -⟩ := (feed_cut (new "div")).2.2.1 ["<di".toList, "v a='".toList, "'>".toList]
    (by decide +kernel) (by decide +kernel) (by decide +kernel)
  obtain ⟨steps, placed⟩ := (feed_cut (new "div")).2.2.2 [begunValue, endedValue]
  have changes : (new "div").transitions [begunValue, endedValue] = [(-1, 0), (0, -1)] := by
    decide +kernel
  have behind : (new "div").after [begunValue, endedValue] = new "div" := by decide +kernel
  have closings : ((new "div").feed "</div></div>".toList).1 =
      [⟨6, -1, -2⟩, ⟨12, -2, -3⟩] := by decide +kernel
  have below := placed "</div></div>".toList
  rw [changes, behind] at steps
  rw [behind, closings] at below
  exact ⟨later, whole, (quote none).trans (by decide +kernel), opened,
    inPieces.trans (by decide +kernel), steps, below⟩

/-- Behind a cut a title hides a bracket that it does not hide on the whole line. -/
example :
    ((new "div").feed "<p>title='<div>".toList).1 = [⟨15, -1, 0⟩] ∧
      (((new "div").feed "<p>".toList).2.feed "title='<div>".toList).1 = [] := by
  decide +kernel

end TagScanner

end Transcript

end DiceLedger
