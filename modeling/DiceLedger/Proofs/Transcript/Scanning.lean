import DiceLedger.Proofs.Text.Clusters
import DiceLedger.Transcript.TagDepth

/-! # The changes of depth on a line

A scanner reports the changes of depth that a line makes
(`DiceLedger.Transcript.TagScanner.feed_reported`): each begins at the depth at which the one
before it ended and is by one, and each stands behind a closing bracket of its own, further on
the line than the one before it. Scanning goes on behind clusters where it stopped
(`DiceLedger.Transcript.TagScanner.advanceAll_append`).
-/

namespace DiceLedger

namespace Transcript

/-- A tag changes the depth by one, if at all. -/
theorem depthStep?_eq_some {element : String} {tag : List Char} {delta : Int}
    (changed : depthStep? element tag = some delta) : delta = 1 ∨ delta = -1 := by
  unfold depthStep? at changed
  split at changed
  · cases changed
  · split at changed
    · cases changed
    · split at changed
      · exact .inr (Option.some.inj changed).symm
      · split at changed
        · cases changed
        · exact .inl (Option.some.inj changed).symm

/-- Changes that stand on a line from a place on and lead from one depth to another, step by
step. -/
inductive Reported (line : List Char) : Nat → Int → List DepthChange → Int → Prop
  | none {place : Nat} {depth : Int} (within : place ≤ line.length) :
      Reported line place depth [] depth
  | change {place stop : Nat} {depth next last : Int} {changes : List DepthChange}
      (forward : place < stop) (bracket : (line.take stop).getLast? = some '>')
      (step : next = depth + 1 ∨ next = depth - 1) (rest : Reported line stop next changes last) :
      Reported line place depth (⟨stop, depth, next⟩ :: changes) last

namespace Reported

variable {line : List Char} {place earlier : Nat} {depth last : Int} {changes : List DepthChange}

/-- A place that is reported lies within the line. -/
theorem place_le (reported : Reported line place depth changes last) : place ≤ line.length := by
  induction reported with
  | none within => exact within
  | change forward _ _ _ within => exact Nat.le_trans (Nat.le_of_lt forward) within

/-- What stands from a place on also stands from earlier on. -/
theorem of_le (reported : Reported line place depth changes last) (before : earlier ≤ place) :
    Reported line earlier depth changes last := by
  cases reported with
  | none within => exact .none (Nat.le_trans before within)
  | change forward bracket step rest =>
      exact .change (Nat.lt_of_le_of_lt before forward) bracket step rest

/-- Without a change the depth stays. -/
theorem last_eq (reported : Reported line place depth [] last) : last = depth := by
  cases reported
  rfl

/-- The first change is by one, and the others are reported from it on. -/
theorem of_cons {change : DepthChange}
    (reported : Reported line place depth (change :: changes) last) :
    change.previous = depth ∧ (change.current = depth + 1 ∨ change.current = depth - 1) ∧
      Reported line change.stop change.current changes last := by
  cases reported with
  | change _ _ step rest => exact ⟨rfl, step, rest⟩

end Reported

/-- The same change, further along the line. -/
def DepthChange.further (change : DepthChange) (places : Nat) : DepthChange :=
  { change with stop := change.stop + places }

namespace TagScanner

/-- A step only ever reports the depths before and after it, and where it ended. -/
theorem advance_change {scanner next : TagScanner} {ignoreOpening : Bool} {cluster : List Char}
    {stop : Nat} {change : DepthChange}
    (step : scanner.advance ignoreOpening cluster stop = (some change, next)) :
    change = ⟨stop, scanner.depth, next.depth⟩ := by
  unfold advance at step
  split at step
  · split at step <;> cases step
  · split at step
    · split at step <;> cases step
    · split at step
      · unfold closeTag at step
        split at step
        · cases step
        · cases step
          rfl
      · cases step
  · split at step <;> cases step

/-- Only a closing bracket changes the depth, and by one. -/
theorem advance_bracket {scanner next : TagScanner} {ignoreOpening : Bool} {cluster : List Char}
    {stop : Nat} {change : DepthChange}
    (step : scanner.advance ignoreOpening cluster stop = (some change, next)) :
    cluster = ['>'] ∧ (next.depth = scanner.depth + 1 ∨ next.depth = scanner.depth - 1) := by
  unfold advance at step
  split at step
  · split at step <;> cases step
  · split at step
    · split at step <;> cases step
    · split at step
      · next bracket =>
        unfold closeTag at step
        split at step
        · cases step
        · next delta changed =>
          cases step
          refine ⟨bracket, ?_⟩
          rcases depthStep?_eq_some changed with rfl | rfl
          · exact .inl rfl
          · exact .inr rfl
      · cases step
  · split at step <;> cases step

/-- Without a change the depth stays. -/
theorem advance_depth {scanner next : TagScanner} {ignoreOpening : Bool} {cluster : List Char}
    {stop : Nat} (step : scanner.advance ignoreOpening cluster stop = (none, next)) :
    next.depth = scanner.depth := by
  unfold advance at step
  split at step
  · split at step <;> cases step <;> rfl
  · split at step
    · split at step <;> cases step <;> rfl
    · split at step
      · unfold closeTag at step
        split at step
        · cases step
          rfl
        · cases step
      · cases step
        rfl
  · split at step <;> cases step <;> rfl

/-- Where a step stands on its line matters for nothing but the place of its change. -/
theorem advance_stop (scanner : TagScanner) (ignoreOpening : Bool) (cluster : List Char)
    (stop other : Nat) :
    scanner.advance ignoreOpening cluster stop =
      ((scanner.advance ignoreOpening cluster other).1.map fun change => { change with stop },
        (scanner.advance ignoreOpening cluster other).2) := by
  unfold advance
  split
  · split <;> rfl
  · split
    · split <;> rfl
    · split
      · unfold closeTag
        split <;> rfl
      · rfl
  · split <;> rfl

/-- Where a step stands on its line does not matter to the scanner behind it. -/
theorem advance_next (scanner : TagScanner) (ignoreOpening : Bool) (cluster : List Char)
    (stop : Nat) :
    (scanner.advance ignoreOpening cluster stop).2 =
      (scanner.advance ignoreOpening cluster 0).2 := by
  rw [scanner.advance_stop ignoreOpening cluster stop 0]

/-- Scanning goes on behind a cluster that changes nothing. -/
theorem advanceAll_of_none {scanner next : TagScanner} {cluster : List Char}
    (step : scanner.advance false cluster 0 = (none, next)) (start : Nat)
    (rest : List (List Char)) :
    scanner.advanceAll false start (cluster :: rest) =
      next.advanceAll false (start + cluster.length) rest := by
  simp only [advanceAll, Bool.false_and,
    scanner.advance_stop false cluster (start + cluster.length) 0, step, Option.map_none,
    Option.toList_none, List.nil_append]

/-- A change of depth is reported with the place behind its cluster. -/
theorem advanceAll_of_some {scanner next : TagScanner} {cluster : List Char}
    {change : DepthChange} (step : scanner.advance false cluster 0 = (some change, next))
    (start : Nat) (rest : List (List Char)) :
    scanner.advanceAll false start (cluster :: rest) =
      (⟨start + cluster.length, scanner.depth, next.depth⟩ ::
          (next.advanceAll false (start + cluster.length) rest).1,
        (next.advanceAll false (start + cluster.length) rest).2) := by
  obtain rfl := advance_change step
  simp only [advanceAll, Bool.false_and,
    scanner.advance_stop false cluster (start + cluster.length) 0, step, Option.map_some,
    Option.toList_some, List.singleton_append]

/-- Behind its bracket a tag has ended. -/
theorem closeTag_outside (scanner : TagScanner) (tag : List Char) (stop : Nat) :
    (scanner.closeTag tag stop).2.state = .outsideTag := by
  unfold closeTag
  split <;> rfl

/-- The change of a tag stands just behind its bracket. -/
theorem closeTag_stop {scanner : TagScanner} {tag : List Char} {stop : Nat} {change : DepthChange}
    (made : (scanner.closeTag tag stop).1 = some change) : change.stop = stop := by
  unfold closeTag at made
  split at made
  · cases made
  · cases made
    rfl

/-- Where a tag stands does not matter for its change, but for its place. -/
theorem closeTag_further (scanner : TagScanner) (tag : List Char) (stop places : Nat) :
    scanner.closeTag tag (stop + places) =
      ((scanner.closeTag tag stop).1.map (·.further places), (scanner.closeTag tag stop).2) := by
  unfold closeTag
  split <;> rfl

/-- What stands further along the line is reported further along. -/
theorem advance_further (scanner : TagScanner) (ignoreOpening : Bool) (cluster : List Char)
    (stop places : Nat) :
    scanner.advance ignoreOpening cluster (stop + places) =
      ((scanner.advance ignoreOpening cluster stop).1.map (·.further places),
        (scanner.advance ignoreOpening cluster stop).2) := by
  unfold advance
  split
  · split <;> rfl
  · split
    · split <;> rfl
    · split
      · exact scanner.closeTag_further _ stop places
      · rfl
  · split <;> rfl

/-- Where clusters stand does not matter for their changes, but for their places. -/
theorem advanceAll_further (clusters : List (List Char)) :
    ∀ (scanner : TagScanner) (ignoreOpening : Bool) (start places : Nat),
      scanner.advanceAll ignoreOpening (start + places) clusters =
        ((scanner.advanceAll ignoreOpening start clusters).1.map (·.further places),
          (scanner.advanceAll ignoreOpening start clusters).2) := by
  induction clusters with
  | nil => exact fun _ _ _ _ => rfl
  | cons cluster rest ih =>
      intro scanner ignoreOpening start places
      rw [advanceAll, advanceAll, Nat.add_right_comm, advance_further]
      rcases scanner.advance ignoreOpening cluster (start + cluster.length) with ⟨change, next⟩
      dsimp only
      rw [ih, List.map_append]
      cases change <;> rfl

/-- Outside of tags only an opening bracket matters. -/
theorem advanceAll_of_not_mem {scanner : TagScanner} (outside : scanner.state = .outsideTag)
    {clusters : List (List Char)} (plain : ['<'] ∉ clusters) (ignoreOpening : Bool)
    (start : Nat) : scanner.advanceAll ignoreOpening start clusters = ([], scanner) := by
  induction clusters generalizing ignoreOpening start with
  | nil => rfl
  | cons cluster rest ih =>
      have other : cluster ≠ ['<'] := fun same => plain (same ▸ List.mem_cons_self)
      have step (stop : Nat) : scanner.advance ignoreOpening cluster stop = (none, scanner) := by
        simp only [advance, outside, other, decide_false, Bool.false_and, Bool.false_eq_true,
          ↓reduceIte]
      simp only [advanceAll, step]
      rw [ih fun member => plain (List.mem_cons_of_mem _ member)]
      rfl

/-- Whether an opening bracket is still to be passed over behind a cluster. -/
def ignoresBehind (scanner : TagScanner) (ignoreOpening : Bool) (cluster : List Char) : Bool :=
  ignoreOpening && !(ignoreOpening && scanner.state = .outsideTag && cluster = ['<'])

theorem advanceAll_cons (scanner : TagScanner) (ignoreOpening : Bool) (start : Nat)
    (cluster : List Char) (rest : List (List Char)) :
    scanner.advanceAll ignoreOpening start (cluster :: rest) =
      ((scanner.advance ignoreOpening cluster (start + cluster.length)).1.toList ++
          ((scanner.advance ignoreOpening cluster (start + cluster.length)).2.advanceAll
            (scanner.ignoresBehind ignoreOpening cluster) (start + cluster.length) rest).1,
        ((scanner.advance ignoreOpening cluster (start + cluster.length)).2.advanceAll
          (scanner.ignoresBehind ignoreOpening cluster) (start + cluster.length) rest).2) :=
  rfl

section Ignoring

variable {scanner : TagScanner} {ignoreOpening : Bool}

/-- Where an opening bracket is to be passed over, the scanner stays outside of tags. -/
theorem outside_of_ignoresBehind (outside : ignoreOpening = true → scanner.state = .outsideTag)
    (cluster : List Char) (stop : Nat)
    (ignores : scanner.ignoresBehind ignoreOpening cluster = true) :
    (scanner.advance ignoreOpening cluster stop).2.state = .outsideTag := by
  have ignoring := (Bool.and_eq_true_iff.mp ignores).1
  simp only [advance, outside ignoring, ignoring, Bool.not_true, Bool.and_false,
    Bool.false_eq_true, ↓reduceIte]

/-- An opening bracket is to be passed over until there is one. -/
theorem ignoresBehind_and (outside : ignoreOpening = true → scanner.state = .outsideTag)
    (cluster : List Char) (rest : List (List Char)) :
    (scanner.ignoresBehind ignoreOpening cluster && ['<'] ∉ rest) =
      (ignoreOpening && ['<'] ∉ cluster :: rest) := by
  cases ignoreOpening with
  | false => rfl
  | true =>
      simp only [ignoresBehind, outside rfl, Bool.true_and, decide_true, List.mem_cons, not_or,
        Bool.decide_and, decide_not, eq_comm]

/-- **Scanning goes on behind clusters where it stopped.** An opening bracket that is to be passed
over has been passed over if there was one. -/
theorem advanceAll_append (front : List (List Char))
    (outside : ignoreOpening = true → scanner.state = .outsideTag) (start : Nat)
    (back : List (List Char)) :
    scanner.advanceAll ignoreOpening start (front ++ back) =
      ((scanner.advanceAll ignoreOpening start front).1 ++
          ((scanner.advanceAll ignoreOpening start front).2.advanceAll
            (ignoreOpening && ['<'] ∉ front) (start + front.flatten.length) back).1,
        ((scanner.advanceAll ignoreOpening start front).2.advanceAll
          (ignoreOpening && ['<'] ∉ front) (start + front.flatten.length) back).2) := by
  induction front generalizing scanner ignoreOpening start with
  | nil =>
      simp only [List.nil_append, advanceAll, List.not_mem_nil, not_false_eq_true, decide_true,
        Bool.and_true, List.flatten_nil, List.length_nil, Nat.add_zero]
  | cons cluster rest ih =>
      -- The flag behind the first cluster is the one that the rest begins with.
      have later := ih (outside_of_ignoresBehind outside cluster (start + cluster.length))
        (start + cluster.length)
      rw [List.cons_append, advanceAll_cons, advanceAll_cons, later,
        ignoresBehind_and outside, List.flatten_cons, List.length_append, ← Nat.add_assoc,
        List.append_assoc]

end Ignoring

section Titles

variable {scanner : TagScanner}

/-- Whether a scanner passes over the first opening bracket of a line. -/
def ignoresOn (scanner : TagScanner) (line : List Char) : Bool :=
  scanner.state = .outsideTag && startsWithTitle line

/-- Within a tag no title is declared. -/
theorem ignoresOn_of_inside (inside : scanner.state ≠ .outsideTag) (line : List Char) :
    scanner.ignoresOn line = false := by
  rw [ignoresOn, decide_eq_false inside, Bool.false_and]

/-- No opening bracket is passed over on a line without a title, or on one that begins within a
tag. -/
theorem ignoresOn_eq_false {line : List Char}
    (untitled : scanner.state = .outsideTag → startsWithTitle line = false) :
    scanner.ignoresOn line = false := by
  by_cases outside : scanner.state = .outsideTag
  · rw [ignoresOn, untitled outside, Bool.and_false]
  · exact ignoresOn_of_inside outside line

/-- A title is declared outside of tags alone. -/
theorem outside_of_ignoresOn {line : List Char} (ignores : scanner.ignoresOn line = true) :
    scanner.state = .outsideTag :=
  of_decide_eq_true (Bool.and_eq_true_iff.mp ignores).1

/-- Without a title no opening bracket of a line is passed over. -/
theorem feed_of_untitled {line : List Char} (untitled : scanner.ignoresOn line = false) :
    scanner.feed line = scanner.advanceAll false 0 (Text.clusters line) := by
  rw [← untitled]
  rfl

/-- Within a tag no line declares a title. -/
theorem feed_of_inside (inside : scanner.state ≠ .outsideTag) (line : List Char) :
    scanner.feed line = scanner.advanceAll false 0 (Text.clusters line) :=
  feed_of_untitled (ignoresOn_of_inside inside line)

end Titles

/-- The changes of clusters are reported in order, each just behind a bracket. -/
theorem advanceAll_reported (clusters : List (List Char)) :
    ∀ (scanner : TagScanner) (ignoreOpening : Bool) (front : List Char),
      Reported (front ++ clusters.flatten) front.length scanner.depth
        (scanner.advanceAll ignoreOpening front.length clusters).1
        (scanner.advanceAll ignoreOpening front.length clusters).2.depth := by
  induction clusters with
  | nil =>
      intro scanner ignoreOpening front
      exact .none (List.prefix_append front _).length_le
  | cons cluster rest ih =>
      intro scanner ignoreOpening front
      rw [advanceAll]
      rcases step : scanner.advance ignoreOpening cluster (front.length + cluster.length)
        with ⟨change, next⟩
      have later := ih next
        (ignoreOpening && !(ignoreOpening && scanner.state = .outsideTag && cluster = ['<']))
        (front ++ cluster)
      rw [List.append_assoc, ← List.flatten_cons, List.length_append] at later
      cases change with
      | none =>
          rw [← advance_depth step]
          exact later.of_le (Nat.le_add_right _ _)
      | some change =>
          obtain rfl := advance_change step
          obtain ⟨rfl, byOne⟩ := advance_bracket step
          refine .change (Nat.lt_succ_self _) ?_ byOne later
          have before : (front ++ (['>'] :: rest).flatten).take (front.length + ['>'].length) =
              front ++ ['>'] := by
            rw [List.flatten_cons, ← List.append_assoc, ← List.length_append, List.take_left]
          rw [before, List.getLast?_concat]

/-- **What a scanner reports of a line**, whatever it went through before, and also when an
opening bracket is passed over. -/
theorem feed_reported (scanner : TagScanner) (line : List Char) :
    Reported line 0 scanner.depth (scanner.feed line).1 (scanner.feed line).2.depth := by
  have reported := advanceAll_reported (Text.clusters line) scanner
    (scanner.ignoresOn line) []
  rw [List.nil_append, Text.flatten_clusters] at reported
  exact reported

end TagScanner

end Transcript

end DiceLedger
