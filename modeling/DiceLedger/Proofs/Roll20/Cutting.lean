import DiceLedger.Proofs.Transcript.Scanning
import DiceLedger.Transcript.Roll20.Archive

/-! # Cutting cluster by cluster

A line is scanned as a whole, and then cut at the changes of depth that it brought. Cutting it
cluster by cluster comes to the same (`DiceLedger.Transcript.Roll20.Cutter.cutLine_eq`): a
cluster is kept, unless it is outside of the wrapper, and a bracket may end a fragment.
-/

namespace DiceLedger

namespace Transcript

namespace Roll20

/-- What is held for the next fragment when characters are kept: nothing of what stands outside
of the wrapper. -/
def held (depth : Int) (pending chars : List Char) : List Char :=
  if depth < 0 then pending else pending ++ chars

theorem held_nil (depth : Int) (pending : List Char) : held depth pending [] = pending := by
  unfold held
  split
  · rfl
  · exact List.append_nil _

/-- Characters that are held one behind another are held together. -/
theorem held_held (depth : Int) (pending chars more : List Char) :
    held depth (held depth pending chars) more = held depth pending (chars ++ more) := by
  unfold held
  by_cases outside : depth < 0
  · simp only [outside, ↓reduceIte]
  · simp only [outside, ↓reduceIte, List.append_assoc]

/-- Within the log all characters are held. -/
theorem held_of_nonneg {depth : Int} (inside : 0 ≤ depth) (pending chars : List Char) :
    held depth pending chars = pending ++ chars :=
  if_neg (Int.not_lt.mpr inside)

namespace Cutter

/-- Keeps characters for the next fragment. -/
def keep (cutter : Cutter) (chars : List Char) : Cutter :=
  { cutter with pending := held cutter.scanner.depth cutter.pending chars }

/-- Cuts at the end of one cluster. -/
def takeCluster (cutter : Cutter) (cluster : List Char) : LineCut :=
  match cutter.scanner.advance false cluster 0 with
  | (none, scanner) => ⟨[], some (keep ⟨scanner, cutter.pending⟩ cluster)⟩
  | (some change, scanner) =>
    if change.current < 0 then ⟨[], none⟩
    else if change.previous < 0 then ⟨[], some ⟨scanner, []⟩⟩
    else if change.previous = 1 && change.current = 0 then
      ⟨[cutter.pending ++ cluster], some ⟨scanner, []⟩⟩
    else ⟨[], some ⟨scanner, cutter.pending ++ cluster⟩⟩

/-- Cuts clusters in order, up to the end of the wrapper. -/
def takeClusters : Cutter → List (List Char) → LineCut
  | cutter, [] => ⟨[], some cutter⟩
  | cutter, cluster :: rest =>
    match cutter.takeCluster cluster with
    | ⟨fragments, none⟩ => ⟨fragments, none⟩
    | ⟨fragments, some next⟩ =>
      let cut := next.takeClusters rest
      ⟨fragments ++ cut.fragments, cut.after⟩

/-- A cluster that does not end the log is taken before the others. -/
theorem takeClusters_of_some {cutter next : Cutter} {cluster : List Char}
    {fragments : List (List Char)} (cut : cutter.takeCluster cluster = ⟨fragments, some next⟩)
    (rest : List (List Char)) :
    cutter.takeClusters (cluster :: rest) =
      ⟨fragments ++ (next.takeClusters rest).fragments, (next.takeClusters rest).after⟩ := by
  rw [takeClusters, cut]

/-- Behind the end of the log no clusters are taken. -/
theorem takeClusters_of_none {cutter : Cutter} {cluster : List Char}
    {fragments : List (List Char)} (cut : cutter.takeCluster cluster = ⟨fragments, none⟩)
    (rest : List (List Char)) :
    cutter.takeClusters (cluster :: rest) = ⟨fragments, none⟩ := by
  rw [takeClusters, cut]

end Cutter

/-- Ends a line: what is kept goes on behind a line break. -/
def LineCut.endLine (cut : LineCut) : LineCut := { cut with after := cut.after.map (·.keep ['\n']) }

/-- Following the changes that clusters make is cutting the clusters, wherever on a line they
begin. -/
def Follows (line : List Char) (clusters : List (List Char)) : Prop :=
  ∀ (scanner : TagScanner) (front pending : List Char) (start : Nat),
    line = front ++ clusters.flatten → start ≤ front.length →
    cutAtChanges line (scanner.advanceAll false front.length clusters).2 start pending
        (scanner.advanceAll false front.length clusters).1 =
      (Cutter.takeClusters ⟨scanner, held scanner.depth pending (front.drop start)⟩
        clusters).endLine

/-- A cluster that changes nothing is kept. -/
theorem Follows.of_none {line cluster : List Char} {rest : List (List Char)}
    (follows : Follows line rest) {scanner next : TagScanner}
    (step : scanner.advance false cluster 0 = (none, next)) {front : List Char} {start : Nat}
    (pending : List Char) (whole : line = front ++ cluster ++ rest.flatten)
    (behind : start ≤ front.length) :
    cutAtChanges line (scanner.advanceAll false front.length (cluster :: rest)).2 start pending
        (scanner.advanceAll false front.length (cluster :: rest)).1 =
      (Cutter.takeClusters ⟨scanner, held scanner.depth pending (front.drop start)⟩
        (cluster :: rest)).endLine := by
  have depth := TagScanner.advance_depth step
  have used : (front ++ cluster).drop start = front.drop start ++ cluster :=
    List.drop_append_of_le_length behind
  have cut : Cutter.takeCluster ⟨scanner, held scanner.depth pending (front.drop start)⟩ cluster =
      ⟨[], some ⟨next, held next.depth pending ((front ++ cluster).drop start)⟩⟩ := by
    simp only [Cutter.takeCluster, step, Cutter.keep, depth, held_held, used]
  have later : start ≤ (front ++ cluster).length :=
    Nat.le_trans behind (List.prefix_append front cluster).length_le
  rw [TagScanner.advanceAll_of_none step, ← List.length_append,
    follows next (front ++ cluster) pending start whole later, Cutter.takeClusters_of_some cut]
  rfl

/-- A change of depth ends the wrapper, begins it, ends a fragment, or is kept. -/
theorem Follows.of_some {line cluster : List Char} {rest : List (List Char)}
    (follows : Follows line rest) {scanner next : TagScanner} {change : DepthChange}
    (step : scanner.advance false cluster 0 = (some change, next)) {front : List Char}
    {start : Nat} (pending : List Char) (whole : line = front ++ cluster ++ rest.flatten)
    (behind : start ≤ front.length) :
    cutAtChanges line (scanner.advanceAll false front.length (cluster :: rest)).2 start pending
        (scanner.advanceAll false front.length (cluster :: rest)).1 =
      (Cutter.takeClusters ⟨scanner, held scanner.depth pending (front.drop start)⟩
        (cluster :: rest)).endLine := by
  obtain rfl := TagScanner.advance_change step
  rw [TagScanner.advanceAll_of_some step, ← List.length_append, cutAtChanges]
  have fresh := follows next (front ++ cluster) [] (front ++ cluster).length whole (Nat.le_refl _)
  rw [List.drop_length, held_nil] at fresh
  by_cases ended : next.depth < 0
  · have cut (pending : List Char) :
        Cutter.takeCluster ⟨scanner, pending⟩ cluster = ⟨[], none⟩ := by
      simp only [Cutter.takeCluster, step, ended, ↓reduceIte]
    rw [if_pos ended, Cutter.takeClusters_of_none (cut _)]
    rfl
  rw [if_neg ended]
  by_cases outside : scanner.depth < 0
  · have cut (pending : List Char) :
        Cutter.takeCluster ⟨scanner, pending⟩ cluster = ⟨[], some ⟨next, []⟩⟩ := by
      simp only [Cutter.takeCluster, step, ended, outside, ↓reduceIte]
    rw [if_pos outside, fresh, Cutter.takeClusters_of_some (cut _)]
    rfl
  rw [if_neg outside, held_of_nonneg (Int.not_lt.mp outside)]
  have used : pending ++ front.drop start ++ cluster =
      pending ++ (front ++ cluster).drop start := by
    rw [List.drop_append_of_le_length behind, List.append_assoc]
  by_cases ends : (scanner.depth = 1 && next.depth = 0) = true
  · have cut : Cutter.takeCluster ⟨scanner, pending ++ front.drop start⟩ cluster =
        ⟨[pending ++ (front ++ cluster).drop start], some ⟨next, []⟩⟩ := by
      simp only [Cutter.takeCluster, step, ended, outside, ends, ↓reduceIte, used]
    have taken : line.take (front ++ cluster).length = front ++ cluster := by
      rw [whole, List.take_left]
    rw [if_pos ends, taken, fresh, Cutter.takeClusters_of_some cut]
    rfl
  · have kept := held_of_nonneg (Int.not_lt.mp ended) pending ((front ++ cluster).drop start)
    have cut : Cutter.takeCluster ⟨scanner, pending ++ front.drop start⟩ cluster =
        ⟨[], some ⟨next, held next.depth pending ((front ++ cluster).drop start)⟩⟩ := by
      simp only [Cutter.takeCluster, step, ended, outside, ends, Bool.false_eq_true, ↓reduceIte,
        used, kept]
    have later : start ≤ (front ++ cluster).length :=
      Nat.le_trans behind (List.prefix_append front cluster).length_le
    rw [if_neg ends, follows next (front ++ cluster) pending start whole later,
      Cutter.takeClusters_of_some cut]
    rfl

/-- Cutting follows the changes of depth over all clusters of a line. -/
theorem follows (line : List Char) (clusters : List (List Char)) : Follows line clusters := by
  induction clusters with
  | nil =>
      intro scanner front pending start whole _
      rw [List.flatten_nil, List.append_nil] at whole
      subst whole
      simp only [TagScanner.advanceAll, cutAtChanges, Cutter.takeClusters, LineCut.endLine,
        Option.map_some, Cutter.keep, held_held]
      unfold held
      split
      · rfl
      · rw [List.append_assoc]
  | cons cluster rest ih =>
      intro scanner front pending start whole behind
      rw [List.flatten_cons, ← List.append_assoc] at whole
      rcases step : scanner.advance false cluster 0 with ⟨_ | change, next⟩
      · exact ih.of_none step pending whole behind
      · exact ih.of_some step pending whole behind

/-- A line that declares no title outside of tags is cut cluster by cluster. -/
theorem Cutter.cutLine_eq (cutter : Cutter) (line : List Char)
    (untitled : cutter.scanner.state = .outsideTag →
      startsWithTitle (withoutLineEnd line) = false) :
    cutter.cutLine line =
      (cutter.takeClusters (Text.clusters (withoutLineEnd line))).endLine := by
  have fed := TagScanner.feed_of_untitled (TagScanner.ignoresOn_eq_false untitled)
  have cut := follows (withoutLineEnd line) (Text.clusters (withoutLineEnd line)) cutter.scanner
    [] cutter.pending 0 (Text.flatten_clusters _).symm (Nat.le_refl 0)
  rw [List.drop_nil, held_nil] at cut
  simp only [cutLine, fed]
  exact cut

end Roll20

end Transcript

end DiceLedger
