import DiceLedger.Proofs.Roll20.Cutting
import DiceLedger.Proofs.Roll20.Document

/-! # Cutting glyph by glyph

A run over glyphs says at each one why the scanner passes it, or what a sign makes the scanner
do (`DiceLedger.Transcript.Roll20.Cuts`). Line breaks pass the scanner by. A run over the
glyphs of a document that ends with the wrapper is the run over its lines
(`DiceLedger.Transcript.Roll20.Cuts.cutLines`), as no cluster joins a sign to anything else.
-/

namespace DiceLedger

namespace Transcript

namespace Roll20

/-- Whether a character can be a sign. -/
def isSign (c : Char) : Bool := c = '<' || c = '>' || isQuote c

/-- A glyph that a scanner takes no notice of, except as part of its tag. -/
def Passes (scanner : TagScanner) (glyph : Glyph) : Prop :=
  match scanner.state with
  | .outsideTag => glyph.place = .text
  | .insideTag tag =>
    glyph.place = .within ∧ glyph.char ≠ '>' ∧ (isQuote glyph.char = true → awaitsValue tag = false)
  | .insideQuotedValue _ quote => glyph.place = .within ∧ glyph.char ≠ quote

end Roll20

/-- The state behind characters that a scanner passes. -/
def ScanState.pass (state : ScanState) (chars : List Char) : ScanState :=
  match state with
  | .insideTag tag => .insideTag (tag ++ chars)
  | other => other

theorem ScanState.pass_nil (state : ScanState) : state.pass [] = state := by
  cases state with
  | insideTag tag => exact congrArg insideTag (List.append_nil tag)
  | _ => rfl

/-- Characters that are passed over one behind another are passed over together. -/
theorem ScanState.pass_pass (state : ScanState) (chars more : List Char) :
    (state.pass chars).pass more = state.pass (chars ++ more) := by
  cases state with
  | insideTag tag => exact congrArg insideTag (List.append_assoc tag chars more)
  | _ => rfl

/-- The scanner behind characters that it passes. -/
def TagScanner.pass (scanner : TagScanner) (chars : List Char) : TagScanner :=
  { scanner with state := scanner.state.pass chars }

namespace Roll20

/-- The cut behind characters that the scanner passes. -/
def Cutter.pass (cutter : Cutter) (chars : List Char) : Cutter :=
  keep ⟨cutter.scanner.pass chars, cutter.pending⟩ chars

namespace Cutter

theorem pass_nil (cutter : Cutter) : cutter.pass [] = cutter := by
  rw [pass, keep, TagScanner.pass, ScanState.pass_nil, held_nil]

/-- Passing over characters twice is passing over both. -/
theorem pass_pass (cutter : Cutter) (chars more : List Char) :
    (cutter.pass chars).pass more = cutter.pass (chars ++ more) := by
  simp only [pass, keep, TagScanner.pass, ScanState.pass_pass, held_held]

end Cutter

/-- A run of a cut over glyphs, with the fragments that it gives; there is no cut after it when
the wrapper ended. -/
inductive Cuts : Cutter → List Glyph → List (List Char) → Option Cutter → Prop where
  | done (cutter : Cutter) : Cuts cutter [] [] (some cutter)
  | lineEnd {cutter : Cutter} {glyphs : List Glyph} {fragments : List (List Char)}
      {after : Option Cutter} (place : Place)
      (rest : Cuts (cutter.keep ['\n']) glyphs fragments after) :
      Cuts cutter (⟨'\n', place⟩ :: glyphs) fragments after
  | pass {cutter : Cutter} {glyph : Glyph} {glyphs : List Glyph} {fragments : List (List Char)}
      {after : Option Cutter} (inLine : glyph.char ≠ '\n') (passes : Passes cutter.scanner glyph)
      (rest : Cuts (cutter.pass [glyph.char]) glyphs fragments after) :
      Cuts cutter (glyph :: glyphs) fragments after
  | sign {cutter next : Cutter} {c : Char} {glyphs : List Glyph}
      {first fragments : List (List Char)} {after : Option Cutter} (sign : isSign c = true)
      (cut : cutter.takeCluster [c] = ⟨first, some next⟩)
      (rest : Cuts next glyphs fragments after) :
      Cuts cutter (⟨c, .sign⟩ :: glyphs) (first ++ fragments) after
  | wrapperEnd {cutter : Cutter} {c : Char} {glyphs : List Glyph} (sign : isSign c = true)
      (cut : cutter.takeCluster [c] = ⟨[], none⟩) : Cuts cutter (⟨c, .sign⟩ :: glyphs) [] none

/-- A sign is not passed over. -/
theorem Passes.not_sign {scanner : TagScanner} {glyph : Glyph} (passes : Passes scanner glyph) :
    glyph.place ≠ .sign := by
  unfold Passes at passes
  split at passes
  · rw [passes]
    decide
  · rw [passes.1]
    decide
  · rw [passes.1]
    decide

/-- The first glyph of a text that is cut is passed over, unless it is a sign or ends a line. -/
theorem Cuts.head_passes {cutter : Cutter} {glyph : Glyph} {rest : List Glyph}
    {fragments : List (List Char)} {after : Option Cutter}
    (cuts : Cuts cutter (glyph :: rest) fragments after) (plain : glyph.place ≠ .sign)
    (inLine : glyph.char ≠ '\n') : Passes cutter.scanner glyph := by
  cases cuts with
  | lineEnd place rest => exact absurd rfl inLine
  | pass inLine passes rest => exact passes
  | sign sign cut rest => exact absurd rfl plain
  | wrapperEnd sign cut => exact absurd rfl plain

/-- A run over glyphs that are neither signs nor line breaks passes them, one after another. -/
theorem Cuts.pass_all {group : List Glyph}
    (plain : ∀ glyph ∈ group, glyph.place ≠ .sign ∧ glyph.char ≠ '\n') :
    ∀ {cutter : Cutter} {rest : List Glyph} {fragments : List (List Char)} {after : Option Cutter},
      Cuts cutter (group ++ rest) fragments after →
      Cuts (cutter.pass (group.map Glyph.char)) rest fragments after := by
  induction group with
  | nil =>
      intro cutter rest fragments after cuts
      rwa [List.map_nil, Cutter.pass_nil]
  | cons glyph group ih =>
      intro cutter rest fragments after cuts
      obtain ⟨noSign, inLine⟩ := plain glyph List.mem_cons_self
      cases cuts with
      | lineEnd place rest => exact absurd rfl inLine
      | pass _ passes rest =>
          have further :=
            ih (fun other member => plain other (List.mem_cons_of_mem _ member)) rest
          rwa [Cutter.pass_pass, List.singleton_append] at further
      | sign sign cut rest => exact absurd rfl noSign
      | wrapperEnd sign cut => exact absurd rfl noSign

/-- A cluster is a quote only by itself. -/
theorem quote?_eq_some {cluster : List Char} {quote : Char} :
    TagScanner.quote? cluster = some quote ↔ cluster = [quote] ∧ isQuote quote = true := by
  rcases cluster with _ | ⟨c, _ | ⟨second, rest⟩⟩
  · simp [TagScanner.quote?]
  · simp only [TagScanner.quote?, isQuote]
    constructor
    · intro found
      split at found
      · obtain rfl := Option.some.inj found
        exact ⟨rfl, by assumption⟩
      · cases found
    · rintro ⟨same, quoted⟩
      obtain ⟨rfl⟩ := List.cons.inj same
      rw [if_pos quoted]
  · simp [TagScanner.quote?]

/-- A cluster whose glyphs are passed is passed. -/
theorem advance_of_passes {scanner : TagScanner} {group : List Glyph}
    (bracket : group ≠ [⟨'<', .text⟩])
    (single : ∀ glyph, group = [glyph] → Passes scanner glyph) :
    scanner.advance false (group.map Glyph.char) 0 =
      (none, scanner.pass (group.map Glyph.char)) := by
  have alone {c : Char} (same : group.map Glyph.char = [c]) :
      ∃ glyph, group = [glyph] ∧ glyph.char = c ∧ Passes scanner glyph := by
    obtain ⟨glyph, rfl, named⟩ := List.map_eq_singleton_iff.mp same
    exact ⟨glyph, rfl, named, single glyph rfl⟩
  obtain ⟨element, depth, state⟩ := scanner
  cases state with
  | outsideTag =>
      have other : group.map Glyph.char ≠ ['<'] := by
        intro same
        obtain ⟨⟨c, place⟩, rfl, rfl, passes⟩ := alone same
        obtain rfl : place = .text := passes
        exact bracket rfl
      simp only [TagScanner.advance, other, decide_false, Bool.false_and, Bool.false_eq_true,
        ↓reduceIte]
      rfl
  | insideTag tag =>
      have other : group.map Glyph.char ≠ ['>'] := by
        intro same
        obtain ⟨glyph, _, named, _, notEnd, _⟩ := alone same
        exact notEnd named
      simp only [TagScanner.advance]
      split
      · rename_i quote quoted
        obtain ⟨same, isQuote⟩ := quote?_eq_some.mp quoted
        obtain ⟨glyph, _, rfl, _, _, unawaited⟩ := alone same
        rw [unawaited isQuote]
        rfl
      · rw [if_neg other]
        rfl
  | insideQuotedValue tag quote =>
      have other : group.map Glyph.char ≠ [quote] := by
        intro same
        obtain ⟨glyph, _, named, _, notEnd⟩ := alone same
        exact notEnd named
      simp only [TagScanner.advance, other, ↓reduceIte]
      rfl

/-- A run that begins with a cut: the fragments of the cut come first, and unless the wrapper
ended the run goes on behind it. -/
def LineCut.Begins (cut : LineCut) (rest : List Glyph) (fragments : List (List Char))
    (after : Option Cutter) : Prop :=
  match cut.after with
  | none => fragments = cut.fragments ∧ after = none
  | some next => ∃ others, fragments = cut.fragments ++ others ∧ Cuts next rest others after

/-- Fragments that are cut off first stand in front of the others. -/
theorem LineCut.Begins.append {cut : LineCut} {rest : List Glyph}
    {fragments : List (List Char)} {after : Option Cutter}
    (begins : cut.Begins rest fragments after) (first : List (List Char)) :
    LineCut.Begins ⟨first ++ cut.fragments, cut.after⟩ rest (first ++ fragments) after := by
  rcases cut with ⟨cutFragments, _ | next⟩
  · obtain ⟨rfl, ended⟩ := begins
    exact ⟨rfl, ended⟩
  · obtain ⟨others, rfl, further⟩ := begins
    exact ⟨others, (List.append_assoc _ _ _).symm, further⟩

/-- A run over the glyphs of a cluster begins with the cut at the cluster. -/
theorem Cuts.takeCluster {group rest : List Glyph} (inLine : ∀ glyph ∈ group, glyph.char ≠ '\n')
    (apart : ∀ glyph ∈ group, glyph.place = .sign → group = [glyph])
    (bracket : group ≠ [⟨'<', .text⟩]) {cutter : Cutter} {fragments : List (List Char)}
    {after : Option Cutter} (cuts : Cuts cutter (group ++ rest) fragments after) :
    (cutter.takeCluster (group.map Glyph.char)).Begins rest fragments after := by
  -- A cluster that holds a sign is that sign alone.
  by_cases plain : ∀ glyph ∈ group, glyph.place ≠ .sign
  · have single (glyph : Glyph) (same : group = [glyph]) : Passes cutter.scanner glyph := by
      subst same
      exact cuts.head_passes (plain glyph List.mem_cons_self) (inLine glyph List.mem_cons_self)
    have cut : cutter.takeCluster (group.map Glyph.char) =
        ⟨[], some (cutter.pass (group.map Glyph.char))⟩ := by
      rw [Cutter.takeCluster, advance_of_passes bracket single]
      rfl
    rw [cut]
    exact ⟨fragments, rfl, cuts.pass_all fun glyph member =>
      ⟨plain glyph member, inLine glyph member⟩⟩
  · obtain ⟨glyph, member, sign⟩ : ∃ glyph ∈ group, glyph.place = .sign := by
      simpa using plain
    have same := apart glyph member sign
    subst same
    cases cuts with
    | lineEnd place rest => exact absurd rfl (inLine _ member)
    | pass _ passes rest => exact absurd sign passes.not_sign
    | sign _ cut rest =>
        rw [List.map_singleton, cut]
        exact ⟨_, rfl, rest⟩
    | wrapperEnd _ cut =>
        rw [List.map_singleton, cut]
        exact ⟨rfl, rfl⟩

/-- A text of glyphs is cut cluster by cluster, where signs are clusters of their own. -/
theorem Cuts.takeClusters {groups : List (List Glyph)} {rest : List Glyph}
    (inLine : ∀ group ∈ groups, ∀ glyph ∈ group, glyph.char ≠ '\n')
    (isolated : ∀ group ∈ groups,
      (∀ glyph ∈ group, glyph.place = .sign → group = [glyph]) ∧ group ≠ [⟨'<', .text⟩]) :
    ∀ {cutter : Cutter} {fragments : List (List Char)} {after : Option Cutter},
      Cuts cutter (groups.flatten ++ rest) fragments after →
      (cutter.takeClusters (groups.map (·.map Glyph.char))).Begins rest fragments after := by
  induction groups with
  | nil => exact fun cuts => ⟨_, rfl, cuts⟩
  | cons group groups ih =>
      intro cutter fragments after cuts
      rw [List.flatten_cons, List.append_assoc] at cuts
      obtain ⟨apart, bracket⟩ := isolated group List.mem_cons_self
      have begins := cuts.takeCluster (inLine group List.mem_cons_self) apart bracket
      rw [List.map_cons]
      rcases cut : cutter.takeCluster (group.map Glyph.char) with ⟨first, _ | next⟩
      · rw [Cutter.takeClusters_of_none cut]
        rwa [cut] at begins
      · rw [cut] at begins
        obtain ⟨others, rfl, further⟩ := begins
        have later := ih (fun other member => inLine other (List.mem_cons_of_mem _ member))
          (fun other member => isolated other (List.mem_cons_of_mem _ member)) further
        rw [Cutter.takeClusters_of_some cut]
        exact later.append first

/-- Glyphs are grouped as their characters are. -/
theorem Glyph.groups_spec (clusters : List (List Char)) :
    ∀ glyphs : List Glyph, clusters.flatten = glyphs.map Glyph.char →
      (Glyph.groups clusters glyphs).flatten = glyphs ∧
        (Glyph.groups clusters glyphs).map (·.map Glyph.char) = clusters := by
  induction clusters with
  | nil =>
      intro glyphs same
      exact ⟨(List.map_eq_nil_iff.mp same.symm).symm, rfl⟩
  | cons cluster rest ih =>
      intro glyphs same
      rw [List.flatten_cons] at same
      have first : (glyphs.take cluster.length).map Glyph.char = cluster := by
        rw [List.map_take, ← same, List.take_left]
      have others : rest.flatten = (glyphs.drop cluster.length).map Glyph.char := by
        rw [List.map_drop, ← same, List.drop_left]
      obtain ⟨whole, read⟩ := ih _ others
      rw [Glyph.groups, List.flatten_cons, whole, List.take_append_drop, List.map_cons, first, read]
      exact ⟨rfl, rfl⟩

/-- The first line of glyphs, and what stands behind it: nothing, or a line break and the other
lines. -/
theorem exists_line (glyphs : List Glyph) :
    ∃ (line tail : List Glyph) (others : List (List Glyph)), glyphs = line ++ tail ∧
      glyphs.splitOnP (·.char = '\n') = line :: others ∧ (∀ glyph ∈ line, glyph.char ≠ '\n') ∧
      (tail = [] ∨ ∃ place rest, tail = ⟨'\n', place⟩ :: rest ∧
        rest.splitOnP (·.char = '\n') = others) := by
  induction glyphs with
  | nil => exact ⟨[], [], [], rfl, rfl, fun _ member => absurd member List.not_mem_nil, Or.inl rfl⟩
  | cons glyph glyphs ih =>
      obtain ⟨line, tail, others, whole, split, inLine, follows⟩ := ih
      rw [List.splitOnP_cons_eq_if_modifyHead, split]
      by_cases ended : glyph.char = '\n'
      · rw [if_pos (decide_eq_true ended)]
        refine ⟨[], glyph :: glyphs, line :: others, rfl, rfl,
          fun _ member => absurd member List.not_mem_nil, Or.inr ⟨glyph.place, glyphs, ?_, split⟩⟩
        rw [← ended]
      · rw [if_neg (by simpa using ended)]
        refine ⟨glyph :: line, tail, others, congrArg (glyph :: ·) whole, rfl, ?_, follows⟩
        intro other member
        rcases List.mem_cons.mp member with rfl | later
        · exact ended
        · exact inLine other later

/-- A line that begins with a sign declares no title. -/
theorem startsWithTitle_sign {c : Char} (sign : isSign c = true) (rest : List Char) :
    startsWithTitle (c :: rest) = false := by
  have cases : c = '<' ∨ c = '>' ∨ c = '"' ∨ c = '\'' := by
    simpa [isSign, isQuote, or_assoc] using sign
  rcases cases with rfl | rfl | rfl | rfl <;> rfl

/-- A line on which a run begins outside of tags declares no title, if the text does not. -/
theorem Cuts.untitled {line rest : List Glyph} (inLine : ∀ glyph ∈ line, glyph.char ≠ '\n')
    (untitled : Untitled line) {cutter : Cutter} {fragments : List (List Char)}
    {after : Option Cutter} (cuts : Cuts cutter (line ++ rest) fragments after)
    (outside : cutter.scanner.state = .outsideTag) :
    startsWithTitle (line.map Glyph.char) = false := by
  cases line with
  | nil => rfl
  | cons glyph line =>
      cases cuts with
      | lineEnd place rest => exact absurd rfl (inLine _ List.mem_cons_self)
      | pass _ passes rest =>
          rw [Passes, outside] at passes
          exact untitled (congrArg some passes)
      | sign sign cut rest => exact startsWithTitle_sign sign _
      | wrapperEnd sign cut => exact startsWithTitle_sign sign _

/-- A run over the glyphs of a line begins with the cut of its clusters. -/
theorem Cuts.takeLine {line rest : List Glyph} (inLine : ∀ glyph ∈ line, glyph.char ≠ '\n')
    (isolated : Isolated line) {cutter : Cutter} {fragments : List (List Char)}
    {after : Option Cutter} (cuts : Cuts cutter (line ++ rest) fragments after) :
    (cutter.takeClusters (Text.clusters (line.map Glyph.char))).Begins rest fragments after := by
  obtain ⟨whole, read⟩ := Glyph.groups_spec (Text.clusters (line.map Glyph.char)) line
    (Text.flatten_clusters _)
  have inGroup : ∀ group ∈ Glyph.groups (Text.clusters (line.map Glyph.char)) line,
      ∀ glyph ∈ group, glyph.char ≠ '\n' := by
    intro group member glyph inside
    exact inLine glyph (whole ▸ List.mem_flatten_of_mem member inside)
  rw [← whole] at cuts
  have begins := cuts.takeClusters inGroup isolated
  rwa [read] at begins

/-- The end of a line is kept. -/
theorem Cuts.of_lineEnd {cutter : Cutter} {place : Place} {rest : List Glyph}
    {fragments : List (List Char)} {after : Option Cutter}
    (cuts : Cuts cutter (⟨'\n', place⟩ :: rest) fragments after) :
    Cuts (cutter.keep ['\n']) rest fragments after := by
  cases cuts with
  | lineEnd _ rest => exact rest
  | pass inLine passes rest => exact absurd rfl inLine
  | sign sign cut rest => cases sign
  | wrapperEnd sign cut => cases sign

/-- **A run that ends with the wrapper gives the fragments of its lines**, whatever lines
follow. -/
theorem Cuts.cutLines (lines more : List (List Char)) :
    ∀ {glyphs : List Glyph} {cutter : Cutter} {fragments : List (List Char)},
      Cuts cutter glyphs fragments none →
      lines.map withoutLineEnd =
        (glyphs.splitOnP (·.char = '\n')).map (·.map Glyph.char) →
      (∀ line ∈ glyphs.splitOnP (·.char = '\n'), Isolated line ∧ Untitled line) →
      cutter.cutLines (lines ++ more) = fragments := by
  induction lines with
  | nil =>
      intro glyphs cutter fragments _ written _
      exact absurd (List.map_eq_nil_iff.mp written.symm) (List.splitOnP_ne_nil _ _)
  | cons first lines ih =>
      intro glyphs cutter fragments cuts written plain
      obtain ⟨line, tail, others, rfl, split, inLine, follows⟩ := exists_line glyphs
      rw [split, List.map_cons, List.map_cons] at written
      obtain ⟨same, later⟩ := List.cons.inj written
      obtain ⟨isolated, untitled⟩ := plain line (split ▸ List.mem_cons_self)
      have begins := cuts.takeLine inLine isolated
      have read := cutter.cutLine_eq first fun outside => by
        rw [same]
        exact cuts.untitled inLine untitled outside
      rw [List.cons_append, Cutter.cutLines, read, same]
      rcases cut : cutter.takeClusters (Text.clusters (line.map Glyph.char)) with
        ⟨given, _ | next⟩
      · rw [cut] at begins
        exact begins.1.symm
      · rw [cut] at begins
        obtain ⟨given, rfl, further⟩ := begins
        rcases follows with rfl | ⟨place, rest, rfl, rfl⟩
        · cases further
        · have rest := ih further.of_lineEnd later fun other member =>
            plain other (split ▸ List.mem_cons_of_mem _ member)
          exact congrArg (_ ++ ·) rest

end Roll20

end Transcript

end DiceLedger
