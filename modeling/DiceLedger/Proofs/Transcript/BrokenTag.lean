import DiceLedger.Proofs.Text.Boundaries
import DiceLedger.Proofs.Transcript.Scanning
import DiceLedger.Proofs.Transcript.TagText

/-! # Tags broken across lines

From what a line begins with a scanner carries to the rest what it carries to a next line, and a
title besides (`DiceLedger.Transcript.TagScanner.feed_eq_append`). What it holds of a tag goes on
with the next line as if nothing stood between the two
(`DiceLedger.Transcript.TagScanner.feed_unbroken`). A line break within a tag therefore reads like a
space (`DiceLedger.Transcript.TagScanner.feed_broken`), except where a space would part what belongs
together to the scanner: the bracket and the slash of a closing tag, and a name and what stands
right behind it (`DiceLedger.Transcript.TagScanner.feed_name_glued`).
-/

namespace DiceLedger

namespace Transcript

/-- Two texts of a tag that say the same, however the tag goes on. -/
def ReadAlike (tag other : List Char) : Prop :=
  ∀ rest, awaitsValue (tag ++ rest) = awaitsValue (other ++ rest) ∧
    ∀ element, depthStep? element (tag ++ rest) = depthStep? element (other ++ rest)

namespace ReadAlike

variable {tag other : List Char}

theorem refl (tag : List Char) : ReadAlike tag tag := fun _ => ⟨rfl, fun _ => rfl⟩

theorem append (alike : ReadAlike tag other) (rest : List Char) :
    ReadAlike (tag ++ rest) (other ++ rest) := by
  intro more
  rw [List.append_assoc, List.append_assoc]
  exact alike (rest ++ more)

/-- Texts that are read alike both await a value, or neither does. -/
theorem awaitsValue_eq (alike : ReadAlike tag other) : awaitsValue tag = awaitsValue other := by
  have now := (alike []).1
  rwa [List.append_nil, List.append_nil] at now

/-- Texts that are read alike change the depth alike. -/
theorem depthStep?_eq (alike : ReadAlike tag other) (element : String) :
    depthStep? element tag = depthStep? element other := by
  have now := (alike []).2 element
  rwa [List.append_nil, List.append_nil] at now

end ReadAlike

/-- Which of its states a scanner is in, whatever it holds of a tag. -/
inductive ScanKind where
  | outsideTag
  | insideTag
  | insideQuotedValue (quote : Char)
  deriving DecidableEq, Repr

def ScanState.kind : ScanState → ScanKind
  | outsideTag => .outsideTag
  | insideTag _ => .insideTag
  | insideQuotedValue _ quote => .insideQuotedValue quote

/-- The same state, but for texts of the tag that say the same. -/
inductive ScanState.Alike : ScanState → ScanState → Prop
  | outsideTag : Alike .outsideTag .outsideTag
  | insideTag {tag other : List Char} (text : ReadAlike tag other) :
      Alike (.insideTag tag) (.insideTag other)
  | insideQuotedValue {tag other : List Char} (text : ReadAlike tag other) (quote : Char) :
      Alike (.insideQuotedValue tag quote) (.insideQuotedValue other quote)

namespace ScanState.Alike

variable {state other : ScanState}

theorem refl (state : ScanState) : state.Alike state := by
  cases state with
  | outsideTag => exact .outsideTag
  | insideTag tag => exact .insideTag (.refl tag)
  | insideQuotedValue tag quote => exact .insideQuotedValue (.refl tag) quote

/-- States that are alike are of one kind. -/
theorem kind_eq (alike : state.Alike other) : state.kind = other.kind := by
  cases alike <;> rfl

end ScanState.Alike

namespace TagScanner

/-- Scanners that go on alike: they are of one element, at one depth, and in states that are
alike. -/
structure Alike (scanner other : TagScanner) : Prop where
  element : scanner.element = other.element
  depth : scanner.depth = other.depth
  state : scanner.state.Alike other.state

variable {scanner other : TagScanner}

/-- Tags that change the depth alike leave scanners alike. -/
theorem Alike.closeTag {tag text : List Char} (element : scanner.element = other.element)
    (depth : scanner.depth = other.depth)
    (step : depthStep? scanner.element tag = depthStep? scanner.element text) (stop : Nat) :
    (scanner.closeTag tag stop).1 = (other.closeTag text stop).1 ∧
      (scanner.closeTag tag stop).2.Alike (other.closeTag text stop).2 := by
  unfold TagScanner.closeTag
  rw [step, ← element, depth]
  cases depthStep? scanner.element text with
  | none => exact ⟨rfl, rfl, rfl, .outsideTag⟩
  | some delta => exact ⟨rfl, rfl, rfl, .outsideTag⟩

/-- Scanners that go on alike do so over any cluster. -/
theorem Alike.advance (alike : scanner.Alike other) (ignoreOpening : Bool) (cluster : List Char)
    (stop : Nat) :
    (scanner.advance ignoreOpening cluster stop).1 =
        (other.advance ignoreOpening cluster stop).1 ∧
      (scanner.advance ignoreOpening cluster stop).2.Alike
        (other.advance ignoreOpening cluster stop).2 := by
  obtain ⟨name, depth, state⟩ := scanner
  obtain ⟨_, _, second⟩ := other
  obtain ⟨rfl, rfl, state⟩ := alike
  cases state with
  | outsideTag => exact ⟨rfl, rfl, rfl, .refl _⟩
  | insideTag text =>
      dsimp only [TagScanner.advance]
      rw [text.awaitsValue_eq]
      split
      · split
        · exact ⟨rfl, rfl, rfl, .insideQuotedValue (text.append _) _⟩
        · exact ⟨rfl, rfl, rfl, .insideTag (text.append _)⟩
      · split
        · exact Alike.closeTag rfl rfl (text.depthStep?_eq _) stop
        · exact ⟨rfl, rfl, rfl, .insideTag (text.append _)⟩
  | insideQuotedValue text quote =>
      dsimp only [TagScanner.advance]
      split
      · exact ⟨rfl, rfl, rfl, .insideTag (text.append _)⟩
      · exact ⟨rfl, rfl, rfl, .insideQuotedValue text quote⟩

/-- Scanners that are alike make the same changes of all further clusters, and stay alike. -/
theorem Alike.advanceAll (clusters : List (List Char)) :
    ∀ {scanner other : TagScanner}, scanner.Alike other → ∀ start : Nat,
      (scanner.advanceAll false start clusters).1 = (other.advanceAll false start clusters).1 ∧
        (scanner.advanceAll false start clusters).2.Alike
          (other.advanceAll false start clusters).2 := by
  induction clusters with
  | nil => exact fun alike _ => ⟨rfl, alike⟩
  | cons cluster rest ih =>
      intro scanner other alike start
      obtain ⟨same, next⟩ := alike.advance false cluster (start + cluster.length)
      obtain ⟨later, last⟩ := ih next (start + cluster.length)
      rw [advanceAll_cons, advanceAll_cons, same]
      exact ⟨congrArg (_ ++ ·) later, last⟩

/-- What a scanner holds of a tag begins with the bracket, and values stand in quotes. -/
def Opened (scanner : TagScanner) : Prop :=
  match scanner.state with
  | .outsideTag => True
  | .insideTag tag => tag.head? = some '<'
  | .insideQuotedValue tag quote => tag.head? = some '<' ∧ Roll20.isQuote quote = true

/-- A cluster leaves every tag with its opening bracket. -/
theorem Opened.advance (opened : scanner.Opened) (ignoreOpening : Bool) (cluster : List Char)
    (stop : Nat) : (scanner.advance ignoreOpening cluster stop).2.Opened := by
  obtain ⟨element, depth, state⟩ := scanner
  have further {tag : List Char} (head : tag.head? = some '<') (rest : List Char) :
      (tag ++ rest).head? = some '<' := by rw [List.head?_append, head, Option.some_or]
  cases state with
  | outsideTag =>
      dsimp only [TagScanner.advance]
      split
      · exact rfl
      · exact opened
  | insideTag tag =>
      dsimp only [TagScanner.advance]
      split
      · next quote found =>
        split
        · exact ⟨further opened _, (Roll20.quote?_eq_some.mp found).2⟩
        · exact further opened _
      · split
        · rw [Opened, closeTag_outside]
          trivial
        · exact further opened _
  | insideQuotedValue tag quote =>
      dsimp only [TagScanner.advance]
      split
      · exact further opened.1 _
      · exact opened

/-- Clusters leave every tag with its opening bracket. -/
theorem Opened.advanceAll (clusters : List (List Char)) :
    ∀ {scanner : TagScanner}, scanner.Opened → ∀ (ignoreOpening : Bool) (start : Nat),
      (scanner.advanceAll ignoreOpening start clusters).2.Opened := by
  induction clusters with
  | nil => exact fun opened _ _ => opened
  | cons cluster rest ih =>
      intro scanner opened ignoreOpening start
      rw [advanceAll_cons]
      exact ih (opened.advance ignoreOpening cluster _) _ _

/-- A line leaves every tag with its opening bracket. -/
theorem Opened.feed (opened : scanner.Opened) (line : List Char) : (scanner.feed line).2.Opened :=
  opened.advanceAll (Text.clusters line) _ 0

/-- A scanner behind lines. -/
def after (scanner : TagScanner) (lines : List (List Char)) : TagScanner :=
  lines.foldl (fun scanner line => (scanner.feed line).2) scanner

/-- A scanner that has only been fed lines. -/
def Reached (scanner : TagScanner) : Prop := ∃ element lines, (new element).after lines = scanner

/-- A scanner that reads lines only has tags with an opening bracket. -/
theorem Reached.opened (reached : scanner.Reached) : scanner.Opened := by
  obtain ⟨element, lines, rfl⟩ := reached
  exact List.foldlRecOn lines _ trivial fun _ opened line _ => opened.feed line

/-- A line on which a scanner gets into a tag has an opening bracket. -/
theorem bracket_mem {front : List Char} (outside : scanner.state = .outsideTag)
    (inside : (scanner.feed front).2.state ≠ .outsideTag) : ['<'] ∈ Text.clusters front := by
  by_contra absent
  rw [feed, advanceAll_of_not_mem outside absent] at inside
  exact inside outside

/-- Whether a line with an opening bracket declares a title is settled up to there. -/
theorem startsWithTitle_of_bracket {front line : List Char} (bracket : ['<'] ∈ Text.clusters front)
    (begins : front <+: line) : startsWithTitle line = startsWithTitle front := by
  obtain ⟨before, behind, rfl⟩ := List.append_of_mem (Text.mem_of_singleton_mem_clusters bracket)
  obtain ⟨rest, rfl⟩ := begins
  rw [List.append_assoc, List.cons_append, startsWithTitle_append_bracket,
    startsWithTitle_append_bracket]

/-- What a line begins with is read as on a line of its own: a title of the whole line matters to it
only if it has an opening bracket, and then the title stands before that. -/
theorem advanceAll_ignoresOn {front line : List Char} (begins : front <+: line) :
    scanner.advanceAll (scanner.ignoresOn line) 0 (Text.clusters front) = scanner.feed front := by
  by_cases outside : scanner.state = .outsideTag
  · by_cases bracket : ['<'] ∈ Text.clusters front
    · rw [ignoresOn, startsWithTitle_of_bracket bracket begins]
      rfl
    · rw [feed, advanceAll_of_not_mem outside bracket, advanceAll_of_not_mem outside bracket]
  · rw [ignoresOn_of_inside outside, ← ignoresOn_of_inside outside front]
    rfl

/-- **What a scanner carries from what a line begins with to the rest of it**: all that it carries
to a next line, and whether an opening bracket is still to be passed over. -/
theorem feed_eq_append {front line : List Char} {back : List (List Char)}
    (begins : front <+: line) (cut : Text.clusters line = Text.clusters front ++ back) :
    scanner.feed line =
      ((scanner.feed front).1 ++
          ((scanner.feed front).2.advanceAll
            (scanner.ignoresOn line && ['<'] ∉ Text.clusters front) 0 back).1.map
              (·.further front.length),
        ((scanner.feed front).2.advanceAll
          (scanner.ignoresOn line && ['<'] ∉ Text.clusters front) 0 back).2) := by
  have whole : scanner.feed line =
      scanner.advanceAll (scanner.ignoresOn line) 0 (Text.clusters front ++ back) := by
    rw [← cut]
    rfl
  rw [whole, advanceAll_append _ outside_of_ignoresOn, advanceAll_ignoresOn begins,
    Text.flatten_clusters, advanceAll_further]

/-- A line that begins with one that ends within a tag is read like it, and on from there. -/
theorem feed_of_clusters {front line : List Char} {back : List (List Char)}
    (inside : (scanner.feed front).2.state ≠ .outsideTag)
    (begins : front <+: line) (cut : Text.clusters line = Text.clusters front ++ back) :
    scanner.feed line =
      ((scanner.feed front).1 ++ ((scanner.feed front).2.advanceAll false 0 back).1.map
          (·.further front.length),
        ((scanner.feed front).2.advanceAll false 0 back).2) := by
  -- A bracket that is to be passed over stands on the front.
  have passed : (scanner.ignoresOn line && ['<'] ∉ Text.clusters front : Bool) = false := by
    by_cases outside : scanner.state = .outsideTag
    · rw [decide_eq_false (not_not_intro (bracket_mem outside inside)), Bool.and_false]
    · rw [ignoresOn_of_inside outside, Bool.false_and]
  rw [feed_eq_append begins cut, passed]

/-- **What a scanner holds of a tag goes on with the next line**, as if nothing stood between the
two lines. -/
theorem feed_unbroken {front back : List Char}
    (inside : (scanner.feed front).2.state ≠ .outsideTag)
    (apart : Text.clusters (front ++ back) = Text.clusters front ++ Text.clusters back) :
    scanner.feed (front ++ back) =
      ((scanner.feed front).1 ++
          ((scanner.feed front).2.feed back).1.map (·.further front.length),
        ((scanner.feed front).2.feed back).2) := by
  rw [feed_of_clusters inside (List.prefix_append front back) apart, feed_of_inside inside]

/-- Behind a space a tag goes on like right away, unless the space parts what it goes on with from
what it ends in. -/
theorem Alike.space (element : String) (depth : Int) {tag cluster : List Char} {c : Char}
    (opened : tag.head? = some '<') (first : cluster.head? = some c)
    (unglued : gluesTo tag c = false) (stop : Nat) :
    ((TagScanner.mk element depth (.insideTag (tag ++ [' ']))).advance false cluster stop).1 =
        ((TagScanner.mk element depth (.insideTag tag)).advance false cluster stop).1 ∧
      ((TagScanner.mk element depth (.insideTag (tag ++ [' ']))).advance false cluster stop).2.Alike
        ((TagScanner.mk element depth (.insideTag tag)).advance false cluster stop).2 := by
  have alike : ReadAlike (tag ++ [' '] ++ cluster) (tag ++ cluster) := by
    intro rest
    have apart : (cluster ++ rest).head?.any (gluesTo tag) = false := by
      rw [List.head?_append, first]
      exact unglued
    rw [List.append_assoc, List.append_assoc, List.append_assoc]
    exact ⟨awaitsValue_space tag _, fun element => depthStep?_space element opened apart⟩
  have awaits : awaitsValue (tag ++ [' ']) = awaitsValue tag := by
    rw [awaitsValue_space, List.append_nil]
  dsimp only [TagScanner.advance]
  rw [awaits]
  split
  · next quote found =>
    obtain ⟨rfl, _⟩ := Roll20.quote?_eq_some.mp found
    split
    · exact ⟨rfl, rfl, rfl, .insideQuotedValue alike quote⟩
    · exact ⟨rfl, rfl, rfl, .insideTag alike⟩
  · split
    · refine Alike.closeTag rfl rfl ?_ stop
      rw [depthStep?_space element opened rfl, List.append_nil]
    · exact ⟨rfl, rfl, rfl, .insideTag alike⟩

/-- Within a tag a line with a space before it is read like the line. -/
theorem advanceAll_space (opened : scanner.Opened) (inside : scanner.state ≠ .outsideTag)
    {back : List Char}
    (unglued : ∀ tag, scanner.state = .insideTag tag → back.head?.any (gluesTo tag) = false) :
    (scanner.advanceAll false 0 ([' '] :: Text.clusters back)).1 =
        (scanner.feed back).1.map (·.further 1) ∧
      (scanner.advanceAll false 0 ([' '] :: Text.clusters back)).2.depth =
        (scanner.feed back).2.depth ∧
      (scanner.advanceAll false 0 ([' '] :: Text.clusters back)).2.state.kind =
        (scanner.feed back).2.state.kind := by
  rw [feed_of_inside inside]
  obtain ⟨element, depth, state⟩ := scanner
  cases state with
  | outsideTag => exact absurd rfl inside
  | insideTag tag =>
      have step : (TagScanner.mk element depth (.insideTag tag)).advance false [' '] 0 =
          (none, ⟨element, depth, .insideTag (tag ++ [' '])⟩) := rfl
      rw [advanceAll_of_none step, List.length_singleton, advanceAll_further]
      cases back with
      | nil =>
          -- The tags differ by the space, but they end alike.
          exact ⟨rfl, rfl, rfl⟩
      | cons c back =>
          obtain ⟨cluster, head, first⟩ :=
            Option.bind_eq_some_iff.mp (Text.head?_clusters (c :: back))
          obtain ⟨rest, cut⟩ := List.head?_eq_some_iff.mp head
          obtain ⟨same, next⟩ := Alike.space element depth opened first (unglued tag rfl)
            (0 + cluster.length)
          obtain ⟨later, last⟩ := next.advanceAll rest (0 + cluster.length)
          rw [cut, advanceAll_cons, advanceAll_cons, same]
          exact ⟨congrArg (fun changes => List.map _ (_ ++ changes)) later, last.depth,
            last.state.kind_eq⟩
  | insideQuotedValue tag quote =>
      have other : [' '] ≠ [quote] := by
        rintro same
        obtain rfl := (List.cons.inj same).1
        exact absurd opened.2 (by decide)
      have step : (TagScanner.mk element depth (.insideQuotedValue tag quote)).advance false
          [' '] 0 = (none, ⟨element, depth, .insideQuotedValue tag quote⟩) := if_neg other
      rw [advanceAll_of_none step, List.length_singleton, advanceAll_further]
      exact ⟨rfl, rfl, rfl⟩

/-- **A line break within a tag is read like a space**: a scanner that lines have led within a tag
makes the same changes of depth of the next line, and ends at the same depth and in the same
state, unless the space would part what the next line begins with from what the tag ends in. -/
theorem feed_broken (reached : scanner.Reached) {front back : List Char}
    (inside : (scanner.feed front).2.state ≠ .outsideTag)
    (apart : Text.clusters (front ++ ' ' :: back) =
      Text.clusters front ++ [' '] :: Text.clusters back)
    (unglued : ∀ tag, (scanner.feed front).2.state = .insideTag tag →
      back.head?.any (gluesTo tag) = false) :
    (scanner.feed (front ++ ' ' :: back)).1 =
        (scanner.feed front).1 ++
          ((scanner.feed front).2.feed back).1.map (·.further (front.length + 1)) ∧
      (scanner.feed (front ++ ' ' :: back)).2.depth =
        ((scanner.feed front).2.feed back).2.depth ∧
      (scanner.feed (front ++ ' ' :: back)).2.state.kind =
        ((scanner.feed front).2.feed back).2.state.kind := by
  obtain ⟨changes, depth, kind⟩ := advanceAll_space (reached.opened.feed front) inside unglued
  rw [feed_of_clusters inside (List.prefix_append _ _) apart, changes, List.map_map]
  refine ⟨congrArg (_ ++ ·) (List.map_congr_left fun change _ => ?_), depth, kind⟩
  exact congrArg (DepthChange.mk · _ _) (by simp only [DepthChange.further]; omega)

/-- A line break between two attributes. -/
theorem feed_broken_attributes :
    (((new "div").feed "<div class=\"a\"".toList).2.feed "id=\"b\">".toList).1 = [⟨7, -1, 0⟩] ∧
      ((new "div").feed "<div class=\"a\" id=\"b\">".toList).1 = [⟨22, -1, 0⟩] := by
  have later : (((new "div").feed "<div class=\"a\"".toList).2.feed "id=\"b\">".toList).1 =
      [⟨7, -1, 0⟩] := by decide +kernel
  have held : ((new "div").feed "<div class=\"a\"".toList).2.state =
      .insideTag "<div class=\"\"".toList := by decide +kernel
  have broken := (@feed_broken (new "div") ⟨"div", [], rfl⟩ "<div class=\"a\"".toList
    "id=\"b\">".toList (by rw [held]; exact ScanState.noConfusion) (by decide +kernel)
    fun tag same => by
      obtain rfl := ScanState.insideTag.inj (held.symm.trans same)
      decide).1
  rw [later] at broken
  exact ⟨later, broken⟩

/-- A line break right behind a name: with a space there the tag opens a `div`, without it the
name goes on with the next line. -/
theorem feed_name_glued :
    ((new "div").feed "<div".toList).2.state = .insideTag "<div".toList ∧
      Text.clusters "<div class=\"x\">".toList =
        Text.clusters "<div".toList ++ [' '] :: Text.clusters "class=\"x\">".toList ∧
      ((new "div").feed "<div class=\"x\">".toList).1 = [⟨15, -1, 0⟩] ∧
      ((new "div").feed "<div".toList).1 = [] ∧
      (((new "div").feed "<div".toList).2.feed "class=\"x\">".toList).1 = [] := by
  decide +kernel

end TagScanner

end Transcript

end DiceLedger
