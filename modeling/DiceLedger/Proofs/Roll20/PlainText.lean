import DiceLedger.Proofs.Roll20.TagCutting
import DiceLedger.Proofs.Text.Boundaries
import DiceLedger.Proofs.Transcript.Scanning
import Mathlib.Data.List.Chain

/-! # Text between tags

Text without opening brackets changes nothing for a scanner: a line of tags with such texts
between them makes the changes of depth that the tags make alone, each further along by the texts
before it (`DiceLedger.Transcript.Roll20.feed_texts`). This needs every sign of a tag to stand apart
from its neighbours, for a scanner takes no notice of a bracket with a mark behind it
(`DiceLedger.Transcript.Roll20.feed_mark_joined`).
-/

namespace DiceLedger

namespace Transcript

namespace Roll20

/-- Neighbours on a line of which neither joins the other if that is a sign: no mark stands right
behind a sign, and no prepended character right before one. -/
def Glyph.Apart (glyph next : Glyph) : Prop :=
  (glyph.place = .sign → Text.isMark next.char = false) ∧
    (next.place = .sign → Text.isPrepended glyph.char = false)

instance : DecidableRel Glyph.Apart := fun _ _ => inferInstanceAs (Decidable (_ ∧ _))

/-- Signs are plain characters. -/
theorem plain_of_sign {c : Char} (sign : isSign c = true) : Text.Plain c := by
  have cases : c = '<' ∨ c = '>' ∨ c = '"' ∨ c = '\'' := by
    simpa [isSign, isQuote, or_assoc] using sign
  rcases cases with rfl | rfl | rfl | rfl <;> exact ⟨by decide, by decide, by decide⟩

/-- A sign apart from its neighbours is a cluster of its own. -/
theorem clusters_sign {front back : List Glyph} {s : Char} (sign : isSign s = true)
    (apart : (front ++ ⟨s, .sign⟩ :: back).IsChain Glyph.Apart) :
    Text.clusters ((front ++ ⟨s, .sign⟩ :: back).map Glyph.char) =
      Text.clusters (front.map Glyph.char) ++ [s] :: Text.clusters (back.map Glyph.char) := by
  obtain ⟨_, behind, before⟩ := List.isChain_append.mp apart
  have noPrepended : ∀ c ∈ (front.map Glyph.char).getLast?, Text.isPrepended c = false := by
    intro c ended
    rw [List.getLast?_map] at ended
    obtain ⟨glyph, last, rfl⟩ := Option.map_eq_some_iff.mp ended
    exact (before glyph last _ rfl).2 rfl
  have noMark : ∀ c ∈ (back.map Glyph.char).head?, Text.isMark c = false := by
    intro c begun
    rw [List.head?_map] at begun
    obtain ⟨glyph, first, rfl⟩ := Option.map_eq_some_iff.mp begun
    obtain ⟨rest, rfl⟩ := List.head?_eq_some_iff.mp first
    exact (List.isChain_cons_cons.mp behind).1.1 rfl
  rw [List.map_append, List.map_cons, Text.clusters_append_plain (plain_of_sign sign) noPrepended,
    Text.clusters_cons_plain (plain_of_sign sign) noMark]

/-- A sign that stands apart is a cluster of its own. -/
theorem clusters_sign_cons {back : List Glyph} {s : Char} (sign : isSign s = true)
    (apart : (⟨s, .sign⟩ :: back).IsChain Glyph.Apart) :
    Text.clusters ((⟨s, .sign⟩ :: back).map Glyph.char) =
      [s] :: Text.clusters (back.map Glyph.char) :=
  @clusters_sign [] back s sign apart

/-- A scanner gets over clusters without a change of depth. -/
def Quiet (scanner : TagScanner) (clusters : List (List Char)) (next : TagScanner) : Prop :=
  ∀ start, scanner.advanceAll false start clusters = ([], next)

namespace Quiet

variable {scanner middle next : TagScanner} {front back : List (List Char)}

/-- A cluster that changes no depth, in front of others that change none. -/
theorem cons {cluster : List Char} (step : scanner.advance false cluster 0 = (none, middle))
    (rest : Quiet middle back next) : Quiet scanner (cluster :: back) next := by
  intro start
  rw [TagScanner.advanceAll_of_none step, rest]

/-- Scanning goes on behind such clusters. -/
theorem append_eq (quiet : Quiet scanner front middle) (start : Nat) (back : List (List Char)) :
    scanner.advanceAll false start (front ++ back) =
      middle.advanceAll false (start + front.flatten.length) back := by
  rw [TagScanner.advanceAll_append front (fun ignores => Bool.noConfusion ignores), quiet,
    Bool.false_and, List.nil_append]

/-- Clusters that change no depth may stand one behind another. -/
theorem append (quiet : Quiet scanner front middle) (rest : Quiet middle back next) :
    Quiet scanner (front ++ back) next := by
  intro start
  rw [quiet.append_eq, rest]

end Quiet

section Inside

variable {element : String} {depth : Int} {tag : List Char}

/-- Within a value only its quote matters. -/
theorem quiet_value {quote : Char} {clusters : List (List Char)} (absent : [quote] ∉ clusters) :
    Quiet ⟨element, depth, .insideQuotedValue tag quote⟩ clusters
      ⟨element, depth, .insideQuotedValue tag quote⟩ := by
  induction clusters with
  | nil => exact fun _ => rfl
  | cons cluster rest ih =>
      rw [List.mem_cons, not_or] at absent
      exact Quiet.cons (if_neg (Ne.symm absent.1)) (ih absent.2)

/-- What is collected ends in the last sign of the characters that are added. -/
theorem Ends.run (chars : List Char) :
    ∀ {tag : List Char} {before : Char}, Ends tag before →
      Ends (tag ++ chars) (lastSign before (chars.map .bare)) := by
  induction chars with
  | nil =>
      intro tag before ends
      rwa [List.append_nil]
  | cons c rest ih =>
      intro tag before ends
      have further := ih (ends.bare c)
      rwa [List.append_assoc, List.singleton_append] at further

/-- Parts are well quoted if the first are, and the others behind them. -/
theorem wellQuoted_append (front back : List TagPart) :
    ∀ before : Char, wellQuoted before (front ++ back) =
      (wellQuoted before front && wellQuoted (lastSign before front) back) := by
  induction front with
  | nil => exact fun before => (Bool.true_and _).symm
  | cons part front ih =>
      intro before
      rw [List.cons_append, wellQuoted, wellQuoted, ih, lastSign, Bool.and_assoc]

/-- Bare characters are collected: none of them ends the tag, and no quote of them begins a
value. -/
theorem advance_run {before : Char} (ends : Ends tag before) {cluster : List Char}
    (quoted : wellQuoted before (cluster.map .bare) = true) :
    (TagScanner.mk element depth (.insideTag tag)).advance false cluster 0 =
      (none, ⟨element, depth, .insideTag (tag ++ cluster)⟩) := by
  dsimp only [TagScanner.advance]
  split
  · next quote found =>
    obtain ⟨rfl, isQuote⟩ := quote?_eq_some.mp found
    obtain ⟨_, other⟩ : quote ≠ '>' ∧ before ≠ '=' := by
      simpa [wellQuoted, TagPart.proper, isQuote] using quoted
    rw [ends.awaitsValue, decide_eq_false other]
    rfl
  · rw [if_neg]
    rintro rfl
    cases quoted

/-- Characters without quotes change no depth within a tag. -/
theorem quiet_bare (clusters : List (List Char)) :
    ∀ {tag : List Char} {before : Char}, Ends tag before →
      wellQuoted before (clusters.flatten.map .bare) = true →
      Quiet ⟨element, depth, .insideTag tag⟩ clusters
        ⟨element, depth, .insideTag (tag ++ clusters.flatten)⟩ := by
  induction clusters with
  | nil =>
      intro tag before _ _ start
      rw [List.flatten_nil, List.append_nil]
      rfl
  | cons cluster rest ih =>
      intro tag before ends quoted
      rw [List.flatten_cons, List.map_append, wellQuoted_append, Bool.and_eq_true] at quoted
      have step : (TagScanner.mk element depth (.insideTag tag)).advance false cluster 0 =
          (none, ⟨element, depth, .insideTag (tag ++ cluster)⟩) :=
        advance_run ends quoted.1
      rw [List.flatten_cons, ← List.append_assoc]
      exact Quiet.cons step (ih (ends.run cluster) quoted.2)

/-- Outside of values a scanner collects what stands in a tag. -/
theorem quiet_run {before : Char} {run : List Char} (ends : Ends tag before)
    (quoted : wellQuoted before (run.map .bare) = true) :
    Quiet ⟨element, depth, .insideTag tag⟩ (Text.clusters run)
      ⟨element, depth, .insideTag (tag ++ run)⟩ := by
  have whole := Text.flatten_clusters run
  have quiet := @quiet_bare element depth (Text.clusters run) tag before ends (by rwa [whole])
  rwa [whole] at quiet

/-- A value passes with its quotes. -/
theorem quiet_quoted {before quote : Char} {value : List Char} (ends : Ends tag before)
    (proper : (TagPart.quoted quote value).proper before = true) :
    Quiet ⟨element, depth, .insideTag tag⟩ ([quote] :: (Text.clusters value ++ [[quote]]))
      ⟨element, depth, .insideTag (tag ++ [quote, quote])⟩ := by
  simp only [TagPart.proper, Bool.and_eq_true, decide_eq_true_eq, Bool.not_eq_true'] at proper
  obtain ⟨⟨equals, isQuote⟩, other⟩ := proper
  have opens : (TagScanner.mk element depth (.insideTag tag)).advance false [quote] 0 =
      (none, ⟨element, depth, .insideQuotedValue (tag ++ [quote]) quote⟩) := by
    have found := quote?_eq_some.mpr ⟨rfl, isQuote⟩
    have awaits : awaitsValue tag = true := by rw [ends.awaitsValue, decide_eq_true equals]
    simp only [TagScanner.advance, found, awaits, ↓reduceIte]
  have closes : (TagScanner.mk element depth (.insideQuotedValue (tag ++ [quote]) quote)).advance
      false [quote] 0 = (none, ⟨element, depth, .insideTag (tag ++ [quote, quote])⟩) := by
    simp only [TagScanner.advance, ↓reduceIte, List.append_assoc, List.singleton_append]
  have absent : [quote] ∉ Text.clusters value := by
    intro member
    simp [Text.mem_of_singleton_mem_clusters member] at other
  exact Quiet.cons opens ((quiet_value absent).append (Quiet.cons closes fun _ => rfl))

/-- What a part adds to the text of its tag: all of it but the content of a value. -/
def TagPart.kept : TagPart → List Char
  | bare c => [c]
  | quoted quote _ => [quote, quote]

/-- Over parts of a tag a scanner adds to its text what they add, also when bare characters stand
before them. -/
theorem quiet_parts (parts : List TagPart) :
    ∀ {run tag : List Char} {before : Char}, Ends tag before →
      wellQuoted before (run.map .bare ++ parts) = true →
      (Glyph.at .within run ++ parts.flatMap TagPart.glyphs).IsChain Glyph.Apart →
      Quiet ⟨element, depth, .insideTag tag⟩
        (Text.clusters ((Glyph.at .within run ++ parts.flatMap TagPart.glyphs).map Glyph.char))
        ⟨element, depth, .insideTag (tag ++ run ++ parts.flatMap TagPart.kept)⟩ := by
  induction parts with
  | nil =>
      intro run tag before ends quoted _
      rw [List.append_nil] at quoted
      rw [List.flatMap_nil, List.flatMap_nil, List.append_nil, List.append_nil,
        Glyph.map_char_at]
      exact quiet_run ends quoted
  | cons part parts ih =>
      intro run tag before ends quoted apart
      cases part with
      | bare c =>
          -- The character is one more of those that stand before the parts.
          have glyphs : Glyph.at .within run ++ (TagPart.bare c :: parts).flatMap TagPart.glyphs =
              Glyph.at .within (run ++ [c]) ++ parts.flatMap TagPart.glyphs := by
            simp only [Glyph.at, List.flatMap_cons, TagPart.glyphs, List.map_append,
              List.append_assoc, List.map_cons, List.map_nil]
          rw [glyphs] at apart ⊢
          have later := ih ends (by simpa using quoted) apart
          simpa [TagPart.kept] using later
      | quoted quote value =>
          rw [wellQuoted_append, wellQuoted, Bool.and_eq_true, Bool.and_eq_true] at quoted
          obtain ⟨front, proper, further⟩ := quoted
          have sign : isSign quote = true := by
            simp only [TagPart.proper, Bool.and_eq_true] at proper
            rw [isSign, proper.1.2, Bool.or_true]
          have glyphs : Glyph.at .within run ++
              (TagPart.quoted quote value :: parts).flatMap TagPart.glyphs =
                Glyph.at .within run ++ ⟨quote, .sign⟩ :: (Glyph.at .within value ++
                  ⟨quote, .sign⟩ :: parts.flatMap TagPart.glyphs) := by
            simp only [List.flatMap_cons, TagPart.glyphs, List.cons_append, List.append_assoc,
              List.nil_append]
          rw [glyphs] at apart ⊢
          have inner := (List.isChain_append.mp apart).2.1.tail
          have behind := (List.isChain_append.mp inner).2.1.tail
          have ended : Ends (tag ++ run ++ [quote, quote]) quote := (ends.run run).part proper
          have later := @ih [] _ _ ended further behind
          rw [clusters_sign sign apart, clusters_sign sign inner, Glyph.map_char_at,
            Glyph.map_char_at]
          have quiet := ((quiet_run ends front).append
            (quiet_quoted (ends.run run) proper)).append later
          simpa [TagPart.kept] using quiet

end Inside

/-- What stands between the brackets of a tag, of whatever element. -/
structure AnyTag where
  parts : List TagPart
  quoted : wellQuoted '<' parts = true

namespace AnyTag

def glyphs (tag : AnyTag) : List Glyph :=
  ⟨'<', .sign⟩ :: (tag.parts.flatMap TagPart.glyphs ++ [⟨'>', .sign⟩])

/-- A tag ends with its bracket. -/
theorem getLast?_glyphs (tag : AnyTag) : tag.glyphs.getLast? = some ⟨'>', .sign⟩ := by
  rw [glyphs, ← List.cons_append, List.getLast?_concat]

/-- What a scanner holds of a tag at its closing bracket. -/
def kept (tag : AnyTag) : List Char := '<' :: tag.parts.flatMap TagPart.kept

end AnyTag

/-- A tag, and the text before it back to the tag before that. -/
structure Piece where
  text : List Char
  tag : AnyTag

def Piece.glyphs (piece : Piece) : List Glyph := Glyph.at .text piece.text ++ piece.tag.glyphs

/-- A line of tags with texts before, between and behind them. -/
def lineOf (pieces : List Piece) (last : List Char) : List Glyph :=
  pieces.flatMap Piece.glyphs ++ Glyph.at .text last

/-- The tags of a line alone. -/
def tagsOf (pieces : List Piece) : List Glyph := pieces.flatMap (·.tag.glyphs)

/-- The length of the texts before the tag that ends at a place of the line of the tags alone. -/
def textBefore : List Piece → Nat → Nat
  | [], _ => 0
  | piece :: rest, stop =>
    if stop = 0 then 0 else piece.text.length + textBefore rest (stop - piece.tag.glyphs.length)

/-- Behind a tag clusters begin anew. -/
theorem clusters_tag_append (tag : AnyTag) {rest : List Glyph}
    (apart : (tag.glyphs ++ rest).IsChain Glyph.Apart) :
    Text.clusters ((tag.glyphs ++ rest).map Glyph.char) =
      Text.clusters (tag.glyphs.map Glyph.char) ++ Text.clusters (rest.map Glyph.char) := by
  have alone := (List.isChain_append.mp apart).1
  have whole : tag.glyphs ++ rest =
      (⟨'<', .sign⟩ :: tag.parts.flatMap TagPart.glyphs) ++ ⟨'>', .sign⟩ :: rest := by
    simp only [AnyTag.glyphs, List.cons_append, List.append_assoc, List.nil_append]
  have ended : tag.glyphs =
      (⟨'<', .sign⟩ :: tag.parts.flatMap TagPart.glyphs) ++ ⟨'>', .sign⟩ :: [] := rfl
  rw [whole] at apart ⊢
  rw [ended] at alone ⊢
  rw [clusters_sign rfl apart, clusters_sign rfl alone, List.append_assoc]
  rfl

/-- In front of a tag clusters begin anew. -/
theorem clusters_append_tag (text : List Char) (tag : AnyTag) {rest : List Glyph}
    (apart : (Glyph.at .text text ++ (tag.glyphs ++ rest)).IsChain Glyph.Apart) :
    Text.clusters ((Glyph.at .text text ++ (tag.glyphs ++ rest)).map Glyph.char) =
      Text.clusters text ++ Text.clusters ((tag.glyphs ++ rest).map Glyph.char) := by
  have alone := (List.isChain_append.mp apart).2.1
  rw [AnyTag.glyphs, List.cons_append] at apart alone ⊢
  rw [clusters_sign rfl apart, Glyph.map_char_at, clusters_sign_cons rfl alone]

/-- A scanner comes to the end of a tag with what it keeps of it. -/
theorem advanceAll_tag {scanner : TagScanner} (outside : scanner.state = .outsideTag)
    (tag : AnyTag) (apart : tag.glyphs.IsChain Glyph.Apart) (start : Nat) :
    scanner.advanceAll false start (Text.clusters (tag.glyphs.map Glyph.char)) =
      ((scanner.closeTag tag.kept (start + tag.glyphs.length)).1.toList,
        (scanner.closeTag tag.kept (start + tag.glyphs.length)).2) := by
  obtain ⟨element, depth, _⟩ := scanner
  obtain rfl := outside
  have opened : Ends ['<'] '<' := Ends.concat (by decide) []
  have inner := apart.tail
  have quiet := @quiet_parts element depth tag.parts [] _ _ opened tag.quoted
    (List.isChain_append.mp inner).1
  have upTo : Quiet ⟨element, depth, .outsideTag⟩
      (['<'] :: Text.clusters ((tag.parts.flatMap TagPart.glyphs).map Glyph.char))
      ⟨element, depth, .insideTag tag.kept⟩ := Quiet.cons rfl quiet
  have cut : Text.clusters (tag.glyphs.map Glyph.char) =
      (['<'] :: Text.clusters ((tag.parts.flatMap TagPart.glyphs).map Glyph.char)) ++ [['>']] := by
    rw [AnyTag.glyphs, clusters_sign_cons rfl apart, clusters_sign rfl inner]
    rfl
  have length : start + (['<'] :: Text.clusters ((tag.parts.flatMap TagPart.glyphs).map
      Glyph.char)).flatten.length + ['>'].length = start + tag.glyphs.length := by
    rw [List.flatten_cons, Text.flatten_clusters, AnyTag.glyphs]
    simp only [List.length_append, List.length_cons, List.length_nil, List.length_map]
    omega
  rw [cut, upTo.append_eq, TagScanner.advanceAll_cons, length]
  exact Prod.ext (List.append_nil _) rfl

/-- Outside of tags only an opening bracket matters. -/
theorem quiet_text {scanner : TagScanner} (outside : scanner.state = .outsideTag)
    {text : List Char} (plain : '<' ∉ text) : Quiet scanner (Text.clusters text) scanner :=
  TagScanner.advanceAll_of_not_mem outside (mt Text.mem_of_singleton_mem_clusters plain) false

theorem lineOf_cons (piece : Piece) (rest : List Piece) (last : List Char) :
    lineOf (piece :: rest) last =
      Glyph.at .text piece.text ++ (piece.tag.glyphs ++ lineOf rest last) := by
  simp only [lineOf, List.flatMap_cons, Piece.glyphs, List.append_assoc]

theorem tagsOf_cons (piece : Piece) (rest : List Piece) :
    tagsOf (piece :: rest) = piece.tag.glyphs ++ tagsOf rest := rfl

/-- Tags stand apart from each other. -/
theorem isChain_tagsOf {pieces : List Piece} {last : List Char}
    (apart : (lineOf pieces last).IsChain Glyph.Apart) : (tagsOf pieces).IsChain Glyph.Apart := by
  induction pieces with
  | nil => exact .nil
  | cons piece rest ih =>
      rw [lineOf_cons] at apart
      obtain ⟨tag, behind, _⟩ := List.isChain_append.mp (List.isChain_append.mp apart).2.1
      refine List.isChain_append.mpr ⟨tag, ih behind, fun glyph ended next begun => ?_⟩
      obtain rfl : glyph = ⟨'>', .sign⟩ :=
        Option.some.inj (ended.symm.trans (AnyTag.getLast?_glyphs _))
      cases rest with
      | nil => cases begun
      | cons other rest =>
          obtain rfl : ⟨'<', .sign⟩ = next := Option.some.inj begun
          decide

/-- A tag is closed at its end, and what follows is read from there on. -/
theorem advanceAll_tag_append {scanner : TagScanner} (outside : scanner.state = .outsideTag)
    (tag : AnyTag) {rest : List Glyph} (apart : (tag.glyphs ++ rest).IsChain Glyph.Apart) :
    scanner.advanceAll false 0 (Text.clusters ((tag.glyphs ++ rest).map Glyph.char)) =
      ((scanner.closeTag tag.kept tag.glyphs.length).1.toList ++
          ((scanner.closeTag tag.kept tag.glyphs.length).2.advanceAll false 0
            (Text.clusters (rest.map Glyph.char))).1.map (·.further tag.glyphs.length),
        ((scanner.closeTag tag.kept tag.glyphs.length).2.advanceAll false 0
          (Text.clusters (rest.map Glyph.char))).2) := by
  rw [clusters_tag_append tag apart,
    TagScanner.advanceAll_append _ (fun ignores => Bool.noConfusion ignores),
    advanceAll_tag outside tag (List.isChain_append.mp apart).1, Bool.false_and,
    Text.flatten_clusters, List.length_map, TagScanner.advanceAll_further, Nat.zero_add]

theorem textBefore_zero (pieces : List Piece) : textBefore pieces 0 = 0 := by
  cases pieces <;> rfl

/-- Before the end of the first tag, and of any other, stands the first text. -/
theorem textBefore_cons (piece : Piece) (rest : List Piece) (stop : Nat) :
    textBefore (piece :: rest) (stop + piece.tag.glyphs.length) =
      piece.text.length + textBefore rest stop := by
  have long : piece.tag.glyphs.length ≠ 0 := Nat.succ_ne_zero _
  rw [textBefore, if_neg (by omega), Nat.add_sub_cancel]

/-- The changes that a first tag and the tags behind it make of a line, further along by the texts
before them. -/
theorem map_textBefore (piece : Piece) (rest : List Piece) (first : Option DepthChange)
    (stop : ∀ change, first = some change → change.stop = piece.tag.glyphs.length)
    (changes : List DepthChange) :
    (first.toList ++
        (changes.map fun change => change.further (textBefore rest change.stop)).map
          (·.further piece.tag.glyphs.length)).map (·.further piece.text.length) =
      (first.toList ++ changes.map (·.further piece.tag.glyphs.length)).map fun change =>
        change.further (textBefore (piece :: rest) change.stop) := by
  rw [List.map_append, List.map_append, List.map_map, List.map_map, List.map_map]
  refine congrArg₂ (· ++ ·) ?_ (List.map_congr_left fun change _ => ?_)
  · cases first with
    | none => rfl
    | some change =>
        have before := textBefore_cons piece rest 0
        rw [textBefore_zero, Nat.zero_add, ← stop change rfl] at before
        simp only [Option.toList_some, List.map_cons, List.map_nil, before, Nat.add_zero]
  · simp only [Function.comp_apply, DepthChange.further, textBefore_cons, DepthChange.mk.injEq,
      and_self, and_true]
    omega

/-- Outside of tags a scanner makes of a line what it makes of the tags of the line alone, each
change further along by the texts before it, and it ends outside of tags. -/
theorem advanceAll_lineOf (pieces : List Piece) {last : List Char} (plainLast : '<' ∉ last) :
    ∀ {scanner : TagScanner}, scanner.state = .outsideTag →
      (∀ piece ∈ pieces, '<' ∉ piece.text) → (lineOf pieces last).IsChain Glyph.Apart →
      scanner.advanceAll false 0 (Text.clusters ((lineOf pieces last).map Glyph.char)) =
          ((scanner.advanceAll false 0 (Text.clusters ((tagsOf pieces).map Glyph.char))).1.map
              fun change => change.further (textBefore pieces change.stop),
            (scanner.advanceAll false 0 (Text.clusters ((tagsOf pieces).map Glyph.char))).2) ∧
        (scanner.advanceAll false 0
          (Text.clusters ((tagsOf pieces).map Glyph.char))).2.state = .outsideTag := by
  induction pieces with
  | nil =>
      intro scanner outside _ _
      have quiet := quiet_text outside plainLast 0
      rw [lineOf, List.flatMap_nil, List.nil_append, Glyph.map_char_at, quiet]
      exact ⟨rfl, outside⟩
  | cons piece rest ih =>
      intro scanner outside plain apart
      have alone := isChain_tagsOf apart
      rw [tagsOf_cons] at alone
      rw [lineOf_cons] at apart ⊢
      have behind := (List.isChain_append.mp apart).2.1
      have closed : (scanner.closeTag piece.tag.kept piece.tag.glyphs.length).2.state =
          .outsideTag := scanner.closeTag_outside _ _
      -- Behind the first tag both lines are read from its end on, by the same scanner.
      obtain ⟨same, ended⟩ := ih closed
        (fun other member => plain other (List.mem_cons_of_mem _ member))
        (List.isChain_append.mp behind).2.1
      rw [clusters_append_tag _ _ apart,
        (quiet_text outside (plain piece List.mem_cons_self)).append_eq,
        Text.flatten_clusters, TagScanner.advanceAll_further,
        advanceAll_tag_append outside piece.tag behind, same, tagsOf_cons,
        advanceAll_tag_append outside piece.tag alone]
      have further := map_textBefore piece rest
        (scanner.closeTag piece.tag.kept piece.tag.glyphs.length).1
        (fun _ => TagScanner.closeTag_stop)
        ((scanner.closeTag piece.tag.kept piece.tag.glyphs.length).2.advanceAll false 0
          (Text.clusters ((tagsOf rest).map Glyph.char))).1
      exact ⟨Prod.ext further rfl, ended⟩

/-- **Text between tags changes no depth.** A scanner outside of tags makes of a line without a
title the changes that the tags of the line make alone, in the same order and each further along by
the texts before it, and it ends like there, outside of tags. -/
theorem feed_texts {scanner : TagScanner} (outside : scanner.state = .outsideTag)
    {pieces : List Piece} {last : List Char} (plain : ∀ piece ∈ pieces, '<' ∉ piece.text)
    (plainLast : '<' ∉ last) (apart : (lineOf pieces last).IsChain Glyph.Apart)
    (untitled : startsWithTitle ((lineOf pieces last).map Glyph.char) = false) :
    scanner.feed ((lineOf pieces last).map Glyph.char) =
        ((scanner.feed ((tagsOf pieces).map Glyph.char)).1.map fun change =>
            change.further (textBefore pieces change.stop),
          (scanner.feed ((tagsOf pieces).map Glyph.char)).2) ∧
      (scanner.feed ((lineOf pieces last).map Glyph.char)).2.state = .outsideTag := by
  have bare : startsWithTitle ((tagsOf pieces).map Glyph.char) = false := by
    cases pieces with
    | nil => rfl
    | cons piece rest => exact startsWithTitle_sign rfl _
  obtain ⟨same, ended⟩ := advanceAll_lineOf pieces plainLast outside plain apart
  rw [TagScanner.feed, TagScanner.feed, untitled, bare, Bool.and_false, same]
  exact ⟨rfl, ended⟩

/-- A greeting in a `div` whose class holds a bracket. -/
def greeting : List Piece :=
  [⟨[], ⟨"div class=".toList.map .bare ++ [.quoted '"' "a>b".toList], by decide⟩⟩,
    ⟨"hello".toList, ⟨"/div".toList.map .bare, by decide⟩⟩]

/-- A greeting between and within tags, with and without its texts. -/
theorem feed_texts_greeting :
    ((TagScanner.new "div").feed ((tagsOf greeting).map Glyph.char)).1 =
        [⟨17, -1, 0⟩, ⟨23, 0, -1⟩] ∧
      ((TagScanner.new "div").feed ((lineOf greeting "!".toList).map Glyph.char)).1 =
        [⟨17, -1, 0⟩, ⟨28, 0, -1⟩] := by
  have alone : ((TagScanner.new "div").feed ((tagsOf greeting).map Glyph.char)).1 =
      [⟨17, -1, 0⟩, ⟨23, 0, -1⟩] := by decide +kernel
  have whole := (@feed_texts (TagScanner.new "div") rfl greeting "!".toList (by decide)
    (by decide) (by decide +kernel) (by decide +kernel)).1
  rw [whole, alone]
  exact ⟨rfl, rfl⟩

/-- A greeting of which the first character is a mark, behind a name in bold letters. -/
def accented : List Piece :=
  [⟨[], ⟨"div".toList.map .bare, by decide⟩⟩, ⟨[], ⟨"b".toList.map .bare, by decide⟩⟩,
    ⟨"Eve:".toList, ⟨"/b".toList.map .bare, by decide⟩⟩,
    ⟨"\u0301hello".toList, ⟨"/div".toList.map .bare, by decide⟩⟩]

/-- A mark behind a tag: the scanner misses the end of the tag, and with it the tag after that. -/
theorem feed_mark_joined :
    (∀ piece ∈ accented, '<' ∉ piece.text ∧ '>' ∉ piece.text) ∧
      startsWithTitle ((lineOf accented []).map Glyph.char) = false ∧
      ((TagScanner.new "div").feed ((tagsOf accented).map Glyph.char)).1 =
        [⟨5, -1, 0⟩, ⟨18, 0, -1⟩] ∧
      ((TagScanner.new "div").feed ((lineOf accented []).map Glyph.char)).1 = [⟨5, -1, 0⟩] := by
  decide +kernel

end Roll20

end Transcript

end DiceLedger
