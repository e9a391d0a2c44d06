import DiceLedger.Proofs.FantasyGrounds.Numbering
import DiceLedger.Proofs.Markup.OpenElements
import DiceLedger.Proofs.Markup.Trailing

/-! # Blanks at the end of Fantasy Grounds fragments

The end of a fragment may have blanks behind it. A fragment is read as without them
(`DiceLedger.Transcript.FantasyGrounds.readFragment_trailing_blanks`), save that an annotation is
seen only at the very end, and that the blanks are the last words of an element that is not closed.
-/

namespace DiceLedger

namespace Transcript

namespace FantasyGrounds

open Markup (Node Builder Closed Gap)

variable {offset : Option Int} {state : State} {fragment blanks : List Char}

/-- A gap is blank. -/
theorem isBlank_of_gap {c : Char} (gap : Gap blanks) (member : c ∈ blanks) :
    Text.isBlank c = true := by
  obtain rfl | rfl := gap c member
  · rfl
  · rfl

/-- A gap at the end is dropped with the other blanks. -/
theorem trimEnd_append_gap (gap : Gap blanks) (text : List Char) :
    Text.trimEnd (text ++ blanks) = Text.trimEnd text := by
  rw [Text.trimEnd, Text.trimEnd, Text.dropEndWhile, Text.dropEndWhile, List.reverse_append,
    List.dropWhile_append_of_pos]
  exact fun c member => isBlank_of_gap gap (List.mem_reverse.mp member)

/-- A gap at the end of a line does not matter for where a fragment ends. -/
theorem endsFragment_append_gap (gap : Gap blanks) (text : List Char) :
    endsFragment (text ++ blanks) = endsFragment text := by
  rw [endsFragment, endsFragment, trimEnd_append_gap gap]

/-- Text with blanks behind it still ends in a blank when it is placed. -/
theorem exists_isBlank_reduced (builder : Builder) (gap : Gap blanks) (some : blanks ≠ [])
    (text : List Char) :
    ∃ c, (builder.reduced (text ++ blanks)).getLast? = .some c ∧ Text.isBlank c = true := by
  have last : ∃ c, (text ++ blanks).getLast? = .some c ∧ Text.isBlank c = true := by
    rw [List.getLast?_append_of_ne_nil text some]
    refine ⟨blanks.getLast some, List.getLast?_eq_some_getLast some, ?_⟩
    exact isBlank_of_gap gap (List.getLast_mem some)
  rw [Builder.reduced]
  split
  · exact last
  split
  · split
    · exact ⟨'\n', rfl, rfl⟩
    · exact ⟨' ', rfl, rfl⟩
  · exact last

/-- No annotation ends in blanks. -/
theorem annotation?_finish_take (builder : Builder) (gap : Gap blanks) (some : blanks ≠ []) :
    annotation? (builder.take (.text blanks)).finish = none := by
  obtain ⟨kind, texts⟩ := builder.getLast?_texts_finish_take some
  obtain ⟨c, last, blank⟩ :=
    exists_isBlank_reduced builder gap some builder.pending.reverse
  have other : c ≠ ']' := by
    rintro rfl
    cases blank
  rw [annotation?, texts]
  simp [last, other]

/-- Without an annotation no roll is said. -/
theorem roll_of_utterance? {nodes : List Node} {font : Node} {utterance : Utterance}
    (plain : annotation? nodes = none) (said : utterance? nodes font = some utterance) :
    utterance.roll = none := by
  simp only [utterance?, plain] at said
  split at said
  · cases said
  split at said
  · cases said
  split at said
  · cases said
  split at said
  · cases said
  · obtain rfl := Option.some.inj said
    rfl

/-- A post without an annotation is a message. -/
theorem message_of_unannotated {nodes : List Node} (parsed : Markup.parse fragment = .ok nodes)
    (plain : annotation? nodes = none) {post : Post}
    (posted : (readFragment offset state fragment).1.outcome = .ok (some post)) :
    post.isMessage = true ∧ post.rolls = [] := by
  obtain ⟨utterance, _, said, -, rfl⟩ := utteranceIn?_of_post posted
  rw [utteranceIn?, parsed, Except.toOption, Option.bind_some] at said
  obtain ⟨font, -, spoken⟩ := Option.bind_eq_some_iff.mp said
  rw [Utterance.post, roll_of_utterance? plain spoken]
  exact ⟨rfl, rfl⟩

/-- The time of a banner hangs on its first bold element and on the name of its first anchor alone.
-/
theorem bannerTime?_congr {nodes others : List Node}
    (bold : (Node.elementsOfAll nodes).find? (·.hasName "b") =
      (Node.elementsOfAll others).find? (·.hasName "b"))
    (anchor : ((Node.elementsOfAll nodes).find? (·.hasName "a")).map (·.attribute? "name") =
      ((Node.elementsOfAll others).find? (·.hasName "a")).map (·.attribute? "name")) :
    bannerTime? nodes = bannerTime? others := by
  rw [bannerTime?, bannerTime?, bold]
  cases first : (Node.elementsOfAll nodes).find? (·.hasName "a") with
  | none =>
      rw [first, Option.map_none, eq_comm, Option.map_eq_none_iff] at anchor
      rw [anchor]
  | some element =>
      rw [first, Option.map_some, eq_comm, Option.map_eq_some_iff] at anchor
      obtain ⟨other, found, same⟩ := anchor
      rw [found]
      simp only [same]

/-- An utterance hangs on its annotation and its font alone. -/
theorem utterance?_congr {nodes others : List Node} (same : annotation? nodes = annotation? others)
    (font : Node) : utterance? nodes font = utterance? others font := by
  rw [utterance?, utterance?, same]

/-- What a fragment is read as hangs on its font element, with one on its annotation, and without
one on its banner. -/
theorem readFragment_congr {other : List Char} {nodes others : List Node}
    (parsed : Markup.parse fragment = .ok nodes) (parsedOther : Markup.parse other = .ok others)
    (fonts : fontOf? nodes = fontOf? others)
    (annotations : (fontOf? others).isSome = true → annotation? nodes = annotation? others)
    (banners : fontOf? others = none → bannerTime? nodes = bannerTime? others) :
    readFragment offset state fragment = readFragment offset state other := by
  simp only [readFragment, parsed, parsedOther, ← fontOf?.eq_1, fonts]
  cases found : fontOf? others with
  | none => simp only [banners found]
  | some font =>
      have annotated := annotations (Option.isSome_of_eq_some found)
      simp only [utterance?_congr annotated]

/-- The element whose last words a fragment is read for: the first font element, or else the first
bold one. -/
def speakerName (nodes : List Node) : String := if (fontOf? nodes).isSome then "font" else "b"

/-- Whether a fragment ends inside the element that it is read for. -/
def endsInSpeaker (fragment : List Char) : Bool :=
  (Markup.reached fragment).toOption.any fun reached =>
    reached.settled.leavesOpen (speakerName reached.settled.finish)

/-- Whether a fragment with a font element ends in an annotation. -/
def endsAnnotated (fragment : List Char) : Bool :=
  (Markup.parse fragment).toOption.any fun nodes =>
    (fontOf? nodes).isSome && (annotation? nodes).isSome

/-- With its speaker closed, a tree has the same font element if one more text is taken. -/
theorem fontOf?_finish_take (builder : Builder)
    (closed : builder.leavesOpen (speakerName builder.finish) = false) (content : List Char) :
    fontOf? (builder.take (.text content)).finish = fontOf? builder.finish := by
  cases found : fontOf? builder.finish with
  | none =>
      have same := builder.attribute?_finish_take "font" "name" content
      rw [← fontOf?.eq_1, ← fontOf?.eq_1, found] at same
      exact Option.map_eq_none_iff.mp same
  | some font =>
      rw [speakerName, found] at closed
      exact (builder.find?_finish_take closed content).trans found

/-- With its speaker closed and no font element, a tree has the same banner. -/
theorem bannerTime?_finish_take (builder : Builder)
    (closed : builder.leavesOpen (speakerName builder.finish) = false)
    (none : fontOf? builder.finish = none) (content : List Char) :
    bannerTime? (builder.take (.text content)).finish = bannerTime? builder.finish := by
  rw [speakerName, none] at closed
  exact bannerTime?_congr (builder.find?_finish_take closed content)
    (builder.attribute?_finish_take "a" "name" content)

/-- What blanks make of a closed fragment: nothing, or one more text. -/
theorem parse_append_cases (closed : Closed fragment) (gap : Gap blanks) :
    Markup.parse (fragment ++ blanks) = Markup.parse fragment ∨
      ∃ reached : Markup.Reached, Markup.reached fragment = .ok reached ∧ blanks ≠ [] ∧
        Markup.parse (fragment ++ blanks) =
          .ok (reached.settled.take (.text blanks)).finish := by
  by_cases none : blanks = []
  · rw [none, List.append_nil]
    exact .inl rfl
  rw [Markup.parse_eq, Markup.parse_eq, Markup.reached_append closed gap]
  cases Markup.reached fragment with
  | error fault => exact .inl rfl
  | ok reached =>
      have settled := reached.settled_before blanks
      simp only [Except.map, settled]
      split
      · exact .inl rfl
      · exact .inr ⟨reached, rfl, none, rfl⟩

/-- **Blanks behind a fragment change nothing**, unless it ends inside the element that it is read
for, or in an annotation: with blanks behind it a fragment is read as without them, for every clock
and number, or it makes a message without rolls, or no post at all. -/
theorem readFragment_trailing_blanks (ends : endsFragment fragment = true)
    (last : fragment.getLast? = some '>') (gap : ∀ c ∈ blanks, c = ' ' ∨ c = '\t')
    (offset : Option Int) (state : State) :
    endsFragment (fragment ++ blanks) = true ∧
      (endsInSpeaker fragment = false → endsAnnotated fragment = false →
        readFragment offset state (fragment ++ blanks) = readFragment offset state fragment) ∧
      (readFragment offset state (fragment ++ blanks) = readFragment offset state fragment ∨
        ∀ post, (readFragment offset state (fragment ++ blanks)).1.outcome = .ok (some post) →
          post.isMessage = true ∧ post.rolls = []) := by
  have closed : Closed fragment := last
  refine ⟨(endsFragment_append_gap gap fragment).trans ends, ?_⟩
  obtain same | ⟨reached, read, some, parsed⟩ := parse_append_cases closed gap
  · have unchanged : readFragment offset state (fragment ++ blanks) =
        readFragment offset state fragment := by
      rw [readFragment, same, readFragment]
    exact ⟨fun _ _ => unchanged, .inl unchanged⟩
  have hidden := annotation?_finish_take reached.settled gap some
  constructor
  · intro spoken plain
    have before : Markup.parse fragment = .ok reached.settled.finish := by
      rw [Markup.parse_eq, read]
      rfl
    rw [endsInSpeaker, read] at spoken
    rw [endsAnnotated, before] at plain
    refine readFragment_congr parsed before (fontOf?_finish_take _ spoken blanks) ?_
      fun none => bannerTime?_finish_take _ spoken none blanks
    intro found
    have unseen : (annotation? reached.settled.finish).isSome = false := by
      rwa [Except.toOption, Option.any_some, found, Bool.true_and] at plain
    exact hidden.trans (Option.not_isSome_iff_eq_none.mp (Bool.eq_false_iff.mp unseen)).symm
  · exact .inr fun post posted => message_of_unannotated parsed hidden posted

/-- A message with a space and a tab behind it keeps its number. -/
theorem readFragment_trailing_blanks_message :
    let state := (readFragment none .start bannerLine).2
    endsFragment (firstLine ++ [' ', '\t']) = true ∧
      readFragment none state (firstLine ++ [' ', '\t']) = readFragment none state firstLine ∧
      (posts [(readFragment none state firstLine).1]).map (·.id) = ["1"] := by
  intro state
  obtain ⟨ends, unchanged, -⟩ := @readFragment_trailing_blanks firstLine [' ', '\t']
    (by decide +kernel) (by decide) (by simp) none state
  exact ⟨ends, unchanged (by decide +kernel) (by decide +kernel), by decide +kernel⟩

/-- A roll with an annotation, a message whose font element is not closed, and a banner whose bold
element is not closed. -/
def rollLine : List Char := "<font>Frodo: Perception</font> [d20+3 = 15]<br />".toList
def openFontLine : List Char := "<font>Gandalf: Fly, you fools!<br />".toList
def openBannerLine : List Char := "<b>Chat log started at 14.3.2021 / 19:02:00<br />".toList

/-- A space makes a message of the roll, nothing of the message and no start of the banner. -/
theorem blank_hides_annotation_and_speaker :
    let readAs (lines : List (List Char)) :=
      (posts (read none lines)).map fun post => (post.isMessage, post.rolls.length)
    readAs [bannerLine, rollLine] = [(false, 1)] ∧
      readAs [bannerLine, rollLine ++ [' ']] = [(true, 0)] ∧
      readAs [bannerLine, openFontLine] = [(true, 0)] ∧
      readAs [bannerLine, openFontLine ++ [' ']] = [] ∧
      readAs [openBannerLine, firstLine] = [(true, 0)] ∧
      readAs [openBannerLine ++ [' '], firstLine] = [] := by
  decide +kernel

end FantasyGrounds

end Transcript

end DiceLedger
