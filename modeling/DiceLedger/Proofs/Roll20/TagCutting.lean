import DiceLedger.Proofs.Roll20.GlyphCutting
import DiceLedger.Proofs.Text.Words

/-! # Cutting a tag

Inside a tag the scanner collects what stands outside of values, less the line breaks
(`DiceLedger.Transcript.Roll20.Tag.collected`). That is enough to tell the quotes of a value
from other ones, and at the end of the tag what the tag does: a `div` opens or closes, any
other tag does nothing (`DiceLedger.Transcript.Roll20.Tag.depthStep?_collected`).
-/

namespace DiceLedger

namespace Text

/-- A blank at the end is dropped. -/
theorem trimEnd_concat_of_blank {c : Char} (blank : isBlank c = true) (text : List Char) :
    trimEnd (text ++ [c]) = trimEnd text := by
  rw [trimEnd, dropEndWhile, List.reverse_concat, List.dropWhile_cons_of_pos blank]
  rfl

/-- In front of what is not blank nothing is dropped. -/
theorem trimEnd_concat_of_not_blank {c : Char} (visible : isBlank c = false) (text : List Char) :
    trimEnd (text ++ [c]) = text ++ [c] := by
  rw [trimEnd, dropEndWhile, List.reverse_concat, List.dropWhile_cons_of_neg (by simp [visible]),
    List.reverse_cons, List.reverse_reverse]

end Text

namespace Transcript

namespace Roll20

def TagPart.collected : TagPart → List Char
  | bare c => if c = '\n' then [] else [c]
  | quoted quote _ => [quote, quote]

/-- What a scanner has collected at the end of a tag. -/
def Tag.collected (tag : Tag) : List Char :=
  '<' :: tag.head ++ tag.parts.flatMap TagPart.collected

/-- The last character of what has been collected, blanks aside, as far as it matters: whether
it is an equals sign or a slash. -/
def Ends (collected : List Char) (last : Char) : Prop :=
  ∀ c, c = '=' ∨ c = '/' → ((Text.trimEnd collected).getLast? = some c ↔ last = c)

theorem Ends.concat {c : Char} (visible : Text.isBlank c = false) (collected : List Char) :
    Ends (collected ++ [c]) c := by
  intro other _
  rw [Text.trimEnd_concat_of_not_blank visible, List.getLast?_concat, Option.some_inj]

/-- A blank does not change what is collected ends in. -/
theorem Ends.concat_blank {collected : List Char} {last c : Char} (ends : Ends collected last)
    (blank : Text.isBlank c = true) : Ends (collected ++ [c]) last := by
  intro other sign
  rw [Text.trimEnd_concat_of_blank blank]
  exact ends other sign

/-- A value is awaited behind an equals sign. -/
theorem Ends.awaitsValue {collected : List Char} {last : Char} (ends : Ends collected last) :
    awaitsValue collected = decide (last = '=') := by
  unfold Transcript.awaitsValue
  exact decide_eq_decide.mpr (ends '=' (Or.inl rfl))

/-- Quotes are not blank. -/
theorem not_blank_of_quote {quote : Char} (quoted : isQuote quote = true) :
    Text.isBlank quote = false := by
  have cases : quote = '"' ∨ quote = '\'' := by simpa [isQuote] using quoted
  rcases cases with rfl | rfl <;> decide

/-- A bare character ends in its sign. -/
theorem Ends.bare {collected : List Char} {before : Char} (ends : Ends collected before)
    (c : Char) : Ends (collected ++ [c]) ((TagPart.bare c).sign before) := by
  rw [TagPart.sign]
  by_cases blank : Text.isBlank c = true
  · rw [if_pos blank]
    exact ends.concat_blank blank
  · rw [if_neg blank]
    exact Ends.concat (by simpa using blank) collected

/-- What a part collects ends in its sign. -/
theorem Ends.part {collected : List Char} {before : Char} {part : TagPart}
    (ends : Ends collected before) (proper : part.proper before = true) :
    Ends (collected ++ part.collected) (part.sign before) := by
  cases part with
  | bare c =>
      rw [TagPart.collected]
      by_cases broken : c = '\n'
      · subst broken
        exact (List.append_nil collected).symm ▸ ends
      · rw [if_neg broken]
        exact ends.bare c
  | quoted quote value =>
      simp only [TagPart.proper, Bool.and_eq_true] at proper
      have ended := Ends.concat (not_blank_of_quote proper.1.2) (collected ++ [quote])
      rwa [List.append_assoc] at ended

/-- The parts of a tag end in the last of their signs. -/
theorem Ends.parts (parts : List TagPart) :
    ∀ {collected : List Char} {before : Char}, Ends collected before →
      wellQuoted before parts = true →
      Ends (collected ++ parts.flatMap TagPart.collected) (lastSign before parts) := by
  induction parts with
  | nil =>
      intro collected before ends _
      rwa [List.flatMap_nil, List.append_nil]
  | cons part parts ih =>
      intro collected before ends quoted
      obtain ⟨proper, further⟩ := Bool.and_eq_true_iff.mp quoted
      rw [List.flatMap_cons, ← List.append_assoc]
      exact ih (ends.part proper) further

/-- Letters are characters of names. -/
theorem isNameChar_of_isAlpha {c : Char} (alpha : c.isAlpha = true) : isNameChar c = true := by
  rw [isNameChar, Char.isAlphanum, alpha, Bool.true_or, Bool.true_or]

theorem ne_of_isNameChar {c d : Char} (name : isNameChar c = true) (other : isNameChar d = false) :
    c ≠ d := by
  rintro rfl
  rw [name] at other
  cases other

/-- What is collected behind a name does not go on with it. -/
theorem endsName_collected {parts : List TagPart} {before : Char} (ended : endsName parts = true)
    (quoted : wellQuoted before parts = true) {c : Char}
    (head : (parts.flatMap TagPart.collected).head? = some c) : isNameChar c = false := by
  induction parts generalizing before with
  | nil => cases head
  | cons part parts ih =>
      obtain ⟨proper, further⟩ := Bool.and_eq_true_iff.mp quoted
      cases part with
      | bare d =>
          rw [List.flatMap_cons, TagPart.collected] at head
          rw [endsName] at ended
          by_cases broken : d = '\n'
          · rw [if_pos broken] at head ended
            exact ih ended further head
          · rw [if_neg broken] at head ended
            obtain rfl := Option.some.inj head
            simpa using ended
      | quoted quote value =>
          simp only [TagPart.proper, Bool.and_eq_true] at proper
          obtain rfl := Option.some.inj head
          have cases : quote = '"' ∨ quote = '\'' := by simpa [isQuote] using proper.1.2
          rcases cases with rfl | rfl <;> rfl

/-- An opening tag says the name behind its bracket, if a letter is there. -/
theorem tagName?_opening {c : Char} (other : c ≠ '/') (visible : Text.isBlank c = false)
    (rest : List Char) :
    tagName? ('<' :: c :: rest) =
      if c.isAlpha then some (false, (c :: rest).takeWhile isNameChar) else none := by
  have name : isNameChar = fun c => c.isAlphanum || c = '-' := rfl
  simp [name, tagName?, other, Text.trimStart, visible]

/-- A closing tag says the name behind its slash, if a letter is there. -/
theorem tagName?_closing {c : Char} (visible : Text.isBlank c = false) (rest : List Char) :
    tagName? ('<' :: '/' :: c :: rest) =
      if c.isAlpha then some (true, (c :: rest).takeWhile isNameChar) else none := by
  have name : isNameChar = fun c => c.isAlphanum || c = '-' := rfl
  simp [name, tagName?, Text.trimStart, visible]

namespace Tag

/-- The characters of a name are visible, and none of them means anything in a tag. -/
theorem name_char (tag : Tag) {c : Char} (member : c ∈ tag.first :: tag.more) :
    Text.isBlank c = false ∧ c ≠ '=' ∧ c ≠ '/' ∧ c ≠ '>' ∧ c ≠ '\n' ∧ isQuote c = false := by
  have plain {c : Char} (name : isNameChar c = true) :
      Text.isBlank c = false ∧ c ≠ '=' ∧ c ≠ '/' ∧ c ≠ '>' ∧ c ≠ '\n' ∧ isQuote c = false := by
    have noQuote : isQuote c = false := by
      simp only [isQuote, ne_of_isNameChar name (by decide : isNameChar '"' = false),
        ne_of_isNameChar name (by decide : isNameChar '\'' = false), decide_false, Bool.or_self]
    exact ⟨Text.isBlank_eq_false isNameChar (by decide) name, ne_of_isNameChar name rfl,
      ne_of_isNameChar name rfl, ne_of_isNameChar name rfl, ne_of_isNameChar name rfl, noQuote⟩
  have begins : tag.first.isAlpha = true ∨ tag.first = '!' ∨ tag.first = '?' := by
    simpa [or_assoc] using tag.begins
  rcases List.mem_cons.mp member with rfl | later
  · rcases begins with alpha | same | same
    · exact plain (isNameChar_of_isAlpha alpha)
    · rw [same]
      decide
    · rw [same]
      decide
  · exact plain (List.all_eq_true.mp tag.named c later)

/-- The name of a tag ends with its head. -/
theorem takeWhile_name (tag : Tag) (alpha : tag.first.isAlpha = true) :
    ((tag.first :: tag.more) ++ tag.parts.flatMap TagPart.collected).takeWhile isNameChar =
      tag.first :: tag.more := by
  have name : ∀ c ∈ tag.first :: tag.more, isNameChar c = true := by
    intro c member
    rcases List.mem_cons.mp member with rfl | later
    · exact isNameChar_of_isAlpha alpha
    · exact List.all_eq_true.mp tag.named c later
  rw [List.takeWhile_append_of_pos name]
  cases behind : tag.parts.flatMap TagPart.collected with
  | nil => rw [List.takeWhile_nil, List.append_nil]
  | cons c rest =>
      have other := endsName_collected tag.ended tag.quoted (by rw [behind]; rfl : _ = some c)
      rw [List.takeWhile_cons_of_neg (by simp [other]), List.append_nil]

/-- The scanner reads the name of a tag. -/
theorem tagName?_collected (tag : Tag) :
    tagName? tag.collected =
      if tag.first.isAlpha then some (tag.closes, tag.first :: tag.more) else none := by
  have read : tagName? tag.collected =
      if tag.first.isAlpha then some (tag.closes,
        ((tag.first :: tag.more) ++ tag.parts.flatMap TagPart.collected).takeWhile isNameChar)
      else none := by
    unfold collected head
    cases tag.closes with
    | true => exact tagName?_closing (tag.name_char List.mem_cons_self).1 _
    | false =>
        obtain ⟨visible, _, noSlash, _⟩ := tag.name_char List.mem_cons_self
        exact tagName?_opening noSlash visible _
  rw [read]
  by_cases alpha : tag.first.isAlpha = true
  · rw [if_pos alpha, if_pos alpha, tag.takeWhile_name alpha]
  · rw [if_neg alpha, if_neg alpha]

/-- The name of a division begins with a letter. -/
theorem isAlpha_of_isDiv {tag : Tag} (div : tag.isDiv = true) : tag.first.isAlpha = true := by
  have name := of_decide_eq_true div
  rw [List.map_cons] at name
  have lower : tag.first.toLower = 'd' := (List.cons.inj name).1
  have begins : (tag.first.isAlpha = true ∨ tag.first = '!') ∨ tag.first = '?' := by
    simpa using tag.begins
  rcases begins with (alpha | same) | same
  · exact alpha
  · rw [same] at lower
    exact absurd lower (by decide)
  · rw [same] at lower
    exact absurd lower (by decide)

/-- What a tag begins with ends in a character of its name. -/
theorem ends_head (tag : Tag) : Ends ('<' :: tag.head) '<' := by
  have name : tag.first :: tag.more ≠ [] := List.cons_ne_nil _ _
  have whole : '<' :: tag.head = '<' :: (if tag.closes then ['/'] else []) ++
      (tag.first :: tag.more).dropLast ++ [(tag.first :: tag.more).getLast name] := by
    rw [List.append_assoc, List.dropLast_concat_getLast]
    rfl
  obtain ⟨visible, noEquals, noSlash, _⟩ := tag.name_char (List.getLast_mem name)
  intro c sign
  rw [whole, Text.trimEnd_concat_of_not_blank visible, List.getLast?_concat, Option.some_inj]
  rcases sign with rfl | rfl
  · exact iff_of_false noEquals (by decide)
  · exact iff_of_false noSlash (by decide)

/-- What a tag does to the depth of the `div`s. -/
theorem depthStep?_collected (tag : Tag) :
    depthStep? "div" tag.collected =
      if tag.closesDiv then some (-1) else if tag.opensDiv then some 1 else none := by
  have named : String.ofList ((tag.first :: tag.more).map Char.toLower) = "div" ↔
      tag.isDiv = true := by
    rw [isDiv, decide_eq_true_iff]
    exact String.ofList_inj
  have slash : (Text.trimEnd tag.collected).getLast? = some '/' ↔ lastSign '<' tag.parts = '/' :=
    tag.ends_head.parts tag.parts tag.quoted '/' (Or.inr rfl)
  rw [depthStep?, tag.tagName?_collected]
  by_cases div : tag.isDiv = true
  · rw [if_pos (isAlpha_of_isDiv div)]
    simp only [named.mpr div, slash, closesDiv, opensDiv, div]
    cases tag.closes with
    | true => rfl
    | false => by_cases closed : lastSign '<' tag.parts = '/' <;> simp [closed]
  · have other := mt named.mp div
    rw [closesDiv, opensDiv, Bool.eq_false_iff.mpr div]
    by_cases alpha : tag.first.isAlpha = true
    · simp only [alpha, ↓reduceIte, ne_eq, other, not_false_eq_true]
      rfl
    · rw [if_neg alpha]
      rfl

end Tag

end Roll20

end Transcript

end DiceLedger
