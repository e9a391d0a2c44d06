import DiceLedger.Markup.Token
import Mathlib.Data.List.Basic
import Mathlib.Data.List.TakeWhile

/-! # Tags in closed texts

A text is closed if its last character is a closing bracket. Whatever is read of a tag ends at a
bracket at the latest, so that in a closed text it does not matter what stands behind: the reader of
a tag gives the same, and leaves what stands behind at the end of its rest
(`DiceLedger.Markup.readOpening_append`).
-/

namespace DiceLedger

namespace Markup

/-- A text whose last character is a closing bracket. -/
def Closed (text : List Char) : Prop := text.getLast? = some '>'

/-- Spaces and tabs. -/
def Gap (text : List Char) : Prop := ∀ c ∈ text, c = ' ' ∨ c = '\t'

/-- A closed text at the end of another one. -/
structure ClosedEnd (rest text : List Char) : Prop where
  suffix : rest <:+ text
  closed : Closed rest

variable {text rest more : List Char} {c : Char} {p : Char → Bool}

/-- A gap holds no other character. -/
theorem Gap.not_mem (gap : Gap more) (space : c ≠ ' ') (tab : c ≠ '\t') : c ∉ more :=
  fun member => (gap c member).elim space tab

namespace Closed

theorem ne_nil (closed : Closed text) : text ≠ [] := by
  rintro rfl
  cases closed

theorem mem (closed : Closed text) : '>' ∈ text := List.mem_of_getLast? closed

/-- The end of a closed text is closed. -/
theorem of_suffix (closed : Closed text) (suffix : rest <:+ text) (left : rest ≠ []) :
    Closed rest := by
  obtain ⟨front, rfl⟩ := suffix
  rwa [Closed, List.getLast?_append_of_ne_nil front left] at closed

/-- Behind any other character a closed text goes on. -/
theorem tail (closed : Closed (c :: rest)) (other : c ≠ '>') : Closed rest := by
  refine closed.of_suffix (List.suffix_cons c rest) ?_
  rintro rfl
  exact other (Option.some.inj closed)

/-- A character in front leaves a text closed. -/
theorem cons (closed : Closed text) (c : Char) : Closed (c :: text) := by
  rw [Closed, List.getLast?_cons_of_ne_nil closed.ne_nil]
  exact closed

/-- What a closed text begins with, it does not begin with because of what stands behind. -/
theorem starts (closed : Closed text) (word : List Char) {later : List Char} (absent : '>' ∉ word)
    (same : text ++ more = word ++ later) : ∃ rest, text = word ++ rest := by
  obtain ⟨left, whole, -⟩ | ⟨rest, whole, -⟩ := List.append_eq_append_iff.mp same
  · exact absurd (whole ▸ List.mem_append_left left closed.mem) absent
  · exact ⟨rest, whole⟩

/-- What is taken up to a bracket at the latest does not hang on what stands behind the text. -/
theorem takeWhile_append (closed : Closed text) (stops : p '>' = false) (more : List Char) :
    (text ++ more).takeWhile p = text.takeWhile p := by
  rw [List.takeWhile_append, if_neg]
  intro whole
  have all := List.takeWhile_eq_self_iff.mp ((List.takeWhile_prefix p).eq_of_length whole)
  exact Bool.false_ne_true (stops.symm.trans (all '>' closed.mem))

/-- What is left where one stops at a bracket at the latest has what stands behind at its end. -/
theorem dropWhile_append (closed : Closed text) (stops : p '>' = false) (more : List Char) :
    (text ++ more).dropWhile p = text.dropWhile p ++ more := by
  rw [List.dropWhile_append, if_neg]
  intro whole
  have all := List.dropWhile_eq_nil_iff.mp (List.isEmpty_iff.mp whole)
  exact Bool.false_ne_true (stops.symm.trans (all '>' closed.mem))

/-- What is left where one stops at a bracket at the latest is closed. -/
theorem dropWhile (closed : Closed text) (stops : p '>' = false) :
    ClosedEnd (text.dropWhile p) text := by
  refine ⟨List.dropWhile_suffix p, closed.of_suffix (List.dropWhile_suffix p) fun none => ?_⟩
  have all := List.dropWhile_eq_nil_iff.mp none
  exact Bool.false_ne_true (stops.symm.trans (all '>' closed.mem))

theorem closedEnd (closed : Closed text) : ClosedEnd text text := ⟨List.suffix_rfl, closed⟩

/-- Blanks in front of a closed text end within it. -/
theorem trimStart_append (closed : Closed text) (more : List Char) :
    Text.trimStart (text ++ more) = Text.trimStart text ++ more :=
  closed.dropWhile_append (by decide) more

/-- Without the blanks in front a closed text is closed. -/
theorem trimStart (closed : Closed text) : ClosedEnd (Text.trimStart text) text :=
  closed.dropWhile (by decide)

end Closed

namespace ClosedEnd

theorem trans {middle : List Char} (last : ClosedEnd rest middle) (first : middle <:+ text) :
    ClosedEnd rest text :=
  ⟨last.suffix.trans first, last.closed⟩

theorem length_le (last : ClosedEnd rest text) : rest.length ≤ text.length :=
  last.suffix.length_le

end ClosedEnd

theorem drop_takeWhile (p : Char → Bool) (text : List Char) :
    text.drop (text.takeWhile p).length = text.dropWhile p := by
  have whole := @List.drop_left _ (text.takeWhile p) (text.dropWhile p)
  rwa [List.takeWhile_append_dropWhile] at whole

section UpTo

variable {mark : Char}

theorem upTo?_of_not_mem (absent : mark ∉ text) : upTo? mark text = none := by
  induction text with
  | nil => rfl
  | cons c rest ih =>
      have later := ih fun member => absent (List.mem_cons_of_mem c member)
      rw [upTo?, if_neg fun same : c = mark => absent (same ▸ List.mem_cons_self), later,
        Option.map_none]

/-- A mark that is not in what stands behind is found in the text or not at all. -/
theorem upTo?_append (absent : mark ∉ more) (text : List Char) :
    upTo? mark (text ++ more) =
      (upTo? mark text).map fun (before, after) => (before, after ++ more) := by
  induction text with
  | nil => exact upTo?_of_not_mem absent
  | cons c rest ih =>
      rw [List.cons_append, upTo?, upTo?, ih]
      split
      · rfl
      · cases upTo? mark rest <;> rfl

/-- A text that is cut at a mark is put together of both parts and the mark. -/
theorem eq_append_of_upTo? {before after : List Char}
    (found : upTo? mark text = some (before, after)) : text = before ++ mark :: after := by
  induction text generalizing before with
  | nil => cases found
  | cons c rest ih =>
      rw [upTo?] at found
      split at found
      · next same =>
        obtain ⟨rfl, rfl⟩ := Prod.mk.inj (Option.some.inj found)
        rw [same, List.nil_append]
      · obtain ⟨⟨front, back⟩, later, whole⟩ := Option.map_eq_some_iff.mp found
        obtain ⟨rfl, rfl⟩ := Prod.mk.inj whole
        rw [ih later, List.cons_append]

theorem suffix_of_upTo? {before after : List Char}
    (found : upTo? mark text = some (before, after)) : after <:+ text := by
  rw [eq_append_of_upTo? found]
  exact (List.suffix_cons mark after).trans (List.suffix_append before _)

/-- A closed text has a first bracket. -/
theorem Closed.exists_upTo? (closed : Closed text) :
    ∃ before after, upTo? '>' text = some (before, after) := by
  cases found : upTo? '>' text with
  | some parts => exact ⟨parts.1, parts.2, rfl⟩
  | none =>
      have member := closed.mem
      clear closed
      induction text with
      | nil => cases member
      | cons c rest ih =>
          rw [upTo?] at found
          split at found
          · cases found
          · next other =>
            refine ih (Option.map_eq_none_iff.mp found) ?_
            exact (List.mem_cons.mp member).resolve_left fun same => other same.symm

/-- Behind any other mark a closed text is closed. -/
theorem closedEnd_of_upTo? (closed : Closed text) (other : mark ≠ '>') {before after : List Char}
    (found : upTo? mark text = some (before, after)) : ClosedEnd after text := by
  have whole := eq_append_of_upTo? found
  have marked := closed.of_suffix ⟨before, whole.symm⟩ (List.cons_ne_nil mark after)
  exact ⟨suffix_of_upTo? found, marked.tail other⟩

end UpTo

/-- Blanks and slashes within a tag end within a closed text. -/
theorem skipInTag_append (closed : Closed text) (last : Char) (more : List Char) :
    skipInTag last (text ++ more) =
      ((skipInTag last text).1, (skipInTag last text).2 ++ more) := by
  fun_induction skipInTag last text with
  | case1 => cases closed
  | case2 last rest => rfl
  | case3 last rest other ih =>
      have inner := closed.tail (by decide)
      obtain ⟨d, later, rfl⟩ := List.exists_cons_of_ne_nil inner.ne_nil
      rw [← ih inner]
      refine skipInTag.eq_3 _ _ fun tail same => ?_
      exact other later (congrArg (· :: later) (List.cons.inj same).1)
  | case4 last c rest other blank ih =>
      rw [List.cons_append, skipInTag.eq_4 _ _ _ other, if_pos blank, ih (closed.tail ?_)]
      rintro rfl
      cases blank
  | case5 last c rest other solid =>
      rw [List.cons_append, skipInTag.eq_4 _ _ _ other, if_neg solid]

/-- Behind blanks and slashes a closed text is closed. -/
theorem closedEnd_skipInTag (closed : Closed text) (last : Char) :
    ClosedEnd (skipInTag last text).2 text := by
  fun_induction skipInTag last text with
  | case1 => cases closed
  | case2 last rest => exact closed.closedEnd
  | case3 last rest other ih => exact (ih (closed.tail (by decide))).trans (List.suffix_cons _ rest)
  | case4 last c rest other blank ih =>
      refine (ih (closed.tail ?_)).trans (List.suffix_cons c rest)
      rintro rfl
      cases blank
  | case5 => exact closed.closedEnd

/-- A character of a value without quotes. -/
def isBare (c : Char) : Bool := c ≠ '>' && !Text.isBlank c

/-- A value without quotes, the last character up to its end, and what follows it. -/
def bareValue (last : Char) (text : List Char) : List Char × Char × List Char :=
  (text.takeWhile isBare, (text.takeWhile isBare).getLast?.getD last, text.dropWhile isBare)

/-- The value behind some equals signs. -/
def valueBehind? (signs : Nat) (text : List Char) : Option (List Char × Char × List Char) :=
  let value := Text.trimStart text
  match value with
  | quote :: rest =>
    if quote = '"' || quote = '\'' then
      match upTo? quote rest with
      | some (content, after) => some (content, quote, after)
      | none =>
        if value.length < text.length then some ([], ' ', value)
        else if 1 < signs then some (bareValue '=' ('=' :: value))
        else none
    else some (bareValue (if value.length < text.length then ' ' else '=') value)
  | [] => some ([], if text.isEmpty then '=' else ' ', [])

/-- A value stands behind signs of equality. -/
theorem takeValue?_eq (text : List Char) :
    takeValue? text =
      match Text.trimStart text with
      | '=' :: rest =>
        valueBehind? ((rest.takeWhile (· = '=')).length + 1) (rest.dropWhile (· = '='))
      | _ => none := by
  rw [takeValue?]
  cases Text.trimStart text with
  | nil => rfl
  | cons c rest =>
      by_cases sign : c = '='
      · subst sign
        simp only [← drop_takeWhile, valueBehind?, bareValue]
        rfl
      · simp [sign]

/-- What is behind a text stays behind what is left of it. -/
def leaveBehind {α : Type} (more : List Char) (read : α × Char × List Char) :
    α × Char × List Char :=
  (read.1, read.2.1, read.2.2 ++ more)

/-- A value without quotes ends within a closed text. -/
theorem bareValue_append (closed : Closed text) (last : Char) (more : List Char) :
    bareValue last (text ++ more) = leaveBehind more (bareValue last text) := by
  rw [bareValue, closed.takeWhile_append (by decide), closed.dropWhile_append (by decide)]
  rfl

/-- A value behind signs of equality ends within a closed text, quoted or not. -/
theorem valueBehind?_append (closed : Closed text) (gap : Gap more) (signs : Nat) :
    valueBehind? signs (text ++ more) = (valueBehind? signs text).map (leaveBehind more) := by
  have inner := closed.trimStart.closed
  simp only [valueBehind?, closed.trimStart_append, List.length_append, Nat.add_lt_add_iff_right]
  generalize Text.trimStart text = value at inner
  obtain ⟨quote, rest, rfl⟩ := List.exists_cons_of_ne_nil inner.ne_nil
  rw [List.cons_append]
  by_cases quoted : (quote = '"' || quote = '\'') = true
  · have absent : quote ∉ more := by
      simp only [Bool.or_eq_true, decide_eq_true_eq] at quoted
      obtain rfl | rfl := quoted
      · exact gap.not_mem (by decide) (by decide)
      · exact gap.not_mem (by decide) (by decide)
    simp only [if_pos quoted, upTo?_append absent]
    cases upTo? quote rest with
    | some parts => rfl
    | none =>
        simp only [Option.map_none]
        split
        · rfl
        split
        · exact congrArg some (bareValue_append (inner.cons '=') '=' more)
        · rfl
  · simp only [if_neg quoted, Option.map_some]
    exact congrArg some (bareValue_append inner _ more)

/-- The value of an attribute ends within a closed text. -/
theorem takeValue?_append (closed : Closed text) (gap : Gap more) :
    takeValue? (text ++ more) = (takeValue? text).map (leaveBehind more) := by
  have inner := closed.trimStart.closed
  rw [takeValue?_eq, takeValue?_eq, closed.trimStart_append]
  generalize Text.trimStart text = afterBlanks at inner
  obtain ⟨c, rest, rfl⟩ := List.exists_cons_of_ne_nil inner.ne_nil
  by_cases sign : c = '='
  · subst sign
    have behind := inner.tail (by decide)
    simp only [List.cons_append]
    rw [behind.takeWhile_append (by decide), behind.dropWhile_append (by decide)]
    exact valueBehind?_append (behind.dropWhile (by decide)).closed gap _
  · simp [sign]

/-- Behind a value a closed text is closed. -/
theorem closedEnd_of_valueBehind? (closed : Closed text) {signs : Nat}
    {read : List Char × Char × List Char} (found : valueBehind? signs text = some read) :
    ClosedEnd read.2.2 text := by
  have inner := closed.trimStart
  rw [valueBehind?] at found
  generalize Text.trimStart text = value at inner found
  obtain ⟨quote, rest, rfl⟩ := List.exists_cons_of_ne_nil inner.closed.ne_nil
  by_cases quoted : (quote = '"' || quote = '\'') = true
  · simp only [if_pos quoted] at found
    have other : quote ≠ '>' := by
      rintro rfl
      cases quoted
    cases ended : upTo? quote rest with
    | some parts =>
        rw [ended] at found
        obtain rfl := Option.some.inj found
        have after := closedEnd_of_upTo? (inner.closed.tail other) other ended
        exact (after.trans (List.suffix_cons quote rest)).trans inner.suffix
    | none =>
        simp only [ended] at found
        split at found
        · obtain rfl := Option.some.inj found
          exact inner
        split at found
        · obtain rfl := Option.some.inj found
          exact (inner.closed.dropWhile (by decide)).trans inner.suffix
        · cases found
  · simp only [if_neg quoted] at found
    obtain rfl := Option.some.inj found
    exact (inner.closed.dropWhile (by decide)).trans inner.suffix

/-- Behind the value of an attribute a closed text is closed. -/
theorem closedEnd_of_takeValue? (closed : Closed text) {read : List Char × Char × List Char}
    (found : takeValue? text = some read) : ClosedEnd read.2.2 text := by
  have inner := closed.trimStart
  rw [takeValue?_eq] at found
  split at found
  · next rest same =>
    rw [same] at inner
    have behind := (inner.closed.tail (by decide)).dropWhile (p := (· = '=')) (by decide)
    have suffix := behind.suffix.trans (List.suffix_cons '=' rest)
    exact ((closedEnd_of_valueBehind? behind.closed found).trans suffix).trans inner.suffix
  · cases found

/-- A character of an attribute's name after the first. -/
def isAttributeNameChar (c : Char) : Bool := !(Text.isBlank c || c = '/' || c = '=' || c = '>')

/-- Whether an attribute begins at `first`, after the character `last`. -/
def beginsAttribute (last first : Char) : Bool :=
  !(!(last = '"' || last = '\'' || last = '/' || Text.isBlank last) ||
    Text.isBlank first || first = '/' || first = '>')

/-- The value behind a name, or none, with the last character and what follows. -/
def valueOr (last : Char) (text : List Char) : List Char × Char × List Char :=
  (takeValue? text).getD ([], last, text)

/-- An attribute is a name, and a value if one stands behind it. -/
theorem takeAttribute?_cons (last first : Char) (rest : List Char) :
    takeAttribute? last (first :: rest) =
      if beginsAttribute last first then
        let name := first :: rest.takeWhile isAttributeNameChar
        let read := valueOr (name.getLast?.getD first) (rest.dropWhile isAttributeNameChar)
        some ((name, read.1), skipInTag read.2.1 read.2.2)
      else none := by
  rw [takeAttribute?, beginsAttribute]
  split
  · next none => rw [none]; rfl
  · next some =>
    rw [Bool.eq_false_iff.mpr some, if_pos Bool.not_false, ← drop_takeWhile]
    rfl

/-- With or without a value, an attribute ends within a closed text. -/
theorem valueOr_append (closed : Closed text) (gap : Gap more) (last : Char) :
    valueOr last (text ++ more) = leaveBehind more (valueOr last text) := by
  rw [valueOr, valueOr, takeValue?_append closed gap]
  cases takeValue? text <;> rfl

/-- With or without a value, a closed text is closed behind an attribute. -/
theorem closedEnd_valueOr (closed : Closed text) (last : Char) :
    ClosedEnd (valueOr last text).2.2 text := by
  rw [valueOr]
  cases found : takeValue? text with
  | none => exact closed.closedEnd
  | some read => exact closedEnd_of_takeValue? closed found

/-- An attribute of a closed text is read as if nothing stood behind the text. -/
theorem takeAttribute?_append (closed : Closed text) (gap : Gap more) (last : Char) :
    takeAttribute? last (text ++ more) = (takeAttribute? last text).map (leaveBehind more) := by
  obtain ⟨first, rest, rfl⟩ := List.exists_cons_of_ne_nil closed.ne_nil
  rw [List.cons_append, takeAttribute?_cons, takeAttribute?_cons]
  split
  · next begins =>
    have inner : Closed rest := closed.tail fun same => by
      rw [same, beginsAttribute] at begins
      simp at begins
    have after := (inner.dropWhile (p := isAttributeNameChar) (by decide)).closed
    simp only [inner.takeWhile_append (p := isAttributeNameChar) (by decide),
      inner.dropWhile_append (p := isAttributeNameChar) (by decide), valueOr_append after gap]
    rw [leaveBehind, skipInTag_append (closedEnd_valueOr after _).closed]
    rfl
  · rfl

/-- An attribute leaves less than there was. -/
theorem closedEnd_of_takeAttribute? (closed : Closed text) {last : Char}
    {read : RawAttribute × Char × List Char} (found : takeAttribute? last text = some read) :
    ClosedEnd read.2.2 text.tail := by
  obtain ⟨first, rest, rfl⟩ := List.exists_cons_of_ne_nil closed.ne_nil
  rw [takeAttribute?_cons] at found
  split at found
  · next begins =>
    have inner : Closed rest := closed.tail fun same => by
      rw [same, beginsAttribute] at begins
      simp at begins
    have after := inner.dropWhile (p := isAttributeNameChar) (by decide)
    obtain rfl := Option.some.inj found
    have value := closedEnd_valueOr after.closed
      ((first :: rest.takeWhile isAttributeNameChar).getLast?.getD first)
    exact ((closedEnd_skipInTag value.closed _).trans value.suffix).trans after.suffix
  · cases found

/-- All attributes of a closed text are read as if nothing stood behind it. -/
theorem takeAttributes_append (gap : Gap more) (extra : Nat) {fuel : Nat} (last : Char)
    (closed : Closed text) (enough : text.length ≤ fuel) :
    takeAttributes (fuel + extra) last (text ++ more) =
      ((takeAttributes fuel last text).1, (takeAttributes fuel last text).2 ++ more) := by
  induction fuel generalizing last text with
  | zero => exact absurd (List.length_eq_zero_iff.mp (Nat.le_zero.mp enough)) closed.ne_nil
  | succ fuel ih =>
      rw [Nat.succ_add, takeAttributes, takeAttributes, takeAttribute?_append closed gap]
      cases found : takeAttribute? last text with
      | none => rfl
      | some read =>
          have after := closedEnd_of_takeAttribute? closed found
          have shorter := after.length_le
          rw [List.length_tail] at shorter
          simp only [Option.map_some, leaveBehind]
          rw [ih read.2.1 after.closed (by omega)]

/-- Behind its attributes a closed text is closed. -/
theorem closedEnd_takeAttributes {fuel : Nat} (last : Char) (closed : Closed text) :
    ClosedEnd (takeAttributes fuel last text).2 text := by
  induction fuel generalizing last text with
  | zero => exact closed.closedEnd
  | succ fuel ih =>
      rw [takeAttributes]
      cases found : takeAttribute? last text with
      | none => exact closed.closedEnd
      | some read =>
          have after := closedEnd_of_takeAttribute? closed found
          exact ((ih read.2.1 after.closed).trans after.suffix).trans (List.tail_suffix text)

end Markup

end DiceLedger
