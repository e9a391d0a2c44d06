import DiceLedger.Proofs.Text.Spelling
import DiceLedger.Proofs.Text.Splitting
import DiceLedger.Transcript.FantasyGrounds

/-! # Annotations of rolls

An annotation that writes a formula with dice and an outcome is read as that roll, with one letter
for all dice. Whatever else is read as a roll has dice in its formula, written with that letter, and
stands in a text with an opening bracket, a die, an equals sign and a closing bracket behind one
another (`DiceLedger.Transcript.FantasyGrounds.readAnnotation?_written_and_sound`).
-/

namespace DiceLedger

namespace Transcript

namespace FantasyGrounds

open scoped List

/-- A character of a formula with one letter for all dice. -/
def dieLetter (c : Char) : Char := if isDieMarker c then 'd' else c

/-- All letters for dice are read as one. -/
theorem dieLetter_of_marker {c : Char} (marker : isDieMarker c = true) : dieLetter c = 'd' :=
  if_pos marker

theorem dieLetter_of_other {c : Char} (other : isDieMarker c = false) : dieLetter c = c :=
  if_neg (by rw [other]; decide)

/-- No character is read as an equals sign but that sign. -/
theorem dieLetter_ne_equals {c : Char} (other : c ≠ '=') : dieLetter c ≠ '=' := by
  unfold dieLetter
  split
  · decide
  · exact other

/-- A text without the signs that an annotation is read by. -/
def Unsigned (text : List Char) : Prop := '[' ∉ text ∧ ']' ∉ text ∧ '=' ∉ text

instance (text : List Char) : Decidable (Unsigned text) := inferInstanceAs (Decidable (_ ∧ _))

/-- Every character of an unsigned text is. -/
theorem Unsigned.of_cons {c : Char} {text : List Char} (unsigned : Unsigned (c :: text)) :
    (c ≠ '[' ∧ c ≠ ']' ∧ c ≠ '=') ∧ Unsigned text := by
  simp only [Unsigned, List.mem_cons, not_or] at unsigned ⊢
  obtain ⟨⟨first, rest⟩, ⟨second, later⟩, ⟨third, last⟩⟩ := unsigned
  exact ⟨⟨Ne.symm first, Ne.symm second, Ne.symm third⟩, rest, later, last⟩

theorem Unsigned.space {text : List Char} (unsigned : Unsigned text) : Unsigned (' ' :: text) := by
  simpa [Unsigned] using unsigned

/-- Unsigned texts one behind another are unsigned. -/
theorem Unsigned.append {first later : List Char} (front : Unsigned first) (back : Unsigned later) :
    Unsigned (first ++ later) := by
  simp only [Unsigned, List.mem_append, not_or]
  exact ⟨⟨front.1, back.1⟩, ⟨front.2.1, back.2.1⟩, front.2.2, back.2.2⟩

/-- In the brackets a character that is no sign is held. -/
theorem annotationText?_cons {c : Char} (bracket : c ≠ '[') (closing : c ≠ ']') (sign : c ≠ '=')
    (hasFormula hasOutcome : Bool) (held rest : List Char) :
    annotationText? ⟨true, hasFormula, hasOutcome, held⟩ (c :: rest) =
      annotationText? ⟨true, hasFormula || isDieMarker c, hasOutcome, dieLetter c :: held⟩
        rest := by
  rw [annotationText?, if_neg (by simp [bracket]), if_neg (by simp [closing]), if_neg (by simp)]
  cases marker : isDieMarker c with
  | true => rw [if_pos rfl, dieLetter_of_marker marker, Bool.or_true]
  | false => simp [dieLetter_of_other marker, sign]

/-- Within brackets an unsigned text is kept, with one letter for all dice. -/
theorem annotationText?_append {text : List Char} (unsigned : Unsigned text)
    (hasFormula hasOutcome : Bool) (held rest : List Char) :
    annotationText? ⟨true, hasFormula, hasOutcome, held⟩ (text ++ rest) =
      annotationText? ⟨true, hasFormula || text.any isDieMarker, hasOutcome,
        (text.map dieLetter).reverse ++ held⟩ rest := by
  induction text generalizing hasFormula held with
  | nil => simp
  | cons c text ih =>
      obtain ⟨⟨bracket, closing, sign⟩, later⟩ := unsigned.of_cons
      rw [List.cons_append, annotationText?_cons bracket closing sign, ih later]
      simp [Bool.or_assoc]

/-- The text of an annotation ends at the first bracket behind its outcome. -/
theorem annotationText?_written {formula outcome : List Char} (named : Unsigned formula)
    (dice : formula.any isDieMarker = true) (counted : Unsigned outcome) (rest : List Char) :
    annotationText? ⟨false, false, false, []⟩
        (" [".toList ++ formula ++ " = ".toList ++ outcome ++ ']' :: rest) =
      some (formula.map dieLetter ++ " = ".toList ++ outcome.map dieLetter) := by
  have pieces : " [".toList ++ formula ++ " = ".toList ++ outcome ++ ']' :: rest =
      ' ' :: '[' :: ((formula ++ [' ']) ++ '=' :: ((' ' :: outcome) ++ ']' :: rest)) := by
    simp
  have front : Unsigned (formula ++ [' ']) := named.append (by simp [Unsigned])
  have found : (formula ++ [' ']).any isDieMarker = true := by
    rw [List.any_append, dice, Bool.true_or]
  have opening (rest : List Char) : annotationText? ⟨false, false, false, []⟩ (' ' :: '[' :: rest) =
      annotationText? ⟨true, false, false, []⟩ rest := by simp [annotationText?]
  have sign (held rest : List Char) : annotationText? ⟨true, true, false, held⟩ ('=' :: rest) =
      annotationText? ⟨true, true, true, '=' :: held⟩ rest := by
    simp [annotationText?, isDieMarker]
  have closing (held rest : List Char) : annotationText? ⟨true, true, true, held⟩ (']' :: rest) =
      some held.reverse := by simp [annotationText?]
  rw [pieces, opening, annotationText?_append front, found, Bool.false_or, sign,
    annotationText?_append counted.space, Bool.true_or, closing]
  simp [dieLetter_of_other (show isDieMarker ' ' = false from rfl)]

/-- No letter of a number is a die, and none is an equals sign. -/
theorem not_sign_of_readDouble? {text : List Char} {value : Binary64}
    (reads : Text.readDouble? text = some value) {c : Char} (member : c ∈ text) :
    isDieMarker c = false ∧ c ≠ '=' := by
  have spelled := Text.spells_of_readDouble? reads member
  constructor
  · refine Bool.eq_false_iff.mpr fun marker => ?_
    simp only [isDieMarker, Bool.or_eq_true, decide_eq_true_eq] at marker
    obtain (rfl | rfl) | rfl := marker <;> exact absurd spelled (by decide)
  · rintro rfl
    exact absurd spelled (by decide)

/-- A number has no letter for dice. -/
theorem map_dieLetter_of_readDouble? {text : List Char} {value : Binary64}
    (reads : Text.readDouble? text = some value) : text.map dieLetter = text := by
  refine (List.map_congr_left fun c member => ?_).trans (List.map_id text)
  exact dieLetter_of_other (not_sign_of_readDouble? reads member).1

/-- What the part of a text that was passed has shown. -/
structure AnnotationState.Shown (passed : List Char) (state : AnnotationState) : Prop where
  opened : state.inside = true → ['['] <+ passed
  formula : state.hasFormula = true → 'd' ∈ state.held ∧
    ∃ marker, isDieMarker marker = true ∧ ['[', marker] <+ passed
  outcome : state.hasOutcome = true →
    (∃ before after, state.held.reverse = before ++ '=' :: after ∧ 'd' ∈ before) ∧
      ∃ marker, isDieMarker marker = true ∧ ['[', marker, '='] <+ passed
  letters : 'g' ∉ state.held ∧ 'r' ∉ state.held

namespace AnnotationState.Shown

variable {passed : List Char} {state : AnnotationState} {c : Char}

theorem start : Shown [] ⟨false, false, false, []⟩ where
  opened inside := nomatch inside
  formula has := nomatch has
  outcome has := nomatch has
  letters := ⟨List.not_mem_nil, List.not_mem_nil⟩

theorem sublist_concat {signs : List Char} (before : signs <+ passed) (c : Char) :
    signs <+ passed ++ [c] :=
  before.trans (List.sublist_append_left _ _)

/-- A character that is passed over. -/
theorem pass (shown : state.Shown passed) (c : Char) : state.Shown (passed ++ [c]) where
  opened inside := sublist_concat (shown.opened inside) c
  formula has := (shown.formula has).imp_right fun ⟨marker, proper, behind⟩ =>
    ⟨marker, proper, sublist_concat behind c⟩
  outcome has := (shown.outcome has).imp_right fun ⟨marker, proper, behind⟩ =>
    ⟨marker, proper, sublist_concat behind c⟩
  letters := shown.letters

/-- Passing an opening bracket puts the reader within brackets. -/
theorem opening (shown : state.Shown passed) :
    Shown (passed ++ ['[']) { state with inside := true } where
  opened _ := List.sublist_append_right _ _
  formula := (shown.pass '[').formula
  outcome := (shown.pass '[').outcome
  letters := shown.letters

/-- A cut of the text that is held stays one when a character is added. -/
theorem cut_cons {held before after : List Char} (cut : held.reverse = before ++ '=' :: after)
    (c : Char) : (c :: held).reverse = before ++ '=' :: (after ++ [c]) := by
  rw [List.reverse_cons, cut, List.append_assoc, List.cons_append]

/-- Passing a letter for dice shows a formula. -/
theorem marker (shown : state.Shown passed) (inside : state.inside = true)
    (marker : isDieMarker c = true) :
    Shown (passed ++ [c]) { state with hasFormula := true, held := 'd' :: state.held } where
  opened := (shown.pass c).opened
  formula _ := ⟨List.mem_cons_self, c, marker,
    List.Sublist.append (shown.opened inside) (List.Sublist.refl [c])⟩
  outcome has := ((shown.pass c).outcome has).imp_left fun ⟨before, after, cut, letter⟩ =>
    ⟨before, after ++ ['d'], cut_cons cut 'd', letter⟩
  letters := by simpa using shown.letters

/-- Passing another character shows an outcome if it is an equals sign behind a formula. -/
theorem other (shown : state.Shown passed) (plain : isDieMarker c = false) :
    Shown (passed ++ [c])
      { state with
        hasOutcome := state.hasOutcome || (c = '=' && state.hasFormula)
        held := c :: state.held } where
  opened := (shown.pass c).opened
  formula has := ((shown.pass c).formula has).imp_left (List.mem_cons_of_mem c)
  outcome has := by
    cases already : state.hasOutcome with
    | true =>
        exact ((shown.pass c).outcome already).imp_left fun ⟨before, after, cut, letter⟩ =>
          ⟨before, after ++ [c], cut_cons cut c, letter⟩
    | false =>
        simp only [already, Bool.false_or, Bool.and_eq_true, decide_eq_true_eq] at has
        obtain ⟨rfl, has⟩ := has
        obtain ⟨letter, marker, proper, behind⟩ := shown.formula has
        exact ⟨⟨state.held.reverse, [], List.reverse_cons, List.mem_reverse.mpr letter⟩,
          marker, proper, List.Sublist.append behind (List.Sublist.refl ['='])⟩
  letters := by
    simp only [isDieMarker, Bool.or_eq_false_iff, decide_eq_false_iff_not] at plain
    simpa [Ne.symm plain.1.2, Ne.symm plain.2] using shown.letters

end AnnotationState.Shown

/-- What is read of an annotation has a die and then an equals sign, and it stands in a text with
the signs of an annotation behind one another. -/
theorem signs_of_annotationText? {state : AnnotationState} {text inner : List Char}
    (read : annotationText? state text = some inner) {passed : List Char}
    (shown : state.Shown passed) :
    (∃ before after, inner = before ++ '=' :: after ∧ 'd' ∈ before) ∧
      ('g' ∉ inner ∧ 'r' ∉ inner) ∧
      ∃ marker, isDieMarker marker = true ∧ ['[', marker, '=', ']'] <+ passed ++ text := by
  induction text generalizing state passed with
  | nil => cases read
  | cons c rest ih =>
      rw [annotationText?] at read
      rw [List.append_cons]
      split at read
      · next bracket =>
        obtain ⟨-, rfl⟩ : _ ∧ c = '[' := by simpa using bracket
        exact ih read shown.opening
      · split at read
        · next closing =>
          obtain ⟨rfl, has⟩ : c = ']' ∧ state.hasOutcome = true := by simpa using closing
          obtain rfl := Option.some.inj read
          obtain ⟨cut, marker, proper, behind⟩ := shown.outcome has
          refine ⟨cut, by simpa using shown.letters, marker, proper, ?_⟩
          exact (List.Sublist.append behind (List.Sublist.refl [']'])).trans
            (List.sublist_append_left _ _)
        · split at read
          · exact ih read (shown.pass c)
          · next inside =>
            have inside : state.inside = true := by simpa using inside
            split at read
            · next marker => exact ih read (shown.marker inside marker)
            · next plain => exact ih read (shown.other (by simpa using plain))

/-- The die that stands before an equals sign stands in the formula. -/
theorem mem_formula_of_cut {formula outcome before after : List Char} (counted : '=' ∉ outcome)
    (letter : 'd' ∈ before)
    (cut : formula ++ " = ".toList ++ outcome = before ++ '=' :: after) : 'd' ∈ formula := by
  have cut : (formula ++ [' ']) ++ '=' :: (' ' :: outcome) = before ++ '=' :: after := by
    simpa using cut
  rcases List.append_eq_append_iff.mp cut with ⟨more, rfl, behind⟩ | ⟨more, whole, -⟩
  · -- The sign is the one behind the formula: no other follows.
    cases more with
    | nil => simpa using letter
    | cons sign more =>
        obtain ⟨rfl, later⟩ := List.cons.inj behind
        have inside : '=' ∈ ' ' :: outcome := later ▸ List.mem_append_right _ List.mem_cons_self
        exact absurd inside (by simpa using counted)
  · have inside : 'd' ∈ formula ++ [' '] := whole ▸ List.mem_append_left _ letter
    simpa using inside

/-- **Annotations are read back.** Any formula with dice and any outcome that is a number, neither
with a sign of annotations, are read as that roll, with one letter for all dice, whatever follows
the bracket. Whatever is read as a roll has a formula with dice, all written with that letter, and
its text has an opening bracket, a die, an equals sign and a closing bracket behind one another. -/
theorem readAnnotation?_written_and_sound :
    (∀ (formula outcome rest : List Char) (value : Binary64), Unsigned formula →
      formula.any isDieMarker = true → Unsigned outcome → Text.readDouble? outcome = some value →
      readAnnotation? (" [".toList ++ formula ++ " = ".toList ++ outcome ++ ']' :: rest) =
        some ⟨String.ofList (formula.map dieLetter), value, []⟩) ∧
    ∀ (text : List Char) (roll : Roll), readAnnotation? text = some roll →
      (∃ formula : String, roll.formula = formula ∧
        'd' ∈ formula.toList ∧ 'g' ∉ formula.toList ∧ 'r' ∉ formula.toList) ∧
      ∃ marker, isDieMarker marker = true ∧ ['[', marker, '=', ']'] <+ text := by
  refine ⟨fun formula outcome rest value named dice counted reads => ?_, fun text roll read => ?_⟩
  · have signless : '=' ∉ formula.map dieLetter := by
      rintro member
      obtain ⟨c, inside, same⟩ := List.mem_map.mp member
      exact dieLetter_ne_equals (fun sign => named.2.2 (sign ▸ inside)) same
    rw [readAnnotation?, annotationText?_written named dice counted,
      map_dieLetter_of_readDouble? reads]
    simp only [Option.bind_eq_bind, Option.bind_some]
    rw [Text.split_once (c := '=') (by decide) signless counted.2.2]
    simp [reads]
  · obtain ⟨inner, found, later⟩ := Option.bind_eq_some_iff.mp read
    obtain ⟨⟨before, after, cut, letter⟩, ⟨other, third⟩, signs⟩ :=
      signs_of_annotationText? found .start
    split at later
    · next formula outcome pieces =>
      obtain ⟨value, reads, made⟩ := Option.bind_eq_some_iff.mp later
      obtain rfl := Option.some.inj made
      obtain rfl := Text.eq_append_of_split (by decide) pieces
      have counted : '=' ∉ outcome := fun member => (not_sign_of_readDouble? reads member).2 rfl
      rw [List.append_assoc] at other third
      refine ⟨⟨_, rfl, ?_⟩, signs⟩
      rw [String.toList_ofList]
      exact ⟨mem_formula_of_cut counted letter cut, fun member => other
        (List.mem_append_left _ member), fun member => third (List.mem_append_left _ member)⟩
    · cases later

/-- An annotation with dice of two letters, and something behind it. -/
theorem readAnnotation?_written_and_sound_mixed :
    Unsigned "1g6+1r4".toList ∧ "1g6+1r4".toList.any isDieMarker = true ∧ Unsigned "7".toList ∧
      Text.readDouble? "7".toList = some 7 ∧
      readAnnotation? " [1g6+1r4 = 7] hits".toList = some ⟨"1d6+1d4", 7, []⟩ ∧
      'd' ∈ "1d6+1d4".toList ∧ 'g' ∉ "1d6+1d4".toList ∧
      ∃ marker, isDieMarker marker = true ∧
        ['[', marker, '=', ']'] <+ " [1g6+1r4 = 7] hits".toList := by
  have named : Unsigned "1g6+1r4".toList := by decide
  have dice : "1g6+1r4".toList.any isDieMarker = true := by decide
  have counted : Unsigned "7".toList := by decide
  have number : Text.readDouble? "7".toList = some 7 := by decide +kernel
  have letters : String.ofList ("1g6+1r4".toList.map dieLetter) = "1d6+1d4" := by decide
  have text : " [".toList ++ "1g6+1r4".toList ++ " = ".toList ++ "7".toList ++
      ']' :: " hits".toList = " [1g6+1r4 = 7] hits".toList := by decide
  obtain ⟨written, sound⟩ := readAnnotation?_written_and_sound
  have read := written _ _ " hits".toList 7 named dice counted number
  rw [text, letters] at read
  obtain ⟨⟨formula, same, die, green, -⟩, signs⟩ := sound _ _ read
  obtain rfl := LooseText.text.inj same
  exact ⟨named, dice, counted, number, read, die, green, signs⟩

end FantasyGrounds

end Transcript

end DiceLedger
