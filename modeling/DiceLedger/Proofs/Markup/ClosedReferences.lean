import DiceLedger.Proofs.Markup.ClosedText

/-! # References in closed texts

A reference in a closed text is read without a look at what stands behind the text
(`DiceLedger.Markup.readReferenceInText_append`), and it is known there whether it is one
(`DiceLedger.Markup.readReferenceInText_cases`).
-/

namespace DiceLedger

namespace Markup

variable {text rest more : List Char} {c : Char}

/-- A reference, with something behind what is left. -/
def ReferenceRead.before (more : List Char) : ReferenceRead → ReferenceRead
  | found text rest => found text (rest ++ more)
  | other => other

/-- The semicolon behind a reference is in a closed text or not there. -/
theorem dropStop_append (closed : Closed text) (more : List Char) :
    dropStop (text ++ more) = dropStop text ++ more := by
  fun_cases dropStop text with
  | case1 => rfl
  | case2 _ other =>
      refine dropStop.eq_2 _ fun rest same => ?_
      obtain ⟨later, whole⟩ := closed.starts [';'] (by decide) same
      exact other later whole

/-- Without the semicolon an end of the text is left. -/
theorem suffix_dropStop (text : List Char) : dropStop text <:+ text := by
  fun_cases dropStop text with
  | case1 rest => exact List.suffix_cons ';' rest
  | case2 => exact List.suffix_rfl

/-- The digits of a numbered reference, with the mark of hexadecimal ones, and what follows. -/
def numberParts (text : List Char) : List Char × List Char :=
  if !(text.takeWhile Char.isDigit).isEmpty then
    (text.takeWhile Char.isDigit, text.dropWhile Char.isDigit)
  else
    match text with
    | x :: rest =>
      if x = 'x' || x = 'X' then
        let digits := rest.takeWhile fun c => (Text.hexValue? c).isSome
        (if digits.isEmpty then [] else x :: digits,
          rest.dropWhile fun c => (Text.hexValue? c).isSome)
      else ([], text)
    | [] => ([], [])

/-- A numbered reference of these digits, with `rest` behind them. -/
def numberedRead (name rest : List Char) : Except Fault ReferenceRead :=
  match name, rest with
  | [], _ => .ok .broken
  | _, [] => .ok .broken
  | name, c :: _ =>
    if (Text.hexValue? c).isSome then .ok .broken
    else (numberedText name).map fun decoded => .found decoded (dropStop rest)

/-- A numbered reference is its digits, and the character that they name. -/
theorem readNumbered_eq (text : List Char) :
    readNumbered text = numberedRead (numberParts text).1 (numberParts text).2 := by
  simp only [readNumbered, drop_takeWhile, numberParts]
  rfl

/-- The digits of a reference end within a closed text. -/
theorem numberParts_append (closed : Closed text) (more : List Char) :
    numberParts (text ++ more) = ((numberParts text).1, (numberParts text).2 ++ more) := by
  rw [numberParts.eq_def, numberParts.eq_def, closed.takeWhile_append (by decide),
    closed.dropWhile_append (by decide)]
  split
  · rfl
  obtain ⟨x, rest, rfl⟩ := List.exists_cons_of_ne_nil closed.ne_nil
  simp only [List.cons_append]
  split
  · next mark =>
    have inner : Closed rest := closed.tail fun same => by
      rw [same] at mark
      cases mark
    simp only [inner.takeWhile_append (p := fun c => (Text.hexValue? c).isSome) (by decide),
      inner.dropWhile_append (p := fun c => (Text.hexValue? c).isSome) (by decide)]
  · rfl

/-- Behind the digits of a reference a closed text is closed. -/
theorem closedEnd_numberParts (closed : Closed text) : ClosedEnd (numberParts text).2 text := by
  rw [numberParts.eq_def]
  split
  · exact closed.dropWhile (by decide)
  obtain ⟨x, rest, rfl⟩ := List.exists_cons_of_ne_nil closed.ne_nil
  simp only
  split
  · next mark =>
    have inner : Closed rest := closed.tail fun same => by
      rw [same] at mark
      cases mark
    exact (inner.dropWhile (by decide)).trans (List.suffix_cons x rest)
  · exact closed.closedEnd

/-- A numbered reference in a closed text is read as if nothing stood behind the text. -/
theorem readNumbered_append (closed : Closed text) (more : List Char) :
    readNumbered (text ++ more) = (readNumbered text).map (.before more) := by
  have left := (closedEnd_numberParts closed).closed
  rw [readNumbered_eq, readNumbered_eq, numberParts_append closed]
  generalize numberParts text = parts at left
  obtain ⟨name, rest⟩ := parts
  obtain ⟨c, tail, rfl⟩ := List.exists_cons_of_ne_nil left.ne_nil
  cases name with
  | nil => rfl
  | cons digit digits =>
      have stopped := dropStop_append left more
      rw [List.cons_append] at stopped
      simp only [List.cons_append, numberedRead, stopped]
      split
      · rfl
      · cases numberedText (digit :: digits) <;> rfl

/-- A numbered reference is faulty, broken, or a character with the text behind its semicolon. -/
theorem numberedRead_cases (name rest : List Char) :
    (∃ fault, numberedRead name rest = .error fault) ∨ numberedRead name rest = .ok .broken ∨
      ∃ content, numberedRead name rest = .ok (.found content (dropStop rest)) := by
  unfold numberedRead
  split
  · exact .inr (.inl rfl)
  · exact .inr (.inl rfl)
  split
  · exact .inr (.inl rfl)
  · cases numberedText name with
    | error fault => exact .inl ⟨fault, rfl⟩
    | ok content => exact .inr (.inr ⟨content, rfl⟩)

/-- The name of a reference ends within a closed text. -/
theorem takeReferenceName?_append (closed : Closed text) (more : List Char) :
    ∃ name rest, takeReferenceName? text = some (name, rest) ∧ ClosedEnd rest text ∧
      takeReferenceName? (text ++ more) = some (name, rest ++ more) := by
  let isNameChar (c : Char) : Bool := c.isAlphanum || c = '-' || c = '.'
  have left := closed.dropWhile (p := isNameChar) (by decide)
  have named := closed.takeWhile_append (p := isNameChar) (by decide) more
  have behind := closed.dropWhile_append (p := isNameChar) (by decide) more
  obtain ⟨c, rest, same⟩ := List.exists_cons_of_ne_nil left.closed.ne_nil
  refine ⟨text.takeWhile isNameChar, text.dropWhile isNameChar, ?_, left, ?_⟩
  · simp only [takeReferenceName?, drop_takeWhile]
    simp only [isNameChar] at same ⊢
    rw [same]
  · simp only [takeReferenceName?, drop_takeWhile]
    simp only [isNameChar] at same named behind ⊢
    rw [named, behind, same, List.cons_append]

/-- **A reference in a closed text is read as if nothing stood behind the text.** -/
theorem readReferenceInText_append (closed : Closed text) (more : List Char) :
    readReferenceInText (text ++ more) = (readReferenceInText text).map (.before more) := by
  obtain ⟨c, rest, rfl⟩ := List.exists_cons_of_ne_nil closed.ne_nil
  by_cases number : c = '#'
  · subst number
    exact readNumbered_append (closed.tail (by decide)) more
  · obtain ⟨name, left, taken, after, further⟩ := takeReferenceName?_append closed more
    rw [List.cons_append] at further ⊢
    rw [readReferenceInText.eq_2 c _ number, readReferenceInText.eq_2 c _ number, taken, further]
    split
    · simp only [dropStop_append after.closed]
      rfl
    · rfl

/-- In a closed text no reference is pending, and one that is found ends inside. -/
theorem readReferenceInText_cases (closed : Closed text) :
    (∃ fault, readReferenceInText text = .error fault) ∨
      readReferenceInText text = .ok .broken ∨ readReferenceInText text = .ok .literal ∨
      ∃ content rest, readReferenceInText text = .ok (.found content rest) ∧ rest <:+ text := by
  obtain ⟨c, rest, rfl⟩ := List.exists_cons_of_ne_nil closed.ne_nil
  by_cases number : c = '#'
  · subst number
    have inner := closed.tail (by decide)
    rw [readReferenceInText, readNumbered_eq]
    obtain faulty | broken | ⟨content, found⟩ := numberedRead_cases _ _
    · exact .inl faulty
    · exact .inr (.inl broken)
    · refine .inr (.inr (.inr ⟨content, _, found, ?_⟩))
      exact ((suffix_dropStop _).trans (closedEnd_numberParts inner).suffix).trans
        (List.suffix_cons '#' rest)
  · obtain ⟨name, left, taken, after, -⟩ := takeReferenceName?_append closed []
    rw [readReferenceInText.eq_2 c _ number, taken]
    split
    · exact .inr (.inr (.inr ⟨_, _, rfl, (suffix_dropStop left).trans after.suffix⟩))
    · exact .inr (.inr (.inl rfl))

end Markup

end DiceLedger
