import DiceLedger.Text.Blank
import Mathlib.Data.List.Basic

/-! # Cutting a text at a mark

The pieces that a mark cuts a text into, with the mark between them, are the text
(`DiceLedger.Text.intercalate_split`). A mark that stands once in a text, and of which no
character stands elsewhere, cuts it into two (`DiceLedger.Text.split_once`).
-/

namespace DiceLedger

namespace Text

variable {mark : List Char}

/-- What is left of a mark is passed over. -/
theorem splitAtMark_held (mark piece passed rest : List Char) :
    splitAtMark mark piece passed.length (passed ++ rest) = splitAtMark mark piece 0 rest := by
  induction passed with
  | nil => rfl
  | cons c passed ih => exact ih

theorem splitAtMark_ne_nil (piece : List Char) (held : Nat) (text : List Char) :
    splitAtMark mark piece held text ≠ [] := by
  induction text generalizing piece held with
  | nil => exact List.cons_ne_nil _ _
  | cons c rest ih =>
      cases held with
      | succ held => exact ih piece held
      | zero =>
          rw [splitAtMark]
          split
          · exact List.cons_ne_nil _ _
          · exact ih (c :: piece) 0

/-- A mark in front of a text ends the piece. -/
theorem splitAtMark_mark (nonempty : mark ≠ []) (piece rest : List Char) :
    splitAtMark mark piece 0 (mark ++ rest) =
      piece.reverse :: splitAtMark mark [] 0 rest := by
  obtain ⟨c, others, rfl⟩ := List.exists_cons_of_ne_nil nonempty
  have front : (c :: others).isPrefixOf (c :: (others ++ rest)) = true :=
    List.isPrefixOf_iff_prefix.mpr (List.prefix_append (c :: others) rest)
  rw [List.cons_append, splitAtMark, if_pos front, List.length_cons, Nat.add_sub_cancel,
    splitAtMark_held]

/-- The pieces with the mark between them are the text again. -/
theorem intercalate_splitAtMark (nonempty : mark ≠ []) (piece : List Char) (held : Nat)
    (text : List Char) :
    mark.intercalate (splitAtMark mark piece held text) = piece.reverse ++ text.drop held := by
  induction text generalizing piece held with
  | nil => simp [splitAtMark, List.intercalate]
  | cons c rest ih =>
      cases held with
      | succ held => exact ih piece held
      | zero =>
          rw [splitAtMark]
          split
          · next front =>
            obtain ⟨first, others, rfl⟩ := List.exists_cons_of_ne_nil nonempty
            obtain ⟨after, whole⟩ := List.isPrefixOf_iff_prefix.mp front
            obtain ⟨rfl, rfl⟩ : first = c ∧ others ++ after = rest := List.cons.inj whole
            have later := ih [] others.length
            obtain ⟨second, more, pieces⟩ := List.exists_cons_of_ne_nil
              (@splitAtMark_ne_nil (first :: others) [] others.length (others ++ after))
            rw [List.length_cons, Nat.add_sub_cancel]
            rw [pieces] at later ⊢
            rw [List.intercalate_cons_cons, later, List.drop_left]
            simp
          · rw [ih (c :: piece) 0]
            simp

theorem intercalate_split (nonempty : mark ≠ []) (text : List Char) :
    mark.intercalate (split mark text) = text :=
  intercalate_splitAtMark nonempty [] 0 text

/-- A text is cut into two at a mark between them. -/
theorem eq_append_of_split (nonempty : mark ≠ []) {text before after : List Char}
    (pieces : split mark text = [before, after]) : text = before ++ mark ++ after := by
  have joined := intercalate_split nonempty text
  rw [pieces, List.intercalate_cons_cons] at joined
  simpa [List.intercalate] using joined.symm

section

variable {c : Char}

/-- Without one of its characters there is no mark. -/
theorem splitAtMark_of_not_mem (member : c ∈ mark) {text : List Char} (absent : c ∉ text)
    (piece : List Char) : splitAtMark mark piece 0 text = [piece.reverse ++ text] := by
  induction text generalizing piece with
  | nil => simp [splitAtMark]
  | cons d rest ih =>
      have elsewhere : ¬mark.isPrefixOf (d :: rest) = true := fun front =>
        absent ((List.isPrefixOf_iff_prefix.mp front).subset member)
      rw [splitAtMark, if_neg elsewhere, ih fun later => absent (List.mem_cons_of_mem d later)]
      simp

/-- A mark stands no earlier than all of its characters do. -/
theorem not_isPrefixOf_of_not_mem (member : c ∈ mark) {before : List Char} (absent : c ∉ before)
    (nonempty : before ≠ []) (after : List Char) :
    mark.isPrefixOf (before ++ (mark ++ after)) = false := by
  refine Bool.eq_false_iff.mpr fun front => ?_
  obtain ⟨rest, whole⟩ := List.isPrefixOf_iff_prefix.mp front
  have place := congrArg (List.idxOf c) whole
  rw [List.idxOf_append_of_notMem absent, List.idxOf_append, if_pos member, List.idxOf_append,
    if_pos member] at place
  have some := List.length_pos_iff.mpr nonempty
  omega

/-- A mark is found where it stands, if one of its characters stands nowhere before. -/
theorem split_first (member : c ∈ mark) {before : List Char} (absent : c ∉ before)
    (after : List Char) : split mark (before ++ mark ++ after) = before :: split mark after := by
  have passed (piece : List Char) :
      splitAtMark mark piece 0 (before ++ (mark ++ after)) =
        (piece.reverse ++ before) :: splitAtMark mark [] 0 after := by
    induction before generalizing piece with
    | nil => rw [List.nil_append, splitAtMark_mark (List.ne_nil_of_mem member), List.append_nil]
    | cons d before ih =>
        have elsewhere := not_isPrefixOf_of_not_mem member absent (List.cons_ne_nil d before) after
        rw [List.cons_append] at elsewhere ⊢
        rw [splitAtMark, if_neg (by rw [elsewhere]; decide),
          ih fun inside => absent (List.mem_cons_of_mem d inside)]
        simp
  rw [split, List.append_assoc, passed]
  rfl

theorem split_of_not_mem (member : c ∈ mark) {text : List Char} (absent : c ∉ text) :
    split mark text = [text] :=
  splitAtMark_of_not_mem member absent []

/-- A mark that stands once cuts a text into two. -/
theorem split_once (member : c ∈ mark) {before after : List Char} (first : c ∉ before)
    (later : c ∉ after) : split mark (before ++ mark ++ after) = [before, after] := by
  rw [split_first member first, split_of_not_mem member later]

end

end Text

end DiceLedger
