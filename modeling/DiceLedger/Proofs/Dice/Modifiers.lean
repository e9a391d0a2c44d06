import DiceLedger.Proofs.Dice.Dealing
import DiceLedger.Proofs.Dice.SetApart

/-! # Dice terms with modifiers

Behind a dice term may stand a modifier, such as the `k3` of `4d6k3`, that says which of its dice
count. A modifier of the families that keep and reroll leaves the term all of its dice. One of the
family that drops begins with the letter of dice itself, and takes the term away, as its faces
are read as a count (`DiceLedger.Dice.ModifiedTerm.leaves`). Outcomes are dealt accordingly
(`DiceLedger.Dice.deal_modified`), so those of dropped dice are refused
(`DiceLedger.Dice.dropped_dice_refused`).
-/

namespace DiceLedger

namespace Dice

inductive ModifierKind where
  | keep
  | keepHighest
  | keepLowest
  | drop
  | dropHighest
  | dropLowest
  | reroll
  | rerollOnce
  deriving DecidableEq, Repr

namespace ModifierKind

/-- The letter of the family of a modifier. -/
def family : ModifierKind → Char
  | keep | keepHighest | keepLowest => 'k'
  | drop | dropHighest | dropLowest => 'd'
  | reroll | rerollOnce => 'r'

/-- The letter behind that of the family. -/
def variant? : ModifierKind → Option Char
  | keep | drop | reroll => none
  | keepHighest | dropHighest => some 'h'
  | keepLowest | dropLowest => some 'l'
  | rerollOnce => some 'o'

def drops (kind : ModifierKind) : Bool := kind.family = 'd'

end ModifierKind

inductive Comparison where
  | below
  | above
  deriving DecidableEq, Repr

def Comparison.sign : Comparison → Char
  | below => '<'
  | above => '>'

/-- A modifier, such as `k3`, `dl1` or `ro<2`. -/
structure Modifier where
  kind : ModifierKind
  comparison : Option Comparison
  number : List Char
  numbered : IsDigits number

namespace Modifier

/-- What stands between the letter of the family and the number. -/
def signs (modifier : Modifier) : List Char :=
  modifier.kind.variant?.toList ++ (modifier.comparison.map Comparison.sign).toList

def text (modifier : Modifier) : List Char :=
  modifier.kind.family :: (modifier.signs ++ modifier.number)

end Modifier

/-- A dice term with its modifier, if any. Without a count it is one die. -/
structure ModifiedTerm where
  count : List Char
  faces : List Char
  modifier : Option Modifier
  counted : ∀ c ∈ count, c.isDigit = true
  sided : IsDigits faces

namespace ModifiedTerm

def text (written : ModifiedTerm) : List Char :=
  written.count ++ 'd' :: (written.faces ++ (written.modifier.map Modifier.text).getD [])

/-- The dice term itself. -/
def term (written : ModifiedTerm) : Term :=
  ⟨if written.count.isEmpty then ['1'] else written.count, written.faces⟩

/-- The terms that are read for a modified term. A modifier of the family that drops leaves none,
unless its number stands right behind its letter and so becomes the faces of a term whose count
are the faces of the modified one. -/
def leaves (written : ModifiedTerm) : List Term :=
  match written.modifier with
  | none => [written.term]
  | some modifier =>
    if modifier.kind.drops then
      if modifier.signs.isEmpty then [⟨written.faces, modifier.number⟩] else []
    else [written.term]

end ModifiedTerm

/-- Terms in front of a last one, joined by `+`. -/
def modifiedFormula (earlier : List ModifiedTerm) (last : ModifiedTerm) : List Char :=
  earlier.flatMap (fun written => written.text ++ ['+']) ++ last.text

theorem ModifierKind.family_plain {kind : ModifierKind} (keeps : kind.drops = false) :
    kind.family ≠ 'd' ∧ kind.family.isDigit = false := by
  cases kind with
  | drop => cases keeps
  | dropHighest => cases keeps
  | dropLowest => cases keeps
  | _ => exact ⟨by decide, rfl⟩

theorem ModifierKind.variant_plain {kind : ModifierKind} {c : Char}
    (letter : kind.variant? = some c) : c ≠ 'd' ∧ c.isDigit = false := by
  cases kind <;> cases letter <;> exact ⟨by decide, rfl⟩

namespace Modifier

/-- The signs of a modifier are neither digits nor a `d`. -/
theorem signs_plain (modifier : Modifier) {c : Char} (member : c ∈ modifier.signs) :
    c ≠ 'd' ∧ c.isDigit = false := by
  rcases List.mem_append.mp member with letter | sign
  · exact ModifierKind.variant_plain (Option.mem_toList.mp letter)
  · obtain ⟨comparison, -, rfl⟩ := Option.map_eq_some_iff.mp (Option.mem_toList.mp sign)
    cases comparison with
    | below => exact ⟨by decide, rfl⟩
    | above => exact ⟨by decide, rfl⟩

/-- Behind the letter of its family a modifier has no `d`. -/
theorem not_mem (modifier : Modifier) : 'd' ∉ modifier.signs ++ modifier.number := by
  intro member
  rcases List.mem_append.mp member with sign | digit
  · exact (modifier.signs_plain sign).1 rfl
  · exact absurd (modifier.numbered.digits 'd' digit) (by decide)

variable {rest : List Char}

/-- A modifier that does not drop closes the term before it and adds none. -/
theorem termsAfter_of_keeps (modifier : Modifier) (keeps : modifier.kind.drops = false)
    (ends : Ends rest) (count digits : List Char) :
    termsAfter count digits (modifier.text ++ rest) =
      ⟨closedTerm count digits ++ (termsAfter [] [] rest).terms,
        (termsAfter [] [] rest).dangling⟩ := by
  obtain ⟨notDie, notDigit⟩ := ModifierKind.family_plain keeps
  rw [text, List.cons_append, termsAfter_close notDie notDigit,
    ends.termsAfter_plain modifier.not_mem]

/-- A modifier that drops takes the faces before it for a count. -/
theorem termsAfter_of_drops (modifier : Modifier) (drops : modifier.kind.drops = true)
    (ends : Ends rest) (count : List Char) {digits : List Char} (nonempty : digits ≠ []) :
    termsAfter count digits (modifier.text ++ rest) =
      ⟨(if modifier.signs.isEmpty then [⟨digits, modifier.number⟩] else []) ++
          (termsAfter [] [] rest).terms,
        (termsAfter [] [] rest).dangling⟩ := by
  have die : modifier.kind.family = 'd' := of_decide_eq_true drops
  have counted : digits.isEmpty = false := by simpa using nonempty
  have plain := modifier.not_mem
  rw [text, List.cons_append, termsAfter, if_pos die, counted, if_neg Bool.false_ne_true,
    List.append_assoc]
  cases split : modifier.signs with
  | nil =>
      have sided : modifier.number.isEmpty = false := by simpa using modifier.numbered.nonempty
      have closed : closedTerm digits modifier.number = [⟨digits, modifier.number⟩] := by
        rw [closedTerm, counted, sided]
        rfl
      rw [List.nil_append, termsAfter_append modifier.numbered.digits, List.nil_append,
        ends.termsAfter digits modifier.numbered.nonempty, closed]
      rfl
  | cons c signs =>
      obtain ⟨notDie, notDigit⟩ := modifier.signs_plain (split ▸ List.mem_cons_self)
      rw [split, List.cons_append] at plain
      have passed := ends.termsAfter_plain (fun member => plain (List.mem_cons_of_mem c member)) []
      rw [List.append_assoc] at passed
      rw [List.cons_append, termsAfter_close notDie notDigit, passed, closedTerm, counted]
      rfl

end Modifier

namespace ModifiedTerm

/-- Reading a modified term gives what the term leaves. -/
theorem termsAfter_text (written : ModifiedTerm) {rest : List Char} (ends : Ends rest) :
    termsAfter [] [] (written.text ++ rest) =
      ⟨written.leaves ++ (termsAfter [] [] rest).terms, (termsAfter [] [] rest).dangling⟩ := by
  obtain ⟨count, faces, modifier, counted, sided⟩ := written
  have closed : closedTerm (if count.isEmpty then ['1'] else count) faces =
      [⟨if count.isEmpty then ['1'] else count, faces⟩] := by
    have first : (if count.isEmpty then ['1'] else count).isEmpty = false := by
      split
      · rfl
      · next given => simpa using given
    have second : faces.isEmpty = false := by simpa using sided.nonempty
    rw [closedTerm, first, second]
    rfl
  simp only [text, leaves, term]
  rw [List.append_assoc, termsAfter_append counted, List.nil_append, List.cons_append, termsAfter,
    if_pos rfl, List.append_assoc, termsAfter_append sided.digits, List.nil_append]
  cases modifier with
  | none => exact (ends.termsAfter _ sided.nonempty).trans (by rw [closed])
  | some modifier =>
      cases drops : modifier.kind.drops with
      | true =>
          refine (modifier.termsAfter_of_drops drops ends _ sided.nonempty).trans ?_
          simp only [drops, ↓reduceIte]
      | false =>
          refine (modifier.termsAfter_of_keeps drops ends _ _).trans ?_
          simp only [drops, Bool.false_eq_true, ↓reduceIte, closed]

end ModifiedTerm

theorem formulaTerms_modifiedFormula (earlier : List ModifiedTerm) (last : ModifiedTerm) :
    formulaTerms (modifiedFormula earlier last) =
      ⟨(earlier ++ [last]).flatMap ModifiedTerm.leaves, false⟩ := by
  induction earlier with
  | nil =>
      have read := last.termsAfter_text ends_nil
      rw [List.append_nil] at read
      exact read
  | cons first earlier ih =>
      have joined : modifiedFormula (first :: earlier) last =
          first.text ++ '+' :: modifiedFormula earlier last := by
        simp only [modifiedFormula, List.flatMap_cons, List.append_assoc, List.cons_append,
          List.nil_append]
      have behind : termsAfter [] [] ('+' :: modifiedFormula earlier last) =
          formulaTerms (modifiedFormula earlier last) :=
        termsAfter_of_other (by decide) rfl _ _
      rw [joined, formulaTerms, first.termsAfter_text (ends_cons (.inl rfl)), behind, ih,
        List.cons_append, List.flatMap_cons]

/-- **Outcomes are dealt to modified terms as these leave terms.** A term whose modifier keeps or
rerolls dice takes as many outcomes as it counts, each with its faces, and its modifier takes none.
A term whose modifier drops dice takes none of its own. -/
theorem deal_modified (earlier : List ModifiedTerm) (last : ModifiedTerm)
    (short : ∀ written ∈ earlier ++ [last], ∀ term ∈ written.leaves, term.Short)
    (outcomes : List Int) :
    deal (String.ofList (modifiedFormula earlier last)) outcomes =
      .ok (if outcomes.length = (((earlier ++ [last]).flatMap ModifiedTerm.leaves).flatMap
          Term.diceFaces).length then
        some (handed (((earlier ++ [last]).flatMap ModifiedTerm.leaves).flatMap Term.diceFaces)
          outcomes)
      else none) := by
  have read := formulaTerms_modifiedFormula earlier last
  rw [← String.toList_ofList (l := modifiedFormula earlier last)] at read
  have dealt := @deal_of_short (String.ofList (modifiedFormula earlier last))
  rw [read] at dealt
  refine dealt (fun term member => ?_) rfl outcomes
  obtain ⟨written, listed, left⟩ := List.mem_flatMap.mp member
  exact short written listed term left

/-- A term of numbers with one digit, and a modifier with such a number. -/
def oneDigitTerm (count faces : Char) (modifier : Option Modifier) (counted : count.isDigit = true)
    (sided : faces.isDigit = true) : ModifiedTerm :=
  ⟨[count], [faces], modifier, (isDigits_singleton counted).digits, isDigits_singleton sided⟩

def oneDigitModifier (kind : ModifierKind) (comparison : Option Comparison) (number : Char)
    (numbered : number.isDigit = true) : Modifier :=
  ⟨kind, comparison, [number], isDigits_singleton numbered⟩

/-- Rerolled ones and the three best of four dice: all six dice get their outcomes. -/
theorem deal_modified_kept :
    (∀ written ∈ [oneDigitTerm '2' '8' (some (oneDigitModifier .rerollOnce (some .below) '2' rfl))
          rfl rfl] ++
        [oneDigitTerm '4' '6' (some (oneDigitModifier .keepHighest none '3' rfl)) rfl rfl],
      ∀ term ∈ written.leaves, term.Short) ∧
    deal "2d8ro<2+4d6kh3" [7, 5, 3, 1, 1, 6] =
      .ok (some [⟨8, 7⟩, ⟨8, 5⟩, ⟨6, 3⟩, ⟨6, 1⟩, ⟨6, 1⟩, ⟨6, 6⟩]) := by
  have short : ∀ written ∈ [oneDigitTerm '2' '8'
        (some (oneDigitModifier .rerollOnce (some .below) '2' rfl)) rfl rfl] ++
      [oneDigitTerm '4' '6' (some (oneDigitModifier .keepHighest none '3' rfl)) rfl rfl],
      ∀ term ∈ written.leaves, term.Short := by
    simp only [List.cons_append, List.nil_append, List.forall_mem_cons, List.not_mem_nil,
      false_implies, implies_true, and_true]
    exact ⟨fun term member => List.mem_singleton.mp member ▸ ⟨by decide, by decide⟩,
      fun term member => List.mem_singleton.mp member ▸ ⟨by decide, by decide⟩⟩
  exact ⟨short, deal_modified _ _ short _⟩

/-- A drop modifier has all outcomes of its term refused. -/
theorem dropped_dice_refused :
    ¬∀ (earlier : List ModifiedTerm) (last : ModifiedTerm) (outcomes : List Int),
      outcomes.length =
          (((earlier ++ [last]).map ModifiedTerm.term).flatMap Term.diceFaces).length →
        deal (String.ofList (modifiedFormula earlier last)) outcomes =
          .ok (some (handed
            (((earlier ++ [last]).map ModifiedTerm.term).flatMap Term.diceFaces) outcomes)) := by
  intro claimed
  have refused := claimed []
    (oneDigitTerm '4' '6' (some (oneDigitModifier .drop none '1' rfl)) rfl rfl) [3, 1, 1, 3] rfl
  exact absurd refused (by decide)

end Dice

end DiceLedger
