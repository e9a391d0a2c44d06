import DiceLedger.Dice.Term
import DiceLedger.Proofs.Dice.Acceptance
import DiceLedger.Proofs.Dice.Draws

/-! # Phrases that roll written dice

In some tokens every roll stands between two numerals of plain digits, with no group behind it
(`DiceLedger.Dice.DiceApart`). A phrase that such tokens write rolls these dice and no others
(`DiceLedger.Dice.DiceApart.exists_hasTerms`), from left to right
(`DiceLedger.Dice.Phrase.HasTerms.draws`).
-/

namespace DiceLedger

namespace Dice

variable {σ : Type}

/-- A text of plain digits. -/
structure IsDigits (text : List Char) : Prop where
  nonempty : text ≠ []
  digits : ∀ c ∈ text, c.isDigit = true

theorem isDigits_singleton {c : Char} (digit : c.isDigit = true) : IsDigits [c] := by
  refine ⟨List.cons_ne_nil c [], fun other member => ?_⟩
  obtain rfl := List.mem_singleton.mp member
  exact digit

/-- Digits are characters of numerals. -/
theorem IsDigits.chars {text : List Char} (written : IsDigits text) :
    ∀ c ∈ text, isNumeralChar c = true :=
  fun c member => isNumeralChar_of_isDigit (written.digits c member)

/-- The number that a numeral of plain digits writes. -/
theorem Numeral.value_of_digits {written : Numeral}
    (digits : ∀ c ∈ written.text, c.isDigit = true) :
    written.value = .ofNat (Text.valueOfDigits written.text) := by
  have taken : written.text.takeWhile Char.isDigit = written.text :=
    List.takeWhile_eq_self_iff.mpr digits
  have dropped : written.text.dropWhile Char.isDigit = [] :=
    List.dropWhile_eq_nil_iff.mpr digits
  have some : written.text.isEmpty = false := by
    simpa using (isNumeral_digits digits).mp written.proper
  apply Option.some.inj
  rw [← numeralValue?_numeral]
  simp only [numeralValue?, Text.readDecimal?, taken, dropped, some, Bool.false_and,
    Bool.false_eq_true, ↓reduceIte, Text.readExponent?, Option.bind_eq_bind, Option.bind_some,
    List.append_nil, List.length_nil, Int.natCast_zero, Int.sub_zero, Binary64.ofDecimal_zero]

/-- The sides that a term draws from, one for each die. -/
def Term.sides (term : Term) : List Nat :=
  rolledSides (Text.valueOfDigits term.count) (Text.valueOfDigits term.faces)

/-- A term that can be dealt and rolled, with more than one side. -/
structure Term.InRange (term : Term) : Prop where
  count_length : term.count.length ≤ Text.maxWholeDigits
  faces_length : term.faces.length ≤ Text.maxWholeDigits
  count_le : Text.valueOfDigits term.count ≤ maxDice
  two_le_faces : 2 ≤ Text.valueOfDigits term.faces
  faces_le : Text.valueOfDigits term.faces ≤ maxDice

/-- An operator that has a result wherever dice can be rolled. -/
def Operator.IsTotal (operator : Operator) : Prop := operator ≠ .divide ∧ operator ≠ .power

/-- Operators that always have a result have one. -/
theorem apply_isSome {source : Source σ} {operator : Operator} (total : operator.IsTotal)
    (other : operator ≠ .roll) (x y : Binary64) (state : σ) :
    (apply source operator x y state).1.isSome := by
  cases operator with
  | divide => exact absurd rfl total.1
  | power => exact absurd rfl total.2
  | roll => exact absurd rfl other
  | _ => rfl

/-- Operands that always have a value leave an operator with one. -/
theorem applyInOrder_isSome {source : Source σ} {operator : Operator}
    {left right : σ → Option Binary64 × σ} (leftSome : ∀ state, (left state).1.isSome)
    (rightSome : ∀ state, (right state).1.isSome)
    (applied : ∀ x y state, (apply source operator x y state).1.isSome) (state : σ) :
    (applyInOrder source operator left right state).1.isSome := by
  have first := leftSome state
  unfold applyInOrder
  generalize left state = result at first ⊢
  obtain ⟨_ | x, middle⟩ := result
  · cases first
  · have second := rightSome middle
    dsimp only
    generalize right middle = result at second ⊢
    obtain ⟨_ | y, last⟩ := result
    · cases second
    · exact applied x y last

namespace Phrase

/-- The dice terms of a phrase from left to right, when it rolls nothing else. -/
inductive HasTerms : Phrase → List Term → Prop
  | numeral (written : Numeral) : HasTerms (.numeral written) []
  | group {inner : Phrase} {terms : List Term} (within : HasTerms inner terms) :
      HasTerms (.group inner) terms
  | beside {left inner : Phrase} {first second : List Term} (before : HasTerms left first)
      (within : HasTerms inner second) : HasTerms (.beside left inner) (first ++ second)
  | binary {operator : Operator} {left right : Phrase} {first second : List Term}
      (other : operator ≠ .roll) (before : HasTerms left first) (behind : HasTerms right second) :
      HasTerms (.binary operator left right) (first ++ second)
  | dice {count faces : Numeral} (counted : ∀ c ∈ count.text, c.isDigit = true)
      (sided : ∀ c ∈ faces.text, c.isDigit = true) :
      HasTerms (.binary .roll (.numeral count) (.numeral faces)) [⟨count.text, faces.text⟩]

/-- Dice between two numerals of digits are rolled as these are written. -/
theorem evaluate_dice (source : Source σ) {count faces : Numeral}
    (counted : ∀ c ∈ count.text, c.isDigit = true)
    (sided : ∀ c ∈ faces.text, c.isDigit = true) (state : σ) :
    (binary .roll (numeral count) (numeral faces)).evaluate source state =
      roll source (.ofNat (Text.valueOfDigits count.text))
        (.ofNat (Text.valueOfDigits faces.text)) state := by
  rw [← Numeral.value_of_digits counted, ← Numeral.value_of_digits sided]
  rfl

variable {phrase : Phrase} {terms : List Term}

/-- Evaluating a phrase draws from the dice of its terms in order. -/
theorem HasTerms.draws (has : phrase.HasTerms terms) (source : Source σ) (state : σ) :
    Draws source (terms.flatMap Term.sides) state (phrase.evaluate source state) := by
  induction has generalizing state with
  | numeral written => exact Draws.nothing _
  | group _ ih => exact ih state
  | beside _ _ ihLeft ihInner =>
      rw [List.flatMap_append]
      exact Draws.applyInOrder (by decide) ihLeft ihInner state
  | binary other _ _ ihLeft ihRight =>
      rw [List.flatMap_append]
      exact Draws.applyInOrder other ihLeft ihRight state
  | dice counted sided =>
      rw [evaluate_dice source counted sided, List.flatMap_singleton]
      exact roll_ofNat_draws _ _

/-- A phrase that neither divides nor raises to a power has a value if its dice can be
rolled. -/
theorem HasTerms.isSome (has : phrase.HasTerms terms)
    (total : ∀ operator, .operator operator ∈ phrase.tokens → operator.IsTotal)
    (inRange : ∀ term ∈ terms, term.InRange) (source : Source σ) (state : σ) :
    (phrase.evaluate source state).1.isSome := by
  induction has generalizing state with
  | numeral written => rfl
  | group _ ih =>
      exact ih (fun operator member => total operator (by simp [tokens, member])) inRange state
  | beside _ _ ihLeft ihInner =>
      refine applyInOrder_isSome
        (ihLeft (fun operator member => total operator (by simp [tokens, member]))
          fun term member => inRange term (List.mem_append_left _ member))
        (ihInner (fun operator member => total operator (by simp [tokens, member]))
          fun term member => inRange term (List.mem_append_right _ member))
        (fun x y _ => rfl) state
  | binary other _ _ ihLeft ihRight =>
      refine applyInOrder_isSome
        (ihLeft (fun operator member => total operator (by simp [tokens, member]))
          fun term member => inRange term (List.mem_append_left _ member))
        (ihRight (fun operator member => total operator (by simp [tokens, member]))
          fun term member => inRange term (List.mem_append_right _ member))
        (fun x y _ => apply_isSome (total _ (by simp [tokens])) other x y _) state
  | dice counted sided =>
      have within := inRange _ List.mem_cons_self
      rw [evaluate_dice source counted sided]
      exact roll_ofNat_isSome within.count_le within.two_le_faces within.faces_le

end Phrase

/-- Tokens in which every roll stands between two numerals of digits and before no group, with
the terms that these write. -/
inductive DiceApart : List Token → List Term → Prop
  | nil : DiceApart [] []
  | pass {t : Token} {ts : List Token} {terms : List Term} (other : t ≠ .operator .roll)
      (rest : DiceApart ts terms) : DiceApart (t :: ts) terms
  | dice {count faces : List Char} {ts : List Token} {terms : List Term}
      (counted : IsDigits count) (sided : IsDigits faces) (ended : ts.head? ≠ some .opening)
      (rest : DiceApart ts terms) :
      DiceApart (.numeral count :: .operator .roll :: .numeral faces :: ts)
        (⟨count, faces⟩ :: terms)

namespace DiceApart

/-- No term begins with its `d`. -/
theorem head_ne_roll {ts : List Token} {terms : List Term} (apart : DiceApart ts terms) :
    ts.head? ≠ some (.operator .roll) := by
  cases apart with
  | nil => exact nofun
  | pass other _ => exact fun head => other (Option.some.inj head)
  | dice => exact nofun

/-- What stands around a roll. -/
theorem around_roll {before behind : List Token} {terms : List Term}
    (apart : DiceApart (before ++ .operator .roll :: behind) terms) :
    ∃ earlier count faces later, before = earlier ++ [.numeral count] ∧
      behind = .numeral faces :: later ∧ earlier.getLast? ≠ some (.operator .roll) ∧
      later.head? ≠ some .opening := by
  generalize whole : before ++ .operator .roll :: behind = ts at apart
  induction apart generalizing before with
  | nil => cases before <;> cases whole
  | @pass t ts terms other rest ih =>
      cases before with
      | nil => exact absurd (List.cons.inj whole).1.symm other
      | cons first before =>
          obtain ⟨rfl, rfl⟩ := List.cons.inj whole
          obtain ⟨earlier, count, faces, later, rfl, rfl, last, head⟩ := ih rfl
          refine ⟨first :: earlier, count, faces, later, rfl, rfl, ?_, head⟩
          cases earlier with
          | nil => exact fun same => other (Option.some.inj same)
          | cons next earlier => rwa [List.getLast?_cons_cons]
  | @dice count faces ts terms counted sided ended rest ih =>
      match before with
      | [] => cases (List.cons.inj whole).1
      | [first] =>
          obtain ⟨rfl, same⟩ := List.cons.inj whole
          obtain ⟨-, rfl⟩ := List.cons.inj same
          exact ⟨[], count, faces, ts, rfl, rfl, nofun, ended⟩
      | [_, _] => cases (List.cons.inj (List.cons.inj (List.cons.inj whole).2).2).1
      | first :: second :: third :: before =>
          simp only [List.cons_append, List.cons.injEq] at whole
          obtain ⟨rfl, rfl, rfl, rfl⟩ := whole
          obtain ⟨earlier, one, other, later, rfl, rfl, last, head⟩ := ih rfl
          refine ⟨.numeral count :: .operator .roll :: .numeral faces :: earlier, one, other, later,
            rfl, rfl, ?_, head⟩
          cases earlier with
          | nil => exact nofun
          | cons next earlier => rwa [List.getLast?_cons_cons, List.getLast?_cons_cons,
              List.getLast?_cons_cons]

end DiceApart

/-- Only rolling binds as tightly as it does. -/
theorem Operator.eq_roll_of_le {operator : Operator} (tight : 4 ≤ operator.precedence) :
    operator = .roll := by
  cases operator with
  | roll => rfl
  | _ => exact absurd tight (by decide)

namespace Phrase

variable {phrase : Phrase}

/-- A tight phrase that ends in a numeral, but not in one behind a roll, is that numeral. -/
theorem WellFormed.eq_numeral_of_last (proper : phrase.WellFormed)
    (tight : 4 ≤ phrase.tightness) {earlier : List Token} {count : List Char}
    (written : phrase.tokens = earlier ++ [.numeral count])
    (single : earlier.getLast? ≠ some (.operator .roll)) :
    ∃ numeral : Numeral, phrase = .numeral numeral := by
  have last := congrArg List.getLast? written
  rw [List.getLast?_concat] at last
  have not_closed {front : List Token} (closed : phrase.tokens = front ++ [.closing]) :
      False := by
    rw [closed, List.getLast?_concat] at last
    cases last
  cases phrase with
  | numeral numeral => exact ⟨numeral, rfl⟩
  | group inner => exact (not_closed rfl).elim
  | beside left inner => exact (not_closed rfl).elim
  | binary operator left right =>
      obtain rfl : operator = .roll := operator.eq_roll_of_le tight
      cases right with
      | numeral numeral =>
          have same : (left.tokens ++ [.operator .roll]) ++ [.numeral numeral.text] =
              earlier ++ [.numeral count] := by simpa [tokens] using written
          obtain ⟨rfl, -⟩ := List.append_inj' same rfl
          exact absurd List.getLast?_concat single
      | group inner =>
          have closed : (binary .roll left (group inner)).tokens =
              (left.tokens ++ .operator .roll :: .opening :: inner.tokens) ++ [.closing] := by
            simp [tokens]
          exact (not_closed closed).elim
      | beside before inner =>
          have closed : (binary .roll left (beside before inner)).tokens =
              (left.tokens ++ .operator .roll :: (before.tokens ++ .opening :: inner.tokens)) ++
                [.closing] := by
            simp [tokens]
          exact (not_closed closed).elim
      | binary other _ _ => exact absurd proper.2.2 (Nat.not_lt.mpr other.precedence_le)

/-- A phrase without an operator outside of parentheses that begins with a numeral is that
numeral, when no group stands behind it. -/
theorem WellFormed.eq_numeral_of_head (proper : phrase.WellFormed) (tight : 4 < phrase.tightness)
    {behind later : List Token} {faces : List Char}
    (written : phrase.tokens ++ behind = .numeral faces :: later)
    (ended : later.head? ≠ some .opening) :
    (∃ numeral : Numeral, phrase = .numeral numeral) := by
  induction phrase generalizing behind with
  | numeral numeral => exact ⟨numeral, rfl⟩
  | group inner =>
      rw [tokens_group_append] at written
      cases (List.cons.inj written).1
  | beside left inner ihLeft _ =>
      obtain ⟨leftProper, leftTight, -⟩ := proper
      rw [tokens_beside_append] at written
      obtain ⟨numeral, rfl⟩ := ihLeft leftProper leftTight written
      obtain ⟨-, rfl⟩ := List.cons.inj written
      exact absurd rfl ended
  | binary operator left right =>
      exact absurd tight (Nat.not_lt.mpr operator.precedence_le)

end Phrase

/-- A phrase that is written by such tokens, and by others behind it, has the first of their
terms. -/
theorem DiceApart.exists_hasTerms {phrase : Phrase} (proper : phrase.WellFormed)
    {behind : List Token} {terms : List Term} (apart : DiceApart (phrase.tokens ++ behind) terms)
    (ended : behind.head? ≠ some (.operator .roll)) :
    ∃ own later, terms = own ++ later ∧ phrase.HasTerms own ∧ DiceApart behind later := by
  induction phrase generalizing behind terms with
  | numeral written =>
      cases apart with
      | pass _ rest => exact ⟨[], terms, rfl, .numeral written, rest⟩
      | dice => exact absurd rfl ended
  | group inner ih =>
      rw [Phrase.tokens_group_append] at apart
      cases apart with
      | pass _ rest =>
          obtain ⟨own, later, rfl, has, closed⟩ := ih proper rest nofun
          cases closed with
          | pass _ rest => exact ⟨own, later, rfl, .group has, rest⟩
  | beside left inner ihLeft ihInner =>
      obtain ⟨leftProper, -, innerProper⟩ := proper
      rw [Phrase.tokens_beside_append] at apart
      obtain ⟨first, _, rfl, leftHas, opened⟩ := ihLeft leftProper apart nofun
      cases opened with
      | pass _ rest =>
          obtain ⟨second, later, rfl, innerHas, closed⟩ := ihInner innerProper rest nofun
          cases closed with
          | pass _ rest =>
              exact ⟨first ++ second, later, (List.append_assoc _ _ _).symm,
                leftHas.beside innerHas, rest⟩
  | binary operator left right ihLeft ihRight =>
      obtain ⟨⟨leftProper, leftTight⟩, rightProper, rightTight⟩ := proper
      rw [Phrase.tokens_binary_append] at apart
      by_cases rolls : operator = .roll
      · subst rolls
        obtain ⟨earlier, count, faces, later, front, back, last, head⟩ := apart.around_roll
        obtain ⟨countNumeral, rfl⟩ := leftProper.eq_numeral_of_last leftTight front last
        obtain ⟨facesNumeral, rfl⟩ := rightProper.eq_numeral_of_head rightTight back head
        cases apart with
        | pass _ rest => exact absurd rfl rest.head_ne_roll
        | dice counted sided _ rest =>
            exact ⟨[_], _, rfl, .dice counted.digits sided.digits, rest⟩
      · obtain ⟨first, _, rfl, leftHas, applied⟩ := ihLeft leftProper apart
          fun same => rolls (by simpa using same)
        cases applied with
        | pass _ rest =>
            obtain ⟨second, later, rfl, rightHas, rest⟩ := ihRight rightProper rest ended
            exact ⟨first ++ second, later, (List.append_assoc _ _ _).symm,
              leftHas.binary rolls rightHas, rest⟩

end Dice

end DiceLedger
