import DiceLedger.Proofs.Dice.Dealing
import DiceLedger.Proofs.Dice.Printing
import DiceLedger.Proofs.Dice.SetApart

/-! # Dealing an evaluation's own draws

Of dice terms and whole constants a formula is built with `+`, `-`, `*` and parentheses
(`DiceLedger.Dice.DiceFormula`). Such a formula always has a value, and what its evaluation draws
is dealt back to the dice that it was drawn for; no other number of outcomes fits
(`DiceLedger.Dice.deal_own_draws`).
-/

namespace DiceLedger

namespace Dice

variable {σ : Type}

def blanks (count : Nat) : List Char := List.replicate count ' '

/-- Formulas of dice terms and constants, joined by the signs of sums, differences and products,
with parentheses around any of them. Blanks stand beside signs and parentheses only. -/
inductive DiceFormula : List Char → Prop
  | dice {count faces : List Char} (counted : IsDigits count) (sided : IsDigits faces)
      (inRange : Term.InRange ⟨count, faces⟩) : DiceFormula (count ++ 'd' :: faces)
  | constant {digits : List Char} (written : IsDigits digits) : DiceFormula digits
  | group {inner : List Char} (outside before behind after : Nat) (within : DiceFormula inner) :
      DiceFormula (blanks outside ++
        '(' :: (blanks before ++ (inner ++ (blanks behind ++ ')' :: blanks after))))
  | join {left right : List Char} {sign : Char} (before behind : Nat)
      (known : sign ∈ ['+', '-', '*']) (first : DiceFormula left) (second : DiceFormula right) :
      DiceFormula (left ++ (blanks before ++ sign :: (blanks behind ++ right)))

section Blanks

variable {opened : Nat} {joined : Bool} {rest : List Char}

/-- Blanks in front of an end do not matter. -/
theorem ends_blanks (count : Nat) (ends : Ends rest) : Ends (blanks count ++ rest) := by
  induction count with
  | zero => exact ends
  | succ count ih => exact (ends_cons_of_skipped rfl).mpr ih

/-- Blanks in front do not matter for what is set apart. -/
theorem setApart_blanks (count : Nat) (apart : SetApart opened joined rest) :
    SetApart opened joined (blanks count ++ rest) := by
  induction count with
  | zero => exact apart
  | succ count ih => exact .skipped rfl ih

/-- Blanks make no tokens, and part none. -/
theorem tokensAfter_blanks (count : Nat) (digits rest : List Char) :
    tokensAfter digits (blanks count ++ rest) = tokensAfter digits rest := by
  induction count with
  | zero => rfl
  | succ count ih => exact (tokensAfter_of_skipped rfl _ _).trans ih

/-- Blanks make no terms between terms. -/
theorem termsAfter_blanks (count : Nat) (rest : List Char) :
    termsAfter [] [] (blanks count ++ rest) = termsAfter [] [] rest := by
  induction count with
  | zero => rfl
  | succ count ih => exact (termsAfter_of_other (by decide) rfl _ _).trans ih

end Blanks

/-- The signs of sums, differences and products write operators that always have a result. -/
theorem sign_token {sign : Char} (known : sign ∈ ['+', '-', '*']) :
    isSign sign = true ∧ isNumeralChar sign = false ∧
      ∃ operator, Token.ofChar? sign = some (.operator operator) ∧ operator.IsTotal := by
  simp only [List.mem_cons, List.not_mem_nil, or_false] at known
  rcases known with rfl | rfl | rfl <;> exact ⟨rfl, rfl, _, rfl, nofun, nofun⟩

/-- A constant in front of what is set apart stays set apart. -/
theorem setApart_constant {opened : Nat} {rest digits : List Char}
    (written : ∀ c ∈ digits, c.isDigit = true) (apart : ∀ joined, SetApart opened joined rest)
    (joined : Bool) : SetApart opened joined (digits ++ rest) := by
  induction digits generalizing joined with
  | nil => exact apart joined
  | cons c digits ih =>
      exact .numeral (isNumeralChar_of_isDigit (written c List.mem_cons_self))
        (ih (fun d member => written d (List.mem_cons_of_mem _ member)) true)

namespace DiceFormula

variable {text rest : List Char}

/-- The terms of a formula stand apart. -/
theorem setApart (built : DiceFormula text) {opened : Nat} (ends : Ends rest)
    (apart : ∀ joined, SetApart opened joined rest) : SetApart opened false (text ++ rest) := by
  induction built generalizing opened rest with
  | dice counted sided _ =>
      rw [List.append_assoc, List.cons_append]
      exact .dice counted sided ends (apart false)
  | constant written => exact setApart_constant written.digits apart false
  | group outside before behind after _ ih =>
      simp only [List.append_assoc, List.cons_append]
      exact setApart_blanks _ (.opening (setApart_blanks _
        (ih (ends_blanks _ (ends_cons (.inr rfl)))
          fun _ => setApart_blanks _ (.closing (setApart_blanks _ (apart false))))))
  | join before behind known _ _ ihFirst ihSecond =>
      simp only [List.append_assoc, List.cons_append]
      have sign := (sign_token known).1
      exact ihFirst (ends_blanks _ (ends_cons (.inl sign)))
        fun _ => setApart_blanks _ (.sign sign (setApart_blanks _ (ihSecond ends apart)))

/-- A formula is cut into an expression of operators that have a result wherever dice can be
rolled. -/
theorem tokens (built : DiceFormula text) :
    ∃ ts, Derives .expression ts ∧
      (∀ operator, .operator operator ∈ ts → operator.IsTotal) ∧
      ∀ {rest : List Char}, Ends rest →
        tokensAfter [] (text ++ rest) = ts ++ tokensAfter [] rest := by
  have numeral {digits : List Char} (written : IsDigits digits) :
      Derives .operand [.numeral digits] :=
    .numeral ((isNumeral_digits written.digits).mpr written.nonempty)
  induction built with
  | @dice count faces counted sided _ =>
      refine ⟨[.numeral count] ++ .operator .roll :: [.numeral faces],
        .operator .roll (.operand (numeral counted)) (numeral sided), ?_, fun ends => ?_⟩
      · intro operator member
        obtain rfl : operator = .roll := by simpa using member
        exact ⟨nofun, nofun⟩
      · rw [List.append_assoc, List.cons_append, tokensAfter_dice counted sided ends]
        rfl
  | @constant digits written =>
      refine ⟨[.numeral digits], .operand (numeral written), by simp, fun {rest} ends => ?_⟩
      rw [tokensAfter_append digits rest written.chars, List.append_nil, ends.tokensAfter,
        pendingNumeral_reverse written.nonempty]
  | @group inner outside before behind after _ ih =>
      obtain ⟨ts, derived, total, cut⟩ := ih
      refine ⟨.opening :: ts ++ [.closing], .operand (.first (.group derived)),
        fun operator member => total operator (by simpa using member), fun {rest} ends => ?_⟩
      simp only [List.append_assoc, List.cons_append, tokensAfter_blanks]
      rw [tokensAfter_cons_of_token rfl rfl, tokensAfter_blanks,
        cut (ends_blanks _ (ends_cons (.inr rfl))), tokensAfter_blanks,
        tokensAfter_cons_of_token rfl rfl, tokensAfter_blanks]
      rfl
  | @join left right sign before behind known _ _ ihFirst ihSecond =>
      obtain ⟨first, firstDerived, firstTotal, firstCut⟩ := ihFirst
      obtain ⟨second, secondDerived, secondTotal, secondCut⟩ := ihSecond
      obtain ⟨ended, other, operator, written, result⟩ := sign_token known
      refine ⟨first ++ .operator operator :: second,
        firstDerived.join operator secondDerived, fun another member => ?_, fun ends => ?_⟩
      · rcases List.mem_append.mp member with front | back
        · exact firstTotal another front
        · rcases List.mem_cons.mp back with same | back
          · exact Token.operator.inj same ▸ result
          · exact secondTotal another back
      · simp only [List.append_assoc, List.cons_append]
        rw [firstCut (ends_blanks _ (ends_cons (.inl ended))), tokensAfter_blanks,
          tokensAfter_cons_of_token other written, tokensAfter_blanks, secondCut ends]
        rfl

/-- All terms of a formula can be dealt and rolled. -/
theorem inRange (built : DiceFormula text) (ends : Ends rest) {term : Term}
    (member : term ∈ (termsAfter [] [] (text ++ rest)).terms) :
    term.InRange ∨ term ∈ (termsAfter [] [] rest).terms := by
  induction built generalizing rest with
  | dice counted sided inRange =>
      rw [List.append_assoc, List.cons_append, termsAfter_dice counted sided ends] at member
      rcases List.mem_cons.mp member with rfl | later
      · exact .inl inRange
      · exact .inr later
  | @constant digits written =>
      rw [termsAfter_append written.digits, ends.termsAfter_digits] at member
      exact .inr member
  | group outside before behind after _ ih =>
      simp only [List.append_assoc, List.cons_append, termsAfter_blanks] at member
      rw [termsAfter_of_other (by decide) rfl, termsAfter_blanks] at member
      refine (ih (ends_blanks _ (ends_cons (.inr rfl))) member).imp_right fun later => ?_
      rwa [termsAfter_blanks, termsAfter_of_other (by decide) rfl, termsAfter_blanks] at later
  | @join left right sign before behind known _ _ ihFirst ihSecond =>
      obtain ⟨ended, other, -⟩ := sign_token known
      simp only [List.append_assoc, List.cons_append] at member
      rcases ihFirst (ends_blanks _ (ends_cons (.inl ended))) member with inRange | later
      · exact .inl inRange
      · rw [termsAfter_blanks, termsAfter_of_other (isSign_token ended).2.1
          (not_digit_of_not_numeral other), termsAfter_blanks] at later
        exact ihSecond ends later

end DiceFormula

/-- A term within the bounds of dice is written in few digits. -/
theorem Term.InRange.short {term : Term} (inRange : term.InRange) : term.Short :=
  ⟨inRange.count_length, inRange.faces_length⟩

/-- The sides of a term within the bounds are those of its dice. -/
theorem Term.InRange.sides {term : Term} (inRange : term.InRange) :
    term.sides = term.diceFaces :=
  if_neg (Nat.not_lt.mpr inRange.two_le_faces)

/-- The sides of all terms are those of their dice. -/
theorem flatMap_sides {terms : List Term} (inRange : ∀ term ∈ terms, term.InRange) :
    terms.flatMap Term.sides = terms.flatMap Term.diceFaces :=
  List.flatMap_congr fun term member => (inRange term member).sides

/-- The values of draws are handed back to the dice that were drawn from. -/
theorem handed_draws (draws : List (Nat × Nat)) :
    handed (draws.map Prod.fst) (draws.map fun draw => (draw.2 : Int)) =
      draws.map fun draw => ⟨draw.1, draw.2⟩ := by
  rw [handed, List.zipWith_map, List.zipWith_self]

/-- A formula is its own sentence. -/
theorem DiceFormula.derives_sentence {formula : String} (built : DiceFormula formula.toList) :
    Derives .expression (sentence formula) ∧
      ∀ operator, .operator operator ∈ sentence formula → operator.IsTotal := by
  obtain ⟨ts, derived, total, cut⟩ := built.tokens
  obtain ⟨phrase, -, rfl⟩ := derives_iff_phrase.mp derived
  have written : Dice.tokens formula.toList = phrase.tokens := by
    have whole := cut ends_nil
    rwa [List.append_nil, tokensAfter, show pendingNumeral [] = [] from rfl,
      List.append_nil] at whole
  have own : sentence formula = phrase.tokens := by
    have closed := balanced_tokens phrase 0 []
    rw [List.append_nil, show balanced 0 [] = [] from rfl, List.append_nil] at closed
    rw [sentence, written, closed]
  rw [own]
  exact ⟨derived, total⟩

/-- The terms of a formula of dice are within the bounds. -/
theorem DiceFormula.terms_inRange {formula : String} (built : DiceFormula formula.toList) :
    ∀ term ∈ (formulaTerms formula.toList).terms, term.InRange := by
  intro term member
  have whole := built.inRange ends_nil (List.append_nil formula.toList ▸ member)
  exact whole.resolve_right nofun

/-- The dice of a formula of dice are set apart. -/
theorem DiceFormula.apart {formula : String} (built : DiceFormula formula.toList) :
    SetApart 0 false formula.toList := by
  have whole := built.setApart ends_nil fun _ => @SetApart.done 0 _
  rwa [List.append_nil] at whole

/-- Only as many outcomes as a formula has dice fit it, and each die gets its own. -/
theorem DiceFormula.deal {formula : String} (built : DiceFormula formula.toList)
    (outcomes : List Int) :
    Dice.deal formula outcomes =
      .ok (if outcomes.length = (termSides formula).length then
        some (handed (termSides formula) outcomes) else none) := by
  rw [termSides, flatMap_sides built.terms_inRange]
  exact deal_of_short (fun term member => (built.terms_inRange term member).short)
    (@SetApart.diceApart 0 false _ built.apart [] [] fun _ => ⟨rfl, rfl⟩).2 outcomes

/-- A formula of dice terms and constants has a value, whatever its dice show. -/
theorem DiceFormula.isSome {formula : String} (built : DiceFormula formula.toList)
    (within : ∀ phrase : Phrase, phrase.WellFormed → phrase.tokens = sentence formula →
      phrase.nesting + 2 ≤ maxDepth) (source : Source σ) (state : σ) :
    (evaluate source formula state).1.isSome := by
  obtain ⟨derived, total⟩ := built.derives_sentence
  obtain ⟨phrase, proper, written⟩ := derives_iff_phrase.mp derived
  rw [evaluate_of_phrase source proper written (within phrase proper written)]
  rw [← written] at total
  exact (built.apart.hasTerms proper written).isSome total built.terms_inRange source state

/-- **What an evaluation draws is dealt back to the dice that it was drawn for.** A formula of
dice terms and constants always has a value, and only as many outcomes as it draws fit it. -/
theorem deal_own_draws {formula : String} (built : DiceFormula formula.toList)
    (within : ∀ phrase : Phrase, phrase.WellFormed → phrase.tokens = sentence formula →
      phrase.nesting + 2 ≤ maxDepth) (source : Source σ) (state : σ) :
    ∃ (value : Binary64) (last : σ) (draws : List (Nat × Nat)),
      evaluate source formula state = (some value, last) ∧
      evaluate source.recorded formula ⟨state, []⟩ = (some value, ⟨last, draws.reverse⟩) ∧
      deal formula (draws.map fun draw => (draw.2 : Int)) =
        .ok (some (draws.map fun draw => ⟨draw.1, draw.2⟩)) ∧
      ∀ outcomes : List Int, outcomes.length ≠ draws.length → deal formula outcomes = .ok none := by
  have valued := built.isSome within source state
  have complete := complete_of_isSome valued
  have sides := (built.apart.draws complete source.recorded ⟨state, []⟩).drawnSides_initial.2 valued
  have same := evaluate_recorded source formula ⟨state, []⟩
  rw [drawnSides] at sides
  generalize evaluate source.recorded formula ⟨state, []⟩ = noted at sides same ⊢
  generalize evaluate source formula state = plain at valued same ⊢
  obtain ⟨found, last, drawn⟩ := noted
  obtain ⟨value, _⟩ := plain
  obtain ⟨value, rfl⟩ := Option.isSome_iff_exists.mp valued
  obtain rfl : found = some value := same.value
  obtain rfl : last = _ := same.state
  refine ⟨value, last, drawn.reverse, rfl, by rw [List.reverse_reverse], ?_,
    fun outcomes other => ?_⟩
  · rw [built.deal, ← sides, List.length_map, List.length_map, if_pos rfl, handed_draws]
  · rw [built.deal, ← sides, List.length_map, if_neg other]

/-- A sum of dice, a product in parentheses, and blanks. -/
def sumOfDice : String := "2d6 + 3*( 1d4 - 0d8 )"

/-- The sample is a formula of dice. -/
theorem diceFormula_sumOfDice : DiceFormula sumOfDice.toList := by
  have dice {count faces : Char} (counted : count.isDigit = true) (sided : faces.isDigit = true)
      (inRange : Term.InRange ⟨[count], [faces]⟩) : DiceFormula [count, 'd', faces] :=
    .dice (isDigits_singleton counted) (isDigits_singleton sided) inRange
  have inside : DiceFormula "1d4 - 0d8".toList :=
    .join 1 1 (by decide) (dice rfl rfl ⟨by decide, by decide, by decide, by decide, by decide⟩)
      (dice rfl rfl ⟨by decide, by decide, by decide, by decide, by decide⟩)
  have product : DiceFormula "3*( 1d4 - 0d8 )".toList :=
    .join 0 0 (by decide) (.constant (isDigits_singleton rfl)) (.group 0 1 1 0 inside)
  exact .join 1 1 (by decide)
    (dice rfl rfl ⟨by decide, by decide, by decide, by decide, by decide⟩) product

/-- Dice that show their greatest face. -/
def greatest : Source Unit := ⟨fun sides state => (sides, state)⟩

/-- Three draws fit the formula, and two outcomes do not. -/
theorem deal_own_draws_sumOfDice :
    DiceFormula sumOfDice.toList ∧
      (∀ phrase : Phrase, phrase.WellFormed → phrase.tokens = sentence sumOfDice →
        phrase.nesting + 2 ≤ maxDepth) ∧
      (evaluate greatest.recorded sumOfDice ⟨(), []⟩).2.draws = [(4, 4), (6, 6), (6, 6)] ∧
      deal sumOfDice [6, 6, 4] = .ok (some [⟨6, 6⟩, ⟨6, 6⟩, ⟨4, 4⟩]) ∧
      deal sumOfDice [6, 6] = .ok none := by
  have within (phrase : Phrase) (_ : phrase.WellFormed)
      (written : phrase.tokens = sentence sumOfDice) : phrase.nesting + 2 ≤ maxDepth := by
    have short := phrase.nesting_le_length
    have tokens : (sentence sumOfDice).length = 15 := by decide
    rw [written, tokens] at short
    unfold maxDepth
    omega
  have drawn : (evaluate greatest.recorded sumOfDice ⟨(), []⟩).2.draws =
      [(4, 4), (6, 6), (6, 6)] := by decide +kernel
  obtain ⟨value, last, draws, -, noted, dealt, refused⟩ :=
    deal_own_draws diceFormula_sumOfDice within greatest ()
  have same : draws = [(6, 6), (6, 6), (4, 4)] := by
    rw [noted] at drawn
    exact List.reverse_eq_iff.mp drawn
  subst same
  exact ⟨diceFormula_sumOfDice, within, drawn, dealt, refused [6, 6] (by decide)⟩

end Dice

end DiceLedger
