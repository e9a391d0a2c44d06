import DiceLedger.Proofs.Dice.DiceTerms

/-! # Formulas whose dice terms stand apart

The terms of a formula are read from its characters, while an evaluation passes over characters
that mean nothing and joins the digits on both sides. The two agree on a formula in which every
`d` stands in a term with a count and faces, no digit or point stands between a term and the sign
or parenthesis before it or behind it, and no group stands directly behind a term
(`DiceLedger.Dice.SetApart`): the terms are the dice of its sentence
(`DiceLedger.Dice.SetApart.diceApart`), and these are what an evaluation draws from
(`DiceLedger.Dice.SetApart.draws`).
-/

namespace DiceLedger

namespace Dice

/-- The characters of operators other than `d`. -/
def isSign (c : Char) : Bool := c = '+' || c = '-' || c = '*' || c = '/' || c = '^'

/-- Before anything else of meaning stands a sign or a closing parenthesis, if anything does. -/
def Ends (text : List Char) : Prop :=
  ∀ c, text.find? isSignificant = some c → isSign c = true ∨ c = ')'

/-- A text whose dice terms stand apart, with `opened` groups opened before it, and with digits
or points before it since the last sign or parenthesis when it is `joined`. -/
inductive SetApart : (opened : Nat) → (joined : Bool) → List Char → Prop
  | done {opened : Nat} {joined : Bool} : SetApart opened joined []
  | skipped {opened : Nat} {joined : Bool} {c : Char} {rest : List Char}
      (other : isSignificant c = false) (apart : SetApart opened joined rest) :
      SetApart opened joined (c :: rest)
  | sign {opened : Nat} {joined : Bool} {c : Char} {rest : List Char} (sign : isSign c = true)
      (apart : SetApart opened false rest) : SetApart opened joined (c :: rest)
  | opening {opened : Nat} {joined : Bool} {rest : List Char}
      (apart : SetApart (opened + 1) false rest) : SetApart opened joined ('(' :: rest)
  | closing {opened : Nat} {joined : Bool} {rest : List Char}
      (apart : SetApart opened false rest) : SetApart (opened + 1) joined (')' :: rest)
  /-- Nothing is evaluated behind a parenthesis that closes no group, so no dice may stand
  there. -/
  | stray {joined : Bool} {rest : List Char} (plain : 'd' ∉ rest) :
      SetApart 0 joined (')' :: rest)
  | numeral {opened : Nat} {joined : Bool} {c : Char} {rest : List Char}
      (numeral : isNumeralChar c = true) (apart : SetApart opened true rest) :
      SetApart opened joined (c :: rest)
  | dice {opened : Nat} {count faces rest : List Char} (counted : IsDigits count)
      (sided : IsDigits faces) (ends : Ends rest) (apart : SetApart opened false rest) :
      SetApart opened false (count ++ 'd' :: (faces ++ rest))

/-- The characters of numerals are part of tokens. -/
theorem isSignificant_of_numeral {c : Char} (numeral : isNumeralChar c = true) :
    isSignificant c = true := by
  rw [isSignificant, numeral, Bool.true_or]

/-- A sign writes an operator that is not the one of dice. -/
theorem isSign_token {c : Char} (sign : isSign c = true) :
    isNumeralChar c = false ∧ c ≠ 'd' ∧
      ∃ operator, Token.ofChar? c = some (.operator operator) ∧ operator ≠ .roll := by
  simp only [isSign, Bool.or_eq_true, decide_eq_true_eq, or_assoc] at sign
  rcases sign with rfl | rfl | rfl | rfl | rfl <;>
    exact ⟨rfl, by decide, _, rfl, by decide⟩

/-- A sign or a closing parenthesis writes a token, and is part of no numeral and no term. -/
theorem Ends.token {c : Char} (ended : isSign c = true ∨ c = ')') :
    isNumeralChar c = false ∧ c ≠ 'd' ∧ ∃ t, Token.ofChar? c = some t ∧ t ≠ .opening := by
  rcases ended with sign | rfl
  · obtain ⟨other, notDie, operator, written, -⟩ := isSign_token sign
    exact ⟨other, notDie, _, written, nofun⟩
  · exact ⟨rfl, by decide, _, rfl, nofun⟩

/-- The next character of meaning is a sign or a closing parenthesis. -/
theorem Ends.of_significant {c : Char} {rest : List Char} (ends : Ends (c :: rest))
    (significant : isSignificant c = true) : isSign c = true ∨ c = ')' :=
  ends c (List.find?_cons_of_pos significant)

/-- Characters without meaning are passed over. -/
theorem ends_cons_of_skipped {c : Char} {rest : List Char} (other : isSignificant c = false) :
    Ends (c :: rest) ↔ Ends rest := by
  rw [Ends, List.find?_cons_of_neg (by rw [other]; decide)]
  rfl

/-- Nothing that could go on with a numeral, and no `d`, is next. -/
theorem Ends.head {c : Char} {rest : List Char} (ends : Ends (c :: rest)) :
    isNumeralChar c = false ∧ c ≠ 'd' := by
  cases significant : isSignificant c with
  | true =>
      obtain ⟨other, notDie, -⟩ := Ends.token (ends.of_significant significant)
      exact ⟨other, notDie⟩
  | false =>
      refine ⟨Bool.eq_false_iff.mpr fun numeral => ?_, ?_⟩
      · rw [isSignificant_of_numeral numeral] at significant
        cases significant
      · rintro rfl
        cases significant

theorem ends_nil : Ends [] := nofun

/-- A sign or a closing parenthesis ends what stands before it. -/
theorem ends_cons {c : Char} {rest : List Char} (ended : isSign c = true ∨ c = ')') :
    Ends (c :: rest) := by
  have significant : isSignificant c = true := by
    obtain ⟨-, -, t, written, -⟩ := Ends.token ended
    rw [isSignificant, written]
    exact Bool.or_true _
  intro other found
  rw [List.find?_cons_of_pos significant] at found
  exact Option.some.inj found ▸ ended

theorem not_digit_of_not_numeral {c : Char} (other : isNumeralChar c = false) :
    c.isDigit = false :=
  (Bool.or_eq_false_iff.mp other).1

/-- A character that is neither a digit nor a `d` ends the number in progress. -/
theorem termsAfter_of_other {c : Char} (notDie : c ≠ 'd') (notDigit : c.isDigit = false)
    (digits rest : List Char) : termsAfter [] digits (c :: rest) = termsAfter [] [] rest := by
  rw [termsAfter, if_neg notDie, if_neg (by rw [notDigit]; decide)]
  rfl

/-- Digits go on with the number in progress. -/
theorem termsAfter_append {digits : List Char} (all : ∀ c ∈ digits, c.isDigit = true)
    (count before rest : List Char) :
    termsAfter count before (digits ++ rest) = termsAfter count (before ++ digits) rest := by
  induction digits generalizing before with
  | nil => rw [List.nil_append, List.append_nil]
  | cons c digits ih =>
      have digit := all c List.mem_cons_self
      have notDie : c ≠ 'd' := by
        rintro rfl
        cases digit
      rw [List.cons_append, termsAfter, if_neg notDie, if_pos digit,
        ih fun d member => all d (List.mem_cons_of_mem _ member), List.append_assoc,
        List.singleton_append]

/-- A character that is neither digit nor `d` ends the term in progress. -/
theorem termsAfter_close {c : Char} (notDie : c ≠ 'd') (notDigit : c.isDigit = false)
    (count digits rest : List Char) :
    termsAfter count digits (c :: rest) =
      ⟨closedTerm count digits ++ (termsAfter [] [] rest).terms,
        (termsAfter [] [] rest).dangling⟩ := by
  rw [termsAfter, if_neg notDie, if_neg (by rw [notDigit]; decide)]

/-- A constant is no term, where it ends. -/
theorem Ends.termsAfter_digits {rest : List Char} (ends : Ends rest) (digits : List Char) :
    termsAfter [] digits rest = termsAfter [] [] rest := by
  cases rest with
  | nil => rfl
  | cons c rest =>
      obtain ⟨other, notDie⟩ := ends.head
      have notDigit := not_digit_of_not_numeral other
      rw [termsAfter_of_other notDie notDigit, termsAfter_of_other notDie notDigit]

/-- A text without a `d` has no terms, where it ends. -/
theorem Ends.termsAfter_plain {text rest : List Char} (ends : Ends rest) (plain : 'd' ∉ text)
    (digits : List Char) : termsAfter [] digits (text ++ rest) = termsAfter [] [] rest := by
  induction text generalizing digits with
  | nil => exact ends.termsAfter_digits digits
  | cons c text ih =>
      have notDie : c ≠ 'd' := fun same => plain (same ▸ List.mem_cons_self)
      have later := ih fun member => plain (List.mem_cons_of_mem _ member)
      rw [List.cons_append]
      cases digit : c.isDigit with
      | true => rw [termsAfter, if_neg notDie, if_pos digit, later]
      | false => rw [termsAfter_of_other notDie digit, later]

/-- A formula without a `d` has no terms. -/
theorem termsAfter_of_not_mem {text : List Char} (plain : 'd' ∉ text) (digits : List Char) :
    termsAfter [] digits text = ⟨[], false⟩ := by
  have read := ends_nil.termsAfter_plain plain digits
  rw [List.append_nil] at read
  exact read

/-- A term in progress ends where nothing of its own stands behind it. -/
theorem Ends.termsAfter {rest : List Char} (ends : Ends rest) (count : List Char)
    {digits : List Char} (full : digits ≠ []) :
    Dice.termsAfter count digits rest =
      ⟨closedTerm count digits ++ (Dice.termsAfter [] [] rest).terms,
        (Dice.termsAfter [] [] rest).dangling⟩ := by
  cases rest with
  | nil =>
      have some : digits.isEmpty = false := by simpa using full
      simp only [Dice.termsAfter, some, Bool.and_false, closedTerm, List.isEmpty_nil,
        Bool.true_or, ↓reduceIte, List.append_nil, Bool.not_true, Bool.false_and]
  | cons c rest =>
      obtain ⟨other, notDie⟩ := ends.head
      have notDigit := not_digit_of_not_numeral other
      rw [termsAfter_close notDie notDigit, termsAfter_of_other notDie notDigit]

/-- A term behind which nothing of its own stands is the first of the formula. -/
theorem termsAfter_dice {count faces rest : List Char} (counted : IsDigits count)
    (sided : IsDigits faces) (ends : Ends rest) :
    termsAfter [] [] (count ++ 'd' :: (faces ++ rest)) =
      ⟨⟨count, faces⟩ :: (termsAfter [] [] rest).terms, (termsAfter [] [] rest).dangling⟩ := by
  have countSome : count.isEmpty = false := by simpa using counted.nonempty
  have facesSome : faces.isEmpty = false := by simpa using sided.nonempty
  have closed : closedTerm count faces = [⟨count, faces⟩] := by
    rw [closedTerm, countSome, facesSome]
    rfl
  rw [termsAfter_append counted.digits, List.nil_append, termsAfter, if_pos rfl, countSome,
    if_neg Bool.false_ne_true, termsAfter_append sided.digits, List.nil_append,
    ends.termsAfter count sided.nonempty, closed]
  rfl

/-- A numeral ends where nothing of its own stands behind it. -/
theorem Ends.tokensAfter {rest : List Char} (ends : Ends rest) (digits : List Char) :
    Dice.tokensAfter digits rest = pendingNumeral digits ++ Dice.tokensAfter [] rest := by
  induction rest with
  | nil => exact (List.append_nil _).symm
  | cons c rest ih =>
      cases significant : isSignificant c with
      | true =>
          obtain ⟨other, -, t, written, -⟩ := Ends.token (ends.of_significant significant)
          rw [tokensAfter_cons_of_token other written, tokensAfter_cons_of_token other written]
          rfl
      | false =>
          rw [tokensAfter_of_skipped significant, tokensAfter_of_skipped significant,
            ih ((ends_cons_of_skipped significant).mp ends)]

/-- No group stands first where a term may end. -/
theorem Ends.head_ne_opening {rest : List Char} (ends : Ends rest) :
    (Dice.tokensAfter [] rest).head? ≠ some .opening := by
  induction rest with
  | nil => exact nofun
  | cons c rest ih =>
      cases significant : isSignificant c with
      | true =>
          obtain ⟨other, -, t, written, notOpening⟩ := Ends.token (ends.of_significant significant)
          rw [tokensAfter_cons_of_token other written]
          exact fun head => notOpening (Option.some.inj head)
      | false =>
          rw [tokensAfter_of_skipped significant]
          exact ih ((ends_cons_of_skipped significant).mp ends)

/-- Dice between digits that end there are three tokens. -/
theorem tokensAfter_dice {count faces rest : List Char} (counted : IsDigits count)
    (sided : IsDigits faces) (ends : Ends rest) :
    tokensAfter [] (count ++ 'd' :: (faces ++ rest)) =
      .numeral count :: .operator .roll :: .numeral faces :: tokensAfter [] rest := by
  rw [tokensAfter_append _ _ counted.chars, List.append_nil,
    tokensAfter_cons_of_token rfl rfl, pendingNumeral_reverse counted.nonempty,
    tokensAfter_append _ _ sided.chars, List.append_nil, ends.tokensAfter,
    pendingNumeral_reverse sided.nonempty]
  rfl

/-- Numerals do not matter for parentheses. -/
theorem balanced_pendingNumeral (opened : Nat) (digits : List Char) (ts : List Token) :
    balanced opened (pendingNumeral digits ++ ts) =
      pendingNumeral digits ++ balanced opened ts := by
  unfold pendingNumeral
  split <;> rfl

/-- A numeral with no `d` at it writes no term. -/
theorem DiceApart.pending {ts : List Token} {terms : List Term} (apart : DiceApart ts terms)
    (digits : List Char) : DiceApart (pendingNumeral digits ++ ts) terms := by
  unfold pendingNumeral
  split
  · exact apart
  · exact .pass nofun apart

/-- Closing parentheses write no terms. -/
theorem diceApart_closing (opened : Nat) : DiceApart (List.replicate opened .closing) [] := by
  induction opened with
  | zero => exact .nil
  | succ opened ih => exact .pass nofun ih

/-- **The terms of a formula whose terms stand apart are the dice of its sentence**, and no `d`
dangles at its end. -/
theorem SetApart.diceApart {opened : Nat} {joined : Bool} {text : List Char}
    (apart : SetApart opened joined text) {pending digits : List Char}
    (fresh : joined = false → pending = [] ∧ digits = []) :
    DiceApart (balanced opened (tokensAfter pending text)) (termsAfter [] digits text).terms ∧
      (termsAfter [] digits text).dangling = false := by
  induction apart generalizing pending digits with
  | @done opened joined =>
      have written := balanced_pendingNumeral opened pending []
      rw [List.append_nil] at written
      rw [tokensAfter, written]
      exact ⟨(diceApart_closing opened).pending pending, rfl⟩
  | @skipped opened joined c rest other _ ih =>
      have notDie : c ≠ 'd' := by
        rintro rfl
        cases other
      have notDigit := not_digit_of_not_numeral (Bool.or_eq_false_iff.mp other).1
      rw [tokensAfter_of_skipped other, termsAfter_of_other notDie notDigit]
      exact ih fun single => ⟨(fresh single).1, rfl⟩
  | @sign opened joined c rest sign _ ih =>
      obtain ⟨other, notDie, operator, written, notRoll⟩ := isSign_token sign
      rw [tokensAfter_cons_of_token other written, balanced_pendingNumeral, balanced,
        termsAfter_of_other notDie (not_digit_of_not_numeral other)]
      obtain ⟨tokens, ended⟩ := ih fun _ => ⟨rfl, rfl⟩
      exact ⟨(tokens.pass (by simpa using notRoll)).pending pending, ended⟩
  | @opening opened joined rest _ ih =>
      rw [tokensAfter_cons_of_token rfl rfl, balanced_pendingNumeral, balanced,
        termsAfter_of_other (by decide) rfl]
      obtain ⟨tokens, ended⟩ := ih fun _ => ⟨rfl, rfl⟩
      exact ⟨DiceApart.pending (.pass (by decide) tokens) pending, ended⟩
  | @closing opened joined rest _ ih =>
      rw [tokensAfter_cons_of_token rfl rfl, balanced_pendingNumeral, balanced,
        termsAfter_of_other (by decide) rfl]
      obtain ⟨tokens, ended⟩ := ih fun _ => ⟨rfl, rfl⟩
      exact ⟨DiceApart.pending (.pass (by decide) tokens) pending, ended⟩
  | @stray joined rest plain =>
      rw [tokensAfter_cons_of_token rfl rfl, balanced_pendingNumeral, balanced,
        termsAfter_of_other (by decide) rfl, termsAfter_of_not_mem plain]
      exact ⟨DiceApart.nil.pending pending, rfl⟩
  | @numeral opened joined c rest numeral _ ih =>
      rw [tokensAfter, if_pos numeral]
      cases digit : c.isDigit with
      | true =>
          have notDie : c ≠ 'd' := by
            rintro rfl
            cases digit
          rw [termsAfter, if_neg notDie, if_pos digit]
          exact ih fun single => Bool.noConfusion single
      | false =>
          have notDie : c ≠ 'd' := by
            rintro rfl
            cases numeral
          rw [termsAfter_of_other notDie digit]
          exact ih fun single => Bool.noConfusion single
  | @dice opened count faces rest counted sided ends _ ih =>
      obtain ⟨rfl, rfl⟩ := fresh rfl
      rw [tokensAfter_dice counted sided ends, termsAfter_dice counted sided ends, balanced,
        balanced, balanced]
      obtain ⟨tokens, ended⟩ := ih fun _ => ⟨rfl, rfl⟩
      exact ⟨.dice counted sided
        (fun head => ends.head_ne_opening (head_of_head_balanced (by decide) head)) tokens, ended⟩

/-- The sides that the terms of a formula draw from, one for each die. -/
def termSides (formula : String) : List Nat :=
  (formulaTerms formula.toList).terms.flatMap Term.sides

/-- The sides that an evaluation draws from, in order. -/
def drawnSides {σ : Type} (source : Source σ) (formula : String) (state : σ) : List Nat :=
  (evaluate source.recorded formula ⟨state, []⟩).2.draws.reverse.map Prod.fst

/-- A phrase that writes the sentence of a formula whose terms stand apart has these terms. -/
theorem SetApart.hasTerms {formula : String} (apart : SetApart 0 false formula.toList)
    {phrase : Phrase} (proper : phrase.WellFormed) (written : phrase.tokens = sentence formula) :
    phrase.HasTerms (formulaTerms formula.toList).terms := by
  have dice := (apart.diceApart fun _ => ⟨rfl, rfl⟩).1
  rw [show balanced 0 (tokensAfter [] formula.toList) = phrase.tokens from written.symm,
    ← List.append_nil phrase.tokens] at dice
  obtain ⟨own, later, same, has, rest⟩ := dice.exists_hasTerms proper nofun
  cases rest with
  | nil =>
      rw [List.append_nil] at same
      exact same ▸ has

/-- Where a formula is an expression and its terms stand apart, every evaluation draws from the
dice of its terms. -/
theorem SetApart.draws {formula : String} (apart : SetApart 0 false formula.toList)
    (complete : (read formula.toList).complete = true) {σ : Type} (source : Source σ) (state : σ) :
    Draws source (termSides formula) state (evaluate source formula state) := by
  obtain ⟨phrase, proper, written, evaluated⟩ := exists_phrase_of_complete complete
  rw [evaluated]
  exact (apart.hasTerms proper written).draws source state

/-- The sides that an evaluation draws are the first of those that stand in its text, and all of
them if it has a value. -/
theorem Draws.drawnSides_initial {σ : Type} {source : Source σ} {formula : String} {state : σ}
    {sides : List Nat}
    (drawn : Draws source.recorded sides ⟨state, []⟩
      (evaluate source.recorded formula ⟨state, []⟩)) :
    Dice.drawnSides source formula state <+: sides ∧
      ((evaluate source formula state).1.isSome →
        Dice.drawnSides source formula state = sides) := by
  obtain ⟨asked, front, last, whole⟩ := drawn
  have remembered : Dice.drawnSides source formula state = asked := by
    rw [Dice.drawnSides, last, Source.recorded_after_draws]
    rfl
  rw [remembered]
  refine ⟨front, fun valued => whole ?_⟩
  rwa [(evaluate_recorded source formula ⟨state, []⟩).value]

end Dice

end DiceLedger
