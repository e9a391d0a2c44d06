import DiceLedger.Proofs.Dice.Dealing
import Mathlib.Algebra.GroupWithZero.Nat
import Mathlib.Data.List.DropRight

/-! # The dice terms that a formula writes

A formula writes a term at every `d` that has digits directly behind it; the digits directly
before it are the count (`DiceLedger.Dice.writtenTerms`). Reading a text from left to right with
two accumulators finds each of these terms, whatever else the text holds, unless its faces run
into another `d` (`DiceLedger.Dice.formulaTerms_eq`). Where no faces do, outcomes are dealt to the
terms that are written (`DiceLedger.Dice.deal_written`).
-/

namespace DiceLedger

namespace Dice

/-- What stands before and behind each `d` of a text, from left to right, with `before` in front
of the text. -/
def dicePlaces (before : List Char) : List Char → List (List Char × List Char)
  | [] => []
  | c :: rest =>
    if c = 'd' then (before, rest) :: dicePlaces (before ++ [c]) rest
    else dicePlaces (before ++ [c]) rest

/-- The digits that a text ends with, as a count: one where there are none. -/
def countOf (before : List Char) : List Char :=
  let digits := before.rtakeWhile Char.isDigit
  if digits.isEmpty then ['1'] else digits

/-- A count is never empty. -/
theorem countOf_ne_nil (before : List Char) : countOf before ≠ [] := by
  simp only [countOf]
  split
  · exact List.cons_ne_nil _ _
  · next counted => simpa using counted

/-- The term at a `d`: the digits directly behind it are its faces, and those directly before it
its count. -/
def termAt? (before behind : List Char) : Option Term :=
  let faces := behind.takeWhile Char.isDigit
  if faces.isEmpty then none else some ⟨countOf before, faces⟩

/-- The terms that a formula writes, from left to right. -/
def writtenTerms (formula : List Char) : List Term :=
  (dicePlaces [] formula).filterMap fun place => termAt? place.1 place.2

/-- Another `d` stands behind the digits, if any, that a text begins with. -/
def runsOn (text : List Char) : Bool := (text.dropWhile Char.isDigit).head? = some 'd'

/-- No digits directly behind a `d` have another `d` directly behind them. -/
def FacesEnd (formula : List Char) : Prop :=
  ∀ place ∈ dicePlaces [] formula, place.2.takeWhile Char.isDigit ≠ [] → runsOn place.2 = false

instance (formula : List Char) : Decidable (FacesEnd formula) :=
  inferInstanceAs (Decidable (∀ place ∈ _, _ → _))

/-- The term that is read at a `d`: none where its faces run into another `d`. -/
def readTerm? (place : List Char × List Char) : Option Term :=
  if runsOn place.2 then none else termAt? place.1 place.2

/-- What comes of a count and digits in progress before a text: a term with the digits that the
text begins with, unless they run into a `d`. -/
def pendingTerm (count digits text : List Char) : List Term :=
  if runsOn text then [] else closedTerm count (digits ++ text.takeWhile Char.isDigit)

/-- Without a count no term is in progress. -/
theorem pendingTerm_nil (digits text : List Char) : pendingTerm [] digits text = [] := by
  rw [pendingTerm]
  exact ite_self _

/-- A count that is taken at a `d` comes to the term that is read there. -/
theorem pendingTerm_countOf (before text : List Char) :
    pendingTerm (countOf before) [] text = (readTerm? (before, text)).toList := by
  have counted : (countOf before).isEmpty = false := by simpa using countOf_ne_nil before
  unfold pendingTerm readTerm? termAt? closedTerm
  by_cases on : runsOn text = true
  · rw [if_pos on, if_pos on, Option.toList_none]
  · rw [if_neg on, if_neg on, List.nil_append, counted, Bool.false_or]
    by_cases plain : (text.takeWhile Char.isDigit).isEmpty = true
    · simp only [plain, ↓reduceIte, Option.toList_none]
    · simp only [plain, Bool.false_eq_true, ↓reduceIte, Option.toList_some]

/-- A digit goes on with the faces in progress. -/
theorem pendingTerm_digit {c : Char} (digit : c.isDigit = true) (count digits text : List Char) :
    pendingTerm count digits (c :: text) = pendingTerm count (digits ++ [c]) text := by
  rw [pendingTerm, pendingTerm, runsOn, runsOn, List.dropWhile_cons_of_pos digit,
    List.takeWhile_cons_of_pos digit, List.append_assoc, List.singleton_append]

/-- Another `d` drops the term in progress. -/
theorem pendingTerm_die (count digits text : List Char) :
    pendingTerm count digits ('d' :: text) = [] :=
  if_pos rfl

/-- Any other character ends the term in progress. -/
theorem pendingTerm_other {c : Char} (notDie : c ≠ 'd') (notDigit : c.isDigit = false)
    (count digits text : List Char) :
    pendingTerm count digits (c :: text) = closedTerm count digits := by
  have stops : ¬c.isDigit = true := by rw [notDigit]; decide
  rw [pendingTerm, runsOn, List.dropWhile_cons_of_neg stops, List.takeWhile_cons_of_neg stops,
    List.append_nil, if_neg (by simpa using notDie)]

/-- **The terms that are read are those at the places of dice**, when the digits in progress are
those that what has been read ends with. -/
theorem termsAfter_eq (count before rest : List Char) :
    (termsAfter count (before.rtakeWhile Char.isDigit) rest).terms =
      pendingTerm count (before.rtakeWhile Char.isDigit) rest ++
        (dicePlaces before rest).filterMap readTerm? := by
  induction rest generalizing count before with
  | nil =>
      rw [termsAfter, dicePlaces, List.filterMap_nil, List.append_nil, pendingTerm,
        List.takeWhile_nil, List.append_nil]
      rfl
  | cons c rest ih =>
      rw [termsAfter, dicePlaces]
      by_cases die : c = 'd'
      · subst die
        have fresh : (before ++ ['d']).rtakeWhile Char.isDigit = [] :=
          List.rtakeWhile_concat_neg _ _ _ (by decide)
        have later := ih (countOf before) (before ++ ['d'])
        rw [fresh, pendingTerm_countOf] at later
        rw [if_pos rfl, if_pos rfl, pendingTerm_die, List.nil_append, List.filterMap_cons]
        refine later.trans ?_
        cases readTerm? (before, rest) with
        | none => rfl
        | some term => rfl
      · rw [if_neg die, if_neg die]
        cases digit : c.isDigit with
        | true =>
            have further : (before ++ [c]).rtakeWhile Char.isDigit =
                before.rtakeWhile Char.isDigit ++ [c] :=
              List.rtakeWhile_concat_pos _ _ _ digit
            have later := ih count (before ++ [c])
            rw [further] at later
            rw [if_pos rfl, pendingTerm_digit digit, later]
        | false =>
            have fresh : (before ++ [c]).rtakeWhile Char.isDigit = [] :=
              List.rtakeWhile_concat_neg _ _ _ (by rw [digit]; decide)
            have later := ih [] (before ++ [c])
            rw [fresh, pendingTerm_nil, List.nil_append] at later
            rw [if_neg Bool.false_ne_true, pendingTerm_other die digit]
            exact congrArg (closedTerm count _ ++ ·) later

/-- A `d` dangles exactly at the end of a text. -/
theorem dangling_termsAfter (count digits text : List Char) (c : Char) :
    (termsAfter count digits (text ++ [c])).dangling = decide (c = 'd') := by
  induction text generalizing count digits with
  | nil =>
      rw [List.nil_append, termsAfter]
      by_cases die : c = 'd'
      · have counted : (if digits.isEmpty then ['1'] else digits).isEmpty = false := by
          split
          · rfl
          · next counted => simpa using counted
        rw [if_pos die, termsAfter, counted, decide_eq_true die]
        rfl
      · rw [if_neg die, decide_eq_false die]
        split
        · have sided : (digits ++ [c]).isEmpty = false := by simp
          rw [termsAfter, sided, Bool.and_false]
        · rfl
  | cons first rest ih =>
      rw [List.cons_append, termsAfter]
      split
      · exact ih _ _
      · split
        · exact ih _ _
        · exact ih _ _

/-- What is read in a formula: the terms at its places of dice, unless their faces run into another
`d`, and whether it ends in a `d`. -/
theorem formulaTerms_eq (formula : List Char) :
    formulaTerms formula =
      ⟨(dicePlaces [] formula).filterMap readTerm?, decide (formula.getLast? = some 'd')⟩ := by
  have terms := termsAfter_eq [] [] formula
  rw [List.rtakeWhile_nil, pendingTerm_nil, List.nil_append] at terms
  have dangling : (termsAfter [] [] formula).dangling = decide (formula.getLast? = some 'd') := by
    rcases List.eq_nil_or_concat formula with rfl | ⟨text, c, rfl⟩
    · rfl
    · rw [List.concat_eq_append, dangling_termsAfter, List.getLast?_concat]
      simp only [Option.some.injEq]
  rw [formulaTerms, ← terms, ← dangling]

/-- Where no faces run into another `d`, every written term is read. -/
theorem filterMap_readTerm? {formula : List Char} (ended : FacesEnd formula) :
    (dicePlaces [] formula).filterMap readTerm? = writtenTerms formula := by
  apply List.filterMap_congr
  intro place member
  rw [readTerm?]
  by_cases plain : place.2.takeWhile Char.isDigit = []
  · rw [termAt?, plain]
    exact ite_self _
  · rw [ended place member plain, if_neg Bool.false_ne_true]

/-- **Outcomes are dealt to the terms that a formula writes.** There is no answer exactly when the
formula ends in a `d` or there are not as many outcomes as dice. Otherwise the dice show the
outcomes in their order, and have the faces of the terms in theirs, each for as many dice as the
term counts. -/
theorem deal_written {formula : String} (ended : FacesEnd formula.toList)
    (short : ∀ term ∈ writtenTerms formula.toList, term.Short) (outcomes : List Int) :
    ∃ dealt, deal formula outcomes = .ok dealt ∧
      (dealt = none ↔ formula.toList.getLast? = some 'd' ∨ outcomes.length ≠
        ((writtenTerms formula.toList).map fun term => Text.valueOfDigits term.count).sum) ∧
      ∀ dice, dealt = some dice → dice.map Die.outcome = outcomes ∧
        dice.map Die.faces =
          (writtenTerms formula.toList).flatMap fun term =>
            List.replicate (Text.valueOfDigits term.count)
              (Text.valueOfDigits term.faces : Int) := by
  have read : (formulaTerms formula.toList).terms = writtenTerms formula.toList := by
    rw [formulaTerms_eq, filterMap_readTerm? ended]
  have dangling : (formulaTerms formula.toList).dangling =
      decide (formula.toList.getLast? = some 'd') := by
    rw [formulaTerms_eq]
  have counted : ((writtenTerms formula.toList).flatMap Term.diceFaces).length =
      ((writtenTerms formula.toList).map fun term => Text.valueOfDigits term.count).sum := by
    simp only [List.length_flatMap, Term.diceFaces, List.length_replicate]
  have dealt := deal_eq_of_short (read ▸ short) outcomes
  simp only [read, dangling, counted, decide_eq_true_eq] at dealt
  have faces : (((writtenTerms formula.toList).flatMap Term.diceFaces).map Int.ofNat) =
      (writtenTerms formula.toList).flatMap fun term =>
        List.replicate (Text.valueOfDigits term.count) (Text.valueOfDigits term.faces : Int) := by
    simp only [List.map_flatMap, Term.diceFaces, List.map_replicate, Int.ofNat_eq_natCast]
  refine ⟨_, dealt, ite_eq_left_iff.trans ?_, fun dice given => ?_⟩
  · exact ⟨fun absent => by_contra fun fits => Option.some_ne_none _ (absent fits),
      fun misfit fits => absurd misfit fits⟩
  · split at given
    · cases given
    · next fits =>
      obtain rfl := Option.some.inj given
      have same := (not_not.mp (not_or.mp fits).2).trans counted.symm
      exact ⟨map_outcome_handed same.le, (map_faces_handed same.ge).trans faces⟩

/-- Fudge dice, a doubled `d`, a modifier and a term without dice leave two dice. -/
theorem deal_written_loose :
    FacesEnd "4dF+dd8-1d6k3x0d4".toList ∧
      (∀ term ∈ writtenTerms "4dF+dd8-1d6k3x0d4".toList, term.Short) ∧
      ∃ dice, deal "4dF+dd8-1d6k3x0d4" [7, 5] = .ok (some dice) ∧
        dice.map Die.outcome = [7, 5] ∧ dice.map Die.faces = [8, 6] := by
  have ended : FacesEnd "4dF+dd8-1d6k3x0d4".toList := by decide
  have written : writtenTerms "4dF+dd8-1d6k3x0d4".toList =
      [⟨['1'], ['8']⟩, ⟨['1'], ['6']⟩, ⟨['0'], ['4']⟩] := by decide
  have short : ∀ term ∈ writtenTerms "4dF+dd8-1d6k3x0d4".toList, term.Short := by
    rw [written]
    simp only [List.forall_mem_cons, List.not_mem_nil, false_implies, implies_true, and_true]
    exact ⟨⟨by decide, by decide⟩, ⟨by decide, by decide⟩, by decide, by decide⟩
  obtain ⟨dealt, answer, absent, given⟩ := deal_written ended short [7, 5]
  cases dealt with
  | none => exact absurd (absent.mp rfl) (by rw [written]; decide)
  | some dice =>
      obtain ⟨outcomes, faces⟩ := given dice rfl
      exact ⟨ended, short, dice, answer, outcomes, by rw [faces, written]; decide⟩

end Dice

end DiceLedger
