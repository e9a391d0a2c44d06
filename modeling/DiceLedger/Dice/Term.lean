import DiceLedger.Dice.Roll
import DiceLedger.Text.Numeral

/-! # The dice terms of a formula

A term is `NdM`: `N` dice, one when no number stands before the `d`, of `M` faces. A
formula is read into its terms (`formulaTerms`), and a flat list of outcomes is dealt
out to them from left to right (`deal`). Modifiers such as the `k3` of `4d6k3` are no
terms and change nothing. A `d` without a number behind it is no term either, but at
the very end of a formula it spoils the formula.

A number is converted only when the dealing reaches its term; one with more digits
than `Text.maxWholeDigits` stops the dealing.
-/

namespace DiceLedger

namespace Dice

/-- A term as written: the digits of its count and of its faces. -/
structure Term where
  count : List Char
  faces : List Char
  deriving DecidableEq, Repr

/-- What a formula holds: its terms, and whether a `d` without faces ends it. -/
structure FormulaTerms where
  terms : List Term
  dangling : Bool
  deriving DecidableEq, Repr

/-- The term that ends at a character which is neither digit nor `d`. -/
def closedTerm (count digits : List Char) : List Term :=
  if count.isEmpty || digits.isEmpty then [] else [⟨count, digits⟩]

/-- The terms of a formula, given the count of a term in progress, empty when there is
none, and the digits of the number in progress. -/
def termsAfter (count digits : List Char) : List Char → FormulaTerms
  | [] => ⟨closedTerm count digits, !count.isEmpty && digits.isEmpty⟩
  | c :: rest =>
    if c = 'd' then termsAfter (if digits.isEmpty then ['1'] else digits) [] rest
    else if c.isDigit then termsAfter count (digits ++ [c]) rest
    else
      let after := termsAfter [] [] rest
      ⟨closedTerm count digits ++ after.terms, after.dangling⟩

def formulaTerms (formula : List Char) : FormulaTerms := termsAfter [] [] formula

/-- Why dealing stopped without an answer. -/
inductive DealFault where
  | tooManyDigits
  deriving DecidableEq, Repr

/-- A number of a term. -/
def termNumber (digits : List Char) : Except DealFault Nat :=
  if Text.maxWholeDigits < digits.length then .error .tooManyDigits
  else .ok (Text.valueOfDigits digits)

/-- Deals outcomes to the terms, each taking as many as it has dice; `none` when they
run out. The second part is what is left. -/
def dealTerms : List Term → List Int → Except DealFault (Option (List Die × List Int))
  | [], outcomes => .ok (some ([], outcomes))
  | term :: rest, outcomes =>
    match termNumber term.count, termNumber term.faces with
    | .error fault, _ => .error fault
    | _, .error fault => .error fault
    | .ok count, .ok faces =>
      if outcomes.length < count then .ok none
      else
        match dealTerms rest (outcomes.drop count) with
        | .ok (some (dice, left)) =>
          .ok (some ((outcomes.take count).map (⟨faces, ·⟩) ++ dice, left))
        | other => other

/-- The dice of a formula with the given outcomes; `none` when their number does not
fit the formula. -/
def deal (formula : String) (outcomes : List Int) : Except DealFault (Option (List Die)) :=
  let read := formulaTerms formula.toList
  match dealTerms read.terms outcomes with
  | .error fault => .error fault
  | .ok none => .ok none
  | .ok (some (dice, left)) =>
    .ok (if read.dangling || !left.isEmpty then none else some dice)

/-- A roll from its formula, outcomes and total. -/
def buildRoll (formula : String) (outcomes : List Int) (total : Binary64) :
    Except DealFault (Option Roll) :=
  match deal formula outcomes with
  | .error fault => .error fault
  | .ok dice => .ok (dice.map (⟨formula, total, ·⟩))

end Dice

end DiceLedger
