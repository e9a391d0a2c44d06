import DiceLedger.Chance.Superlative
import DiceLedger.Proofs.Dice.Dealing
import DiceLedger.Proofs.Dice.SetApart

/-! # Whether a roll is rolled again with its own dice

The least likely roll is looked for among formulas that are rolled again. Where the dice terms of
such a formula stand apart, every evaluation draws from the dice that outcomes were dealt to, in
order, and from no others (`DiceLedger.Chance.Candidate.draws_recorded_dice`). Elsewhere other
dice may be rolled: of a reroll modifier only the digits are seen
(`DiceLedger.Chance.reroll_draws_other_dice`).
-/

namespace DiceLedger

namespace Chance

open Dice

variable {σ : Type}

/-- A formula that takes part in the search: it looks as if it could be rolled again, and it has
a value when it is tried. -/
structure Candidate (source : Source σ) (formula : String) (state : σ) : Prop where
  reproducible : isReproducible formula = true
  valued : (evaluate source formula state).1.isSome

/-- Of the dice that outcomes are dealt to, those with more than one side are drawn from. -/
theorem filter_diceFaces (terms : List Term) :
    (terms.flatMap Term.diceFaces).filter (2 ≤ ·) = terms.flatMap Term.sides := by
  rw [List.filter_flatMap]
  refine congrArg (terms.flatMap ·) (funext fun term => ?_)
  rw [Term.diceFaces, Term.sides, rolledSides, List.filter_replicate]
  by_cases several : 2 ≤ Text.valueOfDigits term.faces
  · rw [if_pos (decide_eq_true several), if_neg (Nat.not_lt.mpr several)]
  · rw [if_neg (by simpa using several), if_pos (Nat.lt_of_not_le several)]

/-- **A candidate whose dice terms stand apart is rolled with the recorded dice**: every
evaluation draws, in order, from the dice that its outcomes were dealt to and that have more than
one side, up to the first operator without a result. -/
theorem Candidate.draws_recorded_dice {source : Source σ} {formula : String} {state : σ}
    (candidate : Candidate source formula state) (apart : SetApart 0 false formula.toList) :
    (∀ {τ : Type} (again : Source τ) (start : τ),
      drawnSides again formula start <+: termSides formula ∧
        ((evaluate again formula start).1.isSome →
          drawnSides again formula start = termSides formula)) ∧
    ∀ (outcomes : List Int) (dice : List Die), deal formula outcomes = .ok (some dice) →
      (dice.map Die.faces).filter (2 ≤ ·) = (termSides formula).map Int.ofNat := by
  have complete := complete_of_isSome candidate.valued
  refine ⟨fun again start => (apart.draws complete again.recorded ⟨start, []⟩).drawnSides_initial,
    fun outcomes dice dealt => ?_⟩
  rw [deal_faces dealt, termSides, ← filter_diceFaces, List.filter_map]
  refine congrArg (List.map Int.ofNat) (List.filter_congr fun faces _ => ?_)
  simp only [Function.comp_apply, Int.ofNat_eq_natCast, decide_eq_decide]
  omega

/-- Dice that always show one. -/
def ones : Source Unit := ⟨fun _ state => (1, state)⟩

/-- The sign and the parentheses around a term keep it apart. -/
theorem setApart_product : SetApart 0 false "2d6*(1d4 + 1)".toList := by
  have inner : SetApart 1 false "1d4 + 1)".toList :=
    @SetApart.dice 1 ['1'] ['4'] [' ', '+', ' ', '1', ')'] (isDigits_singleton rfl)
      (isDigits_singleton rfl) (fun _ found => .inl (Option.some.inj found ▸ rfl))
      (.skipped rfl (.sign rfl (.skipped rfl (.numeral rfl (.closing .done)))))
  exact @SetApart.dice 0 ['2'] ['6'] ('*' :: '(' :: "1d4 + 1)".toList) (isDigits_singleton rfl)
    (isDigits_singleton rfl) (fun _ found => .inl (Option.some.inj found ▸ rfl))
    (.sign rfl (.opening inner))

theorem draws_recorded_dice_product :
    Candidate ones "2d6*(1d4 + 1)" () ∧ SetApart 0 false "2d6*(1d4 + 1)".toList ∧
      drawnSides ones "2d6*(1d4 + 1)" () = [6, 6, 4] := by
  have candidate : Candidate ones "2d6*(1d4 + 1)" () := ⟨by decide +kernel, by decide +kernel⟩
  have drawn := ((candidate.draws_recorded_dice setApart_product).1 ones ()).2 candidate.valued
  exact ⟨candidate, setApart_product, drawn.trans (by decide)⟩

/-- Of a reroll modifier only the digits are seen: dice of 61 sides are rolled for recorded ones
of six. -/
theorem reroll_draws_other_dice :
    ¬∀ formula, Candidate ones formula () → drawnSides ones formula () = termSides formula := by
  intro faithful
  have candidate : Candidate ones "2d6r1" () := ⟨by decide +kernel, by decide +kernel⟩
  exact absurd (faithful _ candidate) (by decide +kernel)

end Chance

end DiceLedger
