import DiceLedger.Proofs.Binary64.HalfAway
import DiceLedger.Proofs.Dice.Printing
import DiceLedger.Proofs.Dice.RollBounds

/-! # Decimal counts and sides

Decimals on both sides of the letter of dice are rounded to the nearest whole number, of two the
greater one, and so many dice of so many sides are thrown. Of all numbers with at most 52 binary
digits before the point only the one right below a half is rounded otherwise
(`DiceLedger.Dice.dice_rounded_unless_below_half`).
-/

namespace DiceLedger

namespace Dice

open Binary64

variable {σ : Type}

section Roll

variable (source : Source σ) {count faces : Binary64} (state : σ)

theorem roll_of_one_side (single : faces.roundHalfAway.IsWhole (1 : Nat)) :
    roll source count faces state = (some (count * faces), state) := by
  have alone := eqv_one_of_isWhole single
  rw [decide_eq_true rfl] at alone
  exact roll_of_single source state alone

/-- Whole counts within bounds are thrown. -/
theorem roll_of_whole {dice sides : Nat} (counted : count.roundHalfAway.IsWhole dice)
    (countable : dice ≤ maxDice) (sided : faces.roundHalfAway.IsWhole sides) (two_le : 2 ≤ sides)
    (within : sides ≤ maxDice) :
    roll source count faces state =
      (some (.ofNat (source.throws sides dice state).1.sum),
        (source.throws sides dice state).2) := by
  have several := eqv_one_of_isWhole sided
  rw [decide_eq_false (by omega)] at several
  have many := (diceCount?_eq_some_iff (entire_roundHalfAway count)).mpr ⟨counted, countable⟩
  have faced := (diceCount?_eq_some_iff (entire_roundHalfAway faces)).mpr ⟨sided, within⟩
  rw [roll_of_counts source state several many faced (by omega), source.addDraws_eq, Nat.zero_add]

end Roll

/-- **Counts and sides are rounded to the nearest whole number**, of two the one farther from zero,
for every number of at most 52 binary digits before the point but the one right below a half, which
is rounded to one. Two decimals of other values, with the letter of dice between them, roll so many
dice of so many sides as their nearest whole numbers say, and nothing else; a single side only
multiplies. -/
theorem dice_rounded_unless_below_half (source : Source σ) (state : σ) :
    (∀ x : Binary64, x.isFinite = true → x.abs.lt (.ofNat 4503599627370496) = true →
      (x.abs ≠ belowHalf → ∃ n, x.NearestAway n ∧ x.roundHalfAway.IsWhole n) ∧
      (x.abs = belowHalf → x.NearestAway 0 ∧ x.roundHalfAway.abs.IsWhole 1)) ∧
    ∀ (count faces : Numeral) (text : String) (dice sides : Nat),
      text.toList = count.text ++ 'd' :: faces.text →
      count.value.abs ≠ belowHalf → faces.value.abs ≠ belowHalf →
      count.value.NearestAway dice → faces.value.NearestAway sides →
      dice ≤ maxDice → sides ≤ maxDice →
      (sides = 1 → evaluate source.recorded text ⟨state, []⟩ =
        (some (count.value * faces.value), ⟨state, []⟩)) ∧
      (2 ≤ sides → ∃ (value : Binary64) (later : σ) (draws : List (Nat × Nat)),
        evaluate source.recorded text ⟨state, []⟩ = (some value, ⟨later, draws.reverse⟩) ∧
        Throw count.value faces.value value draws dice sides) := by
  refine ⟨fun x finite small => ⟨isWhole_roundHalfAway finite small,
    isWhole_roundHalfAway_belowHalf⟩, ?_⟩
  intro count faces text dice sides written countOther facesOther counts faced countable within
  have bound : maxDice < 4503599627370496 := by decide
  have counted := counts.isWhole (by omega) countOther
  have sided := faced.isWhole (by omega) facesOther
  rw [evaluate_dice source.recorded count faces written]
  constructor
  · rintro rfl
    exact roll_of_one_side source.recorded _ sided
  · intro two_le
    refine ⟨.ofNat (source.throws sides dice state).1.sum, (source.throws sides dice state).2,
      (source.throws sides dice state).1.map (sides, ·), ?_,
      throw_throws source counted sided two_le state⟩
    rw [roll_of_whole source.recorded _ counted countable sided two_le within,
      source.throws_recorded, List.append_nil]

/-- Two and a half dice of five and a half sides are three dice of six sides. -/
theorem dice_rounded_unless_below_half_halves :
    ∃ (value : Binary64) (draws : List (Nat × Nat)),
      evaluate highest.recorded "2.5d5.5" ⟨(), []⟩ = (some value, ⟨(), draws.reverse⟩) ∧
        draws.map Prod.fst = [6, 6, 6] := by
  let count : Numeral := ⟨['2', '.', '5'], by decide⟩
  let faces : Numeral := ⟨['5', '.', '5'], by decide⟩
  have counted : count.value.NearestAway 3 := by decide +kernel
  have sided : faces.value.NearestAway 6 := by decide +kernel
  obtain ⟨value, _, draws, evaluated, throw⟩ :=
    ((dice_rounded_unless_below_half highest ()).2 count faces "2.5d5.5" 3 6 (by decide)
      (by decide +kernel) (by decide +kernel) counted sided (by decide) (by decide)).2 (by decide)
  exact ⟨value, draws, evaluated, throw.asked⟩

/-- Right below a half, no die is nearest, and one is thrown. -/
theorem die_thrown_below_half :
    let count : Numeral := ⟨['0', '.'] ++ ['4'] ++ List.replicate 15 '9' ++ ['4'], by decide⟩
    count.text ++ ['d', '6'] = "0.49999999999999994d6".toList ∧
      count.value.NearestAway 0 ∧ count.value.roundHalfAway = 1 ∧
      (evaluate highest.recorded "0.49999999999999994d6" ⟨(), []⟩).1 = some 6 ∧
      (evaluate highest.recorded "0.49999999999999994d6" ⟨(), []⟩).2.draws = [(6, 6)] := by
  decide +kernel

end Dice

end DiceLedger
