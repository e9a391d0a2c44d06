import DiceLedger.Proofs.Dice.PowerRange

/-! # How long the check of a power takes

Every product that the check goes on with has at least twice the size of the one before, so at
most 64 products are computed, however great the exponent is
(`DiceLedger.Dice.passed_add_turns_le`), and 64 rounds of the loop decide as all of them do
(`DiceLedger.Dice.productsFit_min`). The answer is that of the whole power of the whole numbers
above base and exponent (`DiceLedger.Dice.powerFits_exact_and_early`).
-/

namespace DiceLedger

namespace Dice

open Binary64

variable {base exponent : Binary64}

/-- `productsFit` together with the number of products that it computes. -/
def countedProductsFit (base : Int) : (count : Nat) → (result : Int) → Bool × Nat
  | 0, _ => (true, 0)
  | count + 1, result =>
    let next := result * base
    if minWhole ≤ next ∧ next ≤ maxWhole then
      let (fits, turns) := countedProductsFit base count next
      (fits, turns + 1)
    else (false, 1)

/-- Counting the products does not change the answer of the loop. -/
theorem countedProductsFit_fst (base : Int) (count : Nat) (result : Int) :
    (countedProductsFit base count result).1 = productsFit base count result := by
  induction count generalizing result with
  | zero => rfl
  | succ count ih =>
      rw [countedProductsFit, productsFit]
      split
      · exact ih _
      · rfl

/-- As many rounds as there are products to compute decide as any greater number of rounds. -/
theorem productsFit_of_turns_le {base : Int} (count : Nat) {rounds : Nat} {result : Int}
    (enough : (countedProductsFit base count result).2 ≤ rounds) :
    productsFit base (min count rounds) result = productsFit base count result := by
  induction count generalizing rounds result with
  | zero => rw [Nat.zero_min]
  | succ count ih =>
      rw [countedProductsFit] at enough
      cases rounds with
      | zero =>
          -- At least one product is computed, whether it fits or not.
          split at enough
          · exact absurd enough (Nat.not_succ_le_zero _)
          · exact absurd enough (Nat.not_succ_le_zero 0)
      | succ rounds =>
          rw [Nat.succ_min_succ, productsFit, productsFit]
          split
          · next fits =>
            rw [if_pos fits] at enough
            exact ih (Nat.le_of_succ_le_succ enough)
          · rfl

/-- A number of 64 bits has doubled at most 63 times. -/
theorem le_of_grown {result : Int} {passed : Nat} (grown : 2 ^ passed ≤ result.natAbs)
    (fits : Fits result) : passed ≤ 63 := by
  have within : 2 ^ passed ≤ 2 ^ 63 := Nat.le_trans grown fits.natAbs_le
  exact (Nat.pow_le_pow_iff_right (by decide : 1 < 2)).mp within

/-- The turns before a product and those from it on are 64 at most: the product has doubled in
each turn before. -/
theorem passed_add_turns_le {base : Int} (several : 2 ≤ base.natAbs) (count : Nat) {result : Int}
    {passed : Nat} (grown : 2 ^ passed ≤ result.natAbs) (fits : Fits result) :
    passed + (countedProductsFit base count result).2 ≤ 64 := by
  induction count generalizing result passed with
  | zero => exact Nat.le_succ_of_le (le_of_grown grown fits)
  | succ count ih =>
      rw [countedProductsFit]
      split
      · next further =>
        have doubled : 2 ^ (passed + 1) ≤ (result * base).natAbs := by
          rw [Nat.pow_succ, Int.natAbs_mul]
          exact Nat.mul_le_mul grown several
        have later := ih doubled further
        dsimp only
        omega
      · have early := le_of_grown grown fits
        dsimp only
        omega

/-- From one on, at most 64 products of a base of two or more are computed. -/
theorem turns_le {base : Int} (several : 2 ≤ base.natAbs) (count : Nat) :
    (countedProductsFit base count 1).2 ≤ 64 := by
  have grown : 2 ^ 0 ≤ (1 : Int).natAbs := by decide
  have turns := passed_add_turns_le several count grown (by decide)
  rwa [Nat.zero_add] at turns

/-- The first 64 rounds of the loop decide. -/
theorem productsFit_min {base : Int} (several : 2 ≤ base.natAbs) (count : Nat) :
    productsFit base (min count 64) 1 = productsFit base count 1 :=
  productsFit_of_turns_le count (turns_le several count)

/-- The bound is met: the sixty-third power of minus two is the least number of 64 bits. -/
example : countedProductsFit (-2) 100 1 = (false, 64) := by decide

/-- The least whole number that is not below a finite number. -/
def IsCeiling (x : Binary64) (n : Int) : Prop :=
  x.isFinite = true ∧ ∃ place, x.place? = some place ∧ (n - 1) * one < place ∧ place ≤ n * one

/-- The whole number that a base stands for: the one above it, brought into the 64-bit range, and
zero for not-a-number. -/
inductive StandsFor : Binary64 → Int → Prop
  | nan : StandsFor .nan 0
  | least : StandsFor (.infinity true) minWhole
  | greatest : StandsFor (.infinity false) maxWhole
  | finite {x : Binary64} {n : Int} (ceiling : IsCeiling x n) :
      StandsFor x (max minWhole (min maxWhole n))

/-- Every finite number has a whole number above it. -/
theorem exists_isCeiling {x : Binary64} (finite : x.isFinite = true) :
    ∃ n, x.ceil? = some n ∧ IsCeiling x n := by
  obtain ⟨place, n, here, ceil, above, below⟩ := exists_ceil finite
  exact ⟨n, ceil, finite, place, here, above, below⟩

/-- The base that is checked is the whole number that a base stands for. -/
theorem standsFor_checkedBase (base : Binary64) : StandsFor base (checkedBase base) := by
  cases base with
  | nan => exact .nan
  | infinity negative =>
      cases negative with
      | true => exact .least
      | false => exact .greatest
  | finite negative units held =>
      obtain ⟨n, ceil, ceiling⟩ := exists_isCeiling (x := .finite negative units held) rfl
      rw [checkedBase_of_ceil ceil]
      exact .finite ceiling

/-- An exponent between zero and the greatest count is finite. -/
theorem isFinite_of_limited (positive : (0 : Binary64).lt exponent = true)
    (limited : exponent.lt (.ofNat maxDice) = true) : exponent.isFinite = true := by
  cases exponent with
  | nan => rw [lt_nan] at positive; cases positive
  | finite => rfl
  | infinity negative =>
      obtain ⟨_, _, zero, here, above⟩ := lt_eq_true.mp positive
      obtain ⟨_, _, same, greatest, below⟩ := lt_eq_true.mp limited
      obtain rfl := Option.some.inj (here.symm.trans same)
      obtain rfl := Option.some.inj ((place?_ofNat (by decide)).symm.trans zero)
      obtain rfl := Option.some.inj ((place?_ofNat (by decide)).symm.trans greatest)
      obtain rfl := Option.some.inj here
      have far : ((maxDice * one : Nat) : Int) < overflow := by
        refine Int.ofNat_lt.mpr ?_
        unfold maxDice
        decide +kernel
      cases negative <;> simp only [signed, Bool.false_eq_true, ↓reduceIte] at above below <;> omega

/-- Above an exponent that is positive stands a positive number. -/
theorem IsCeiling.pos {n : Int} (ceiling : IsCeiling exponent n)
    (positive : (0 : Binary64).lt exponent = true) : 0 < n := by
  obtain ⟨-, place, here, -, below⟩ := ceiling
  obtain ⟨_, _, zero, same, less⟩ := lt_eq_true.mp positive
  obtain rfl := Option.some.inj (here.symm.trans same)
  obtain rfl := Option.some.inj ((place?_ofNat (by decide)).symm.trans zero)
  rw [Nat.zero_mul] at less
  exact Int.pos_of_mul_pos_left (Int.lt_of_lt_of_le less below) (Int.natCast_pos.mpr one_pos)

/-- `powerFits` together with the number of products that it computes. -/
def countedPowerFits (base exponent : Binary64) : Bool × Nat :=
  let whole := checkedBase base
  if whole = -1 ∨ whole = 0 ∨ whole = 1 then (true, 0)
  else countedProductsFit whole (exponent.ceil?.getD 0).toNat 1

/-- Counting the products does not change the answer of the check. -/
theorem countedPowerFits_fst (base exponent : Binary64) :
    (countedPowerFits base exponent).1 = powerFits base exponent := by
  unfold countedPowerFits powerFits
  dsimp only
  split
  · rfl
  · exact countedProductsFit_fst _ _ _

/-- **The check of a power is exact, and short.** For every base, and every exponent between zero
and the greatest count of dice, it passes exactly when the power of the whole number that the base
stands for, to the whole number above the exponent, has 64 bits; and it computes at most 64
products. The loop would not compute more for any other exponent, and its first 64 rounds give the
answer of all. -/
theorem powerFits_exact_and_early (base : Binary64) {exponent : Binary64}
    (positive : (0 : Binary64).lt exponent = true)
    (limited : exponent.lt (.ofNat maxDice) = true) :
    ∃ (whole : Int) (times : Nat), StandsFor base whole ∧ IsCeiling exponent times ∧ 0 < times ∧
      (powerFits base exponent = true ↔ Fits (whole ^ times)) ∧
      (countedPowerFits base exponent).1 = powerFits base exponent ∧
      (countedPowerFits base exponent).2 ≤ 64 ∧
      (2 ≤ whole.natAbs → ∀ count,
        (countedProductsFit whole count 1).1 = productsFit whole count 1 ∧
          (countedProductsFit whole count 1).2 ≤ 64 ∧
          productsFit whole (min count 64) 1 = productsFit whole count 1) := by
  obtain ⟨n, ceil, ceiling⟩ := exists_isCeiling (isFinite_of_limited positive limited)
  have counted := ceiling.pos positive
  obtain ⟨times, rfl⟩ := Int.eq_ofNat_of_zero_le (Int.le_of_lt counted)
  refine ⟨checkedBase base, times, standsFor_checkedBase base, ceiling, Int.natCast_pos.mp counted,
    ?_, countedPowerFits_fst base exponent, ?_, ?_⟩
  · rw [powerFits_eq, ceil, decide_eq_true_iff]
    rfl
  · unfold countedPowerFits
    dsimp only
    split
    · exact Nat.zero_le _
    · next other => exact turns_le (by omega) _
  · intro several count
    exact ⟨countedProductsFit_fst _ _ _, turns_le several count, productsFit_min several count⟩

/-- Powers of ten leave the range early, though the exponent is as great as it may be. -/
theorem powerFits_exact_and_early_ten :
    ((0 : Binary64).lt 4294967294 = true ∧ (4294967294 : Binary64).lt (.ofNat maxDice) = true) ∧
      powerFits 10 4294967294 = false ∧
      (∃ (whole : Int) (times : Nat), StandsFor 10 whole ∧ IsCeiling 4294967294 times ∧
        ¬Fits (whole ^ times)) ∧
      (countedPowerFits 10 4294967294).2 ≤ 64 := by
  have positive : (0 : Binary64).lt 4294967294 = true := by decide +kernel
  have limited : (4294967294 : Binary64).lt (.ofNat maxDice) = true := by decide +kernel
  have refused : powerFits 10 4294967294 = false := by decide +kernel
  obtain ⟨whole, times, stands, ceiling, -, exact, -, early, -⟩ :=
    powerFits_exact_and_early 10 positive limited
  refine ⟨⟨positive, limited⟩, refused, ⟨whole, times, stands, ceiling, ?_⟩, early⟩
  rw [← exact, refused]
  decide

end Dice

end DiceLedger
