import DiceLedger.Dice.Operation
import DiceLedger.Proofs.Binary64.Rounding

/-! # Powers within 64 bits

The check of a power multiplies a base, brought into the range first, and stops when the product
leaves it. A product that has left does not come back, so the check is that of the whole power
(`DiceLedger.Dice.powerFits_eq`). Bringing the base into the range is what makes every first power
pass (`DiceLedger.Dice.fits_clamp_pow_iff`): a number past 64 bits has one
(`DiceLedger.Dice.first_power_past_range`).
-/

namespace DiceLedger

namespace Dice

open Binary64

/-- A whole number of 64 bits. -/
def Fits (n : Int) : Prop := minWhole ≤ n ∧ n ≤ maxWhole

instance (n : Int) : Decidable (Fits n) := inferInstanceAs (Decidable (_ ∧ _))

variable {n base : Int}

/-- A number of 64 bits has at most the size of the least of them. -/
theorem Fits.natAbs_le (fits : Fits n) : n.natAbs ≤ 9223372036854775808 := by
  unfold Fits minWhole maxWhole at fits
  omega

/-- A number that has not 64 bits is at least as great. -/
theorem natAbs_ge_of_not_fits (out : ¬Fits n) : 9223372036854775808 ≤ n.natAbs := by
  unfold Fits minWhole maxWhole at out
  omega

/-- One, zero and minus one have 64 bits. -/
theorem fits_of_natAbs_le_one (small : n.natAbs ≤ 1) : Fits n := by
  unfold Fits minWhole maxWhole
  omega

/-- What has left the range does not come back. -/
theorem not_fits_mul_pow (several : 2 ≤ base.natAbs) (out : ¬Fits n) (count : Nat) :
    ¬Fits (n * base ^ count) := by
  intro fits
  have near := fits.natAbs_le
  have far := natAbs_ge_of_not_fits out
  cases count with
  | zero =>
      rw [Int.pow_zero, Int.mul_one] at fits
      exact out fits
  | succ count =>
      have factor : 2 ≤ (base ^ (count + 1)).natAbs := by
        rw [Int.natAbs_pow]
        exact Nat.le_trans several (Nat.le_self_pow (Nat.succ_ne_zero count) _)
      have product := Nat.mul_le_mul far factor
      rw [Int.natAbs_mul] at near
      omega

/-- The loop passes exactly when the last product fits: from a base of two on, products that have
left the range do not come back. -/
theorem productsFit_eq (several : 2 ≤ base.natAbs) {result : Int} (fits : Fits result)
    (count : Nat) : productsFit base count result = decide (Fits (result * base ^ count)) := by
  induction count generalizing result with
  | zero => rw [Int.pow_zero, Int.mul_one, decide_eq_true fits, productsFit]
  | succ count ih =>
      rw [Int.pow_succ', ← Int.mul_assoc]
      by_cases next : Fits (result * base)
      · exact (if_pos next).trans (ih next)
      · rw [decide_eq_false (not_fits_mul_pow several next count)]
        exact if_neg next

/-- Powers of the numbers that are not checked stay as small as they are. -/
theorem fits_pow_of_natAbs_le_one (small : base.natAbs ≤ 1) (count : Nat) :
    Fits (base ^ count) := by
  refine fits_of_natAbs_le_one ?_
  rw [Int.natAbs_pow]
  exact Nat.le_trans (Nat.pow_le_pow_left small count) (Nat.le_of_eq (Nat.one_pow count))

/-- **The check of a power is that of the whole power.** -/
theorem powerFits_eq (base exponent : Binary64) :
    powerFits base exponent =
      decide (Fits (checkedBase base ^ (exponent.ceil?.getD 0).toNat)) := by
  unfold powerFits
  dsimp only
  generalize checkedBase base = whole
  split
  · next small => exact (decide_eq_true (fits_pow_of_natAbs_le_one (by omega) _)).symm
  · next other =>
    rw [productsFit_eq (by omega) (by decide), Int.one_mul]

/-- Squares and higher powers of great numbers do not fit. -/
theorem not_fits_pow (great : 4294967296 ≤ n.natAbs) {count : Nat} (several : 2 ≤ count) :
    ¬Fits (n ^ count) := by
  intro fits
  have near := fits.natAbs_le
  rw [Int.natAbs_pow] at near
  have square : n.natAbs ^ 2 ≤ n.natAbs ^ count := Nat.pow_le_pow_right (by omega) several
  have greatSquare := Nat.pow_le_pow_left great 2
  omega

/-- A base that is brought into the range passes where its power fits, and where it is raised to the
first power. -/
theorem fits_clamp_pow_iff {count : Nat} (pos : 0 < count) :
    Fits (max minWhole (min maxWhole n) ^ count) ↔ count = 1 ∨ Fits (n ^ count) := by
  have clamped : Fits (max minWhole (min maxWhole n)) := by
    unfold Fits minWhole maxWhole
    omega
  rcases Nat.lt_or_ge 1 count with several | one
  · by_cases fits : Fits n
    · have same : max minWhole (min maxWhole n) = n := by
        unfold Fits at fits
        omega
      rw [same]
      exact ⟨.inr, fun either => either.elim (fun one => absurd one (by omega)) id⟩
    · have far : 4294967296 ≤ (max minWhole (min maxWhole n)).natAbs := by
        unfold Fits at fits
        unfold minWhole maxWhole at fits ⊢
        omega
      have great := natAbs_ge_of_not_fits fits
      constructor
      · exact fun fit => absurd fit (not_fits_pow far several)
      · rintro (one | fit)
        · omega
        · exact absurd fit (not_fits_pow (by omega) several)
  · obtain rfl : count = 1 := by omega
    rw [Int.pow_one]
    exact ⟨fun _ => .inl rfl, fun _ => clamped⟩

/-- A finite base has only finite powers. -/
theorem power?_eq_some_iff {base exponent value : Binary64} (finite : base.isFinite = true) :
    power? base exponent = some value ↔
      (0 : Binary64).lt exponent = true ∧ exponent.lt (.ofNat maxDice) = true ∧
        powerFits base exponent = true ∧
        (base.pow exponent).isFinite = true ∧ base.pow exponent = value := by
  simp only [power?, finite, Bool.true_and, Option.ite_none_right_eq_some,
    Option.ite_none_left_eq_some, Bool.and_eq_true, and_assoc, Bool.not_eq_true', Bool.not_eq_false,
    Option.some.injEq]

/-- The base that is checked is the whole number above it, brought into the range. -/
theorem checkedBase_of_ceil {base : Binary64} {whole : Int} (ceil : base.ceil? = some whole) :
    checkedBase base = max minWhole (min maxWhole whole) := by
  cases base with
  | nan => cases ceil
  | infinity => cases ceil
  | finite => rw [checkedBase, ceil]

/-- **Powers stay within 64 bits, but for first ones.** A finite base and exponent have a power
exactly when the exponent is positive and not too great, the power is finite, and the whole numbers
above them have a power of 64 bits; the first power is not held to that. -/
theorem power_fits_unless_first {σ : Type} (source : Source σ) (state : σ)
    {base exponent : Binary64} (finite : base.isFinite = true)
    (limited : exponent.isFinite = true) :
    ∃ whole times : Int, base.ceil? = some whole ∧ exponent.ceil? = some times ∧
      ((0 : Binary64).lt exponent = true → 1 ≤ times) ∧
      ∀ value, (apply source .power base exponent state).1 = some value ↔
        (0 : Binary64).lt exponent = true ∧ exponent.lt (.ofNat maxDice) = true ∧
          (times = 1 ∨ Fits (whole ^ times.toNat)) ∧
          (base.pow exponent).isFinite = true ∧ base.pow exponent = value := by
  obtain ⟨-, whole, -, ceil, -, -⟩ := exists_ceil finite
  obtain ⟨place, times, here, above, -, below⟩ := exists_ceil limited
  have positive (pos : (0 : Binary64).lt exponent = true) : 1 ≤ times := by
    obtain ⟨_, _, zero, same, less⟩ := lt_eq_true.mp pos
    obtain rfl := Option.some.inj (here.symm.trans same)
    obtain rfl := Option.some.inj ((place?_ofNat (by decide)).symm.trans zero)
    rw [Nat.zero_mul] at less
    exact Int.pos_of_mul_pos_left (Int.lt_of_lt_of_le less below) (Int.natCast_pos.mpr one_pos)
  refine ⟨whole, times, ceil, above, positive, fun value => ?_⟩
  rw [apply, power?_eq_some_iff finite]
  refine and_congr_right fun pos => and_congr_right fun _ => ?_
  have counted := positive pos
  have first : times.toNat = 1 ↔ times = 1 := by omega
  rw [powerFits_eq, checkedBase_of_ceil ceil, above, Option.getD_some, decide_eq_true_iff,
    fits_clamp_pow_iff (by omega), first]

/-- Ten to the nineteenth leaves the range. -/
theorem power_fits_unless_first_ten :
    (10 : Binary64).isFinite = true ∧ (19 : Binary64).isFinite = true ∧
      (apply (⟨fun sides state => (sides, state)⟩ : Source Unit) .power 10 19 ()).1 = none := by
  have ten : (10 : Binary64).isFinite = true := by decide +kernel
  have nineteen : (19 : Binary64).isFinite = true := by decide +kernel
  obtain ⟨whole, times, ceil, above, -, powers⟩ :=
    power_fits_unless_first (⟨fun sides state => (sides, state)⟩ : Source Unit) () ten nineteen
  obtain rfl : whole = 10 := Option.some.inj (ceil.symm.trans (by decide +kernel))
  obtain rfl : times = 19 := Option.some.inj (above.symm.trans (by decide +kernel))
  refine ⟨ten, nineteen, Option.eq_none_iff_forall_ne_some.mpr fun value same => ?_⟩
  obtain ⟨-, -, fits, -⟩ := (powers value).mp same
  exact absurd fits (by decide)

/-- Two to the sixty-third is past the range, and is its own first power. -/
theorem first_power_past_range :
    (apply (⟨fun sides state => (sides, state)⟩ : Source Unit) .power 9223372036854775808 1 ()).1 =
        some 9223372036854775808 ∧
      ¬∀ (source : Source Unit) (base exponent value : Binary64) (whole times : Int),
        base.isFinite = true → exponent.isFinite = true →
        base.ceil? = some whole → exponent.ceil? = some times →
        (apply source .power base exponent ()).1 = some value → Fits (whole ^ times.toNat) := by
  have value : (apply (⟨fun sides state => (sides, state)⟩ : Source Unit) .power
      9223372036854775808 1 ()).1 = some 9223372036854775808 := by decide +kernel
  refine ⟨value, fun within => ?_⟩
  have fits := within _ 9223372036854775808 1 _ 9223372036854775808 1 (by decide +kernel)
    (by decide +kernel) (by decide +kernel) (by decide +kernel) value
  exact absurd fits (by decide)

end Dice

end DiceLedger
