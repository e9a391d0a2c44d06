import DiceLedger.Proofs.Binary64.Rounding
import Mathlib.Algebra.Order.Field.Rat
import Mathlib.Data.Nat.Cast.Order.Field
import Mathlib.Tactic.FieldSimp
import Mathlib.Tactic.Linarith
import Mathlib.Tactic.NormNum
import Mathlib.Tactic.Ring

/-! # Doubles near to exact numbers

Up to 256 neighbouring doubles are no farther apart than 2⁻⁴⁴, so an operation gives the exact
result for its operands but for the half of that (`DiceLedger.Binary64.Near.of_ofUnits`). A margin
by which the operands are off is carried on by the operation
(`DiceLedger.Binary64.Near.add`, `DiceLedger.Binary64.Near.mul`, `DiceLedger.Binary64.Near.div`),
and rounding to two places adds half a hundredth
(`DiceLedger.Binary64.Near.roundHundredths`).
-/

namespace DiceLedger

/-- A rounded quotient is half of one away from the quotient at most. -/
theorem abs_roundQuotient_sub_le (num : Nat) {den : Nat} (pos : 0 < den) :
    |(roundQuotient num den : ℚ) - num / den| ≤ 1 / 2 := by
  have denPos : (0 : ℚ) < den := Nat.cast_pos.mpr pos
  have distance : 2 * |(roundQuotient num den * den : ℚ) - num| ≤ den := by
    have halves := Int.ofNat_le.mpr (two_mul_roundQuotient_distance_le num pos)
    rw [Int.natCast_mul, Int.natCast_natAbs] at halves
    exact_mod_cast halves
  have scaled : (roundQuotient num den : ℚ) - num / den =
      (roundQuotient num den * den - num) / den := by
    field_simp
  rw [scaled, abs_div, abs_of_pos denPos, div_le_iff₀ denPos]
  linarith

namespace Binary64

/-- The greatest distance of a number up to 256 from the double that it is rounded to. -/
def grain : ℚ := 1 / 2 ^ (45 : Nat)

/-- Counts up to 256 are held with a spacing of 2⁻⁴⁴. -/
theorem two_pow_spacing_mul_le {units : Nat} (small : units ≤ 256 * one) :
    2 ^ (44 : Nat) * 2 ^ spacing units ≤ one := by
  have passed : units < 2 ^ (1083 : Nat) := by
    refine Nat.lt_of_le_of_lt small ?_
    rw [one_eq_two_pow]
    decide +kernel
  have width : units.log2 < 1083 := by
    rcases Nat.eq_zero_or_pos units with rfl | some
    · decide
    · exact (Nat.log2_lt (Nat.ne_of_gt some)).mpr passed
  rw [one_eq_two_pow, ← Nat.pow_add]
  refine Nat.pow_le_pow_right (by decide) ?_
  unfold spacing
  omega

/-- A quotient up to 256 is rounded by no more than the grain. -/
theorem abs_nearest_sub_le {num den : Nat} (pos : 0 < den) (small : num / den ≤ 256 * one) :
    |(nearest num den : ℚ) - num / den| ≤ grain * one := by
  have gapPos : 0 < 2 ^ spacing (num / den) := Nat.two_pow_pos _
  have gapLe : (2 ^ (44 : Nat) * (2 ^ spacing (num / den) : Nat) : ℚ) ≤ one := by
    exact_mod_cast two_pow_spacing_mul_le small
  have value : nearest num den =
      roundQuotient num (den * 2 ^ spacing (num / den)) * 2 ^ spacing (num / den) := rfl
  have near := abs_roundQuotient_sub_le num (Nat.mul_pos pos gapPos)
  rw [value]
  generalize 2 ^ spacing (num / den) = gap at gapPos gapLe near ⊢
  have positive : (0 : ℚ) < gap := Nat.cast_pos.mpr gapPos
  have denPos : (0 : ℚ) < den := Nat.cast_pos.mpr pos
  have scaled : ((roundQuotient num (den * gap) * gap : Nat) : ℚ) - num / den =
      (roundQuotient num (den * gap) - num / (den * gap : Nat)) * gap := by
    push_cast
    field_simp
  rw [scaled, abs_mul, abs_of_pos positive]
  have product := mul_le_mul_of_nonneg_right near positive.le
  unfold grain
  linarith

/-- A quotient up to 256 is in range. -/
theorem nearest_lt_overflow {num den : Nat} (small : num / den ≤ 256 * one) :
    nearest num den < overflow := by
  have gap := two_pow_spacing_mul_le small
  have far : 512 * one ≤ overflow := by decide +kernel
  have pos := one_pos
  have step := roundQuotient_le num (den * 2 ^ spacing (num / den))
  rw [← Nat.div_div_eq_div_mul] at step
  have rounded := Nat.mul_le_mul_right (2 ^ spacing (num / den)) step
  rw [Nat.succ_mul] at rounded
  have whole := Nat.div_mul_le_self (num / den) (2 ^ spacing (num / den))
  rw [nearest]
  omega

/-- The value of a finite number. -/
def value? : Binary64 → Option ℚ
  | .finite negative units _ => some (signed negative units / one)
  | _ => none

/-- The sign of a number, as a factor. -/
def sign (negative : Bool) : ℚ := if negative then -1 else 1

theorem abs_sign (negative : Bool) : |sign negative| = 1 := by
  cases negative <;> simp [sign]

theorem abs_sign_mul (negative : Bool) {size : ℚ} (nonneg : 0 ≤ size) :
    |sign negative * size| = size := by
  rw [abs_mul, abs_sign, one_mul, abs_of_nonneg nonneg]

theorem sign_xor (first second : Bool) : sign (first ^^ second) = sign first * sign second := by
  cases first <;> cases second <;> norm_num [sign]

/-- A count with its sign is that sign times the count. -/
theorem signed_eq_sign_mul (negative : Bool) (units : Nat) :
    (signed negative units : ℚ) = sign negative * units := by
  cases negative <;> simp [signed, sign]

/-- The value of a finite number is its count, in ones, with its sign. -/
theorem value?_finite {negative : Bool} {units : Nat} {held : Representable units} :
    (finite negative units held).value? = some (sign negative * (units / one)) := by
  rw [← mul_div_assoc, ← signed_eq_sign_mul]
  rfl

/-- Only finite numbers have a value. -/
theorem exists_finite_of_value? {x : Binary64} {value : ℚ} (found : x.value? = some value) :
    ∃ negative units held, x = finite negative units held ∧
      sign negative * (units / one) = value := by
  cases x with
  | nan => cases found
  | infinity => cases found
  | finite negative units held =>
      exact ⟨negative, units, held, rfl, Option.some.inj (value?_finite.symm.trans found)⟩

/-- Whole numbers of at most 53 digits have their own value. -/
theorem value?_ofNat {n : Nat} (small : n < 2 ^ (53 : Nat)) : (ofNat n).value? = some (n : ℚ) := by
  have positive : (one : ℚ) ≠ 0 := Nat.cast_ne_zero.mpr (Nat.ne_of_gt one_pos)
  rw [ofNat_eq_finite small, value?_finite]
  simp [sign, positive]

/-- A finite number that differs from an exact one by no more than a margin. -/
def Near (x : Binary64) (exact margin : ℚ) : Prop :=
  ∃ value, x.value? = some value ∧ |value - exact| ≤ margin

variable {x y : Binary64} {a b margin more : ℚ}

/-- What is near to a number is near to others around it. -/
theorem Near.around (near : Near x a margin) (close : |a - b| ≤ more) :
    Near x b (more + margin) := by
  obtain ⟨value, found, off⟩ := near
  refine ⟨value, found, ?_⟩
  have through := abs_sub_le value a b
  linarith

theorem Near.mono (near : Near x a margin) (le : margin ≤ more) : Near x a more := by
  obtain ⟨value, found, off⟩ := near
  exact ⟨value, found, off.trans le⟩

/-- A number that is near to another is no greater than that with the margin. -/
theorem abs_le_of_near {value : ℚ} (off : |value - a| ≤ margin) : |value| ≤ |a| + margin := by
  have through := abs_sub_abs_le_abs_sub value a
  linarith

/-- **What an operation gives is exact but for the grain.** -/
theorem Near.of_ofUnits (negative : Bool) {num den : Nat} (pos : 0 < den)
    (small : (num / den / one : ℚ) ≤ 256) :
    Near (ofUnits negative num den) (sign negative * (num / den / one)) grain := by
  have onePos : (0 : ℚ) < one := Nat.cast_pos.mpr one_pos
  have within : num / den ≤ 256 * one := by
    have quotient : ((num / den : Nat) : ℚ) ≤ num / den := Nat.cast_div_le
    rw [div_le_iff₀ onePos] at small
    exact_mod_cast quotient.trans small
  have rounded := abs_nearest_sub_le pos within
  refine ⟨sign negative * (nearest num den / one), ?_, ?_⟩
  · rw [ofUnits, dif_pos (nearest_lt_overflow within)]
    exact value?_finite
  · rw [← mul_sub, abs_mul, abs_sign, one_mul, ← sub_div, abs_div, abs_of_pos onePos,
      div_le_iff₀ onePos]
    exact rounded

/-- An operation whose exact outcome is near to a number carries that margin on. -/
theorem Near.of_step {negative : Bool} {num den : Nat} {exact : ℚ} (pos : 0 < den)
    (same : sign negative * (num / den / one) = exact) (close : |exact - a| ≤ margin)
    (small : |a| + margin ≤ 256) : Near (ofUnits negative num den) a (margin + grain) := by
  have size := (abs_le_of_near close).trans small
  have nonneg : (0 : ℚ) ≤ num / den / one := by positivity
  refine Near.around ?_ close
  rw [← same, abs_sign_mul negative nonneg] at size
  rw [← same]
  exact .of_ofUnits negative pos size

/-- The quotient of two natural numbers is exact but for the grain. -/
theorem Near.of_ofRatio {num den : Nat} (pos : 0 < den) (small : (num / den : ℚ) ≤ 256) :
    Near (ofRatio num den) (num / den) grain := by
  have onePos : (one : ℚ) ≠ 0 := Nat.cast_ne_zero.mpr (Nat.ne_of_gt one_pos)
  have exact : (((num * one : Nat) : ℚ) / den / one) = num / den := by
    push_cast
    field_simp
  rw [← exact] at small
  have near : Near (ofRatio num den) _ grain := Near.of_ofUnits false pos small
  rwa [exact, sign, if_neg Bool.false_ne_true, one_mul] at near

/-- The number that is opposite to one near to `a` is near to the opposite of `a`. -/
theorem Near.neg (near : Near x a margin) : Near (-x) (-a) margin := by
  obtain ⟨_, found, off⟩ := near
  obtain ⟨negative, units, held, rfl, rfl⟩ := exists_finite_of_value? found
  refine ⟨_, value?_finite, ?_⟩
  have turned : sign (!negative) = -sign negative := by cases negative <;> simp [sign]
  rwa [turned, neg_mul, neg_sub_neg, abs_sub_comm]

/-- The sum carries both margins on. -/
theorem Near.add (left : Near x a margin) (right : Near y b more)
    (small : |a + b| + (margin + more) ≤ 256) : Near (x + y) (a + b) (margin + more + grain) := by
  obtain ⟨u, found, off⟩ := left
  obtain ⟨v, other, offOther⟩ := right
  have close : |u + v - (a + b)| ≤ margin + more := by
    rw [add_sub_add_comm]
    exact (abs_add_le _ _).trans (add_le_add off offOther)
  obtain ⟨negative, units, held, rfl, valued⟩ := exists_finite_of_value? found
  obtain ⟨negative', units', held', rfl, valued'⟩ := exists_finite_of_value? other
  have plus : (finite negative units held + finite negative' units' held' : Binary64) =
      if signed negative units + signed negative' units' = 0 then zero (negative && negative')
      else ofUnits (signed negative units + signed negative' units' < 0)
        (signed negative units + signed negative' units').natAbs 1 := rfl
  have total : u + v = (signed negative units + signed negative' units' : Int) / one := by
    rw [← valued, ← valued', Int.cast_add, signed_eq_sign_mul, signed_eq_sign_mul]
    ring
  rw [plus]
  rw [total] at close
  generalize signed negative units + signed negative' units' = whole at close ⊢
  split
  · next none =>
    refine Near.around ⟨0, ?_, ?_⟩ close
    · simp [zero, value?_finite]
    · simp [none, grain]
  · have signs : sign (decide (whole < 0)) * ((whole.natAbs : ℚ) / (1 : Nat) / one) =
        whole / one := by
      rw [Nat.cast_one, div_one, ← mul_div_assoc, ← signed_eq_sign_mul, signed_decide_neg]
    exact .of_step Nat.one_pos signs close small

/-- The product with a finite number. -/
theorem Near.mul (left : Near x a margin) (right : y.value? = some b)
    (small : |a * b| + margin * |b| ≤ 256) : Near (x * y) (a * b) (margin * |b| + grain) := by
  obtain ⟨u, found, off⟩ := left
  have close : |u * b - a * b| ≤ margin * |b| := by
    rw [← sub_mul, abs_mul]
    exact mul_le_mul_of_nonneg_right off (abs_nonneg b)
  obtain ⟨negative, units, held, rfl, valued⟩ := exists_finite_of_value? found
  obtain ⟨negative', units', held', rfl, valued'⟩ := exists_finite_of_value? right
  have product : sign (negative ^^ negative') * ((units * units' : Nat) / one / one) = u * b := by
    rw [sign_xor, ← valued, ← valued']
    push_cast
    ring
  exact .of_step one_pos product close small

/-- The quotient by a finite number. -/
theorem Near.div (left : Near x a margin) (right : y.value? = some b) (nonzero : b ≠ 0)
    (small : |a / b| + margin / |b| ≤ 256) : Near (x / y) (a / b) (margin / |b| + grain) := by
  obtain ⟨u, found, off⟩ := left
  have close : |u / b - a / b| ≤ margin / |b| := by
    rw [← sub_div, abs_div]
    exact div_le_div_of_nonneg_right off (abs_nonneg b)
  obtain ⟨negative, units, held, rfl, valued⟩ := exists_finite_of_value? found
  obtain ⟨negative', units', held', rfl, valued'⟩ := exists_finite_of_value? right
  have some : units' ≠ 0 := by
    rintro rfl
    rw [Nat.cast_zero, zero_div, mul_zero] at valued'
    exact nonzero valued'.symm
  have somePos : (0 : ℚ) < units' := Nat.cast_pos.mpr (Nat.pos_of_ne_zero some)
  have onePos : (0 : ℚ) < one := Nat.cast_pos.mpr one_pos
  have divided : (finite negative units held / finite negative' units' held' : Binary64) =
      ofUnits (negative ^^ negative') (units * one) units' := if_neg some
  have quotient : sign (negative ^^ negative') * ((units * one : Nat) / units' / one) = u / b := by
    rw [sign_xor, ← valued, ← valued']
    cases negative <;> cases negative' <;> simp only [sign] <;> push_cast <;> field_simp
  rw [divided]
  exact .of_step (Nat.pos_of_ne_zero some) quotient close small

/-- A number is half a hundredth away from what is left of it with two places at most. -/
theorem abs_hundredths_sub_le (units : Nat) :
    |(roundQuotient (units * 100) one / 100 : ℚ) - units / one| ≤ 1 / 200 := by
  have onePos : (0 : ℚ) < one := Nat.cast_pos.mpr one_pos
  have rounded := abs_roundQuotient_sub_le (units * 100) one_pos
  have scaled : (roundQuotient (units * 100) one / 100 : ℚ) - units / one =
      (roundQuotient (units * 100) one - (units * 100 : Nat) / one) / 100 := by
    push_cast
    field_simp
  rw [scaled, abs_div, abs_of_pos (by norm_num : (0 : ℚ) < 100), div_le_iff₀ (by norm_num)]
  linarith

/-- Rounding to two places moves a number by half a hundredth at most, and by the grain. -/
theorem Near.roundHundredths (near : Near x a margin) (small : |a| + margin ≤ 255) :
    Near x.roundHundredths a (1 / 200 + margin + grain) := by
  obtain ⟨u, found, off⟩ := near
  obtain ⟨negative, units, held, rfl, valued⟩ := exists_finite_of_value? found
  have places := abs_hundredths_sub_le units
  rw [Binary64.roundHundredths]
  generalize roundQuotient (units * 100) one = hundredths at places ⊢
  have onePos : (0 : ℚ) < one := Nat.cast_pos.mpr one_pos
  have exact : sign negative * (((hundredths * one : Nat) : ℚ) / (100 : Nat) / one) =
      sign negative * (hundredths / 100) := by
    push_cast
    field_simp
  have step : |sign negative * (hundredths / 100) - u| ≤ 1 / 200 := by
    rw [← valued, ← mul_sub, abs_mul, abs_sign, one_mul]
    exact places
  have close := (abs_sub_le _ u a).trans (add_le_add step off)
  exact .of_step (by decide) exact close (by linarith)

end Binary64

end DiceLedger
