import DiceLedger.Binary64.Decimal

/-! # Whole numbers in double precision

A whole number of at most 53 binary digits is itself a double
(`DiceLedger.Binary64.ofNat_eq_finite`), and with a digit less it is what rounding half away from
zero leaves (`DiceLedger.Binary64.roundHalfAway_ofNat`). A greater one is far from all of these,
rounded or not (`DiceLedger.Binary64.Far`).
-/

namespace DiceLedger

/-- Rounding a quotient never takes from its whole part. -/
theorem div_le_roundQuotient (num den : Nat) : num / den ≤ roundQuotient num den := by
  unfold roundQuotient
  dsimp only
  split
  · exact Nat.le_refl _
  · split <;> omega

/-- A quotient without a remainder is its own rounding. -/
theorem roundQuotient_mul (quotient : Nat) {den : Nat} (pos : 0 < den) :
    roundQuotient (quotient * den) den = quotient := by
  simp only [roundQuotient, Nat.mul_mod_left, Nat.mul_zero, pos, ↓reduceIte,
    Nat.mul_div_cancel _ pos]

namespace Binary64

/-- Half of one, counted in units. -/
@[irreducible] def halfUnits : Nat := 2 ^ (1073 : Nat)

theorem halfUnits_eq_two_pow : halfUnits = 2 ^ (1073 : Nat) := by
  unfold halfUnits
  rfl

theorem halfUnits_pos : 0 < halfUnits := by
  rw [halfUnits_eq_two_pow]
  exact Nat.two_pow_pos _

/-- One is two halves. -/
theorem one_eq_two_mul : one = 2 * halfUnits := by decide +kernel

theorem one_pos : 0 < one := by
  rw [one_eq_two_pow]
  exact Nat.two_pow_pos _

/-- A count that the format holds is its own rounding. -/
theorem nearest_of_dvd {units : Nat} (held : 2 ^ spacing units ∣ units) :
    nearest units 1 = units := by
  have whole := Nat.div_mul_cancel held
  have exact := roundQuotient_mul (units / 2 ^ spacing units) (Nat.two_pow_pos (spacing units))
  rw [whole] at exact
  rw [nearest, Nat.div_one, Nat.one_mul, exact, whole]

/-- A rounded quotient passes no power of two that the quotient has not passed. -/
theorem two_pow_le_nearest {num den power : Nat} (passed : 2 ^ power ≤ num / den) :
    2 ^ power ≤ nearest num den := by
  have nonzero : num / den ≠ 0 := Nat.ne_of_gt (Nat.lt_of_lt_of_le (Nat.two_pow_pos _) passed)
  have reached : power ≤ (num / den).log2 := (Nat.le_log2 nonzero).mpr passed
  have gap : spacing (num / den) ≤ (num / den).log2 := Nat.sub_le _ _
  calc 2 ^ power
      ≤ 2 ^ (num / den).log2 := Nat.pow_le_pow_right (by decide) reached
    _ = 2 ^ (num / den).log2 / 2 ^ spacing (num / den) * 2 ^ spacing (num / den) :=
        (Nat.div_mul_cancel (Nat.pow_dvd_pow 2 gap)).symm
    _ ≤ num / den / 2 ^ spacing (num / den) * 2 ^ spacing (num / den) :=
        Nat.mul_le_mul_right _ (Nat.div_le_div_right (Nat.log2_self_le nonzero))
    _ ≤ nearest num den := by
        rw [nearest, Nat.div_div_eq_div_mul]
        exact Nat.mul_le_mul_right _ (div_le_roundQuotient _ _)

/-- The format holds 53 binary digits at every power of two in its range. -/
theorem representable_mul_two_pow {digits power : Nat} (few : digits < 2 ^ (53 : Nat))
    (small : power ≤ 2045) : Representable (digits * 2 ^ power) := by
  have below : digits * 2 ^ power < 2 ^ (53 + power) := by
    rw [Nat.pow_add]
    exact Nat.mul_lt_mul_of_pos_right few (Nat.two_pow_pos power)
  have inRange : digits * 2 ^ power < overflow := by
    rw [overflow_eq_two_pow]
    exact Nat.lt_of_lt_of_le below (Nat.pow_le_pow_right (by decide) (by omega))
  refine ⟨inRange, ?_⟩
  rcases Nat.eq_zero_or_pos digits with rfl | some
  · rw [Nat.zero_mul]
    exact Nat.dvd_zero _
  · have nonzero : digits * 2 ^ power ≠ 0 :=
      Nat.ne_of_gt (Nat.mul_pos some (Nat.two_pow_pos power))
    have width := (Nat.log2_lt nonzero).mpr below
    refine Nat.dvd_trans (Nat.pow_dvd_pow 2 ?_) (Nat.dvd_mul_left _ _)
    unfold spacing
    omega

/-- A count that the format holds is the number that it is rounded to. -/
theorem ofUnits_of_representable (negative : Bool) {units : Nat} (held : Representable units) :
    ofUnits negative units 1 = .finite negative units held := by
  have exact := nearest_of_dvd held.2
  simp only [ofUnits, exact, held.1, ↓reduceDIte]

theorem representable_whole {n : Nat} (small : n < 2 ^ (53 : Nat)) : Representable (n * one) := by
  rw [one_eq_two_pow]
  exact representable_mul_two_pow small (by decide)

/-- Halves of whole numbers have one digit more. -/
theorem representable_halves {n : Nat} (small : n < 2 ^ (53 : Nat)) :
    Representable (n * halfUnits) := by
  rw [halfUnits_eq_two_pow]
  exact representable_mul_two_pow small (by decide)

/-- A whole number of at most 53 binary digits is a double. -/
theorem ofNat_eq_finite {n : Nat} (small : n < 2 ^ (53 : Nat)) :
    ofNat n = .finite false (n * one) (representable_whole small) :=
  ofUnits_of_representable false (representable_whole small)

theorem representable_halfUnits : Representable halfUnits := by
  have held : Representable (1 * halfUnits) := representable_halves (by decide)
  rwa [Nat.one_mul] at held

theorem half_eq_finite : half = .finite false halfUnits representable_halfUnits := by
  decide +kernel

/-- The sum of two counts that are not negative, one of them not zero. -/
theorem add_finite_false {first second : Nat} (pos : 0 < second)
    {firstHeld : Representable first} {secondHeld : Representable second} :
    add (.finite false first firstHeld) (.finite false second secondHeld) =
      ofUnits false (first + second) 1 := by
  have total : signed false first + signed false second = (first + second : Nat) := by
    simp only [signed, Bool.false_eq_true, ↓reduceIte, Int.natCast_add]
  have nonzero : ((first + second : Nat) : Int) ≠ 0 := by omega
  have nonneg : ¬((first + second : Nat) : Int) < 0 := by omega
  simp only [add, total, nonzero, nonneg, ↓reduceIte, decide_false, Int.natAbs_natCast]

/-- The whole part of a number that is not negative. -/
theorem floor?_finite_false {units : Nat} {held : Representable units} :
    floor? (.finite false units held) = some ((units / one : Nat) : Int) := by
  simp only [floor?, signed, Bool.false_eq_true, ↓reduceIte, Int.natCast_ediv]

/-- A whole number and a half are an odd number of halves. -/
theorem add_halfUnits (n : Nat) : n * one + halfUnits = (2 * n + 1) * halfUnits := by
  rw [one_eq_two_mul, ← Nat.mul_assoc, Nat.mul_comm n 2, Nat.add_mul, Nat.one_mul]

/-- An odd number of halves is half of one more than a whole number. -/
theorem halves_div_one (n : Nat) : (2 * n + 1) * halfUnits / one = n := by
  rw [one_eq_two_mul, Nat.mul_div_mul_right _ _ halfUnits_pos]
  omega

/-- A whole number is what rounding leaves of it. -/
theorem roundHalfAway_of_lt {n : Nat} (small : n < 2 ^ (52 : Nat)) :
    (ofNat n).roundHalfAway = ofNat n := by
  have digits : 2 * n + 1 < 2 ^ (53 : Nat) := by omega
  have held := representable_whole (Nat.lt_trans small (by decide))
  have sum : floor? (add (.finite false (n * one) held) half) = some ↑n := by
    rw [half_eq_finite, add_finite_false halfUnits_pos, add_halfUnits,
      ofUnits_of_representable false (representable_halves digits), floor?_finite_false,
      halves_div_one]
  rw [ofNat_eq_finite (Nat.lt_trans small (by decide)), roundHalfAway, sum, Option.map_some,
    Option.getD_some, Int.natAbs_natCast, ofUnits_of_representable false held]

/-- A number that no whole number of 52 binary digits reaches. -/
inductive Far : Binary64 → Prop
  | infinity : Far (.infinity false)
  | finite {units : Nat} {held : Representable units} (great : 2 ^ (52 : Nat) * one ≤ units) :
      Far (.finite false units held)

/-- A quotient past the whole numbers of 52 digits stays past them when it is rounded. -/
theorem far_ofUnits {num den : Nat} (passed : 2 ^ (52 : Nat) * one ≤ num / den) :
    Far (ofUnits false num den) := by
  have power : 2 ^ (52 : Nat) * one = 2 ^ (52 + 1074 : Nat) := by
    rw [one_eq_two_pow, Nat.pow_add]
  rw [power] at passed
  unfold ofUnits
  split
  · exact .finite (Nat.le_trans (Nat.le_of_eq power) (two_pow_le_nearest passed))
  · exact .infinity

theorem far_whole {n : Nat} (great : 2 ^ (52 : Nat) * one ≤ n) : Far (ofUnits false n 1) :=
  far_ofUnits (by rwa [Nat.div_one])

/-- A whole number of more than 52 digits is far. -/
theorem far_ofNat {n : Nat} (great : 2 ^ (52 : Nat) ≤ n) : Far (ofNat n) :=
  far_whole (Nat.mul_le_mul_right one great)

/-- A far number stays far when it is rounded. -/
theorem Far.roundHalfAway {value : Binary64} (far : Far value) : Far value.roundHalfAway := by
  cases far with
  | infinity => exact .infinity
  | @finite units held great =>
      have sum : Far (add (.finite false units held) half) := by
        rw [half_eq_finite, add_finite_false halfUnits_pos]
        exact far_whole (Nat.le_trans great (Nat.le_add_right _ _))
      rw [Binary64.roundHalfAway]
      generalize add (.finite false units held) half = total at sum ⊢
      cases sum with
      | infinity => exact .finite great
      | finite greater =>
          rw [floor?_finite_false, Option.map_some, Option.getD_some, Int.natAbs_natCast]
          exact far_whole (Nat.mul_le_mul_right one ((Nat.le_div_iff_mul_le one_pos).mpr greater))

/-- A far number has its place past the whole numbers of 52 digits. -/
theorem Far.place {value : Binary64} (far : Far value) :
    ∃ units : Nat, value.place? = some ↑units ∧ 2 ^ (52 : Nat) * one ≤ units := by
  cases far with
  | infinity => exact ⟨overflow, rfl, by decide +kernel⟩
  | @finite units held great => exact ⟨units, rfl, great⟩

/-- A whole number stays itself when it is rounded, or is far and stays far. -/
theorem roundHalfAway_ofNat (n : Nat) :
    n < 2 ^ (52 : Nat) ∧ (ofNat n).roundHalfAway = ofNat n ∨
      2 ^ (52 : Nat) ≤ n ∧ Far (ofNat n).roundHalfAway := by
  rcases Nat.lt_or_ge n (2 ^ (52 : Nat)) with small | great
  · exact .inl ⟨small, roundHalfAway_of_lt small⟩
  · exact .inr ⟨great, (far_ofNat great).roundHalfAway⟩

/-- Numbers are equal where their places are. -/
theorem eqv_of_place {x y : Binary64} {a b : Int} (left : x.place? = some a)
    (right : y.place? = some b) : x.eqv y = decide (a = b) := by
  rw [eqv, left, right]

theorem le_of_place {x y : Binary64} {a b : Int} (left : x.place? = some a)
    (right : y.place? = some b) : x.le y = decide (a ≤ b) := by
  rw [le, left, right]

/-- A whole number of at most 53 digits has its own place. -/
theorem place?_ofNat {n : Nat} (small : n < 2 ^ (53 : Nat)) :
    (ofNat n).place? = some ↑(n * one) := by
  rw [ofNat_eq_finite small]
  rfl

/-- Whole numbers are compared as they are. -/
theorem eqv_ofNat {first second : Nat} (firstSmall : first < 2 ^ (53 : Nat))
    (secondSmall : second < 2 ^ (53 : Nat)) :
    (ofNat first).eqv (ofNat second) = decide (first = second) := by
  rw [eqv_of_place (place?_ofNat firstSmall) (place?_ofNat secondSmall)]
  exact decide_eq_decide.mpr
    (Int.natCast_inj.trans (Nat.mul_left_inj (Nat.ne_of_gt one_pos)))

/-- Whole numbers are ordered as they are. -/
theorem le_ofNat {first second : Nat} (firstSmall : first < 2 ^ (53 : Nat))
    (secondSmall : second < 2 ^ (53 : Nat)) :
    (ofNat first).le (ofNat second) = decide (first ≤ second) := by
  rw [le_of_place (place?_ofNat firstSmall) (place?_ofNat secondSmall)]
  exact decide_eq_decide.mpr (Int.ofNat_le.trans (Nat.mul_le_mul_right_iff one_pos))

/-- A far number is past each whole number of 52 digits. -/
theorem Far.mul_lt_place {value : Binary64} (far : Far value) {n : Nat}
    (small : n < 2 ^ (52 : Nat)) :
    ∃ units : Nat, value.place? = some ↑units ∧ n * one < units := by
  obtain ⟨units, place, great⟩ := far.place
  exact ⟨units, place,
    Nat.lt_of_lt_of_le (Nat.mul_lt_mul_of_pos_right small one_pos) great⟩

/-- A far number is none of the whole numbers before it. -/
theorem Far.eqv_ofNat {value : Binary64} (far : Far value) {n : Nat} (small : n < 2 ^ (52 : Nat)) :
    value.eqv (ofNat n) = false := by
  obtain ⟨units, place, behind⟩ := far.mul_lt_place small
  rw [eqv_of_place place (place?_ofNat (Nat.lt_trans small (by decide)))]
  exact decide_eq_false fun same => Nat.ne_of_gt behind (Int.natCast_inj.mp same)

/-- A far number is not below a whole number of 52 digits. -/
theorem Far.le_ofNat {value : Binary64} (far : Far value) {n : Nat} (small : n < 2 ^ (52 : Nat)) :
    value.le (ofNat n) = false := by
  obtain ⟨units, place, behind⟩ := far.mul_lt_place small
  rw [le_of_place place (place?_ofNat (Nat.lt_trans small (by decide)))]
  exact decide_eq_false fun below => Nat.not_le.mpr behind (Int.ofNat_le.mp below)

/-- Cutting off at the point leaves a whole number as it is. -/
theorem truncate?_ofNat {n : Nat} (small : n < 2 ^ (53 : Nat)) : (ofNat n).truncate? = some ↑n := by
  rw [ofNat_eq_finite small, truncate?, Nat.mul_div_cancel n one_pos]
  rfl

theorem abs_ofNat (n : Nat) : (ofNat n).abs = ofNat n := by
  rw [ofNat, ofRatio, ofUnits]
  split <;> rfl

/-- A decimal without an exponent is a whole number. -/
theorem ofDecimal_zero (n : Nat) : ofDecimal false n 0 = ofNat n := by
  rw [ofDecimal]
  split
  · next none =>
    rw [none, ofNat_eq_finite (by decide)]
    simp only [zero, Nat.zero_mul]
  · rw [if_neg (by decide), if_neg (by omega), Int.neg_zero, Int.toNat_zero, Nat.pow_zero,
      Nat.mul_one]
    rfl

end Binary64

end DiceLedger
