import DiceLedger.Proofs.Binary64.Entire

/-! # What rounding comes to

Rounding a whole number to the format leaves no double nearer to it than the one it gives
(`DiceLedger.Binary64.nearestTo_ofNat`). Rounding half away from zero leaves entire numbers
(`DiceLedger.Binary64.entire_roundHalfAway`), and is the same on both sides of zero
(`DiceLedger.Binary64.roundHalfAway_abs`).
-/

namespace DiceLedger

/-- A quotient is rounded down where the remainder is at most half of the divisor, and up where it
is at least half; the tie goes to one of the two. -/
theorem roundQuotient_cases (num den : Nat) :
    roundQuotient num den * den = num / den * den ∧ 2 * (num % den) ≤ den ∨
      roundQuotient num den * den = (num / den + 1) * den ∧ den ≤ 2 * (num % den) := by
  unfold roundQuotient
  dsimp only
  split
  · exact .inl ⟨rfl, by omega⟩
  · split
    · exact .inr ⟨rfl, by omega⟩
    · rcases Nat.mod_two_eq_zero_or_one (num / den) with even | odd
      · exact .inl ⟨by rw [even, Nat.add_zero], by omega⟩
      · exact .inr ⟨by rw [odd], by omega⟩

/-- A rounded quotient is at least as near as every whole number. -/
theorem roundQuotient_distance_le (num : Nat) {den : Nat} (pos : 0 < den) (n : Nat) :
    ((roundQuotient num den * den : Nat) - num : Int).natAbs ≤
      ((n * den : Nat) - num : Int).natAbs := by
  have whole : num / den * den + num % den = num := Nat.div_add_mod' num den
  have left : num % den < den := Nat.mod_lt num pos
  have next : (num / den + 1) * den = num / den * den + den := Nat.succ_mul _ _
  have side : n * den ≤ num / den * den ∨ (num / den + 1) * den ≤ n * den :=
    (Nat.lt_or_ge (num / den) n).elim (fun more => .inr (Nat.mul_le_mul_right den more))
      fun fewer => .inl (Nat.mul_le_mul_right den fewer)
  have near := roundQuotient_cases num den
  omega

/-- A rounded quotient is half of one away from the quotient at most. -/
theorem two_mul_roundQuotient_distance_le (num : Nat) {den : Nat} (pos : 0 < den) :
    2 * ((roundQuotient num den * den : Nat) - num : Int).natAbs ≤ den := by
  have whole : num / den * den + num % den = num := Nat.div_add_mod' num den
  have left : num % den < den := Nat.mod_lt num pos
  have next : (num / den + 1) * den = num / den * den + den := Nat.succ_mul _ _
  have near := roundQuotient_cases num den
  omega

namespace Binary64

variable {x : Binary64}

/-- A count is at least as great as the distance to its neighbours. -/
theorem two_pow_spacing_le {units : Nat} (some : units ≠ 0) : 2 ^ spacing units ≤ units :=
  calc 2 ^ spacing units
      ≤ 2 ^ units.log2 := Nat.pow_le_pow_right (by decide) (Nat.sub_le _ _)
    _ ≤ units := Nat.log2_self_le some

/-- Rounding to the format does not double a count. -/
theorem nearest_le_two_mul (units : Nat) : nearest units 1 ≤ 2 * units := by
  rcases Nat.eq_zero_or_pos units with rfl | some
  · exact Nat.le_of_eq (nearest_of_dvd (Nat.dvd_zero _))
  · have gap := two_pow_spacing_le (Nat.ne_of_gt some)
    have step := roundQuotient_le units (2 ^ spacing units)
    rw [nearest, Nat.div_one, Nat.one_mul]
    calc roundQuotient units (2 ^ spacing units) * 2 ^ spacing units
        ≤ (units / 2 ^ spacing units + 1) * 2 ^ spacing units := Nat.mul_le_mul_right _ step
      _ = units / 2 ^ spacing units * 2 ^ spacing units + 2 ^ spacing units := Nat.succ_mul _ _
      _ ≤ units + units := Nat.add_le_add (Nat.div_mul_le_self _ _) gap
      _ = 2 * units := (Nat.two_mul units).symm

/-- No count of the format is nearer to a count than the one it is rounded to. -/
theorem nearest_distance_le (units : Nat) {other : Nat} (held : Representable other) :
    ((nearest units 1 : Nat) - units : Int).natAbs ≤ (other - units : Int).natAbs := by
  have nearer (n : Nat) := roundQuotient_distance_le units (Nat.two_pow_pos (spacing units)) n
  rw [nearest, Nat.div_one, Nat.one_mul]
  rcases Nat.lt_or_ge (spacing other) (spacing units) with finer | coarser
  · -- A finer count stands before the power of two that `units` has passed.
    have nonzero : units ≠ 0 := by
      rintro rfl
      exact Nat.not_lt_zero _ finer
    have width : units.log2 = 52 + spacing units := by
      unfold spacing at finer ⊢
      omega
    have passed : 2 ^ (52 : Nat) * 2 ^ spacing units ≤ units := by
      rw [← Nat.pow_add, ← width]
      exact Nat.log2_self_le nonzero
    have before : other ≤ 2 ^ (52 : Nat) * 2 ^ spacing units := by
      rw [← Nat.pow_add]
      refine Nat.le_of_lt (Nat.lt_of_lt_of_le Nat.lt_log2_self ?_)
      refine Nat.pow_le_pow_right (by decide) ?_
      unfold spacing at finer ⊢
      omega
    have edge := nearer (2 ^ (52 : Nat))
    generalize 2 ^ (52 : Nat) * 2 ^ spacing units = power at passed before edge
    omega
  · obtain ⟨n, whole⟩ := Nat.dvd_trans (Nat.pow_dvd_pow 2 coarser) held.2
    have same := nearer n
    rwa [Nat.mul_comm n, ← whole] at same

/-- What is rounded to the format is finite, unless it comes to a count past the range. -/
theorem ofUnits_cases (negative : Bool) (num den : Nat) :
    (∃ held, ofUnits negative num den = .finite negative (nearest num den) held) ∨
      overflow ≤ nearest num den ∧ ofUnits negative num den = .infinity negative := by
  by_cases inRange : nearest num den < overflow
  · exact .inl ⟨_, dif_pos inRange⟩
  · exact .inr ⟨Nat.not_lt.mp inRange, dif_neg inRange⟩

/-- A finite double than which no finite double is nearer to a whole number. -/
structure NearestTo (x : Binary64) (n : Int) : Prop where
  finite : x.isFinite = true
  distance_le : ∀ y : Binary64, y.isFinite = true → ∀ here there : Int,
    x.place? = some here → y.place? = some there →
      (here - n * one).natAbs ≤ (there - n * one).natAbs

/-- **A whole number is rounded to the double nearest to it.** -/
theorem nearestTo_ofNat {n : Nat} (small : n < 2 ^ (1023 : Nat)) : NearestTo (ofNat n) n := by
  have room : 2 * (n * one) < overflow := by
    have scaled : 2 * (n * one) < 2 * (2 ^ (1023 : Nat) * one) :=
      Nat.mul_lt_mul_of_pos_left (Nat.mul_lt_mul_of_pos_right small one_pos) (by decide)
    refine Nat.lt_of_lt_of_le scaled (Nat.le_of_eq ?_)
    rw [one_eq_two_pow, overflow_eq_two_pow, ← Nat.pow_add, ← Nat.pow_succ']
  have inRange := Nat.lt_of_le_of_lt (nearest_le_two_mul (n * one)) room
  have nearer {other : Nat} (held : Representable other) :=
    nearest_distance_le (n * one) held
  obtain ⟨_, rounded⟩ | ⟨past, -⟩ := ofUnits_cases false (n * one) 1
  case inr => omega
  rw [ofNat, ofRatio, rounded]
  refine ⟨rfl, ?_⟩
  rintro (_ | _ | ⟨negative, other, held⟩) finite here there ⟨⟩ ⟨⟩
  · cases finite
  · rw [← Int.natCast_mul]
    cases negative with
    | false => exact nearer held
    | true =>
        -- Zero lies between, and is no nearer.
        have zero := nearer representable_zero
        simp only [signed, Bool.false_eq_true, ↓reduceIte] at zero ⊢
        omega

/-- A count of more than 52 digits above a power of two is a multiple of that power. -/
theorem two_pow_dvd_of_great {units power : Nat} (held : Representable units)
    (great : 2 ^ (52 + power) ≤ units) : 2 ^ power ∣ units := by
  have nonzero : units ≠ 0 := by
    rintro rfl
    exact Nat.not_lt.mpr great (Nat.two_pow_pos _)
  have width := (Nat.le_log2 nonzero).mpr great
  refine Nat.dvd_trans (Nat.pow_dvd_pow 2 ?_) held.2
  unfold spacing
  omega

/-- A count of more than 52 digits before the point has none behind it. -/
theorem one_dvd_of_great {units : Nat} (held : Representable units)
    (great : 2 ^ (52 : Nat) * one ≤ units) : one ∣ units := by
  rw [one_eq_two_pow, ← Nat.pow_add] at great
  rw [one_eq_two_pow]
  exact two_pow_dvd_of_great held great

/-- Rounding half away from zero leaves an entire number. -/
theorem entire_roundHalfAway (x : Binary64) : Entire x.roundHalfAway := by
  cases x with
  | nan => exact entire_nan
  | infinity => exact entire_infinity _
  | finite negative units held =>
      rw [roundHalfAway, half_eq_finite, add_finite_false halfUnits_pos]
      obtain ⟨_, sum⟩ | ⟨past, sum⟩ := ofUnits_cases false (units + halfUnits) 1
      · rw [sum, floor?_finite_false, Option.map_some, Option.getD_some]
        exact entire_whole negative (Nat.dvd_mul_left one _)
      · -- Only a count near the end of the range is rounded past it, and that is entire.
        have doubled := nearest_le_two_mul (units + halfUnits)
        have far : 2 * (2 ^ (52 : Nat) * one + halfUnits) ≤ overflow := by decide +kernel
        rw [sum]
        exact entire_finite.mpr (one_dvd_of_great held (by omega))

/-- Both signs are rounded to the format alike. -/
theorem abs_ofUnits (negative : Bool) (num den : Nat) :
    (ofUnits negative num den).abs = ofUnits false num den := by
  unfold ofUnits
  split <;> rfl

/-- A number and its size are rounded alike. -/
theorem roundHalfAway_abs (x : Binary64) : x.abs.roundHalfAway = x.roundHalfAway.abs := by
  cases x with
  | nan => rfl
  | infinity => rfl
  | finite negative units held =>
      rw [abs, roundHalfAway, roundHalfAway]
      cases floor? (add (.finite false units held) half) with
      | none => rfl
      | some whole =>
          rw [Option.map_some, Option.getD_some, Option.map_some, Option.getD_some, abs_ofUnits]

/-- Rounding up gives the first whole number that is not below. -/
theorem exists_ceil (finite : x.isFinite = true) :
    ∃ place whole : Int, x.place? = some place ∧ x.ceil? = some whole ∧
      (whole - 1) * one < place ∧ place ≤ whole * one := by
  cases x with
  | nan => cases finite
  | infinity => cases finite
  | finite negative units =>
      have pos : (0 : Int) < one := Int.natCast_pos.mpr one_pos
      have below := Int.ediv_mul_le (-signed negative units) (Int.ne_of_gt pos)
      have above := Int.lt_ediv_add_one_mul_self (-signed negative units) pos
      refine ⟨_, _, rfl, rfl, ?_, ?_⟩
      · rw [Int.sub_mul, Int.neg_mul]
        rw [Int.add_mul] at above
        omega
      · rw [Int.neg_mul]
        omega

variable {n : Int}

/-- Cutting off at the point leaves a whole number as it is. -/
theorem IsWhole.truncate? (whole : IsWhole x n) : x.truncate? = some n := by
  obtain ⟨negative, units, held, rfl, place⟩ := whole.exists_finite
  have count : units = n.natAbs * one := by
    rw [← natAbs_mul_one, ← place, natAbs_signed]
  have pos : (0 : Int) < one := Int.natCast_pos.mpr one_pos
  rw [Binary64.truncate?, count, Nat.mul_div_cancel _ one_pos]
  rw [count] at place
  cases negative with
  | false =>
      have nonneg : 0 ≤ n := Int.nonneg_of_mul_nonneg_left (place ▸ Int.natCast_nonneg _) pos
      exact congrArg some (Int.natAbs_of_nonneg nonneg)
  | true =>
      have nonpos : n ≤ 0 := by
        refine Int.not_lt.mp fun positive => ?_
        have product := Int.mul_pos positive pos
        rw [← place] at product
        simp only [signed, ↓reduceIte] at product
        omega
      refine congrArg some ?_
      simp only [signed, ↓reduceIte]
      omega

/-- The size of a whole number is a whole number. -/
theorem IsWhole.abs (whole : IsWhole x n) : IsWhole x.abs n.natAbs := by
  obtain ⟨negative, units, held, rfl, place⟩ := whole.exists_finite
  have small : (n.natAbs : Int).natAbs < 2 ^ (53 : Nat) := by
    rw [Int.natAbs_natCast]
    exact whole.small
  refine ⟨small, congrArg some ?_⟩
  rw [signed, if_neg Bool.false_ne_true, ← Int.natCast_mul, ← natAbs_mul_one, ← place,
    natAbs_signed]

/-- An entire number between whole numbers of the format is one of them. -/
theorem Entire.isWhole_iff (entire : Entire x) {least greatest : Nat} (ordered : least ≤ greatest)
    (small : greatest < 2 ^ (53 : Nat)) :
    (ofNat least).le x = true ∧ x.le (ofNat greatest) = true ↔
      ∃ n : Nat, IsWhole x n ∧ least ≤ n ∧ n ≤ greatest := by
  have pos : (0 : Int) < one := Int.natCast_pos.mpr one_pos
  have lower := place?_ofNat (Nat.lt_of_le_of_lt ordered small)
  have upper := place?_ofNat small
  constructor
  · rintro ⟨above, below⟩
    obtain ⟨_, place, left, here, low⟩ := le_eq_true.mp above
    obtain ⟨_, _, same, right, high⟩ := le_eq_true.mp below
    obtain rfl := Option.some.inj (here.symm.trans same)
    obtain rfl := Option.some.inj (lower.symm.trans left)
    obtain rfl := Option.some.inj (upper.symm.trans right)
    obtain ⟨count, rfl⟩ := entire _ here
    rw [Int.mul_comm _ count, Int.natCast_mul] at low high
    have more := Int.le_of_mul_le_mul_right low pos
    have fewer := Int.le_of_mul_le_mul_right high pos
    obtain ⟨n, rfl⟩ := Int.eq_ofNat_of_zero_le (Int.le_trans (Int.natCast_nonneg _) more)
    refine ⟨n, ⟨?_, by rw [here, Int.mul_comm]⟩, Int.ofNat_le.mp more, Int.ofNat_le.mp fewer⟩
    exact Nat.lt_of_le_of_lt (Int.ofNat_le.mp fewer) small
  · rintro ⟨n, whole, more, fewer⟩
    have place := whole.place
    rw [← Int.natCast_mul] at place
    exact ⟨le_eq_true.mpr ⟨_, _, lower, place, Int.ofNat_le.mpr (Nat.mul_le_mul_right one more)⟩,
      le_eq_true.mpr ⟨_, _, place, upper, Int.ofNat_le.mpr (Nat.mul_le_mul_right one fewer)⟩⟩

end Binary64

end DiceLedger
