import DiceLedger.Proofs.Binary64.Rounding

/-! # Rounding to the nearest whole number

Rounding adds a half in double precision and cuts off what follows the point. Up to 52 binary digits
before the point this gives the nearest whole number, and of two the one farther from zero
(`DiceLedger.Binary64.isWhole_roundHalfAway`), save for a single size: the number right below a half
is rounded up to one by the addition already
(`DiceLedger.Binary64.isWhole_roundHalfAway_belowHalf`). -/

namespace DiceLedger

namespace Binary64

/-- The distance of neighbouring counts right below a half. -/
@[irreducible] def fineUnits : Nat := 2 ^ (1020 : Nat)

/-- The number right below a half, counted in units. -/
def belowHalfUnits : Nat := 9007199254740991 * fineUnits

theorem halfUnits_eq_mul : halfUnits = 9007199254740992 * fineUnits := by decide +kernel

theorem fineUnits_eq_two_pow : fineUnits = 2 ^ (1020 : Nat) := by
  unfold fineUnits
  rfl

theorem fineUnits_pos : 0 < fineUnits := by
  rw [fineUnits_eq_two_pow]
  exact Nat.two_pow_pos _

/-- The number right below a half is held. -/
theorem representable_belowHalf : Representable belowHalfUnits := by
  rw [belowHalfUnits, fineUnits_eq_two_pow]
  exact representable_mul_two_pow (by decide) (by decide)

/-- The number right below a half. -/
def belowHalf : Binary64 := .finite false belowHalfUnits representable_belowHalf

/-- With a half added, the number right below a half is rounded to one. -/
theorem nearest_belowHalf : nearest (belowHalfUnits + halfUnits) 1 = one := by decide +kernel

theorem belowHalf_lt : belowHalfUnits < halfUnits := by
  rw [belowHalfUnits, halfUnits_eq_mul]
  exact Nat.mul_lt_mul_of_pos_right (by decide) fineUnits_pos

variable {units bound : Nat}

/-- Rounding does not pass a count of the format from above. -/
theorem le_nearest (held : Representable bound) (below : bound ≤ units) :
    bound ≤ nearest units 1 := by
  have near := nearest_distance_le units held
  omega

/-- Rounding does not pass a count of the format from below. -/
theorem nearest_le (held : Representable bound) (above : units ≤ bound) :
    nearest units 1 ≤ bound := by
  have near := nearest_distance_le units held
  omega

/-- A count below a half that is not right below it stays below one with a half added. -/
theorem nearest_add_half_lt_one (held : Representable units) (small : units < halfUnits)
    (other : units ≠ belowHalfUnits) : nearest (units + halfUnits) 1 < one := by
  have great : Representable (9007199254740991 * 2 ^ (1021 : Nat)) :=
    representable_mul_two_pow (by decide) (by decide)
  have double : (2 : Nat) ^ (1021 : Nat) = 2 * fineUnits := by
    rw [fineUnits_eq_two_pow, ← Nat.pow_succ']
  have whole := one_eq_two_mul
  have pos := fineUnits_pos
  have halves := halfUnits_eq_mul
  rw [double] at great
  rcases Nat.lt_or_ge (9007199254740990 * fineUnits) units with near | far
  · -- Counts so near to a half are multiples of their spacing, and there is only one left.
    have fine : fineUnits ∣ units := by
      rw [fineUnits_eq_two_pow]
      refine two_pow_dvd_of_great held ?_
      rw [Nat.pow_add, ← fineUnits_eq_two_pow]
      exact Nat.le_of_lt (Nat.lt_of_le_of_lt (Nat.mul_le_mul_right _ (by decide)) near)
    obtain ⟨count, rfl⟩ := fine
    rw [belowHalfUnits, Nat.mul_comm fineUnits] at *
    have more := Nat.lt_of_mul_lt_mul_right near
    rw [halves] at small
    have fewer := Nat.lt_of_mul_lt_mul_right small
    obtain rfl : count = 9007199254740991 := by omega
    exact absurd rfl other
  · have within : units + halfUnits ≤ 9007199254740991 * (2 * fineUnits) := by omega
    have rounded := nearest_le great within
    omega

/-- The power of two that ends the run of a spacing is whole, so that a half added to a count does
not reach it unless it reaches a whole number. -/
theorem add_half_lt_two_pow (wide : 1074 ≤ units.log2) {n : Nat} (passed : n * one < units)
    (before : units + halfUnits < n * one + one) :
    units + halfUnits < 2 ^ (units.log2 + 1) := by
  have ended : units < 2 ^ (units.log2 + 1) := Nat.lt_log2_self
  obtain ⟨count, power⟩ : one ∣ 2 ^ (units.log2 + 1) := by
    rw [one_eq_two_pow]
    exact Nat.pow_dvd_pow 2 (by omega)
  have within : n < count := by
    refine Nat.lt_of_mul_lt_mul_right (a := one) ?_
    rw [Nat.mul_comm count, ← power]
    omega
  refine Nat.lt_of_lt_of_le before ?_
  rw [← Nat.succ_mul, power, Nat.mul_comm one]
  exact Nat.mul_le_mul_right one within

/-- A half is added without rounding where no whole number is reached. -/
theorem nearest_add_half_of_passed (held : Representable units)
    (small : units < 2 ^ (52 : Nat) * one) {n : Nat} (some : 0 < n) (passed : n * one < units)
    (before : units + halfUnits < n * one + one) :
    nearest (units + halfUnits) 1 = units + halfUnits := by
  refine nearest_of_dvd ?_
  have nonzero : units ≠ 0 := Nat.ne_of_gt (Nat.lt_of_le_of_lt (Nat.zero_le _) passed)
  have started := Nat.log2_self_le nonzero
  have first : one ≤ n * one := Nat.le_mul_of_pos_left one some
  have wide : 1074 ≤ units.log2 := by
    refine (Nat.le_log2 nonzero).mpr ?_
    rw [← one_eq_two_pow]
    omega
  have same : (units + halfUnits).log2 = units.log2 := by
    refine (Nat.log2_eq_iff (by omega)).mpr ⟨?_, add_half_lt_two_pow wide passed before⟩
    omega
  have narrow : units.log2 < 1126 := by
    refine (Nat.log2_lt nonzero).mpr ?_
    rw [one_eq_two_pow, ← Nat.pow_add] at small
    exact small
  have alike : spacing (units + halfUnits) = spacing units := by
    rw [spacing, spacing, same]
  rw [alike]
  refine Nat.dvd_add held.2 ?_
  rw [halfUnits_eq_two_pow]
  refine Nat.pow_dvd_pow 2 ?_
  unfold spacing
  omega

/-- A count that comes to the greatest whole number with a half added is the last half before it. -/
theorem add_half_eq_of_greatest (held : Representable units) (small : units < 2 ^ (52 : Nat) * one)
    (reached : 2 ^ (52 : Nat) * one ≤ units + halfUnits) :
    units + halfUnits = 2 ^ (52 : Nat) * one := by
  have double := one_eq_two_mul
  have pos := halfUnits_pos
  have halves : halfUnits ∣ units := by
    have great : 2 ^ (52 : Nat) * halfUnits ≤ units := by omega
    rw [halfUnits_eq_two_pow, ← Nat.pow_add] at great
    rw [halfUnits_eq_two_pow]
    exact two_pow_dvd_of_great held great
  obtain ⟨count, rfl⟩ := halves
  rw [double, ← Nat.mul_assoc, Nat.mul_comm halfUnits] at *
  have fewer := Nat.lt_of_mul_lt_mul_right small
  rw [← Nat.succ_mul] at reached ⊢
  have more := Nat.le_of_mul_le_mul_right reached pos
  rw [Nat.le_antisymm fewer more]

/-- With a half added, a count of at most 52 digits before the point is rounded to no other whole
part. -/
theorem nearest_add_half_div (held : Representable units) (small : units < 2 ^ (52 : Nat) * one)
    (other : units ≠ belowHalfUnits) :
    nearest (units + halfUnits) 1 / one = (units + halfUnits) / one := by
  have double := one_eq_two_mul
  have pos := one_pos
  have lower := Nat.div_mul_le_self (units + halfUnits) one
  have upper := Nat.lt_div_mul_add (a := units + halfUnits) pos
  generalize (units + halfUnits) / one = n at lower upper ⊢
  have few : n ≤ 2 ^ (52 : Nat) := by
    refine Nat.le_of_lt_succ (Nat.lt_of_mul_lt_mul_right (a := one) ?_)
    rw [Nat.succ_mul]
    omega
  have least := le_nearest (representable_whole (by omega : n < 2 ^ (53 : Nat))) lower
  suffices next : nearest (units + halfUnits) 1 < n * one + one by
    exact Nat.div_eq_of_lt_le least (by rw [Nat.succ_mul]; exact next)
  rcases Nat.eq_zero_or_pos n with rfl | some
  · rw [Nat.zero_mul, Nat.zero_add] at upper ⊢
    exact nearest_add_half_lt_one held (by omega) other
  rcases Nat.lt_or_ge (n * one + halfUnits) (units + halfUnits) with passed | short
  · rw [nearest_add_half_of_passed held small some (by omega) upper]
    exact upper
  rcases Nat.lt_or_eq_of_le few with fewer | rfl
  · -- The half behind the whole number is a double.
    rw [add_halfUnits] at short
    have rounded := nearest_le (representable_halves (by omega)) short
    rw [← add_halfUnits] at rounded
    omega
  · rw [add_half_eq_of_greatest held small lower,
      nearest_of_dvd (representable_whole (by decide)).2]
    omega

variable {x : Binary64} {n : Int}

/-- A whole number that is less than a half away from a number, or a half and farther from zero. -/
def NearestAway (x : Binary64) (n : Int) : Prop :=
  ∃ place, x.place? = some place ∧
    (2 * (place - n * one).natAbs < one ∨
      2 * (place - n * one).natAbs = one ∧ place.natAbs < (n * one).natAbs)

instance (x : Binary64) (n : Int) : Decidable (x.NearestAway n) :=
  match here : x.place? with
  | none => .isFalse fun ⟨_, there, _⟩ => Option.some_ne_none _ (there.symm.trans here)
  | some place =>
      decidable_of_iff (2 * (place - n * one).natAbs < one ∨
          2 * (place - n * one).natAbs = one ∧ place.natAbs < (n * one).natAbs)
        ⟨fun close => ⟨place, here, close⟩, fun ⟨_, there, close⟩ =>
          Option.some.inj (here.symm.trans there) ▸ close⟩

/-- There is only one such whole number. -/
theorem NearestAway.unique {m : Int} (first : x.NearestAway n) (second : x.NearestAway m) :
    n = m := by
  obtain ⟨place, here, near⟩ := first
  obtain ⟨_, there, close⟩ := second
  obtain rfl := Option.some.inj (here.symm.trans there)
  have pos : (0 : Int) < one := Int.natCast_pos.mpr one_pos
  have apart {a b : Int} (less : a < b) : a * one + one ≤ b * one := by
    have step := Int.mul_le_mul_of_nonneg_right less (Int.le_of_lt pos)
    rwa [Int.add_mul, Int.one_mul] at step
  have sign (a : Int) : 0 ≤ a * one ∨ a * one + one ≤ 0 := by
    rcases Int.lt_or_le a 0 with negative | nonneg
    · exact .inr (by simpa using apart negative)
    · exact .inl (Int.mul_nonneg nonneg (Int.le_of_lt pos))
  have left := sign n
  have right := sign m
  rcases Int.lt_trichotomy n m with less | same | more
  · have step := apart less
    omega
  · exact same
  · have step := apart more
    omega

theorem signed_mul (negative : Bool) (a b : Nat) :
    signed negative (a * b) = signed negative a * b := by
  cases negative with
  | false => exact Int.natCast_mul a b
  | true =>
      simp only [signed, ↓reduceIte]
      rw [Int.natCast_mul, Int.neg_mul]

/-- What rounding leaves of a number, given the whole part of the sum with a half. -/
theorem isWhole_roundHalfAway_of_div {negative : Bool} {held : Representable units} {n : Nat}
    (small : n < 2 ^ (53 : Nat)) (part : nearest (units + halfUnits) 1 / one = n) :
    (roundHalfAway (.finite negative units held)).IsWhole (signed negative n) := by
  have rounded : roundHalfAway (.finite negative units held) =
      .finite negative (n * one) (representable_whole small) := by
    rw [roundHalfAway, half_eq_finite, add_finite_false halfUnits_pos]
    obtain ⟨_, sum⟩ | ⟨past, -⟩ := ofUnits_cases false (units + halfUnits) 1
    · rw [sum, floor?_finite_false, part, Option.map_some, Option.getD_some, Int.natAbs_natCast,
        ofUnits_of_representable]
    · have inRange := (representable_le (Nat.le_refl (2 ^ (53 : Nat)))).1
      have before := (Nat.div_lt_iff_lt_mul one_pos).mp (part ▸ small)
      omega
  rw [rounded]
  exact ⟨by rwa [natAbs_signed], congrArg some (signed_mul negative n one)⟩

/-- The nearest count of ones, of two the greater one. -/
theorem nearestAway_finite {negative : Bool} {held : Representable units} :
    NearestAway (.finite negative units held)
      (signed negative ((units + halfUnits) / one)) := by
  have double := one_eq_two_mul
  have lower := Nat.div_mul_le_self (units + halfUnits) one
  have upper := Nat.lt_div_mul_add (a := units + halfUnits) one_pos
  refine ⟨_, rfl, ?_⟩
  rw [← signed_mul, natAbs_signed, natAbs_signed]
  generalize (units + halfUnits) / one * one = whole at lower upper ⊢
  cases negative with
  | false =>
      simp only [signed, Bool.false_eq_true, ↓reduceIte]
      omega
  | true =>
      simp only [signed, ↓reduceIte]
      omega

/-- A number whose nearest whole number has at most 52 digits has no more before the point. -/
theorem NearestAway.lt (near : x.NearestAway n) (small : n.natAbs < 4503599627370496) :
    x.isFinite = true ∧ x.abs.lt (.ofNat 4503599627370496) = true := by
  obtain ⟨place, here, close⟩ := near
  have double := one_eq_two_mul
  have whole := natAbs_mul_one n
  have step : n.natAbs * one + one ≤ 4503599627370496 * one := by
    rw [← Nat.succ_mul]
    exact Nat.mul_le_mul_right one small
  have within : place.natAbs < 4503599627370496 * one := by omega
  cases x with
  | nan => cases here
  | infinity negative =>
      have far := (@representable_whole 4503599627370496 (by decide)).1
      obtain rfl := Option.some.inj here
      rw [natAbs_signed] at within
      omega
  | finite negative units held =>
      obtain rfl := Option.some.inj here
      rw [natAbs_signed] at within
      exact ⟨rfl, lt_eq_true.mpr ⟨_, _, rfl, place?_ofNat (by decide), Int.ofNat_lt.mpr within⟩⟩

/-- **Up to 52 digits before the point, rounding gives the nearest whole number**, of two the one
farther from zero, unless a number is right below a half. -/
theorem isWhole_roundHalfAway (finite : x.isFinite = true)
    (small : x.abs.lt (.ofNat 4503599627370496) = true) (other : x.abs ≠ belowHalf) :
    ∃ n, x.NearestAway n ∧ x.roundHalfAway.IsWhole n := by
  cases x with
  | nan => cases finite
  | infinity => cases finite
  | finite negative units held =>
      obtain ⟨_, _, here, there, less⟩ := lt_eq_true.mp small
      obtain rfl := Option.some.inj here
      obtain rfl := Option.some.inj (there.symm.trans (place?_ofNat (by decide)))
      have within : units < 2 ^ (52 : Nat) * one := Int.ofNat_lt.mp less
      have apart : units ≠ belowHalfUnits := by
        rintro rfl
        exact other rfl
      refine ⟨_, nearestAway_finite, isWhole_roundHalfAway_of_div ?_
        (nearest_add_half_div held within apart)⟩
      refine (Nat.div_lt_iff_lt_mul one_pos).mpr ?_
      have double := one_eq_two_mul
      omega

/-- Rounding leaves the nearest whole number, of two the one farther from zero. -/
theorem NearestAway.isWhole (near : x.NearestAway n) (small : n.natAbs < 4503599627370496)
    (other : x.abs ≠ belowHalf) : x.roundHalfAway.IsWhole n := by
  obtain ⟨finite, within⟩ := near.lt small
  obtain ⟨m, also, whole⟩ := isWhole_roundHalfAway finite within other
  rwa [near.unique also]

/-- The number right below a half has zero as its nearest whole number and is rounded to one. -/
theorem isWhole_roundHalfAway_belowHalf (below : x.abs = belowHalf) :
    x.NearestAway 0 ∧ x.roundHalfAway.abs.IsWhole 1 := by
  cases x with
  | nan => cases below
  | infinity => cases below
  | finite negative units held =>
      obtain rfl : units = belowHalfUnits := (Binary64.finite.inj below).2
      constructor
      · refine ⟨_, rfl, .inl ?_⟩
        have less := belowHalf_lt
        have double := one_eq_two_mul
        rw [Int.zero_mul, Int.sub_zero, natAbs_signed]
        omega
      · have part : nearest (belowHalfUnits + halfUnits) 1 / one = 1 := by
          rw [nearest_belowHalf, Nat.div_self one_pos]
        have whole := (@isWhole_roundHalfAway_of_div _ negative held 1 (by decide) part).abs
        rwa [natAbs_signed] at whole

end Binary64

end DiceLedger
