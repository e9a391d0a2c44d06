import DiceLedger.Proofs.Binary64.Order

/-! # Entire numbers

The places of whole numbers on the line are multiples of one, those of the infinities too
(`DiceLedger.Binary64.Entire`). Rounding leaves such a place a multiple of one, however great it is,
so sums, differences and products of entire numbers are entire. Between a whole number of 53 binary
digits and the next there is no entire number (`DiceLedger.Binary64.IsWhole.not_between`).
-/

namespace DiceLedger

namespace Binary64

/-- A number without a fraction. Not-a-number has no place, and so no fraction. -/
def Entire (x : Binary64) : Prop := ∀ place ∈ x.place?, (one : Int) ∣ place

/-- The range ends at a whole number. -/
theorem one_dvd_overflow : one ∣ overflow := by
  rw [one_eq_two_pow, overflow_eq_two_pow]
  exact @Nat.pow_dvd_pow 1074 2098 2 (by decide)

/-- A multiple of one that is rounded stays one: what is rounded off is finer than one, and then
nothing of it is there, or the multiples of what is rounded to are multiples of one. -/
theorem one_dvd_nearest {units den : Nat} (entire : one ∣ units) (pos : 0 < den) :
    one ∣ nearest (units * den) den := by
  rw [nearest, Nat.mul_div_cancel _ pos]
  generalize spacing units = gap
  rcases Nat.le_total gap 1074 with fine | coarse
  · have finer : 2 ^ gap ∣ one := by
      rw [one_eq_two_pow]
      exact @Nat.pow_dvd_pow gap 1074 2 fine
    obtain ⟨count, whole⟩ := Nat.dvd_trans finer entire
    have scaled : units * den = count * (den * 2 ^ gap) := by
      rw [whole, Nat.mul_comm _ count, Nat.mul_assoc, Nat.mul_comm den]
    rw [scaled, roundQuotient_mul count (Nat.mul_pos pos (Nat.two_pow_pos gap)),
      Nat.mul_comm count, ← whole]
    exact entire
  · refine Nat.dvd_mul_left_of_dvd ?_ _
    rw [one_eq_two_pow]
    exact @Nat.pow_dvd_pow 1074 gap 2 coarse

variable {x y : Binary64}

/-- Signs do not matter for what a count is a multiple of. -/
theorem dvd_signed {d n : Nat} (negative : Bool) : (d : Int) ∣ signed negative n ↔ d ∣ n := by
  cases negative with
  | false => exact Int.natCast_dvd_natCast
  | true => exact Int.dvd_neg.trans Int.natCast_dvd_natCast

/-- A finite number is entire when its count is a multiple of one. -/
theorem entire_finite {negative : Bool} {units : Nat} {held : Representable units} :
    Entire (.finite negative units held) ↔ one ∣ units := by
  constructor
  · intro entire
    exact (dvd_signed negative).mp (entire _ rfl)
  · intro entire place here
    obtain rfl := Option.some.inj here
    exact (dvd_signed negative).mpr entire

/-- Not-a-number has no place, and so none between whole numbers. -/
theorem entire_nan : Entire .nan := fun _ same => nomatch same

/-- The infinities stand at the whole number where the range ends. -/
theorem entire_infinity (negative : Bool) : Entire (.infinity negative) := by
  intro place here
  obtain rfl := Option.some.inj here
  exact (dvd_signed negative).mpr one_dvd_overflow

theorem entire_zero (negative : Bool) : Entire (zero negative) :=
  entire_finite.mpr (Nat.dvd_zero _)

/-- A whole quotient is rounded to an entire number. -/
theorem entire_ofUnits (negative : Bool) {units den : Nat} (entire : one ∣ units)
    (pos : 0 < den) : Entire (ofUnits negative (units * den) den) := by
  unfold ofUnits
  split
  · exact entire_finite.mpr (one_dvd_nearest entire pos)
  · exact entire_infinity negative

/-- A whole number is rounded to an entire number. -/
theorem entire_whole (negative : Bool) {units : Nat} (entire : one ∣ units) :
    Entire (ofUnits negative units 1) := by
  have rounded := entire_ofUnits negative entire Nat.one_pos
  rwa [Nat.mul_one] at rounded

/-- Natural numbers are entire, rounded where they are great. -/
theorem entire_ofNat (n : Nat) : Entire (ofNat n) :=
  entire_whole false (Nat.dvd_mul_left one n)

theorem Entire.neg (entire : Entire x) : Entire (-x) := by
  cases x with
  | nan => exact entire_nan
  | infinity negative => exact entire_infinity _
  | finite => exact entire_finite.mpr (entire_finite.mp entire)

/-- Sums of entire numbers are entire. -/
theorem Entire.add (left : Entire x) (right : Entire y) : Entire (x + y) := by
  change Entire (Binary64.add x y)
  cases x with
  | nan => exact entire_nan
  | infinity =>
      cases y with
      | nan => exact entire_nan
      | infinity =>
          rw [Binary64.add]
          split
          · exact entire_infinity _
          · exact entire_nan
      | finite => exact entire_infinity _
  | finite a m =>
      cases y with
      | nan => exact entire_nan
      | infinity => exact entire_infinity _
      | finite b n =>
          have sum : (one : Int) ∣ signed a m + signed b n :=
            Int.dvd_add (left _ rfl) (right _ rfl)
          rw [Binary64.add]
          split
          · exact entire_zero _
          · exact entire_whole _ (Int.ofNat_dvd_left.mp sum)

theorem Entire.sub (left : Entire x) (right : Entire y) : Entire (x - y) := left.add right.neg

/-- Products of entire numbers are entire. -/
theorem Entire.mul (left : Entire x) (right : Entire y) : Entire (x * y) := by
  change Entire (Binary64.mul x y)
  cases x with
  | nan => exact entire_nan
  | infinity =>
      cases y with
      | nan => exact entire_nan
      | infinity => exact entire_infinity _
      | finite =>
          rw [Binary64.mul]
          split
          · exact entire_nan
          · exact entire_infinity _
  | finite a m =>
      cases y with
      | nan => exact entire_nan
      | infinity =>
          rw [Binary64.mul]
          split
          · exact entire_nan
          · exact entire_infinity _
      | finite b n =>
          obtain ⟨count, whole⟩ := entire_finite.mp right
          have entire : one ∣ m * count := Nat.dvd_mul_right_of_dvd (entire_finite.mp left) _
          have rounded := entire_ofUnits (a ^^ b) entire one_pos
          rwa [Nat.mul_assoc, Nat.mul_comm count, ← whole] at rounded

/-- A whole number of at most 53 binary digits. -/
structure IsWhole (x : Binary64) (n : Int) : Prop where
  small : n.natAbs < 2 ^ (53 : Nat)
  place : x.place? = some (n * one)

theorem isWhole_ofNat {n : Nat} (small : n < 2 ^ (53 : Nat)) : IsWhole (ofNat n) n :=
  ⟨small, place?_ofNat small⟩

/-- An integer is its size with its sign. -/
theorem signed_decide_neg (n : Int) : signed (n < 0) n.natAbs = n := by
  rw [signed]
  split <;> grind

theorem natAbs_signed (negative : Bool) (units : Nat) :
    (signed negative units).natAbs = units := by
  cases negative with
  | false => exact Int.natAbs_natCast units
  | true => exact (Int.natAbs_neg _).trans (Int.natAbs_natCast units)

/-- The size of a whole number, counted in units. -/
theorem natAbs_mul_one (n : Int) : (n * one).natAbs = n.natAbs * one := by
  rw [Int.natAbs_mul, Int.natAbs_natCast]

/-- One more than 53 digits hold is a power of two. -/
theorem representable_le {n : Nat} (small : n ≤ 2 ^ (53 : Nat)) : Representable (n * one) := by
  rcases Nat.lt_or_eq_of_le small with less | rfl
  · exact representable_whole less
  · have power : 2 ^ (53 : Nat) * one = 2 ^ (53 + 1074 : Nat) := by
      rw [one_eq_two_pow]
      exact (Nat.pow_add 2 53 1074).symm
    have held := @representable_mul_two_pow 1 (53 + 1074) (by decide) (by decide)
    rwa [Nat.one_mul, ← power] at held

/-- A whole number of 53 digits, or one more than these hold, has its own place. -/
theorem place?_ofUnits_le {n : Int} (small : n.natAbs ≤ 2 ^ (53 : Nat)) :
    (ofUnits (n * one < 0) (n * one).natAbs 1).place? = some (n * one) := by
  have held : Representable (n * one).natAbs := by
    rw [natAbs_mul_one]
    exact representable_le small
  rw [ofUnits_of_representable _ held, place?, signed_decide_neg]

theorem place?_zero (negative : Bool) : (zero negative).place? = some 0 := by
  cases negative <;> rfl

/-- A number of at most 53 digits is finite. -/
theorem IsWhole.exists_finite {n : Int} (whole : IsWhole x n) :
    ∃ negative units held, x = .finite negative units held ∧ signed negative units = n * one := by
  have place := whole.place
  cases x with
  | nan => cases place
  | infinity negative =>
      -- Infinity lies past every number of 53 digits.
      have far := congrArg Int.natAbs (Option.some.inj place)
      have near := (representable_whole whole.small).1
      rw [natAbs_mul_one, natAbs_signed] at far
      omega
  | finite negative units held => exact ⟨negative, units, held, rfl, Option.some.inj place⟩

/-- The next whole number is exact. -/
theorem IsWhole.place_add_one {n : Int} (whole : IsWhole x n) :
    (x + 1).place? = some ((n + 1) * one) := by
  obtain ⟨negative, units, held, rfl, place⟩ := whole.exists_finite
  have step : (1 : Binary64) = ofNat 1 := rfl
  have total : signed negative units + signed false (1 * one) = (n + 1) * one := by
    rw [place, Nat.one_mul, Int.add_mul, Int.one_mul]
    rfl
  rw [step, ofNat_eq_finite (by decide)]
  change (Binary64.add _ _).place? = _
  rw [Binary64.add, total]
  split
  · next none => rw [place?_zero, none]
  · exact place?_ofUnits_le (by have small := whole.small; omega)

/-- A whole number is less than the next. -/
theorem IsWhole.lt_add_one {n : Int} (whole : IsWhole x n) : x.lt (x + 1) = true := by
  refine lt_eq_true.mpr ⟨_, _, whole.place, whole.place_add_one, ?_⟩
  exact Int.mul_lt_mul_of_pos_right (Int.lt_succ n) (Int.natCast_pos.mpr one_pos)

/-- No entire number lies between a whole number and the next. -/
theorem IsWhole.not_between {n : Int} (whole : IsWhole x n) (entire : Entire y)
    (above : x.lt y = true) : y.lt (x + 1) = false := by
  refine Bool.eq_false_iff.mpr fun below => ?_
  obtain ⟨a, place, left, here, less⟩ := lt_eq_true.mp above
  obtain ⟨_, b, same, right, more⟩ := lt_eq_true.mp below
  obtain rfl := Option.some.inj (here.symm.trans same)
  obtain rfl := Option.some.inj (whole.place.symm.trans left)
  obtain rfl := Option.some.inj (whole.place_add_one.symm.trans right)
  obtain ⟨count, rfl⟩ := entire _ here
  have pos : (0 : Int) < one := Int.natCast_pos.mpr one_pos
  rw [Int.mul_comm _ count] at less more
  have greater := Int.lt_of_mul_lt_mul_right less (Int.le_of_lt pos)
  have fewer := Int.lt_of_mul_lt_mul_right more (Int.le_of_lt pos)
  omega

end Binary64

end DiceLedger
