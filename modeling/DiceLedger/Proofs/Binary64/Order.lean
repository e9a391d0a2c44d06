import DiceLedger.Proofs.Binary64.Whole

/-! # The order of doubles

Numbers are compared by their places on the line. Not-a-number has no place and is on no side of any
number, and the others are ordered in a line (`DiceLedger.Binary64.le_of_not_lt`).
-/

namespace DiceLedger

namespace Binary64

variable {x y z : Binary64}

/-- To be ordered is to have places that are. -/
theorem le_eq_true :
    x.le y = true ↔ ∃ a b, x.place? = some a ∧ y.place? = some b ∧ a ≤ b := by
  unfold le
  cases x.place? <;> cases y.place? <;> simp

/-- To be below is to have a place that is. -/
theorem lt_eq_true :
    x.lt y = true ↔ ∃ a b, x.place? = some a ∧ y.place? = some b ∧ a < b := by
  unfold lt
  cases x.place? <;> cases y.place? <;> simp

theorem le_refl (number : x.isNaN = false) : x.le x = true := by
  cases x with
  | nan => cases number
  | infinity => exact decide_eq_true (Int.le_refl _)
  | finite => exact decide_eq_true (Int.le_refl _)

theorem le_trans (first : x.le y = true) (second : y.le z = true) : x.le z = true := by
  obtain ⟨a, b, left, middle, below⟩ := le_eq_true.mp first
  obtain ⟨b', c, middle', right, above⟩ := le_eq_true.mp second
  obtain rfl := Option.some.inj (middle.symm.trans middle')
  exact le_eq_true.mpr ⟨a, c, left, right, Int.le_trans below above⟩

theorem le_of_lt (below : x.lt y = true) : x.le y = true := by
  obtain ⟨a, b, left, right, less⟩ := lt_eq_true.mp below
  exact le_eq_true.mpr ⟨a, b, left, right, Int.le_of_lt less⟩

theorem lt_irrefl (x : Binary64) : x.lt x = false := by
  refine Bool.eq_false_iff.mpr fun below => ?_
  obtain ⟨a, b, left, right, less⟩ := lt_eq_true.mp below
  obtain rfl := Option.some.inj (left.symm.trans right)
  exact Int.lt_irrefl a less

theorem lt_of_le_of_lt (first : x.le y = true) (second : y.lt z = true) : x.lt z = true := by
  obtain ⟨a, b, left, middle, below⟩ := le_eq_true.mp first
  obtain ⟨b', c, middle', right, above⟩ := lt_eq_true.mp second
  obtain rfl := Option.some.inj (middle.symm.trans middle')
  exact lt_eq_true.mpr ⟨a, c, left, right, Int.lt_of_le_of_lt below above⟩

theorem lt_of_lt_of_le (first : x.lt y = true) (second : y.le z = true) : x.lt z = true := by
  obtain ⟨a, b, left, middle, below⟩ := lt_eq_true.mp first
  obtain ⟨b', c, middle', right, above⟩ := le_eq_true.mp second
  obtain rfl := Option.some.inj (middle.symm.trans middle')
  exact lt_eq_true.mpr ⟨a, c, left, right, Int.lt_of_lt_of_le below above⟩

/-- A number that has a place is a number. -/
theorem place?_isSome : x.place?.isSome = !x.isNaN := by
  cases x <;> rfl

theorem eq_nan_of_isNaN (nothing : x.isNaN = true) : x = .nan := by
  cases x with
  | nan => rfl
  | infinity => cases nothing
  | finite => cases nothing

/-- Every number has a place. -/
theorem exists_place (number : x.isNaN = false) : ∃ place, x.place? = some place := by
  apply Option.isSome_iff_exists.mp
  rw [place?_isSome, number]
  rfl

theorem lt_of_place {a b : Int} (left : x.place? = some a) (right : y.place? = some b) :
    x.lt y = decide (a < b) := by
  rw [lt, left, right]

@[simp] theorem nan_le : le .nan x = false := rfl

@[simp] theorem le_nan : le x .nan = false := by
  cases x <;> rfl

@[simp] theorem nan_lt : lt .nan x = false := rfl

@[simp] theorem lt_nan : lt x .nan = false := by
  cases x <;> rfl

/-- Of two numbers one is not right of the other. -/
theorem le_of_not_lt (left : x.isNaN = false) (right : y.isNaN = false) (other : x.lt y = false) :
    y.le x = true := by
  obtain ⟨a, here⟩ := exists_place left
  obtain ⟨b, there⟩ := exists_place right
  have less : ¬a < b := by
    intro less
    rw [lt_eq_true.mpr ⟨a, b, here, there, less⟩] at other
    cases other
  exact le_eq_true.mpr ⟨b, a, there, here, Int.not_lt.mp less⟩

section

variable {n m : Int}

/-- What is past a whole number is past every lower one. -/
theorem compareInt?_gt_of_le (past : x.compareInt? m = some .gt) (le : n ≤ m) :
    x.compareInt? n = some .gt := by
  cases x with
  | nan => cases past
  | infinity => exact past
  | finite =>
      have scaled : n * one ≤ m * one := Int.mul_le_mul_of_nonneg_right le (Int.natCast_nonneg _)
      have beyond := Int.compare_eq_gt.mp (Option.some.inj past)
      exact congrArg some (Int.compare_eq_gt.mpr (Int.lt_of_le_of_lt scaled beyond))

/-- What equals a whole number is past every lower one. -/
theorem compareInt?_gt_of_lt (same : x.compareInt? m = some .eq) (lt : n < m) :
    x.compareInt? n = some .gt := by
  cases x with
  | nan => cases same
  | infinity negative => cases negative <;> cases same
  | finite =>
      have scaled := Int.mul_lt_mul_of_pos_right lt (Int.natCast_pos.mpr one_pos)
      have equal := Int.compare_eq_eq.mp (Option.some.inj same)
      exact congrArg some (Int.compare_eq_gt.mpr (equal ▸ scaled))

/-- A whole number is compared as it is. -/
theorem compareInt?_ofNat {k : Nat} (small : k < 2 ^ (53 : Nat)) :
    (ofNat k).compareInt? m = some (compare (k : Int) m) := by
  have pos : (0 : Int) < one := Int.natCast_pos.mpr one_pos
  have place : signed false (k * one) = (k : Int) * one := Int.natCast_mul k one
  rw [ofNat_eq_finite small, compareInt?, place]
  refine congrArg some ?_
  rcases Int.lt_trichotomy k m with less | rfl | more
  · rw [Int.compare_eq_lt.mpr less, Int.compare_eq_lt]
    exact Int.mul_lt_mul_of_pos_right less pos
  · exact (Int.compare_eq_eq.mpr rfl).trans (Int.compare_eq_eq.mpr rfl).symm
  · rw [Int.compare_eq_gt.mpr more, Int.compare_eq_gt]
    exact Int.mul_lt_mul_of_pos_right more pos

end

/-- Rounding gives a number. -/
theorem isNaN_ofUnits (negative : Bool) (num den : Nat) :
    (ofUnits negative num den).isNaN = false := by
  unfold ofUnits
  split <;> rfl

/-- A number times a whole number that is not zero is a number. -/
theorem isNaN_mul_ofNat (number : x.isNaN = false) {n : Nat} (nonzero : n ≠ 0)
    (small : n < 2 ^ (53 : Nat)) : (x * ofNat n).isNaN = false := by
  have units : n * one ≠ 0 := Nat.mul_ne_zero nonzero (Nat.ne_of_gt one_pos)
  rw [ofNat_eq_finite small]
  change (mul x (finite false (n * one) _)).isNaN = false
  cases x with
  | nan => cases number
  | infinity => rw [mul, if_neg units]; rfl
  | finite => exact isNaN_ofUnits _ _ _

/-- A finite number and any number have a sum. -/
theorem isNaN_add (finite : x.isFinite = true) (number : y.isNaN = false) :
    (add x y).isNaN = false := by
  cases x with
  | nan => cases finite
  | infinity => cases finite
  | finite =>
      cases y with
      | nan => cases number
      | infinity => rfl
      | finite =>
          rw [add]
          split
          · rfl
          · exact isNaN_ofUnits _ _ _

theorem isNaN_of_isFinite (finite : x.isFinite = true) : x.isNaN = false := by
  cases x with
  | nan => cases finite
  | infinity => rfl
  | finite => rfl

theorem isNaN_neg : (neg x).isNaN = x.isNaN := by
  cases x <;> rfl

/-- Whole numbers of at most 53 digits are finite. -/
theorem isFinite_ofNat {n : Nat} (small : n < 2 ^ (53 : Nat)) : (ofNat n).isFinite = true := by
  rw [ofNat_eq_finite small]
  rfl

/-- One more than a finite number is a number. -/
theorem isNaN_add_one (finite : x.isFinite = true) : (x + 1).isNaN = false := by
  have next : (1 : Binary64) = ofNat 1 := rfl
  rw [next]
  exact isNaN_add finite (isNaN_of_isFinite (isFinite_ofNat (by decide)))

/-- The difference of a whole number and any number is a number. -/
theorem isNaN_ofNat_sub (number : x.isNaN = false) {n : Nat} (small : n < 2 ^ (53 : Nat)) :
    (ofNat n - x).isNaN = false :=
  isNaN_add (isFinite_ofNat small) (isNaN_neg.trans number)

end Binary64

end DiceLedger
