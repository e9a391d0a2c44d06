/-! # Double-precision numbers

Every finite double is a whole number of units of 2⁻¹⁰⁷⁴, so a finite number is
a sign and a natural count of units, and every operation is exact arithmetic on
whole numbers followed by one rounding (`Binary64.nearest`). The count stored in
a number is always one that the format can hold (`Binary64.Representable`).
-/

namespace DiceLedger

/-- The quotient `num / den` rounded to the nearest whole number, a tie going to
the even neighbour. -/
def roundQuotient (num den : Nat) : Nat :=
  let quotient := num / den
  let remainder := num % den
  if 2 * remainder < den then quotient
  else if den < 2 * remainder then quotient + 1
  else quotient + quotient % 2

/-- Rounding adds at most one to the whole part of a quotient. -/
theorem roundQuotient_le (num den : Nat) : roundQuotient num den ≤ num / den + 1 := by
  unfold roundQuotient
  dsimp only
  split
  · omega
  · split <;> omega

namespace Binary64

/- Powers of whole numbers, read the same way whatever else is in scope. -/
attribute [scoped instance (1100)] instPowNat

/-- One, counted in units. -/
@[irreducible] def one : Nat := 2 ^ (1074 : Nat)

/-- The first count of units past the largest finite number. -/
@[irreducible] def overflow : Nat := 2 ^ (2098 : Nat)

/-- The distance, as a power of two, between neighbouring counts of the size of
`units`. -/
def spacing (units : Nat) : Nat := units.log2 - 52

/-- A count that a finite double holds: in range, and with at most 53
significant binary digits. -/
def Representable (units : Nat) : Prop :=
  units < overflow ∧ 2 ^ spacing units ∣ units

instance (units : Nat) : Decidable (Representable units) :=
  inferInstanceAs (Decidable (_ ∧ _))

theorem one_eq_two_pow : one = 2 ^ (1074 : Nat) := by
  unfold one
  rfl

theorem overflow_eq_two_pow : overflow = 2 ^ (2098 : Nat) := by
  unfold overflow
  rfl

theorem overflow_pos : 0 < overflow := by
  rw [overflow_eq_two_pow]
  exact Nat.two_pow_pos _

/-- The format holds zero. -/
theorem representable_zero : Representable 0 :=
  ⟨overflow_pos, Nat.dvd_zero _⟩

/-- The count nearest to the quotient `num / den`, ignoring the upper end of the
range; a tie goes to the count whose last significant digit is even. -/
def nearest (num den : Nat) : Nat :=
  let gap := 2 ^ spacing (num / den)
  roundQuotient num (den * gap) * gap

/-- Rounding always gives a count with at most 53 significant digits. -/
theorem nearest_dvd (num den : Nat) : 2 ^ spacing (nearest num den) ∣ nearest num den := by
  have few : num / den / 2 ^ spacing (num / den) < 2 ^ 53 := by
    rw [Nat.div_lt_iff_lt_mul (Nat.two_pow_pos _), ← Nat.pow_add]
    refine Nat.lt_of_lt_of_le Nat.lt_log2_self (Nat.pow_le_pow_right (by decide) ?_)
    unfold spacing
    omega
  have bound : roundQuotient num (den * 2 ^ spacing (num / den)) ≤ 2 ^ 53 := by
    have step := roundQuotient_le num (den * 2 ^ spacing (num / den))
    rw [← Nat.div_div_eq_div_mul] at step
    omega
  have value : nearest num den =
      roundQuotient num (den * 2 ^ spacing (num / den)) * 2 ^ spacing (num / den) := rfl
  generalize roundQuotient num (den * 2 ^ spacing (num / den)) = count at bound value
  generalize spacing (num / den) = gap at value
  rw [value]
  rcases Nat.lt_or_ge count (2 ^ 53) with small | large
  · rcases Nat.eq_zero_or_pos count with none | some
    · subst none
      simp
    · refine Nat.dvd_trans (Nat.pow_dvd_pow 2 ?_) (Nat.dvd_mul_left _ _)
      have below : count * 2 ^ gap < 2 ^ (53 + gap) := by
        rw [Nat.pow_add]
        exact Nat.mul_lt_mul_of_pos_right small (Nat.two_pow_pos _)
      have nonzero : count * 2 ^ gap ≠ 0 :=
        Nat.pos_iff_ne_zero.1 (Nat.mul_pos some (Nat.two_pow_pos _))
      have width := (Nat.log2_lt nonzero).2 below
      unfold spacing
      omega
  · have full : count = 2 ^ 53 := Nat.le_antisymm bound large
    rw [full, ← Nat.pow_add]
    refine Nat.pow_dvd_pow 2 ?_
    rw [spacing, Nat.log2_two_pow]
    omega

end Binary64

open Binary64 in
/-- A double-precision number. The sign of a zero counts; all not-a-number values
are one. -/
inductive Binary64 where
  | nan
  | infinity (negative : Bool)
  | finite (negative : Bool) (units : Nat) (representable : Representable units)
  deriving DecidableEq

namespace Binary64

/-- The number nearest to the quotient `num / den` of units, infinite when that
lies past the largest finite number. -/
def ofUnits (negative : Bool) (num den : Nat) : Binary64 :=
  if inRange : nearest num den < overflow then
    .finite negative (nearest num den) ⟨inRange, nearest_dvd num den⟩
  else
    .infinity negative

def zero (negative : Bool) : Binary64 := .finite negative 0 representable_zero

/-- The number nearest to the quotient of two naturals. -/
def ofRatio (num den : Nat) : Binary64 := ofUnits false (num * one) den

def ofNat (n : Nat) : Binary64 := ofRatio n 1

def ofInt (n : Int) : Binary64 := ofUnits (n < 0) (n.natAbs * one) 1

instance {n : Nat} : OfNat Binary64 n := ⟨ofNat n⟩

/-- A finite number counted in units, with its sign. -/
def signed (negative : Bool) (units : Nat) : Int := if negative then -(units : Int) else units

def isNaN : Binary64 → Bool
  | .nan => true
  | _ => false

def isFinite : Binary64 → Bool
  | .finite .. => true
  | _ => false

def neg : Binary64 → Binary64
  | .nan => .nan
  | .infinity negative => .infinity (!negative)
  | .finite negative units held => .finite (!negative) units held

def abs : Binary64 → Binary64
  | .nan => .nan
  | .infinity _ => .infinity false
  | .finite _ units held => .finite false units held

/-- The sum; opposite infinities have none, and an exact zero is negative only
when both terms are. -/
def add : Binary64 → Binary64 → Binary64
  | .nan, _ => .nan
  | _, .nan => .nan
  | .infinity a, .infinity b => if a = b then .infinity a else .nan
  | .infinity a, .finite .. => .infinity a
  | .finite .., .infinity b => .infinity b
  | .finite a m _, .finite b n _ =>
    let total := signed a m + signed b n
    if total = 0 then zero (a && b) else ofUnits (total < 0) total.natAbs 1

def sub (x y : Binary64) : Binary64 := add x (neg y)

def mul : Binary64 → Binary64 → Binary64
  | .nan, _ => .nan
  | _, .nan => .nan
  | .infinity a, .infinity b => .infinity (a ^^ b)
  | .infinity a, .finite b n _ => if n = 0 then .nan else .infinity (a ^^ b)
  | .finite a m _, .infinity b => if m = 0 then .nan else .infinity (a ^^ b)
  | .finite a m _, .finite b n _ => ofUnits (a ^^ b) (m * n) one

def div : Binary64 → Binary64 → Binary64
  | .nan, _ => .nan
  | _, .nan => .nan
  | .infinity _, .infinity _ => .nan
  | .infinity a, .finite b _ _ => .infinity (a ^^ b)
  | .finite a _ _, .infinity b => zero (a ^^ b)
  | .finite a m _, .finite b n _ =>
    if n = 0 then (if m = 0 then .nan else .infinity (a ^^ b)) else ofUnits (a ^^ b) (m * one) n

instance : Add Binary64 := ⟨add⟩
instance : Sub Binary64 := ⟨sub⟩
instance : Mul Binary64 := ⟨mul⟩
instance : Div Binary64 := ⟨div⟩
instance : Neg Binary64 := ⟨neg⟩

/-- The place of a number on the line, in units, the infinities standing just
past the largest finite numbers; not-a-number has no place. -/
def place? : Binary64 → Option Int
  | .nan => none
  | .infinity negative => some (signed negative overflow)
  | .finite negative units _ => some (signed negative units)

/-- Whether both numbers have a place and the first is not right of the second. -/
def le (x y : Binary64) : Bool :=
  match x.place?, y.place? with
  | some a, some b => a ≤ b
  | _, _ => false

def lt (x y : Binary64) : Bool :=
  match x.place?, y.place? with
  | some a, some b => a < b
  | _, _ => false

/-- Equality as numbers: zeros of both signs are equal, not-a-number equals
nothing. -/
def eqv (x y : Binary64) : Bool :=
  match x.place?, y.place? with
  | some a, some b => a = b
  | _, _ => false

/-- Exact comparison with a whole number, `none` for not-a-number. -/
def compareInt? : Binary64 → Int → Option Ordering
  | .nan, _ => none
  | .infinity negative, _ => some (if negative then .lt else .gt)
  | .finite negative units _, n => some (compare (signed negative units) (n * one))

/-- The greatest whole number not above a finite number. -/
def floor? : Binary64 → Option Int
  | .finite negative units _ => some (signed negative units / one)
  | _ => none

/-- The least whole number not below a finite number. -/
def ceil? : Binary64 → Option Int
  | .finite negative units _ => some (-(-signed negative units / one))
  | _ => none

/-- A finite number cut off at the point, toward zero. -/
def truncate? : Binary64 → Option Int
  | .finite negative units _ => some (signed negative (units / one))
  | _ => none

/-- A half, the number that rounding adds. -/
@[irreducible] def half : Binary64 := ofRatio 1 2

/-- Adds a half to the size of a number and cuts off what follows the point,
keeping the sign; numbers without a whole part stay. -/
def roundHalfAway : Binary64 → Binary64
  | .finite negative units held =>
    ((floor? (add (.finite false units held) half)).map fun whole =>
      ofUnits negative (whole.natAbs * one) 1).getD (.finite negative units held)
  | other => other

/-- The number nearest to the exact value rounded to two places, a tie at the
second place going to the even digit. -/
def roundHundredths : Binary64 → Binary64
  | .finite negative units _ => ofUnits negative (roundQuotient (units * 100) one * one) 100
  | other => other

end Binary64

end DiceLedger
