import DiceLedger.Binary64.Basic

/-! # Numbers and decimal digits

Reading: `ofDecimal` is the number nearest to a decimal. Writing: the fewest
digits that read back (`shortest`), a fixed count of significant digits
(`significant`) and a fixed count of places (`fixedPlaces`); the last two round
the exact value, a tie going to the even digit.
-/

namespace DiceLedger

namespace Binary64

/-- The number nearest to `digits · 10 ^ exponent`. Exponents far outside the range
are settled without computing the power. -/
def ofDecimal (negative : Bool) (digits : Nat) (exponent : Int) : Binary64 :=
  if digits = 0 then zero negative
  else if 400 < exponent then .infinity negative
  else if exponent < -(400 + digits.log2 : Int) then zero negative
  else ofUnits negative (digits * 10 ^ exponent.toNat * one) (10 ^ (-exponent).toNat)

/-- A positive decimal: its digits, most significant first, and the power of ten of
the first. -/
structure Scientific where
  digits : List Nat
  exponent : Int
  deriving DecidableEq, Repr

/-- The decimal digits of a natural, most significant first; none for zero. -/
def decimalDigits (n : Nat) : List Nat :=
  if n = 0 then [] else (Nat.toDigits 10 n).map fun c => c.toNat - '0'.toNat

/-- Whether `units` is at least `10 ^ exponent`. -/
def reaches (units : Nat) (exponent : Int) : Bool :=
  10 ^ exponent.toNat * one ≤ units * 10 ^ (-exponent).toNat

/-- The power of ten of the first digit of a positive count: the greatest one that
the count reaches. Three tries around an estimate from the binary length. -/
def leadingExponent (units : Nat) : Int :=
  let estimate := ((units.log2 : Int) - 1074) * 30103 / 100000
  if reaches units (estimate + 1) then estimate + 1
  else if reaches units estimate then estimate
  else estimate - 1

/-- The quotient of a count by `10 ^ exponent`, as a numerator and a denominator. -/
def scaled (units : Nat) (exponent : Int) : Nat × Nat :=
  (units * 10 ^ (-exponent).toNat, one * 10 ^ exponent.toNat)

/-- Digits without the zeros at their end. -/
def dropTrailingZeros (digits : List Nat) : List Nat :=
  (digits.reverse.dropWhile (· = 0)).reverse

/-- A whole number times `10 ^ exponent`, in scientific form. -/
def Scientific.ofNat (n : Nat) (exponent : Int) : Scientific :=
  let digits := decimalDigits n
  ⟨digits, exponent + digits.length - 1⟩

/-- The decimal with `count` significant digits that reads back as the number, if
there is one: of the two neighbours of the number on that grid the nearer one that
reads back. -/
def withDigits? (units : Nat) (count : Nat) : Option Scientific :=
  let exponent := leadingExponent units - (count - 1 : Nat)
  let (num, den) := scaled units exponent
  let below := num / den
  let readsBack (n : Nat) : Bool :=
    match ofDecimal false n exponent with
    | .finite _ back _ => back = units
    | _ => false
  let preferBelow := 2 * (num % den) < den || (2 * (num % den) = den && below % 2 = 0)
  let (first, second) := if preferBelow then (below, below + 1) else (below + 1, below)
  if readsBack first then some (.ofNat first exponent)
  else if readsBack second then some (.ofNat second exponent)
  else none

/-- The fewest digits that read back as the positive count, and of those the
nearest; seventeen always do. -/
def shortest (units : Nat) : Scientific :=
  let found := (List.range 17).findSome? fun extra => withDigits? units (extra + 1)
  let exact := found.getD (.ofNat units 0)
  ⟨dropTrailingZeros exact.digits, exact.exponent⟩

/-- The positive count rounded to `count` significant digits. -/
def significant (units : Nat) (count : Nat) : Scientific :=
  let exponent := leadingExponent units - (count - 1 : Nat)
  let (num, den) := scaled units exponent
  let rounded := roundQuotient num den
  let all := Scientific.ofNat rounded exponent
  ⟨all.digits.take count, all.exponent⟩

/-- The count times `10 ^ places`, rounded to a whole number. -/
def fixedPlaces (units : Nat) (places : Nat) : Nat :=
  roundQuotient (units * 10 ^ places) one

end Binary64

end DiceLedger
