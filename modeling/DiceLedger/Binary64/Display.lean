import DiceLedger.Binary64.Decimal

/-! # Numbers as people read them

`display` writes the fewest digits that read back, always with a point or an
exponent; `general` writes six significant digits without the zeros at the end;
`fixed` writes a set number of places. `grouped` writes whole numbers with a comma
between groups of three digits.
-/

namespace DiceLedger

namespace Binary64

/-- Digits as characters. -/
def digitChars (digits : List Nat) : List Char := digits.map fun d => Char.ofNat (48 + d)

/-- The sign in front of a number. -/
def signChars (negative : Bool) : List Char := if negative then ['-'] else []

/-- An exponent with its sign and at least two digits. -/
def exponentChars (exponent : Int) : List Char :=
  let size := (toString exponent.natAbs).toList
  'e' :: (if exponent < 0 then '-' else '+') :: (if size.length < 2 then '0' :: size else size)

/-- Scientific notation: one digit, a point if more digits follow, an exponent. -/
def exponential (number : Scientific) : List Char :=
  let point := match number.digits.tail with
    | [] => []
    | rest => '.' :: digitChars rest
  digitChars (number.digits.take 1) ++ point ++ exponentChars number.exponent

/-- Positional notation: the whole part, and the digits after the point. -/
def positional (number : Scientific) : List Char × List Char :=
  if number.exponent < 0 then
    (['0'], List.replicate (-number.exponent - 1).toNat '0' ++ digitChars number.digits)
  else
    let width := number.exponent.toNat + 1
    let whole := number.digits.take width
    (digitChars (whole ++ List.replicate (width - whole.length) 0),
      digitChars (number.digits.drop width))

/-- The fewest digits that read back: positional from 10⁻⁴ up to below 10¹⁶, with at
least one digit after the point, and scientific elsewhere. -/
def displayChars : Binary64 → List Char
  | .nan => "nan".toList
  | .infinity negative => signChars negative ++ "inf".toList
  | .finite negative units _ =>
    if units = 0 then signChars negative ++ "0.0".toList
    else
      let number := shortest units
      if -4 ≤ number.exponent && number.exponent < 16 then
        let (whole, fraction) := positional number
        signChars negative ++ whole ++ '.' :: (if fraction.isEmpty then ['0'] else fraction)
      else signChars negative ++ exponential number

def display (x : Binary64) : String := String.ofList x.displayChars

/-- Six significant digits without the zeros at their end: positional from 10⁻⁴ up to
below 10⁶, scientific elsewhere. -/
def general : Binary64 → String
  | .nan => "nan"
  | .infinity negative => String.ofList (signChars negative ++ "inf".toList)
  | .finite negative units _ =>
    if units = 0 then String.ofList (signChars negative ++ ['0'])
    else
      let rounded := significant units 6
      let number : Scientific := ⟨dropTrailingZeros rounded.digits, rounded.exponent⟩
      if -4 ≤ number.exponent && number.exponent < 6 then
        let (whole, fraction) := positional number
        let point := if fraction.isEmpty then [] else '.' :: fraction
        String.ofList (signChars negative ++ whole ++ point)
      else String.ofList (signChars negative ++ exponential number)

/-- A set number of places, at least one, after the point. -/
def fixed (places : Nat) : Binary64 → String
  | .nan => "nan"
  | .infinity negative => String.ofList (signChars negative ++ "inf".toList)
  | .finite negative units _ =>
    let digits := (toString (fixedPlaces units places)).toList
    let padded := List.replicate (places + 1 - digits.length) '0' ++ digits
    let cut := padded.length - places
    String.ofList (signChars negative ++ padded.take cut ++ '.' :: padded.drop cut)

end Binary64

/-- The digits with a comma before every group of three, counted from the end. -/
def groupedDigits : List Char → List Char
  | [] => []
  | c :: rest =>
    if rest.length % 3 = 0 && !rest.isEmpty then c :: ',' :: groupedDigits rest
    else c :: groupedDigits rest

/-- A whole number with commas between groups of three digits. -/
def grouped (n : Int) : String :=
  String.ofList (Binary64.signChars (n < 0) ++ groupedDigits (toString n.natAbs).toList)

end DiceLedger
