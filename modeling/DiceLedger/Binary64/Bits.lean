import DiceLedger.Binary64.Basic

/-! # The interchange word of a number, and powers

A number is written as a 64-bit word: sign, eleven exponent bits, 52 fraction
bits. Counts of units make this one formula: `s · 2⁵² + units / 2ˢ`, where `s` is
the spacing of the count. Powers are left to the machine, by way of the word, all but
the first.
-/

namespace DiceLedger

namespace Binary64

/-- The exponent and fraction bits of a finite count. -/
def magnitudeBits (units : Nat) : Nat :=
  spacing units * 2 ^ (52 : Nat) + units / 2 ^ spacing units

/-- The bits of an infinity without its sign; larger words are not numbers. -/
def infinityBits : Nat := 2047 * 2 ^ (52 : Nat)

def signBit (negative : Bool) : Nat := if negative then 2 ^ (63 : Nat) else 0

def bits : Binary64 → Nat
  | .nan => infinityBits + 2 ^ (51 : Nat)
  | .infinity negative => signBit negative + infinityBits
  | .finite negative units _ => signBit negative + magnitudeBits units

/-- The number a word below 2⁶⁴ stands for. -/
def ofBits (word : Nat) : Binary64 :=
  let negative := decide (2 ^ (63 : Nat) ≤ word)
  let magnitude := word % 2 ^ (63 : Nat)
  let exponent := magnitude / 2 ^ (52 : Nat)
  let fraction := magnitude % 2 ^ (52 : Nat)
  if infinityBits < magnitude then .nan
  else if magnitude = infinityBits then .infinity negative
  else if exponent = 0 then ofUnits negative fraction 1
  else ofUnits negative ((2 ^ (52 : Nat) + fraction) * 2 ^ (exponent - 1)) 1

/-- The power. A first power is the number itself, and the others are as the machine
computes them. -/
def pow (base exponent : Binary64) : Binary64 :=
  if exponent = 1 then base
  else
    let word (x : Binary64) : Float := Float.ofBits (UInt64.ofNat x.bits)
    ofBits (Float.pow (word base) (word exponent)).toBits.toNat

end Binary64

end DiceLedger
