import DiceLedger.Text.Digit

/-! # Digits that were written

A digit is one of ten characters (`DiceLedger.Text.mem_of_isDigit`), and the digits of a number
have its value again (`DiceLedger.Text.valueOfDigits_toDigits`).
-/

namespace DiceLedger

namespace Text

theorem mem_of_isDigit {c : Char} (digit : c.isDigit = true) : c ∈ "0123456789".toList := by
  obtain ⟨least, greatest⟩ : 48 ≤ c.toNat ∧ c.toNat ≤ 57 := Char.isDigit_iff_toNat.mp digit
  have digits : ∀ code < 58, 48 ≤ code → Char.ofNat code ∈ "0123456789".toList := by decide
  have written := digits c.toNat (by omega) least
  rwa [Char.ofNat_toNat] at written

/-- A plain digit has the same value among the digits of all scripts. -/
theorem digitValue?_of_isDigit {c : Char} (digit : c.isDigit = true) :
    digitValue? c = some (c.toNat - 48) := by
  have plain : c.toNat < 128 :=
    Nat.lt_of_le_of_lt (Char.isDigit_iff_toNat.mp digit).2 (by decide)
  simp only [digitValue?, plain, digit, ↓reduceIte]

/-- Digits are read with the value that they have in base ten. -/
theorem valueOfDigits_eq_ofDigitChars (digits : List Char) :
    valueOfDigits digits = Nat.ofDigitChars 10 digits 0 := by
  simp only [valueOfDigits, Nat.ofDigitChars, Nat.mul_comm]
  rfl

@[simp] theorem valueOfDigits_toDigits (n : Nat) : valueOfDigits (Nat.toDigits 10 n) = n := by
  rw [valueOfDigits_eq_ofDigitChars, Nat.ofDigitChars_toDigits (by decide) (by decide)]

end Text

end DiceLedger
