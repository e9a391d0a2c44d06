import DiceLedger.Json.Access
import DiceLedger.Proofs.Binary64.Whole

/-! # Names as values

What two names are compared by is one thing (`DiceLedger.Json.name?`): text, or a place on the
line, on which whole numbers, truth values and doubles stand together. So the comparison of names
is an equivalence (`DiceLedger.Json.sameName_iff`), and what is looked up by it is looked up as
under plain keys.
-/

namespace DiceLedger

/-- What names are compared by. Infinite numbers have no place among the finite ones. -/
inductive Name where
  | null
  | text (text : LooseText)
  | place (units : Int)
  | infinity (negative : Bool)
  | notANumber
  deriving DecidableEq

namespace Binary64

def name : Binary64 → Name
  | .nan => .notANumber
  | .infinity negative => .infinity negative
  | .finite negative units _ => .place (signed negative units)

/-- A double is equal to a whole number if it stands at the same place. -/
theorem compareInt?_eq_iff (x : Binary64) (n : Int) :
    x.compareInt? n = some .eq ↔ x.name = .place (n * one) := by
  cases x with
  | nan => simp only [compareInt?, name, reduceCtorEq]
  | infinity negative => cases negative <;> simp only [compareInt?, name, reduceCtorEq] <;> decide
  | finite negative units held =>
      simp only [compareInt?, name, Option.some.injEq, Name.place.injEq]
      exact Std.compare_eq_iff_eq

/-- No finite number stands where the infinities do. -/
theorem signed_ne_overflow {units : Nat} (small : units < overflow) (a b : Bool) :
    signed a units ≠ signed b overflow := by
  cases a <;> cases b <;> simp only [signed, Bool.false_eq_true, ↓reduceIte] <;> omega

/-- The infinities differ by their sign. -/
theorem signed_overflow_inj {a b : Bool} : signed a overflow = signed b overflow ↔ a = b := by
  have positive := overflow_pos
  cases a <;> cases b <;> simp only [signed, Bool.false_eq_true, ↓reduceIte, reduceCtorEq,
    iff_false] <;> omega

/-- Doubles are one name exactly when they are equal as numbers, or neither is one. -/
theorem name_eq_iff (x y : Binary64) :
    (x.eqv y || (x.isNaN && y.isNaN)) = true ↔ x.name = y.name := by
  cases x with
  | nan => cases y <;> simp only [eqv, place?, isNaN, name, Bool.and_self, Bool.and_false,
      Bool.or_self, Bool.or_true, Bool.false_eq_true, reduceCtorEq]
  | infinity a =>
      cases y with
      | nan => simp only [eqv, place?, isNaN, name, Bool.false_and, Bool.or_self,
          Bool.false_eq_true, reduceCtorEq]
      | infinity b =>
          simp only [eqv, place?, isNaN, name, Bool.and_self, Bool.or_false, decide_eq_true_eq,
            Name.infinity.injEq]
          exact signed_overflow_inj
      | finite b n held =>
          simp only [eqv, place?, isNaN, name, Bool.and_self, Bool.or_false, decide_eq_true_eq,
            reduceCtorEq, iff_false]
          exact (signed_ne_overflow held.1 b a).symm
  | finite a m held =>
      cases y with
      | nan => simp only [eqv, place?, isNaN, name, Bool.false_and, Bool.or_self,
          Bool.false_eq_true, reduceCtorEq]
      | infinity b =>
          simp only [eqv, place?, isNaN, name, Bool.and_self, Bool.or_false, decide_eq_true_eq,
            reduceCtorEq, iff_false]
          exact signed_ne_overflow held.1 a b
      | finite b n _ =>
          simp only [eqv, place?, isNaN, name, Bool.and_self, Bool.or_false, decide_eq_true_eq,
            Name.place.injEq]

end Binary64

namespace Json

/-- What a number is compared by as a name. -/
def numberName : Int ⊕ Binary64 → Name
  | .inl whole => .place (whole * Binary64.one)
  | .inr double => double.name

/-- What a name is compared by; arrays and objects name nothing. -/
def name? : Json → Option Name
  | null => some .null
  | string text => some (.text text)
  | value => value.asNumber?.map numberName

/-- No number is called as nothing is. -/
theorem numberName_ne_null (p : Int ⊕ Binary64) : numberName p ≠ .null := by
  rcases p with whole | double
  · exact Name.noConfusion
  · cases double <;> exact Name.noConfusion

/-- No number is called as a text is. -/
theorem numberName_ne_text (p : Int ⊕ Binary64) (text : LooseText) : numberName p ≠ .text text := by
  rcases p with whole | double
  · exact Name.noConfusion
  · cases double <;> exact Name.noConfusion

/-- Whole numbers have places of their own. -/
theorem place_inj (m n : Int) :
    Name.place (m * Binary64.one) = .place (n * Binary64.one) ↔ m = n := by
  rw [Name.place.injEq]
  exact Int.mul_eq_mul_right_iff (Int.natCast_ne_zero.mpr (Nat.ne_of_gt Binary64.one_pos))

/-- Numbers are the same if they are called the same. -/
theorem sameNumber_iff (p q : Int ⊕ Binary64) :
    sameNumber p q = true ↔ numberName p = numberName q := by
  cases p with
  | inl m =>
      cases q with
      | inl n =>
          rw [sameNumber, decide_eq_true_iff]
          exact (place_inj m n).symm
      | inr y =>
          rw [sameNumber, decide_eq_true_iff, y.compareInt?_eq_iff]
          exact eq_comm
  | inr x =>
      cases q with
      | inl n =>
          rw [sameNumber, decide_eq_true_iff, x.compareInt?_eq_iff]
          rfl
      | inr y => exact x.name_eq_iff y

/-- Names are equal exactly when they are compared by the same. -/
theorem sameName_iff {a b : Json} :
    a.sameName b = true ↔ a.isName = true ∧ a.name? = b.name? := by
  cases a <;> cases b <;>
    simp only [sameName, isName, name?, asNumber?, Option.map_some, Option.map_none,
      sameNumber_iff, numberName_ne_null, numberName_ne_text, (numberName_ne_null _).symm,
      (numberName_ne_text _ _).symm, Option.some.injEq, Name.text.injEq, decide_eq_true_eq,
      reduceCtorEq, Bool.false_eq_true, true_and, false_and]

/-- What can be a name is the same name as itself. -/
theorem sameName_refl {a : Json} (named : a.isName = true) : a.sameName a = true :=
  sameName_iff.mpr ⟨named, rfl⟩

/-- A text is the same name as itself only. -/
theorem sameName_string {a : Json} {text : LooseText} :
    a.sameName (.string text) = true ↔ a = .string text := by
  cases a <;> simp only [sameName, asNumber?, string.injEq, decide_eq_true_eq, reduceCtorEq,
    Bool.false_eq_true]

/-- Nothing but a text is the same as that text. -/
theorem same_string {a : Json} {text : LooseText} :
    a.same (.string text) = true ↔ a = .string text := by
  rw [← sameName_string]
  cases a <;> simp only [same, sameName, asNumber?, Bool.false_eq_true]

end Json

end DiceLedger
