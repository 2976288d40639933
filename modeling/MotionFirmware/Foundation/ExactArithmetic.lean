import MotionFirmware.Foundation.Binary64

/-!
# Exact arithmetic

The operations of the source as exact rational arithmetic: an instance of the rounding classes that
rounds nothing.  It is not an instance by default; a module about exact arithmetic makes it one.
-/

namespace ExactArithmetic

/-- The rounding that changes nothing. -/
abbrev rounding : DoubleRounding where
  round := .finite
  round_intCast _ _ := rfl
  round_near q _ _ := ⟨q, rfl, by simp only [sub_self, abs_zero]; positivity⟩
  round_double q _ := ⟨q, rfl, by simp only [sub_self, abs_zero]; positivity⟩

attribute [local instance] rounding

variable {a b : ℚ}

@[simp] lemma ofInt_eq (n : ℤ) : FloatValue.ofInt n = .finite n := rfl

@[simp] lemma finite_add_finite : FloatValue.finite a + .finite b = .finite (a + b) := rfl

@[simp] lemma finite_sub_finite : FloatValue.finite a - .finite b = .finite (a - b) := by
  rw [sub_eq_add_neg]
  rfl

@[simp] lemma finite_mul_finite : FloatValue.finite a * .finite b = .finite (a * b) := rfl

lemma finite_div_finite (hb : b ≠ 0) : FloatValue.finite a / .finite b = .finite (a / b) :=
  FloatValue.finite_div_finite hb

end ExactArithmetic
