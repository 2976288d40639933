import Mathlib.Algebra.Order.Field.Rat
import Mathlib.Data.Rat.Cast.Order
import Mathlib.Tactic.Linarith
import Mathlib.Tactic.NormNum
import Mathlib.Tactic.Positivity
import Mathlib.Tactic.FieldSimp

/-!
# Rounded floating-point arithmetic

A floating-point value is a rational number or one of the three non-finite outcomes.  The two
zeros of the encoding are one value here: comparisons do not tell them apart.

An operation on finite operands computes the exact rational result and rounds it.  The rounding
function is a parameter, the class `Rounding`, with the two laws that the arithmetic of a 24-bit
significand satisfies in every rounding mode: small integers are exact, and away from underflow
and overflow the result is finite with a small relative error.  Everything proved over
`[Rounding]` therefore holds whatever the rounding mode is.
-/

/-- A floating-point value: a finite rational, an infinity, or not a number. -/
inductive FloatValue where
  | finite (q : ℚ)
  | posInf
  | negInf
  | nan
  deriving DecidableEq

namespace FloatValue

instance : Zero FloatValue := ⟨finite 0⟩
instance : One FloatValue := ⟨finite 1⟩
instance : Inhabited FloatValue := ⟨0⟩

lemma zero_def : (0 : FloatValue) = finite 0 := rfl

lemma one_def : (1 : FloatValue) = finite 1 := rfl

/-- `isfinite`. -/
def isFinite : FloatValue → Bool
  | finite _ => true
  | _ => false

@[simp] lemma isFinite_finite (q : ℚ) : (finite q).isFinite = true := rfl

@[simp] lemma isFinite_zero : (0 : FloatValue).isFinite = true := rfl

/-- A value is finite exactly when it is a rational. -/
lemma isFinite_iff {x : FloatValue} : x.isFinite = true ↔ ∃ q, x = finite q := by
  cases x <;> simp [isFinite]

/-- `x < y`; false as soon as one side is not a number. -/
def lt : FloatValue → FloatValue → Bool
  | finite a, finite b => decide (a < b)
  | finite _, posInf => true
  | negInf, finite _ => true
  | negInf, posInf => true
  | _, _ => false

/-- `x <= y`; false as soon as one side is not a number. -/
def le : FloatValue → FloatValue → Bool
  | finite a, finite b => decide (a ≤ b)
  | finite _, posInf => true
  | negInf, finite _ => true
  | negInf, posInf => true
  | posInf, posInf => true
  | negInf, negInf => true
  | _, _ => false

instance : LT FloatValue := ⟨fun x y => lt x y = true⟩
instance : LE FloatValue := ⟨fun x y => le x y = true⟩

instance (x y : FloatValue) : Decidable (x < y) := inferInstanceAs (Decidable (lt x y = true))
instance (x y : FloatValue) : Decidable (x ≤ y) := inferInstanceAs (Decidable (le x y = true))

@[simp] lemma finite_lt_finite {a b : ℚ} : finite a < finite b ↔ a < b := by
  change decide (a < b) = true ↔ _
  exact decide_eq_true_iff

@[simp] lemma finite_le_finite {a b : ℚ} : finite a ≤ finite b ↔ a ≤ b := by
  change decide (a ≤ b) = true ↔ _
  exact decide_eq_true_iff

@[simp] lemma zero_lt_finite {a : ℚ} : 0 < finite a ↔ 0 < a := finite_lt_finite

@[simp] lemma zero_le_finite {a : ℚ} : 0 ≤ finite a ↔ 0 ≤ a := finite_le_finite

@[simp] lemma finite_lt_zero {a : ℚ} : finite a < 0 ↔ a < 0 := finite_lt_finite

@[simp] lemma finite_le_one {a : ℚ} : finite a ≤ 1 ↔ a ≤ 1 := finite_le_finite

@[simp] lemma one_lt_finite {a : ℚ} : 1 < finite a ↔ 1 < a := finite_lt_finite

@[simp] lemma finite_eq_zero {a : ℚ} : finite a = 0 ↔ a = 0 := by
  rw [zero_def, finite.injEq]

/-- The two comparisons exclude each other; neither holds of a value that is not a number. -/
lemma not_le_of_lt {x y : FloatValue} (h : x < y) : ¬ y ≤ x := by
  cases x <;> cases y
  case finite.finite a b => exact fun hle => absurd (finite_lt_finite.mp h) (by simpa using hle)
  all_goals
    change lt _ _ = true at h
    change ¬ le _ _ = true
    simp_all [lt, le]

/-- Negation is exact. -/
def neg : FloatValue → FloatValue
  | finite a => finite (-a)
  | posInf => negInf
  | negInf => posInf
  | nan => nan

instance : Neg FloatValue := ⟨neg⟩

@[simp] lemma neg_finite (a : ℚ) : -finite a = finite (-a) := rfl

/-- `fabsf`, which is exact. -/
def abs : FloatValue → FloatValue
  | finite a => finite |a|
  | posInf => posInf
  | negInf => posInf
  | nan => nan

@[simp] lemma abs_finite (a : ℚ) : (finite a).abs = finite |a| := rfl

end FloatValue

/-- A rounding function for a format with a 24-bit significand. -/
class Rounding where
  /-- The rounded value of a rational. -/
  round : ℚ → FloatValue
  /-- Integers of less than 24 bits are represented exactly. -/
  round_intCast : ∀ n : ℤ, |n| < 2 ^ 24 → round n = .finite n
  /-- Away from underflow and overflow the result is finite and close. -/
  round_near : ∀ q : ℚ, 1 / 2 ^ 100 ≤ |q| → |q| ≤ 2 ^ 100 →
    ∃ r, round q = .finite r ∧ |r - q| ≤ |q| / 2 ^ 23

namespace FloatValue

variable [Rounding]

/-- A constant of the source, or a rational obtained from integers. -/
def ofRat (q : ℚ) : FloatValue := Rounding.round q

/-- Conversion of an integer to floating point. -/
def ofInt (n : ℤ) : FloatValue := Rounding.round n

/-- Addition. -/
def add : FloatValue → FloatValue → FloatValue
  | finite a, finite b => Rounding.round (a + b)
  | nan, _ => nan
  | _, nan => nan
  | posInf, negInf => nan
  | negInf, posInf => nan
  | posInf, _ => posInf
  | _, posInf => posInf
  | negInf, _ => negInf
  | _, negInf => negInf

/-- The infinity with the sign of a rational, or not a number for zero. -/
def signedInf (a : ℚ) : FloatValue :=
  if 0 < a then posInf else if a < 0 then negInf else nan

/-- Multiplication. -/
def mul : FloatValue → FloatValue → FloatValue
  | finite a, finite b => Rounding.round (a * b)
  | nan, _ => nan
  | _, nan => nan
  | finite a, posInf => signedInf a
  | posInf, finite a => signedInf a
  | finite a, negInf => signedInf (-a)
  | negInf, finite a => signedInf (-a)
  | posInf, posInf => posInf
  | negInf, negInf => posInf
  | _, _ => negInf

/-- Division.  A zero divisor carries no sign here, so a nonzero dividend over zero is an infinity
with the sign of the dividend. -/
def div : FloatValue → FloatValue → FloatValue
  | finite a, finite b => if b = 0 then signedInf a else Rounding.round (a / b)
  | nan, _ => nan
  | _, nan => nan
  | finite _, _ => finite 0
  | posInf, finite b => if b < 0 then negInf else posInf
  | negInf, finite b => if b < 0 then posInf else negInf
  | _, _ => nan

instance : Add FloatValue := ⟨add⟩
instance : Sub FloatValue := ⟨fun x y => add x (-y)⟩
instance : Mul FloatValue := ⟨mul⟩
instance : Div FloatValue := ⟨div⟩

/-- Dividing a finite value by a nonzero finite value rounds the exact quotient. -/
lemma finite_div_finite {a b : ℚ} (hb : b ≠ 0) : finite a / finite b = Rounding.round (a / b) := by
  change div (finite a) (finite b) = _
  simp [div, hb]

/-- Rounding an integer of at most 32 bits gives a finite value of at most twice its size. -/
lemma exists_ofInt {n : ℤ} (hn : |n| ≤ 2 ^ 32) :
    ∃ r, ofInt n = finite r ∧ |r| ≤ 2 * |(n : ℚ)| ∧ |(n : ℚ)| ≤ 2 * |r| := by
  rcases eq_or_ne n 0 with rfl | hne
  · refine ⟨0, ?_, by simp, by simp⟩
    have := Rounding.round_intCast 0 (by norm_num)
    simpa [ofInt] using this
  · have hone : (1 : ℚ) ≤ |(n : ℚ)| := by
      have : (1 : ℤ) ≤ |n| := Int.one_le_abs hne
      exact_mod_cast this
    have htop : |(n : ℚ)| ≤ 2 ^ 32 := by exact_mod_cast hn
    obtain ⟨r, hr, hnear⟩ := Rounding.round_near (n : ℚ)
      (by linarith [show (1 : ℚ) / 2 ^ 100 ≤ 1 by norm_num])
      (by linarith [show (2 : ℚ) ^ 32 ≤ 2 ^ 100 by norm_num])
    have hsmall : |r - n| ≤ |(n : ℚ)| / 2 := by
      refine hnear.trans ?_
      have : (0 : ℚ) ≤ |(n : ℚ)| := abs_nonneg _
      linarith [show |(n : ℚ)| / 2 ^ 23 ≤ |(n : ℚ)| / 2 by
        exact div_le_div_of_nonneg_left this (by norm_num) (by norm_num)]
    refine ⟨r, hr, ?_, ?_⟩
    · have := abs_sub_abs_le_abs_sub r (n : ℚ)
      linarith
    · have := abs_sub_abs_le_abs_sub (n : ℚ) r
      rw [abs_sub_comm] at hsmall
      linarith

/-- A constant below one is a positive value of at most one. -/
lemma exists_ofRat {q : ℚ} (hlo : 1 / 2 ^ 100 ≤ q) (hhi : q ≤ 9 / 10) :
    ∃ r, ofRat q = finite r ∧ 0 < r ∧ r ≤ 1 := by
  have hpos : 0 < q := lt_of_lt_of_le (by norm_num) hlo
  obtain ⟨r, hr, hnear⟩ := Rounding.round_near q (by rwa [abs_of_pos hpos])
    (by rw [abs_of_pos hpos]; linarith [show (9 : ℚ) / 10 ≤ 2 ^ 100 by norm_num])
  rw [abs_of_pos hpos] at hnear
  obtain ⟨hl, hu⟩ := abs_le.mp hnear
  refine ⟨r, hr, ?_, ?_⟩ <;> linarith

/-- Zero divided by a small positive integer is zero. -/
lemma ofInt_zero_div_ofInt {m : ℤ} (hm : 0 < m) (hm' : m < 2 ^ 24) : ofInt 0 / ofInt m = 0 := by
  have hzero : ofInt 0 = finite ((0 : ℤ) : ℚ) := Rounding.round_intCast 0 (by norm_num)
  have hdivisor : ofInt m = finite m := Rounding.round_intCast m (by rwa [abs_of_pos hm])
  have hm0 : (m : ℚ) ≠ 0 := by exact_mod_cast hm.ne'
  rw [hdivisor, hzero, finite_div_finite hm0, Int.cast_zero, zero_div]
  simpa [ofInt, zero_def] using hzero

/-- The quotient of a nonzero 32-bit integer by a small positive one is finite, and not much smaller
than the exact one. -/
lemma exists_ofInt_div {n m : ℤ} (hn : n ≠ 0) (hn' : |n| ≤ 2 ^ 32) (hm : 0 < m)
    (hm' : m ≤ 2 ^ 16) : ∃ d, ofInt n / ofInt m = finite d ∧ |(n : ℚ)| ≤ 4 * (m * |d|) := by
  obtain ⟨r, hr, hrn, hnr⟩ := exists_ofInt hn'
  have hdivisor : ofInt m = finite m := Rounding.round_intCast m (by
    rw [abs_of_pos hm]
    exact hm'.trans_lt (by norm_num))
  have hm0 : (0 : ℚ) < m := by exact_mod_cast hm
  have hm1 : (1 : ℚ) ≤ m := by exact_mod_cast hm
  have hmtop : (m : ℚ) ≤ 2 ^ 16 := by exact_mod_cast hm'
  have hone : (1 : ℚ) ≤ |(n : ℚ)| := by exact_mod_cast Int.one_le_abs hn
  have htop : |(n : ℚ)| ≤ 2 ^ 32 := by exact_mod_cast hn'
  have hquotient : |r / m| = |r| / m := by rw [abs_div, abs_of_pos hm0]
  have hlow : 1 / 2 ^ 17 ≤ |r / m| := by
    rw [hquotient, le_div_iff₀ hm0]
    linarith
  have hhigh : |r / m| ≤ 2 ^ 33 := by
    rw [hquotient, div_le_iff₀ hm0]
    linarith
  obtain ⟨d, hd, hnear⟩ := Rounding.round_near (r / m)
    (le_trans (by norm_num) hlow) (hhigh.trans (by norm_num))
  refine ⟨d, by rw [hr, hdivisor, finite_div_finite hm0.ne', hd], ?_⟩
  have htri := abs_sub_abs_le_abs_sub (r / m) d
  rw [abs_sub_comm] at htri
  have hhalf : |r / m| / 2 ^ 23 ≤ |r / m| / 2 :=
    div_le_div_of_nonneg_left (abs_nonneg _) (by norm_num) (by norm_num)
  have hclose : |r| / m ≤ 2 * |d| := by
    rw [← hquotient]
    linarith
  rw [div_le_iff₀ hm0] at hclose
  linarith

/-- Rounding a positive rational of ordinary size gives a positive value. -/
lemma exists_pos_round {q : ℚ} (hlo : 1 / 2 ^ 100 ≤ q) (hhi : q ≤ 2 ^ 100) :
    ∃ r, Rounding.round q = finite r ∧ q / 2 ≤ r ∧ r ≤ 2 * q := by
  have hpos : 0 < q := lt_of_lt_of_le (by norm_num) hlo
  obtain ⟨r, hr, hnear⟩ := Rounding.round_near q (by rwa [abs_of_pos hpos])
    (by rwa [abs_of_pos hpos])
  rw [abs_of_pos hpos] at hnear
  obtain ⟨hl, hu⟩ := abs_le.mp hnear
  exact ⟨r, hr, by linarith, by linarith⟩

/-- The quotient of two positive integers of ordinary size is positive. -/
lemma pos_ofInt_div {n m : ℤ} (hn : 0 < n) (hn' : n ≤ 2 ^ 32) (hm : 0 < m) (hm' : m ≤ 2 ^ 16) :
    0 < ofInt n / ofInt m := by
  have hn1 : (1 : ℚ) ≤ n := by exact_mod_cast hn
  have hntop : (n : ℚ) ≤ 2 ^ 32 := by exact_mod_cast hn'
  have hm1 : (1 : ℚ) ≤ m := by exact_mod_cast hm
  have hmtop : (m : ℚ) ≤ 2 ^ 16 := by exact_mod_cast hm'
  obtain ⟨r, hr, hrlow, hrhigh⟩ := exists_pos_round (q := n)
    (le_trans (by norm_num) hn1) (hntop.trans (by norm_num))
  have hdivisor : ofInt m = finite m := Rounding.round_intCast m (by
    rw [abs_of_pos hm]
    exact hm'.trans_lt (by norm_num))
  have hm0 : (0 : ℚ) < m := by linarith
  have hlow : 1 / 2 ^ 100 ≤ r / m := by
    rw [le_div_iff₀ hm0]
    linarith [show (1 : ℚ) / 2 ^ 100 * 2 ^ 16 ≤ 1 / 2 by norm_num,
      mul_le_mul_of_nonneg_left hmtop (show (0 : ℚ) ≤ 1 / 2 ^ 100 by norm_num)]
  have hhigh : r / m ≤ 2 ^ 100 := by
    rw [div_le_iff₀ hm0]
    linarith
  obtain ⟨d, hd, hdlow, -⟩ := exists_pos_round hlow hhigh
  have hquotient : ofInt n / ofInt m = finite d := by
    rw [hdivisor, ofInt, hr, finite_div_finite hm0.ne', hd]
  have hpos : 0 < r / m := lt_of_lt_of_le (by norm_num) hlow
  rw [hquotient, zero_lt_finite]
  linarith

/-- Such a quotient is not tiny. -/
lemma exists_ofInt_div_ofInt {n m : ℤ} (hn : n ≠ 0) (hn' : |n| ≤ 2 ^ 32) (hm : 0 < m)
    (hm' : m ≤ 2 ^ 16) : ∃ d, ofInt n / ofInt m = finite d ∧ 1 / 2 ^ 20 ≤ |d| := by
  obtain ⟨d, hd, hle⟩ := exists_ofInt_div hn hn' hm hm'
  refine ⟨d, hd, ?_⟩
  have hone : (1 : ℚ) ≤ |(n : ℚ)| := by exact_mod_cast Int.one_le_abs hn
  have hmtop : (m : ℚ) ≤ 2 ^ 16 := by exact_mod_cast hm'
  have hproduct : (m : ℚ) * |d| ≤ 2 ^ 16 * |d| :=
    mul_le_mul_of_nonneg_right hmtop (abs_nonneg d)
  linarith

/-- A quotient of a 32-bit integer by a value of at least one part in `2 ^ 20` is finite. -/
lemma isFinite_ofInt_div {n : ℤ} {d : ℚ} (hn : |n| ≤ 2 ^ 32) (hd : 1 / 2 ^ 20 ≤ d)
    (hd1 : d ≤ 1) : (ofInt n / finite d).isFinite = true := by
  obtain ⟨r, hr, hrn, hnr⟩ := exists_ofInt hn
  have hpos : 0 < d := lt_of_lt_of_le (by norm_num) hd
  rw [hr, finite_div_finite hpos.ne']
  have htop : |(n : ℚ)| ≤ 2 ^ 32 := by exact_mod_cast hn
  rcases eq_or_ne n 0 with rfl | hne
  · have hr0 : r = 0 := by
      have : |r| ≤ 0 := by simpa using hrn
      exact abs_eq_zero.mp (le_antisymm this (abs_nonneg r))
    have hzero := Rounding.round_intCast 0 (by norm_num)
    rw [hr0, zero_div]
    simp only [Int.cast_zero] at hzero
    rw [hzero]
    rfl
  · have hone : (1 : ℚ) ≤ |(n : ℚ)| := by
      have : (1 : ℤ) ≤ |n| := Int.one_le_abs hne
      exact_mod_cast this
    have hlow : 1 / 2 ^ 100 ≤ |r / d| := by
      rw [abs_div, abs_of_pos hpos, le_div_iff₀ hpos]
      have : (1 : ℚ) / 2 ^ 100 * d ≤ 1 / 2 ^ 100 * 1 :=
        mul_le_mul_of_nonneg_left hd1 (by norm_num)
      linarith [show (1 : ℚ) / 2 ^ 100 ≤ 1 / 2 by norm_num]
    have hhigh : |r / d| ≤ 2 ^ 100 := by
      rw [abs_div, abs_of_pos hpos, div_le_iff₀ hpos]
      have : (2 : ℚ) ^ 100 * (1 / 2 ^ 20) ≤ 2 ^ 100 * d :=
        mul_le_mul_of_nonneg_left hd (by norm_num)
      linarith [show 2 * (2 : ℚ) ^ 32 ≤ 2 ^ 100 * (1 / 2 ^ 20) by norm_num]
    obtain ⟨v, hv, -⟩ := Rounding.round_near (r / d) hlow hhigh
    rw [hv]
    rfl

end FloatValue
