import Mathlib.Data.Int.Log
import Mathlib.Tactic.Linarith
import Mathlib.Tactic.Positivity
import Mathlib.Tactic.Ring

/-!
# Scientific notation

A positive number is a significand between one and the base times a power of the base, in one way.
The significand is rounded to a number of places after the point, with halves rounded up.  Rounding
can reach the base; the digits then become a one followed by zeros, and the exponent is increased.
The result is a number of the expected length in either case, and it is off by at most half a unit
in the last place of the original exponent.
-/

namespace Scientific

variable {K : Type*} [Field K] [LinearOrder K] [IsStrictOrderedRing K] [FloorRing K]
  {b k : ℕ} {x : K} {e : ℤ}

/-- The significand of a positive number. -/
def significand (b : ℕ) (x : K) : K := x / (b : K) ^ Int.log b x

/-- The digits of the significand up to `k` places after the point, as a number. -/
def digits (b k : ℕ) (x : K) : ℕ := ⌊significand b x * b ^ k + 1 / 2⌋₊

/-- The digits and the exponent after a possible carry. -/
def rounded (b k : ℕ) (x : K) : ℕ × ℤ :=
  if b ^ (k + 1) ≤ digits b k x then (b ^ k, Int.log b x + 1) else (digits b k x, Int.log b x)

/-- The exponent is determined by the powers of the base around the number. -/
lemma log_eq (hb : 1 < b) (hlow : (b : K) ^ e ≤ x) (hhigh : x < (b : K) ^ (e + 1)) :
    Int.log b x = e := by
  have hpos : (0 : K) < b := by exact_mod_cast Nat.zero_lt_of_lt hb
  have hx : 0 < x := (zpow_pos hpos e).trans_le hlow
  have hle := (Int.zpow_le_iff_le_log hb hx).mp hlow
  have hlt := (Int.lt_zpow_iff_log_lt hb hx).mp hhigh
  omega

/-- The significand is not below one. -/
lemma one_le_significand (hb : 1 < b) (hx : 0 < x) : 1 ≤ significand b x := by
  have hpos : (0 : K) < b := by exact_mod_cast Nat.zero_lt_of_lt hb
  rw [significand, one_le_div (zpow_pos hpos _)]
  exact Int.zpow_log_le_self hb hx

/-- The significand is below the base. -/
lemma significand_lt (hb : 1 < b) (x : K) : significand b x < b := by
  have hpos : (0 : K) < b := by exact_mod_cast Nat.zero_lt_of_lt hb
  rw [significand, div_lt_iff₀ (zpow_pos hpos _), ← zpow_one_add₀ hpos.ne', add_comm]
  exact Int.lt_zpow_succ_log_self hb x

/-- The rounded significand does not lose a digit. -/
lemma le_digits (hb : 1 < b) (hx : 0 < x) : b ^ k ≤ digits b k x := by
  refine Nat.le_floor ?_
  have hpow : (0 : K) ≤ (b : K) ^ k := pow_nonneg (Nat.cast_nonneg b) k
  have hone := mul_le_mul_of_nonneg_right (one_le_significand hb hx) hpow
  push_cast
  linarith

/-- The rounded significand reaches the base at most. -/
lemma digits_le (hb : 1 < b) (hx : 0 < x) : digits b k x ≤ b ^ (k + 1) := by
  have hpow : (0 : K) < (b : K) ^ k := pow_pos (by exact_mod_cast Nat.zero_lt_of_lt hb) k
  have hone := mul_le_mul_of_nonneg_right (one_le_significand hb hx) hpow.le
  have hbase := mul_lt_mul_of_pos_right (significand_lt hb x) hpow
  refine Nat.lt_succ_iff.mp ((Nat.floor_lt (by linarith)).mpr ?_)
  push_cast
  rw [pow_succ']
  linarith

/-- **Digits.**  After the carry the digits have the expected length. -/
theorem rounded_range (hb : 1 < b) (hx : 0 < x) :
    b ^ k ≤ (rounded b k x).1 ∧ (rounded b k x).1 < b ^ (k + 1) := by
  unfold rounded
  split_ifs with hcarry
  · exact ⟨le_rfl, Nat.pow_lt_pow_right hb (Nat.lt_succ_self k)⟩
  · exact ⟨le_digits hb hx, not_le.mp hcarry⟩

/-- A carry does not change the value of the digits. -/
lemma rounded_value (hb : 1 < b) (hx : 0 < x) :
    ((rounded b k x).1 : K) * (b : K) ^ ((rounded b k x).2 - k) =
      digits b k x * (b : K) ^ (Int.log b x - k) := by
  have hne : (b : K) ≠ 0 := by exact_mod_cast (Nat.zero_lt_of_lt hb).ne'
  unfold rounded
  split_ifs with hcarry
  · have hdigits : digits b k x = b ^ (k + 1) := le_antisymm (digits_le hb hx) hcarry
    have hexponent : Int.log b x + 1 - (k : ℤ) = 1 + (Int.log b x - k) := by ring
    rw [hdigits, hexponent, zpow_one_add₀ hne]
    push_cast
    ring
  · rfl

/-- Rounding the significand is off by at most one half. -/
lemma abs_digits_sub_le (hb : 1 < b) (hx : 0 < x) :
    |(digits b k x : K) - significand b x * b ^ k| ≤ 1 / 2 := by
  have hpow : (0 : K) ≤ (b : K) ^ k := pow_nonneg (Nat.cast_nonneg b) k
  have hone := mul_le_mul_of_nonneg_right (one_le_significand hb hx) hpow
  have hlow : (digits b k x : K) ≤ significand b x * b ^ k + 1 / 2 :=
    Nat.floor_le (by linarith)
  have hhigh : significand b x * b ^ k + 1 / 2 < digits b k x + 1 := Nat.lt_floor_add_one _
  rw [abs_le]
  constructor <;> linarith

/-- **Error.**  The digits are off by at most half a unit in the last place, measured at the
exponent before the carry. -/
theorem abs_rounded_sub_le (hb : 1 < b) (hx : 0 < x) :
    |((rounded b k x).1 : K) * (b : K) ^ ((rounded b k x).2 - k) - x| ≤
      (b : K) ^ (Int.log b x - k) / 2 := by
  have hpos : (0 : K) < b := by exact_mod_cast Nat.zero_lt_of_lt hb
  have hunit : (0 : K) < (b : K) ^ (Int.log b x - k) := zpow_pos hpos _
  have hx' : x = significand b x * b ^ k * (b : K) ^ (Int.log b x - k) := by
    have hlog : (b : K) ^ k * (b : K) ^ (Int.log b x - k) = (b : K) ^ Int.log b x := by
      rw [← zpow_natCast, ← zpow_add₀ hpos.ne', add_sub_cancel]
    rw [mul_assoc, hlog, significand, div_mul_cancel₀ _ (zpow_pos hpos _).ne']
  have hdiff : (digits b k x : K) * (b : K) ^ (Int.log b x - k) - x =
      (digits b k x - significand b x * b ^ k) * (b : K) ^ (Int.log b x - k) := by
    rw [sub_mul, ← hx']
  calc |((rounded b k x).1 : K) * (b : K) ^ ((rounded b k x).2 - k) - x|
      = |(digits b k x : K) - significand b x * b ^ k| * (b : K) ^ (Int.log b x - k) := by
        rw [rounded_value hb hx, hdiff, abs_mul, abs_of_pos hunit]
    _ ≤ 1 / 2 * (b : K) ^ (Int.log b x - k) :=
        mul_le_mul_of_nonneg_right (abs_digits_sub_le hb hx) hunit.le
    _ = (b : K) ^ (Int.log b x - k) / 2 := by ring

end Scientific
