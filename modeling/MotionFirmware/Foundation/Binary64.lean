import MotionFirmware.Foundation.Binary32

/-!
# Double precision

The values and the rounding of `double`.  The class `DoubleRounding` adds to the laws of `Rounding`
the accuracy of a 53-bit significand down to the smallest subnormal; every rounding mode of the
binary64 format satisfies it.  `Binary64.rounding` is the instance that rounds to nearest with ties
to even.
-/

/-- A rounding function for a format with a 53-bit significand and gradual underflow. -/
class DoubleRounding extends Rounding where
  /-- Away from overflow the result is off by less than a unit in the last place. -/
  round_double : ∀ q : ℚ, |q| ≤ 2 ^ (1023 : ℤ) →
    ∃ r, round q = .finite r ∧ |r - q| ≤ max (|q| / 2 ^ 52) (2 ^ (-1074 : ℤ))

/-- A value of the type `double`. -/
structure Double where
  value : FloatValue
  /-- A nonzero finite value lies between the smallest subnormal and the largest number. -/
  range : ∀ q, value = .finite q → q ≠ 0 → 2 ^ (-1074 : ℤ) ≤ |q| ∧ |q| < 2 ^ (1024 : ℤ)

/-- A value of the type `float`. -/
structure Single where
  value : FloatValue
  /-- A nonzero finite value lies between the smallest subnormal and the largest number. -/
  range : ∀ q, value = .finite q → q ≠ 0 → 2 ^ (-149 : ℤ) ≤ |q| ∧ |q| < 2 ^ (128 : ℤ)

/-- The conversion to `double`, which is exact. -/
def Single.toDouble (x : Single) : Double where
  value := x.value
  range q hx hq := by
    obtain ⟨hlow, hhigh⟩ := x.range q hx hq
    have hsmall : (2 : ℚ) ^ (-1074 : ℤ) ≤ 2 ^ (-149 : ℤ) :=
      zpow_le_zpow_right₀ (by norm_num) (by norm_num)
    have hlarge : (2 : ℚ) ^ (128 : ℤ) ≤ 2 ^ (1024 : ℤ) :=
      zpow_le_zpow_right₀ (by norm_num) (by norm_num)
    exact ⟨hsmall.trans hlow, hhigh.trans_le hlarge⟩

namespace Binary64

open Binary32

/-- The exponent of the last place of a nonzero rational, not below that of the subnormals. -/
def lastPlace (q : ℚ) : ℤ := max (Int.log 2 |q| - 52) (-1074)

/-- The rational value on the grid of the format, before overflow is considered. -/
def onGrid (q : ℚ) : ℚ := nearestEven (q / 2 ^ lastPlace q) * 2 ^ lastPlace q

/-- Rounding to binary64. -/
def round (q : ℚ) : FloatValue :=
  if q = 0 then .finite 0
  else if 2 ^ (1024 : ℤ) ≤ onGrid q then .posInf
  else if onGrid q ≤ -2 ^ (1024 : ℤ) then .negInf
  else .finite (onGrid q)

/-- A unit in the last place is at most one part in `2 ^ 52`, or the smallest subnormal. -/
lemma two_zpow_lastPlace_le {q : ℚ} (hq : q ≠ 0) :
    (2 : ℚ) ^ lastPlace q ≤ max (|q| / 2 ^ 52) (2 ^ (-1074 : ℤ)) := by
  have hlog : (2 : ℚ) ^ Int.log 2 |q| ≤ |q| := by
    exact_mod_cast Int.zpow_log_le_self (b := 2) (by norm_num) (abs_pos.mpr hq)
  rcases le_total (-1074) (Int.log 2 |q| - 52) with hle | hle
  · have h52 : (2 : ℚ) ^ (52 : ℤ) = 2 ^ 52 := by norm_num
    rw [lastPlace, max_eq_left hle, zpow_sub₀ (by norm_num : (2 : ℚ) ≠ 0), h52]
    exact le_max_of_le_left (div_le_div_of_nonneg_right hlog (by norm_num))
  · rw [lastPlace, max_eq_right hle]
    exact le_max_right _ _

/-- A value below the overflow threshold is rounded to the grid. -/
lemma round_eq_finite {q : ℚ} (hq : q ≠ 0) (h : |onGrid q| < 2 ^ (1024 : ℤ)) :
    round q = .finite (onGrid q) := by
  obtain ⟨hl, hu⟩ := abs_lt.mp h
  unfold round
  rw [if_neg hq, if_neg (not_le.mpr hu), if_neg (not_le.mpr hl)]

/-- The error of a value away from overflow is far below the overflow threshold. -/
lemma max_error_lt {q : ℚ} (hq : |q| ≤ 2 ^ (1023 : ℤ)) :
    max (|q| / 2 ^ 52) (2 ^ (-1074 : ℤ)) < (2 : ℚ) ^ (1023 : ℤ) := by
  have hpos : (0 : ℚ) < 2 ^ (1023 : ℤ) := zpow_pos (by norm_num) _
  refine max_lt ?_ (zpow_lt_zpow_right₀ (by norm_num) (by norm_num))
  calc |q| / 2 ^ 52 ≤ 2 ^ (1023 : ℤ) / 2 ^ 52 :=
        div_le_div_of_nonneg_right hq (by norm_num)
    _ < 2 ^ (1023 : ℤ) := div_lt_self hpos (by norm_num)

/-- Away from overflow, the result is off by less than a unit in the last place. -/
lemma round_double (q : ℚ) (hq : |q| ≤ 2 ^ (1023 : ℤ)) :
    ∃ r, round q = .finite r ∧ |r - q| ≤ max (|q| / 2 ^ 52) (2 ^ (-1074 : ℤ)) := by
  rcases eq_or_ne q 0 with rfl | hne
  · exact ⟨0, by simp [round], by simp⟩
  · have herr : |onGrid q - q| ≤ max (|q| / 2 ^ 52) (2 ^ (-1074 : ℤ)) :=
      calc |onGrid q - q| ≤ 2 ^ lastPlace q / 2 := abs_nearestEven_mul_sub_le q (lastPlace q)
        _ ≤ 2 ^ lastPlace q := half_le_self (zpow_nonneg (by norm_num) _)
        _ ≤ max (|q| / 2 ^ 52) (2 ^ (-1074 : ℤ)) := two_zpow_lastPlace_le hne
    refine ⟨onGrid q, round_eq_finite hne ?_, herr⟩
    calc |onGrid q| ≤ |onGrid q - q| + |q| := by
          have := abs_sub_abs_le_abs_sub (onGrid q) q
          linarith only [this]
      _ < 2 ^ (1023 : ℤ) + 2 ^ (1023 : ℤ) :=
          add_lt_add_of_lt_of_le (herr.trans_lt (max_error_lt hq)) hq
      _ = 2 ^ (1024 : ℤ) := by
          rw [← two_mul, ← zpow_one_add₀ (by norm_num)]
          norm_num only

/-- Integers of less than 24 bits are represented exactly. -/
lemma round_intCast (n : ℤ) (hn : |n| < 2 ^ 24) : round (n : ℚ) = .finite n := by
  rcases eq_or_ne n 0 with rfl | hne
  · simp [round]
  · have hlog := log_intCast_le hne hn
    have hgrid : onGrid (n : ℚ) = n :=
      nearestEven_mul_intCast n (max_le (by omega) (by norm_num))
    rw [round_eq_finite (by exact_mod_cast hne), hgrid]
    rw [hgrid]
    have hcast : |(n : ℚ)| < 2 ^ 24 := by exact_mod_cast hn
    have hmono : (2 : ℚ) ^ (24 : ℤ) ≤ 2 ^ (1024 : ℤ) :=
      zpow_le_zpow_right₀ (by norm_num) (by norm_num)
    calc |(n : ℚ)| < 2 ^ 24 := hcast
      _ = (2 : ℚ) ^ (24 : ℤ) := by norm_num
      _ ≤ 2 ^ (1024 : ℤ) := hmono

/-- Away from underflow and overflow, rounding has a small relative error. -/
lemma round_near (q : ℚ) (hlo : 1 / 2 ^ 100 ≤ |q|) (hhi : |q| ≤ 2 ^ 100) :
    ∃ r, round q = .finite r ∧ |r - q| ≤ |q| / 2 ^ 23 := by
  have htop : |q| ≤ 2 ^ (1023 : ℤ) :=
    calc |q| ≤ 2 ^ 100 := hhi
      _ = (2 : ℚ) ^ (100 : ℤ) := by norm_num
      _ ≤ 2 ^ (1023 : ℤ) := zpow_le_zpow_right₀ (by norm_num) (by norm_num)
  obtain ⟨r, hr, hle⟩ := round_double q htop
  refine ⟨r, hr, hle.trans (max_le ?_ ?_)⟩
  · exact div_le_div_of_nonneg_left (by positivity) (by norm_num) (by norm_num)
  · calc (2 : ℚ) ^ (-1074 : ℤ) ≤ 2 ^ (-123 : ℤ) :=
          zpow_le_zpow_right₀ (by norm_num) (by norm_num)
      _ = 1 / 2 ^ 100 / 2 ^ 23 := by norm_num
      _ ≤ |q| / 2 ^ 23 := div_le_div_of_nonneg_right hlo (by norm_num)

/-- The rounding of binary64. -/
abbrev rounding : DoubleRounding where
  round := round
  round_intCast := round_intCast
  round_near := round_near
  round_double := round_double

/-- One tenth of a double-precision value is what the encoding says. -/
example : round (1 / 10) = .finite (3602879701896397 / 2 ^ 55) := by decide +kernel

end Binary64
