import Mathlib.Data.Int.Log
import Mathlib.Data.Rat.Floor
import MotionFirmware.Foundation.RoundedFloat

/-!
# Single precision

The rounding function of the binary32 format, to nearest with ties to even, with gradual underflow
and overflow to infinity, as an instance of `Rounding`.  It is computable, so that an operation on
concrete operands can be evaluated.
-/

namespace Binary32

/-- Rounding a rational to an integer, ties to even. -/
def nearestEven (x : ℚ) : ℤ :=
  if x - ⌊x⌋ < 1 / 2 then ⌊x⌋
  else if 1 / 2 < x - ⌊x⌋ then ⌊x⌋ + 1
  else if ⌊x⌋ % 2 = 0 then ⌊x⌋ else ⌊x⌋ + 1

/-- Rounding to an integer is off by at most one half. -/
lemma abs_nearestEven_sub_le (x : ℚ) : |(nearestEven x : ℚ) - x| ≤ 1 / 2 := by
  have hlo := Int.floor_le x
  have hhi := Int.lt_floor_add_one x
  unfold nearestEven
  split_ifs with h1 h2 h3
  · rw [abs_le]; constructor <;> linarith
  · rw [abs_le]; push_cast; constructor <;> linarith
  · rw [abs_le]; constructor <;> linarith
  · rw [abs_le]; push_cast; constructor <;> linarith

/-- Integers are not changed. -/
@[simp] lemma nearestEven_intCast (n : ℤ) : nearestEven n = n := by
  simp [nearestEven]

/-- Rounding to a multiple of a power of two is off by at most half of it. -/
lemma abs_nearestEven_mul_sub_le (q : ℚ) (e : ℤ) :
    |(nearestEven (q / 2 ^ e) : ℚ) * 2 ^ e - q| ≤ 2 ^ e / 2 := by
  have hpos : (0 : ℚ) < 2 ^ e := zpow_pos (by norm_num) _
  have hq : q = q / 2 ^ e * 2 ^ e := by field_simp
  have hdiff : (nearestEven (q / 2 ^ e) : ℚ) * 2 ^ e - q =
      (nearestEven (q / 2 ^ e) - q / 2 ^ e) * 2 ^ e := by
    rw [sub_mul, ← hq]
  rw [hdiff, abs_mul, abs_of_pos hpos]
  have := mul_le_mul_of_nonneg_right (abs_nearestEven_sub_le (q / 2 ^ e)) hpos.le
  linarith

/-- An integer is a multiple of every power of two that is not above one. -/
lemma nearestEven_mul_intCast (n : ℤ) {e : ℤ} (he : e ≤ 0) :
    (nearestEven ((n : ℚ) / 2 ^ e) : ℚ) * 2 ^ e = n := by
  obtain ⟨k, rfl⟩ : ∃ k : ℕ, e = -(k : ℤ) := ⟨(-e).toNat, by omega⟩
  have hscaled : (n : ℚ) / 2 ^ (-(k : ℤ)) = ((n * 2 ^ k : ℤ) : ℚ) := by
    rw [zpow_neg, zpow_natCast, div_inv_eq_mul]
    push_cast
    ring
  rw [hscaled, nearestEven_intCast, ← hscaled]
  field_simp

/-- The binary logarithm of an integer of less than 24 bits. -/
lemma log_intCast_le {n : ℤ} (hn : n ≠ 0) (hlt : |n| < 2 ^ 24) : Int.log 2 |(n : ℚ)| ≤ 23 := by
  have hpos : (0 : ℚ) < |(n : ℚ)| := by positivity
  by_contra hgt
  have hle : (2 : ℚ) ^ Int.log 2 |(n : ℚ)| ≤ |(n : ℚ)| := by
    exact_mod_cast Int.zpow_log_le_self (b := 2) (by norm_num) hpos
  have hmono : (2 : ℚ) ^ (24 : ℤ) ≤ 2 ^ Int.log 2 |(n : ℚ)| :=
    zpow_le_zpow_right₀ (by norm_num) (by omega)
  have hcast : |(n : ℚ)| < 2 ^ 24 := by exact_mod_cast hlt
  have hval : (2 : ℚ) ^ (24 : ℤ) = 2 ^ 24 := by norm_num
  linarith

/-- The exponent of the last place of a nonzero rational, not below that of the subnormals. -/
def lastPlace (q : ℚ) : ℤ := max (Int.log 2 |q| - 23) (-149)

/-- The rational value on the grid of the format, before overflow is considered. -/
def onGrid (q : ℚ) : ℚ := nearestEven (q / 2 ^ lastPlace q) * 2 ^ lastPlace q

/-- Rounding to binary32. -/
def round (q : ℚ) : FloatValue :=
  if q = 0 then .finite 0
  else if 2 ^ 128 ≤ onGrid q then .posInf
  else if onGrid q ≤ -2 ^ 128 then .negInf
  else .finite (onGrid q)

/-- The grid value is off by at most half a unit in the last place. -/
lemma abs_onGrid_sub_le (q : ℚ) : |onGrid q - q| ≤ 2 ^ lastPlace q / 2 :=
  abs_nearestEven_mul_sub_le q (lastPlace q)

/-- A value below the overflow threshold is rounded to the grid. -/
lemma round_eq_finite {q : ℚ} (hq : q ≠ 0) (h : |onGrid q| < 2 ^ 128) :
    round q = .finite (onGrid q) := by
  obtain ⟨hl, hu⟩ := abs_lt.mp h
  unfold round
  rw [if_neg hq, if_neg (not_le.mpr hu), if_neg (not_le.mpr hl)]

/-- Away from underflow, a unit in the last place is at most one part in `2 ^ 23`. -/
lemma two_zpow_lastPlace_le {q : ℚ} (hq : 1 / 2 ^ 100 ≤ |q|) :
    (2 : ℚ) ^ lastPlace q ≤ |q| / 2 ^ 23 := by
  have hpos : 0 < |q| := lt_of_lt_of_le (by norm_num) hq
  have hlog : (2 : ℚ) ^ Int.log 2 |q| ≤ |q| := by
    exact_mod_cast Int.zpow_log_le_self (b := 2) (by norm_num) hpos
  have hmin : -101 < Int.log 2 |q| := by
    by_contra hle
    have hlt : |q| < (2 : ℚ) ^ (Int.log 2 |q| + 1) := by
      exact_mod_cast Int.lt_zpow_succ_log_self (b := 2) (by norm_num) |q|
    have hmono : (2 : ℚ) ^ (Int.log 2 |q| + 1) ≤ 2 ^ (-100 : ℤ) :=
      zpow_le_zpow_right₀ (by norm_num) (by omega)
    have hval : (2 : ℚ) ^ (-100 : ℤ) = 1 / 2 ^ 100 := by norm_num
    exact absurd (hlt.trans_le (hmono.trans_eq hval)) (not_lt.mpr hq)
  have hplace : lastPlace q = Int.log 2 |q| - 23 := max_eq_left (by omega)
  rw [hplace, zpow_sub₀ (by norm_num : (2 : ℚ) ≠ 0)]
  have h23 : (2 : ℚ) ^ (23 : ℤ) = 2 ^ 23 := by norm_num
  rw [h23]
  exact div_le_div_of_nonneg_right hlog (by norm_num)

/-- Away from underflow and overflow, rounding has a small relative error. -/
lemma round_near (q : ℚ) (hlo : 1 / 2 ^ 100 ≤ |q|) (hhi : |q| ≤ 2 ^ 100) :
    ∃ r, round q = .finite r ∧ |r - q| ≤ |q| / 2 ^ 23 := by
  have hpos : 0 < |q| := lt_of_lt_of_le (by norm_num) hlo
  have hq : q ≠ 0 := abs_pos.mp hpos
  have hlast := two_zpow_lastPlace_le hlo
  have herr : |onGrid q - q| ≤ |q| / 2 ^ 23 := by
    have := abs_onGrid_sub_le q
    have : 0 ≤ (2 : ℚ) ^ lastPlace q := zpow_nonneg (by norm_num) _
    linarith
  refine ⟨onGrid q, round_eq_finite hq ?_, herr⟩
  have htri := abs_sub_abs_le_abs_sub (onGrid q) q
  have hsmall : |q| / 2 ^ 23 ≤ |q| := div_le_self hpos.le (by norm_num)
  calc |onGrid q| ≤ 2 ^ 100 + 2 ^ 100 := by linarith
    _ < 2 ^ 128 := by norm_num

/-- Integers of less than 24 bits lie on the grid. -/
lemma onGrid_intCast {n : ℤ} (hn : n ≠ 0) (hlt : |n| < 2 ^ 24) : onGrid (n : ℚ) = n := by
  have hlog := log_intCast_le hn hlt
  exact nearestEven_mul_intCast n (max_le (by omega) (by norm_num))

/-- Integers of less than 24 bits are represented exactly. -/
lemma round_intCast (n : ℤ) (hn : |n| < 2 ^ 24) : round (n : ℚ) = .finite n := by
  rcases eq_or_ne n 0 with rfl | hne
  · simp [round]
  · have hgrid := onGrid_intCast hne hn
    have hq : (n : ℚ) ≠ 0 := by exact_mod_cast hne
    rw [round_eq_finite hq, hgrid]
    rw [hgrid]
    have hcast : |(n : ℚ)| < 2 ^ 24 := by exact_mod_cast hn
    calc |(n : ℚ)| < 2 ^ 24 := hcast
      _ < 2 ^ 128 := by norm_num

/-- The rounding of binary32. -/
abbrev rounding : Rounding where
  round := round
  round_intCast := round_intCast
  round_near := round_near

/-- One tenth of a single-precision value is what the encoding says. -/
example : round (1 / 10) = .finite (13421773 / 2 ^ 27) := by decide +kernel

end Binary32
