import Mathlib.Algebra.Ring.Nat
import Mathlib.Tactic.Common

/-!
# A 32-bit counter of a true time

True time is a natural number and a reading is its value modulo `2 ^ 32`.  The difference of two
readings is the true difference modulo `2 ^ 32`: it is never larger than the true difference, and
equal to it while less than one full wrap has passed.
-/

namespace WrappingClock

/-- The reading of the counter at a true time. -/
def reading (t : ℕ) : UInt32 := UInt32.ofNat t

/-- A reading is the true time modulo `2 ^ 32`. -/
@[simp] lemma toNat_reading (t : ℕ) : (reading t).toNat = t % 2 ^ 32 := by
  simp [reading]

/-- The difference of two readings is the true difference modulo `2 ^ 32`. -/
lemma toNat_reading_sub {s t : ℕ} (hst : s ≤ t) :
    (reading t - reading s).toNat = (t - s) % 2 ^ 32 := by
  rw [UInt32.toNat_sub, toNat_reading, toNat_reading]
  omega

/-- Elapsed time computed from two readings never exceeds the true elapsed time. -/
lemma toNat_reading_sub_le {s t : ℕ} (hst : s ≤ t) : (reading t - reading s).toNat ≤ t - s := by
  rw [toNat_reading_sub hst]
  exact Nat.mod_le _ _

/-- A bound met by the elapsed time computed from two readings is met by the true elapsed time. -/
lemma le_of_le_reading_sub {s t : ℕ} (hst : s ≤ t) {d : UInt32} (h : d ≤ reading t - reading s) :
    s + d.toNat ≤ t := by
  have hle : d.toNat ≤ (reading t - reading s).toNat := UInt32.le_iff_toNat_le.mp h
  have := toNat_reading_sub_le hst
  omega

/-- The reading of a sum. -/
lemma reading_add (s t : ℕ) : reading (s + t) = reading s + reading t := by
  rw [← UInt32.toNat_inj, UInt32.toNat_add, toNat_reading, toNat_reading, toNat_reading]
  exact Nat.add_mod s t _

/-- The counter shows a value once it has advanced by the difference from its reading. -/
lemma reading_add_sub (t : ℕ) (a : UInt32) : reading (t + (a - reading t).toNat) = a := by
  rw [reading_add, reading, reading, UInt32.ofNat_toNat]
  grind

/-- Two readings that are shifted by the same amount keep their difference. -/
lemma add_sub_add_right (a b c : UInt32) : a + c - (b + c) = a - b := by grind

end WrappingClock
