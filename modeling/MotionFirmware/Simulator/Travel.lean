import Mathlib.Algebra.Order.Field.Basic
import Mathlib.Algebra.Order.Round
import Mathlib.Algebra.Order.Group.Pointwise.Interval
import Mathlib.Tactic.Linarith
import Mathlib.Tactic.Ring

/-!
# A carriage between two ends of travel

A carriage is driven by a duty and slowed down by a damping in proportion to its velocity.  Its
speed is limited, it can be held in place, and at either end of its travel it stops.  The state of
a carriage cannot leave the travel or exceed the speed limit: these facts are part of it, and a step
is a function on such states.  Without drive the damping cannot turn the velocity around, because a
single step takes away at most all of it.
-/

namespace Travel

variable {K : Type*} [Field K] [LinearOrder K] [IsStrictOrderedRing K]

/-- The parameters of an axis. -/
structure Track (K : Type*) [Field K] [LinearOrder K] where
  gain : K
  damping : K
  maxVelocity : K
  low : K
  high : K
  /-- The duration of a step. -/
  dt : K
  damping_nonneg : 0 ≤ damping
  dt_nonneg : 0 ≤ dt
  /-- The damping of one step takes away at most the whole velocity. -/
  damping_mul_dt_le : damping * dt ≤ 1
  maxVelocity_nonneg : 0 ≤ maxVelocity
  low_lt_high : low < high

/-- The state of a carriage on an axis. -/
@[ext] structure Carriage (a : Track K) where
  position : K
  velocity : K
  low_le : a.low ≤ position
  le_high : position ≤ a.high
  abs_velocity_le : |velocity| ≤ a.maxVelocity
  /-- At the lower end the carriage does not move further down. -/
  at_low : position = a.low → 0 ≤ velocity
  /-- At the upper end the carriage does not move further up. -/
  at_high : position = a.high → velocity ≤ 0

namespace Track

variable (a : Track K)

/-- The velocity after a step of drive and damping. -/
def accelerate (duty v : K) : K := v + (a.gain * duty - a.damping * v) * a.dt

/-- The velocity within the speed limit. -/
def limit (v : K) : K := max (-a.maxVelocity) (min a.maxVelocity v)

/-- The velocity that is left at a position outside of the travel or at its ends. -/
def stop (p v : K) : K := if p ≤ a.low then max 0 v else if a.high ≤ p then min 0 v else v

variable {a} {p v w : K}

lemma abs_limit_le : |a.limit v| ≤ a.maxVelocity := by
  have hmax := a.maxVelocity_nonneg
  refine abs_le.mpr ⟨le_max_left _ _, max_le ?_ (min_le_left _ _)⟩
  linarith

omit [IsStrictOrderedRing K] in
/-- Stopping leaves a part of the velocity. -/
lemma stop_mem : a.stop p v ∈ Set.uIcc 0 v := by
  unfold stop
  rw [Set.mem_uIcc]
  split_ifs
  · rcases le_total 0 v with hv | hv
    · exact Or.inl ⟨le_max_left _ _, max_le hv le_rfl⟩
    · exact Or.inr ⟨le_max_right _ _, max_le le_rfl hv⟩
  · rcases le_total 0 v with hv | hv
    · exact Or.inl ⟨le_min le_rfl hv, min_le_right _ _⟩
    · exact Or.inr ⟨le_min hv le_rfl, min_le_left _ _⟩
  · rcases le_total 0 v with hv | hv
    · exact Or.inl ⟨hv, le_rfl⟩
    · exact Or.inr ⟨le_rfl, hv⟩

/-- The limit leaves a part of the velocity. -/
lemma limit_mem : a.limit v ∈ Set.uIcc 0 v := by
  have hmax := a.maxVelocity_nonneg
  unfold limit
  rw [Set.mem_uIcc]
  rcases le_total 0 v with hv | hv
  · have hmin : 0 ≤ min a.maxVelocity v := le_min hmax hv
    exact Or.inl ⟨hmin.trans (le_max_right _ _), max_le (by linarith) (min_le_right _ _)⟩
  · rw [min_eq_right (hv.trans hmax)]
    exact Or.inr ⟨le_max_right _ _, max_le (by linarith) hv⟩

/-- Without drive the damping leaves a part of the velocity. -/
lemma accelerate_zero_mem : a.accelerate 0 v ∈ Set.uIcc 0 v := by
  have hfactor : a.accelerate 0 v = v * (1 - a.damping * a.dt) := by
    unfold accelerate
    ring
  have hnonneg := mul_nonneg a.damping_nonneg a.dt_nonneg
  have hle := a.damping_mul_dt_le
  rw [hfactor, Set.mem_uIcc]
  rcases le_total 0 v with hv | hv
  · refine Or.inl ⟨mul_nonneg hv (by linarith), mul_le_of_le_one_right hv (by linarith)⟩
  · refine Or.inr ⟨le_mul_of_le_one_right hv (by linarith), ?_⟩
    exact mul_nonpos_of_nonpos_of_nonneg hv (by linarith)

omit [IsStrictOrderedRing K] in
/-- A part of a part is a part. -/
lemma part_trans (hvw : w ∈ Set.uIcc 0 v) (hpv : p ∈ Set.uIcc 0 w) : p ∈ Set.uIcc 0 v :=
  Set.uIcc_subset_uIcc Set.left_mem_uIcc hvw hpv

/-- A part of a velocity is not faster. -/
lemma abs_le_of_part (h : w ∈ Set.uIcc 0 v) : |w| ≤ |v| := by
  simpa using Set.abs_sub_left_of_mem_uIcc h

variable (a)

/-- The carriage at a position that may lie outside of the travel. -/
def settle (p v : K) (hv : |v| ≤ a.maxVelocity) : Carriage a where
  position := max a.low (min a.high p)
  velocity := a.stop p v
  low_le := le_max_left _ _
  le_high := max_le a.low_lt_high.le (min_le_left _ _)
  abs_velocity_le := (abs_le_of_part stop_mem).trans hv
  at_low h := by
    have hmin : min a.high p ≤ a.low := (le_max_right _ _).trans h.le
    have hlow : p ≤ a.low := (min_le_iff.mp hmin).resolve_left (not_le.mpr a.low_lt_high)
    rw [stop, if_pos hlow]
    exact le_max_left _ _
  at_high h := by
    have hnot : ¬ p ≤ a.low := by
      intro hle
      rw [max_eq_left ((min_le_right _ _).trans hle)] at h
      exact absurd h a.low_lt_high.ne
    have hhigh : a.high ≤ p := by
      by_contra hlt
      rw [min_eq_right (not_le.mp hlt).le, max_eq_right (not_le.mp hnot).le] at h
      exact hlt h.ge
    rw [stop, if_neg hnot, if_pos hhigh]
    exact min_le_left _ _

/-- One step with a duty, of a carriage that may be held. -/
def step (duty : K) (stalled : Bool) (s : Carriage a) : Carriage a :=
  let v := a.limit (a.accelerate duty s.velocity)
  if stalled then a.settle s.position 0 (by simpa using a.maxVelocity_nonneg)
  else a.settle (s.position + v * a.dt) v abs_limit_le

variable {a}

/-- **Coasting.**  A step without drive leaves a part of the velocity. -/
theorem step_zero_velocity_mem (stalled : Bool) (s : Carriage a) :
    (a.step 0 stalled s).velocity ∈ Set.uIcc 0 s.velocity := by
  cases stalled with
  | true =>
    have hheld : (a.step 0 true s).velocity ∈ Set.uIcc 0 (0 : K) := stop_mem
    exact part_trans Set.left_mem_uIcc hheld
  | false =>
    have hfree : (a.step 0 false s).velocity ∈
        Set.uIcc 0 (a.limit (a.accelerate 0 s.velocity)) := stop_mem
    exact part_trans (part_trans accelerate_zero_mem limit_mem) hfree

end Track

/-! ### Counts -/

section Counts

variable [FloorRing K] {x : K} {m n : ℤ}

/-- The nearest integer, with halves away from zero. -/
def nearest (x : K) : ℤ := if 0 ≤ x then round x else -round (-x)

lemma le_round (h : (m : K) ≤ x) : m ≤ round x := by
  have hnear := sub_half_lt_round x
  have hlt : ((m - 1 : ℤ) : K) < (round x : ℤ) := by
    push_cast
    linarith
  have := Int.cast_lt.mp hlt
  omega

lemma round_le_of_le (h : x ≤ n) : round x ≤ n := by
  have hnear := round_le_add_half x
  have hlt : ((round x : ℤ) : K) < ((n + 1 : ℤ) : K) := by
    push_cast
    linarith
  have := Int.cast_lt.mp hlt
  omega

lemma le_nearest (h : (m : K) ≤ x) : m ≤ nearest x := by
  have hneg : -x ≤ ((-m : ℤ) : K) := by
    push_cast
    linarith
  have hround := round_le_of_le hneg
  unfold nearest
  split_ifs
  · exact le_round h
  · omega

lemma nearest_le (h : x ≤ n) : nearest x ≤ n := by
  have hneg : ((-n : ℤ) : K) ≤ -x := by
    push_cast
    linarith
  have hround := le_round hneg
  unfold nearest
  split_ifs
  · exact round_le_of_le h
  · omega

/-- The counts on the travel lie between the bounds of its ends. -/
lemma nearest_mem {a : Track K} (s : Carriage a) {scale : K} (hscale : 0 ≤ scale)
    (hlow : (m : K) ≤ a.low * scale) (hhigh : a.high * scale ≤ n) :
    m ≤ nearest (s.position * scale) ∧ nearest (s.position * scale) ≤ n :=
  ⟨le_nearest (hlow.trans (mul_le_mul_of_nonneg_right s.low_le hscale)),
    nearest_le ((mul_le_mul_of_nonneg_right s.le_high hscale).trans hhigh)⟩

end Counts

end Travel
