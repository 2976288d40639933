import MotionFirmware.Foundation.ExactArithmetic
import MotionFirmware.Foundation.Machine
import MotionFirmware.Simulator.Plant

/-!
# The plant in exact arithmetic

In exact arithmetic the checks of `valid_config` are what makes the plant an axis of `Travel`, and a
step of the plant is a step of its carriage.  Position and velocity keep their bounds because every
state of a carriage does; the raw count and the limit switches are derived from the position.
-/

namespace MotionFirmware

attribute [local instance] ExactArithmetic.rounding

open ExactArithmetic Travel

variable {c : PlantConfig} {a : Track ℚ} {scale : ℚ} {w : Simulation} {state : PlantState}

/-! ### The configuration -/

/-- The configuration describes the axis and an encoder with so many counts per unit. -/
structure PlantConfig.Describes (c : PlantConfig) (a : Track ℚ) (scale : ℚ) : Prop where
  motorGain : c.motorGain = .finite a.gain
  damping : c.damping = .finite a.damping
  maxVelocity : c.maxVelocity = .finite a.maxVelocity
  minPosition : c.minPosition = .finite a.low
  maxPosition : c.maxPosition = .finite a.high
  dt : c.dt = .finite a.dt
  encoderCountsPerUnit : c.encoderCountsPerUnit = .finite scale
  scale_nonneg : 0 ≤ scale
  low : ((-2147483648 : ℤ) : ℚ) ≤ a.low * scale
  high : a.high * scale ≤ (2147483647 : ℤ)

/-- The duration of a step. -/
lemma dt_eq (c : PlantConfig) : c.dt = .finite ((c.stepMs.toNat : ℚ) / 1000) := by
  rw [PlantConfig.dt, ofInt_eq, finite_div_finite (by norm_num)]
  norm_num

/-- An accepted configuration describes an axis. -/
lemma exists_axis (h : validConfig c = true) : ∃ a scale, c.Describes a scale := by
  unfold validConfig at h
  split_ifs at h with hranges
  simp only [Bool.or_eq_true, not_or, Bool.not_eq_true', Bool.not_eq_false, decide_eq_true_eq,
    beq_iff_eq] at hranges
  obtain ⟨⟨⟨⟨⟨⟨⟨⟨⟨⟨⟨⟨hgain, -⟩, hdamping⟩, hdamping0⟩, hvelocity⟩, hvelocity0⟩, hmin⟩, hmax⟩,
    hmin_max⟩, hscale⟩, hscale0⟩, -⟩, -⟩ := hranges
  obtain ⟨gain, hgain⟩ := FloatValue.isFinite_iff.mp hgain
  obtain ⟨damping, hdamping⟩ := FloatValue.isFinite_iff.mp hdamping
  obtain ⟨velocity, hvelocity⟩ := FloatValue.isFinite_iff.mp hvelocity
  obtain ⟨low, hlow⟩ := FloatValue.isFinite_iff.mp hmin
  obtain ⟨high, hhigh⟩ := FloatValue.isFinite_iff.mp hmax
  obtain ⟨scale, hcounts⟩ := FloatValue.isFinite_iff.mp hscale
  rw [hdamping, FloatValue.finite_lt_zero, not_lt] at hdamping0
  rw [hvelocity, FloatValue.zero_def, FloatValue.finite_le_finite, not_le] at hvelocity0
  rw [hlow, hhigh, FloatValue.finite_le_finite, not_le] at hmin_max
  rw [hcounts, FloatValue.zero_def, FloatValue.finite_le_finite, not_le] at hscale0
  simp only [hdamping, hlow, hhigh, hcounts, dt_eq, finite_mul_finite, FloatValue.finite_le_one,
    FloatValue.finite_le_finite, Bool.and_eq_true, decide_eq_true_eq] at h
  obtain ⟨⟨⟨⟨⟨⟨⟨⟨hdecay, -⟩, -⟩, -⟩, -⟩, -⟩, -⟩, hlowCount⟩, hhighCount⟩ := h
  refine ⟨⟨gain, damping, velocity, low, high, c.stepMs.toNat / 1000, hdamping0, by positivity,
    hdecay, hvelocity0.le, hmin_max⟩, scale, hgain, hdamping, hvelocity, hlow, hhigh, dt_eq c,
    hcounts, hscale0.le, ?_, ?_⟩
  · exact_mod_cast hlowCount
  · exact_mod_cast hhighCount

/-! ### The state -/

/-- The state of the plant shows the carriage. -/
structure PlantState.Shows (state : PlantState) (s : Carriage a) : Prop where
  position : state.position = .finite s.position
  velocity : state.velocity = .finite s.velocity

/-- The speed limit of the source. -/
lemma limit_eq (v : ℚ) :
    (if (if .finite a.maxVelocity < FloatValue.finite v then .finite a.maxVelocity else .finite v) <
        -FloatValue.finite a.maxVelocity then -.finite a.maxVelocity
      else if .finite a.maxVelocity < FloatValue.finite v then .finite a.maxVelocity
      else .finite v) = FloatValue.finite (a.limit v) := by
  have hmin : (if .finite a.maxVelocity < FloatValue.finite v then .finite a.maxVelocity
      else .finite v) = FloatValue.finite (min a.maxVelocity v) := by
    simp only [FloatValue.finite_lt_finite]
    split_ifs with h
    · rw [min_eq_left h.le]
    · rw [min_eq_right (not_lt.mp h)]
  rw [hmin, FloatValue.neg_finite, Track.limit]
  simp only [FloatValue.finite_lt_finite]
  split_ifs with h
  · rw [max_eq_left h.le]
  · rw [max_eq_right (not_lt.mp h)]

/-- Integration accelerates, limits and moves. -/
lemma integrate_eq (hc : c.Describes a scale) {s : Carriage a} (hs : state.Shows s) (duty : ℚ) :
    (state.integrate c (.finite duty)).velocity =
      .finite (a.limit (a.accelerate duty s.velocity)) ∧
    (state.integrate c (.finite duty)).position =
      .finite (s.position + a.limit (a.accelerate duty s.velocity) * a.dt) := by
  have haccelerate : state.velocity + (c.motorGain * .finite duty - c.damping * state.velocity) *
      c.dt = .finite (a.accelerate duty s.velocity) := by
    rw [hs.velocity, hc.motorGain, hc.damping, hc.dt, finite_mul_finite, finite_mul_finite,
      finite_sub_finite, finite_mul_finite, finite_add_finite, Track.accelerate]
  have hvelocity : (state.integrate c (.finite duty)).velocity =
      .finite (a.limit (a.accelerate duty s.velocity)) := by
    rw [PlantState.integrate, haccelerate, hc.maxVelocity]
    exact limit_eq _
  refine ⟨hvelocity, ?_⟩
  have hposition : (state.integrate c (.finite duty)).position =
      state.position + (state.integrate c (.finite duty)).velocity * c.dt := rfl
  rw [hposition, hvelocity, hs.position, hc.dt, finite_mul_finite, finite_add_finite]

/-- Bounding settles the carriage. -/
lemma bound_eq (hc : c.Describes a scale) {p v : ℚ} (hv : |v| ≤ a.maxVelocity)
    (hposition : state.position = .finite p) (hvelocity : state.velocity = .finite v) :
    (state.bound c).Shows (a.settle p v hv) := by
  have hrange := a.low_lt_high
  by_cases hlow : p ≤ a.low
  · -- the lower end; the position there is not at the upper end
    have hbound : state.bound c = { state with
        position := .finite a.low, velocity := if v < 0 then 0 else .finite v } := by
      simp [PlantState.bound, hposition, hvelocity, hc.minPosition, hc.maxPosition, hlow, hrange]
    rw [hbound]
    refine ⟨?_, ?_⟩
    · change FloatValue.finite a.low = .finite (max a.low (min a.high p))
      rw [max_eq_left ((min_le_right _ _).trans hlow)]
    · change (if v < 0 then 0 else .finite v) = FloatValue.finite (a.stop p v)
      rw [Track.stop, if_pos hlow]
      split_ifs with hneg
      · rw [max_eq_left hneg.le, FloatValue.zero_def]
      · rw [max_eq_right (not_lt.mp hneg)]
  by_cases hhigh : a.high ≤ p
  · have hbound : state.bound c = { state with
        position := .finite a.high, velocity := if 0 < v then 0 else .finite v } := by
      simp [PlantState.bound, hposition, hvelocity, hc.minPosition, hc.maxPosition, hlow, hhigh]
    rw [hbound]
    refine ⟨?_, ?_⟩
    · change FloatValue.finite a.high = .finite (max a.low (min a.high p))
      rw [min_eq_left hhigh, max_eq_right hrange.le]
    · change (if 0 < v then 0 else .finite v) = FloatValue.finite (a.stop p v)
      rw [Track.stop, if_neg hlow, if_pos hhigh]
      split_ifs with hpos
      · rw [min_eq_left hpos.le, FloatValue.zero_def]
      · rw [min_eq_right (not_lt.mp hpos)]
  · have hbound : state.bound c = state := by
      simp [PlantState.bound, hposition, hc.minPosition, hc.maxPosition, hlow, hhigh]
    rw [hbound]
    refine ⟨hposition.trans ?_, hvelocity.trans ?_⟩
    · change FloatValue.finite p = .finite (max a.low (min a.high p))
      rw [min_eq_right (not_le.mp hhigh).le, max_eq_right (not_le.mp hlow).le]
    · change FloatValue.finite v = .finite (a.stop p v)
      rw [Track.stop, if_neg hlow, if_neg hhigh]

/-- The state that `plant_step` computes before the peripherals are derived. -/
def PlantState.advance (c : PlantConfig) (appliedPwm : FloatValue) (stalled : Bool)
    (state : PlantState) : PlantState :=
  ((state.integrate c appliedPwm).stall stalled state.position).bound c

/-- **Refinement.**  The plant takes the step of its carriage. -/
theorem advance_shows (hc : c.Describes a scale) {s : Carriage a} (hs : state.Shows s) (duty : ℚ)
    (stalled : Bool) :
    (state.advance c (.finite duty) stalled).Shows (a.step duty stalled s) := by
  obtain ⟨hvelocity, hposition⟩ := integrate_eq hc hs duty
  cases stalled with
  | true => exact bound_eq (v := 0) hc (by simpa using a.maxVelocity_nonneg) hs.position rfl
  | false => exact bound_eq hc Track.abs_limit_le hposition hvelocity

/-! ### The peripherals -/

/-- What holds of the state of a plant: the position lies on the travel and the speed within its
limit, the plant does not move outwards at an end, the count is in range, and a limit switch is
active exactly at its end. -/
structure PlantState.Sound (c : PlantConfig) (state : PlantState) : Prop where
  min_le : c.minPosition ≤ state.position
  le_max : state.position ≤ c.maxPosition
  speed : state.velocity.abs ≤ c.maxVelocity
  at_min : state.position = c.minPosition → 0 ≤ state.velocity
  at_max : state.position = c.maxPosition → state.velocity ≤ 0
  count : ∃ n : ℤ, cRound (state.position * c.encoderCountsPerUnit) = .finite n ∧
    -2 ^ 31 ≤ n ∧ n < 2 ^ 31 ∧ state.rawEncoderCount.toInt = n
  negative : state.negativeLimit = true ↔ state.position = c.minPosition
  positive : state.positiveLimit = true ↔ state.position = c.maxPosition
  not_both : ¬ (state.negativeLimit = true ∧ state.positiveLimit = true)

/-- The cast of an integer in range. -/
lemma toInt_castInt32 {n : ℤ} (hlow : -2 ^ 31 ≤ n) (hhigh : n < 2 ^ 31) :
    (castInt32 (.finite n)).toInt = n := by
  have hwhole : (if (0 : ℚ) ≤ n then ⌊(n : ℚ)⌋ else ⌈(n : ℚ)⌉) = n := by
    rw [Int.floor_intCast, Int.ceil_intCast, ite_self]
  rw [castInt32, hwhole, Int32.toInt_ofInt_of_le hlow hhigh]

/-- Derived peripherals of a state that shows a carriage are sound. -/
lemma PlantState.Shows.sound {s : Carriage a} (hs : state.Shows s) (hc : c.Describes a scale)
    (hderived : derivePeripherals c state = state) : state.Sound c := by
  have hrange := a.low_lt_high
  have hnegative : state.negativeLimit = true ↔ s.position = a.low := by
    have hlimit : state.negativeLimit = decide (state.position ≤ c.minPosition) :=
      congrArg PlantState.negativeLimit hderived.symm
    rw [hlimit, decide_eq_true_iff, hs.position, hc.minPosition, FloatValue.finite_le_finite]
    exact ⟨fun h => le_antisymm h s.low_le, fun h => h.le⟩
  have hpositive : state.positiveLimit = true ↔ s.position = a.high := by
    have hlimit : state.positiveLimit = decide (c.maxPosition ≤ state.position) :=
      congrArg PlantState.positiveLimit hderived.symm
    rw [hlimit, decide_eq_true_iff, hs.position, hc.maxPosition, FloatValue.finite_le_finite]
    exact ⟨fun h => le_antisymm s.le_high h, fun h => h.ge⟩
  have hcount : cRound (state.position * c.encoderCountsPerUnit) =
      .finite (nearest (s.position * scale)) := by
    rw [hs.position, hc.encoderCountsPerUnit, finite_mul_finite, cRound]
  obtain ⟨hlow, hhigh⟩ := nearest_mem s hc.scale_nonneg hc.low hc.high
  have hraw : state.rawEncoderCount =
      castInt32 (cRound (state.position * c.encoderCountsPerUnit)) :=
    congrArg PlantState.rawEncoderCount hderived.symm
  constructor
  · rw [hc.minPosition, hs.position, FloatValue.finite_le_finite]
    exact s.low_le
  · rw [hc.maxPosition, hs.position, FloatValue.finite_le_finite]
    exact s.le_high
  · rw [hs.velocity, hc.maxVelocity, FloatValue.abs_finite, FloatValue.finite_le_finite]
    exact s.abs_velocity_le
  · rw [hs.position, hc.minPosition, hs.velocity, FloatValue.finite.injEq,
      FloatValue.zero_le_finite]
    exact s.at_low
  · rw [hs.position, hc.maxPosition, hs.velocity, FloatValue.finite.injEq, FloatValue.zero_def,
      FloatValue.finite_le_finite]
    exact s.at_high
  · refine ⟨nearest (s.position * scale), hcount, by omega, by omega, ?_⟩
    rw [hraw, hcount]
    exact toInt_castInt32 (by omega) (by omega)
  · rw [hnegative, hs.position, hc.minPosition, FloatValue.finite.injEq]
  · rw [hpositive, hs.position, hc.maxPosition, FloatValue.finite.injEq]
  · rw [hnegative, hpositive]
    rintro ⟨hlow, hhigh⟩
    exact hrange.ne (hlow.symm.trans hhigh)

/-- Publishing succeeds when the drivers are initialised, and touches nothing else. -/
lemma publish_ok (state : PlantState) (frozen : Bool) (hencoder : w.encoder.initialized = true)
    (hgpio : w.gpio.initialized = true) :
    (publish state frozen w).1 = true ∧ (publish state frozen w).2.plant = w.plant ∧
      (publish state frozen w).2.motor = w.motor ∧
      (publish state frozen w).2.encoder.initialized = true ∧
      (publish state frozen w).2.gpio.initialized = true := by
  cases frozen <;>
    simp [publish, EncoderHost.encoderGetCount, GpioHost.gpioReadInputs,
      EncoderHost.encoderHostSetCount, GpioHost.gpioHostSetNegativeLimit,
      GpioHost.gpioHostSetPositiveLimit, hencoder, hgpio]

/-! ### Runs -/

/-- The plant follows a carriage of the axis. -/
structure Simulation.Follows (w : Simulation) (c : PlantConfig) (a : Track ℚ) : Prop where
  initialized : w.plant.initialized = true
  config : w.plant.config = c
  encoder : w.encoder.initialized = true
  gpio : w.gpio.initialized = true
  output : ∃ q, w.motor.output = .finite q ∧ -1 ≤ q ∧ q ≤ 1
  state : ∃ s : Carriage a, w.plant.state.Shows s
  derived : derivePeripherals c w.plant.state = w.plant.state

/-- A position on the travel is a number. -/
lemma exists_position (hc : c.Describes a scale) {position : FloatValue}
    (hmin : c.minPosition ≤ position) (hmax : position ≤ c.maxPosition) :
    ∃ p, position = .finite p ∧ a.low ≤ p ∧ p ≤ a.high := by
  rw [hc.minPosition] at hmin
  rw [hc.maxPosition] at hmax
  cases position with
  | finite p =>
    exact ⟨p, rfl, FloatValue.finite_le_finite.mp hmin, FloatValue.finite_le_finite.mp hmax⟩
  | posInf => exact absurd hmax Bool.false_ne_true
  | negInf => exact absurd hmin Bool.false_ne_true
  | nan => exact absurd hmin Bool.false_ne_true

/-- Initialisation at a position on the travel succeeds, and the plant then follows a carriage. -/
lemma plantInit_ok (hvalid : validConfig c = true) (hc : c.Describes a scale)
    {position : FloatValue} (hmin : c.minPosition ≤ position) (hmax : position ≤ c.maxPosition)
    (hencoder : w.encoder.initialized = true) (hgpio : w.gpio.initialized = true) :
    (plantInit c position w).1 = true ∧ (plantInit c position w).2.Follows c a := by
  obtain ⟨p, rfl, hlow, hhigh⟩ := exists_position hc hmin hmax
  have hguard : (!validConfig c || !(FloatValue.finite p).isFinite ||
      decide (.finite p < c.minPosition) || decide (c.maxPosition < .finite p)) = false := by
    rw [hvalid, hc.minPosition, hc.maxPosition]
    simp [hlow, hhigh]
  obtain ⟨hok, hplant, hmotor, hencoder', hgpio'⟩ :=
    publish_ok (derivePeripherals c { position := .finite p }) false hencoder hgpio
  have hinit : plantInit c (.finite p) w =
      (true, { (publish (derivePeripherals c { position := .finite p }) false w).2 with
        motor :=
          motorDisable (publish (derivePeripherals c { position := .finite p }) false w).2.motor
        plant :=
          { config := c, state := derivePeripherals c { position := .finite p }
            initialized := true } }) := by
    unfold plantInit
    rw [hguard]
    simp [hok]
  rw [hinit]
  refine ⟨rfl, rfl, rfl, hencoder', hgpio', ⟨0, rfl, by norm_num, by norm_num⟩, ?_, rfl⟩
  have hspeed : |(0 : ℚ)| ≤ a.maxVelocity := by simpa using a.maxVelocity_nonneg
  exact ⟨⟨p, 0, hlow, hhigh, hspeed, fun _ => le_rfl, fun _ => le_rfl⟩, rfl, rfl⟩

/-- Initialisation elsewhere is refused and changes nothing. -/
lemma plantInit_refused (hc : c.Describes a scale) {position : FloatValue}
    (hrange : ¬ (c.minPosition ≤ position ∧ position ≤ c.maxPosition)) :
    plantInit c position w = (false, w) := by
  unfold plantInit
  rw [hc.minPosition, hc.maxPosition] at hrange ⊢
  cases position with
  | finite p =>
    rw [FloatValue.finite_le_finite, FloatValue.finite_le_finite, not_and_or, not_le,
      not_le] at hrange
    rw [if_pos (by rcases hrange with hlow | hhigh <;> simp [*])]
  | _ => rw [if_pos (by simp [FloatValue.isFinite])]

/-- The state that a successful step publishes. -/
def Simulation.next (w : Simulation) : PlantState :=
  let next := w.plant.state.advance w.plant.config w.motor.output w.plant.stalled
  derivePeripherals w.plant.config { next with steps := next.steps + 1 }

/-- A step succeeds until the counter of the steps is full; otherwise it changes nothing. -/
lemma plantStep_eq (h : w.Follows c a) :
    plantStep w =
      if w.plant.state.steps = 18446744073709551615 then (false, w)
      else (true, { (publish w.next w.plant.encoderFrozen w).2 with
        plant := { w.plant with state := w.next } }) := by
  obtain ⟨hok, hplant, -⟩ := publish_ok w.next w.plant.encoderFrozen h.encoder h.gpio
  unfold plantStep
  rw [h.initialized]
  split_ifs with hguard hsteps hsteps
  · rfl
  · simp [hsteps] at hguard
  · simp [hsteps] at hguard
  · change (if !(publish w.next w.plant.encoderFrozen w).1 then
      publish w.next w.plant.encoderFrozen w else (true,
        { (publish w.next w.plant.encoderFrozen w).2 with
          plant := { (publish w.next w.plant.encoderFrozen w).2.plant with state := w.next } })) = _
    rw [hok, hplant]
    rfl

/-- What a step does to the velocity: the carriage takes its step, or nothing happens. -/
lemma Simulation.Follows.step (h : w.Follows c a) (hc : c.Describes a scale) {s : Carriage a}
    (hs : w.plant.state.Shows s) {q : ℚ} (hq : w.motor.output = .finite q) :
    (plantStep w).2.Follows c a ∧
      ((plantStep w).2 = w ∨
        (plantStep w).2.plant.state.Shows (a.step q w.plant.stalled s)) := by
  obtain ⟨-, -, hmotor, hencoder, hgpio⟩ :=
    publish_ok w.next w.plant.encoderFrozen h.encoder h.gpio
  have hshows : w.next.Shows (a.step q w.plant.stalled s) := by
    have hnext := advance_shows hc hs q w.plant.stalled
    rw [← hq, ← h.config] at hnext
    exact ⟨hnext.position, hnext.velocity⟩
  rw [plantStep_eq h]
  split_ifs with hsteps
  · exact ⟨h, Or.inl rfl⟩
  · refine ⟨⟨h.initialized, h.config, hencoder, hgpio, ?_, ⟨_, hshows⟩, ?_⟩, Or.inr hshows⟩
    · rw [hmotor]
      exact h.output
    · rw [← h.config]
      rfl

/-- Every action keeps the plant on its carriage. -/
lemma Simulation.Follows.act (h : w.Follows c a) (hvalid : validConfig c = true)
    (hc : c.Describes a scale) (action : PlantAction) : (w.act action).Follows c a := by
  obtain ⟨s, hs⟩ := h.state
  obtain ⟨q, hq, -⟩ := id h.output
  cases action with
  | duty q hq => exact { h with output := ⟨q, rfl, hq⟩ }
  | stalled value => exact { h with }
  | encoderFrozen value => exact { h with }
  | reference count =>
    refine { h with encoder := ?_ }
    change (w.encoder.encoderSetReference count).2.initialized = true
    rw [EncoderHost.encoderSetReference, if_pos h.encoder]
    exact h.encoder
  | reset position =>
    change (plantReset position w).2.Follows c a
    rw [plantReset, h.initialized, h.config]
    by_cases hrange : c.minPosition ≤ position ∧ position ≤ c.maxPosition
    · exact (plantInit_ok hvalid hc hrange.1 hrange.2 h.encoder h.gpio).2
    · rw [plantInit_refused hc hrange]
      exact h
  | step => exact (h.step hc hs hq).1

/-- Every run keeps the plant on its carriage. -/
lemma Simulation.Follows.run (h : w.Follows c a) (hvalid : validConfig c = true)
    (hc : c.Describes a scale) (actions : List PlantAction) :
    (Machine.run Simulation.act w actions).Follows c a :=
  Machine.run_invariant_of_forall (I := fun v : Simulation => v.Follows c a)
    (fun action _ hv => hv.act hvalid hc action) h

/-- A step without drive neither speeds the plant up nor turns it around. -/
lemma Simulation.Follows.coast (h : w.Follows c a) (hc : c.Describes a scale)
    (hduty : w.motor.output = 0) :
    (plantStep w).2.plant.state.velocity.abs ≤ w.plant.state.velocity.abs ∧
      (0 ≤ w.plant.state.velocity → 0 ≤ (plantStep w).2.plant.state.velocity) ∧
      (w.plant.state.velocity ≤ 0 → (plantStep w).2.plant.state.velocity ≤ 0) := by
  obtain ⟨s, hs⟩ := h.state
  obtain ⟨-, hstep⟩ := h.step hc hs hduty
  obtain ⟨v, hv, hpart⟩ : ∃ v, (plantStep w).2.plant.state.velocity = .finite v ∧
      v ∈ Set.uIcc 0 s.velocity := by
    rcases hstep with hsame | hnext
    · rw [hsame]
      exact ⟨_, hs.velocity, Set.right_mem_uIcc⟩
    · exact ⟨_, hnext.velocity, Track.step_zero_velocity_mem _ s⟩
  rw [hv, hs.velocity, FloatValue.abs_finite, FloatValue.abs_finite, FloatValue.finite_le_finite,
    FloatValue.zero_le_finite, FloatValue.zero_le_finite, FloatValue.zero_def,
    FloatValue.finite_le_finite, FloatValue.finite_le_finite]
  refine ⟨Track.abs_le_of_part hpart, ?_, ?_⟩
  · intro hpos
    rw [Set.uIcc_of_le hpos] at hpart
    exact hpart.1
  · intro hneg
    rw [Set.uIcc_of_ge hneg] at hpart
    exact hpart.2

/-- The plant in exact arithmetic.  For every configuration that is accepted and every initial
position on the travel, initialisation succeeds, and after every sequence of actions position,
velocity, count and limit switches are sound; a step without drive then neither speeds the plant up
nor turns it around. -/
theorem plant_travel (c : PlantConfig) (hvalid : validConfig c = true) (position : FloatValue)
    (hmin : c.minPosition ≤ position) (hmax : position ≤ c.maxPosition) (w : Simulation)
    (hencoder : w.encoder.initialized = true) (hgpio : w.gpio.initialized = true) :
    (plantInit c position w).1 = true ∧
    ∀ actions, let v := Machine.run Simulation.act (plantInit c position w).2 actions
      v.plant.state.Sound c ∧
      (v.motor.output = 0 →
        (plantStep v).2.plant.state.velocity.abs ≤ v.plant.state.velocity.abs ∧
        (0 ≤ v.plant.state.velocity → 0 ≤ (plantStep v).2.plant.state.velocity) ∧
        (v.plant.state.velocity ≤ 0 → (plantStep v).2.plant.state.velocity ≤ 0)) := by
  obtain ⟨a, scale, hc⟩ := exists_axis hvalid
  obtain ⟨hok, hfollows⟩ := plantInit_ok hvalid hc hmin hmax hencoder hgpio
  refine ⟨hok, ?_⟩
  intro actions
  have hrun := hfollows.run hvalid hc actions
  obtain ⟨s, hs⟩ := hrun.state
  exact ⟨hs.sound hc hrun.derived, fun hduty => hrun.coast hc hduty⟩

/-- Initialised drivers, before the plant is initialised. -/
def idleSimulation : Simulation where
  plant := { config := plantDefaultConfig, state := { position := 0 } }
  motor := motorInit
  encoder := EncoderHost.encoderInit
  gpio := { initialized := true }

/-- One step at full duty, after which the drive is released. -/
def pushed : List PlantAction := [.duty 1 (by norm_num), .step, .duty 0 (by norm_num)]

/-- With the default configuration a step at full duty leaves a sound state, in motion, and the
coasting step that follows is no faster. -/
theorem plant_travel_default :
    (plantInit plantDefaultConfig (.finite 1000) idleSimulation).1 = true ∧
    let v := Machine.run Simulation.act
      (plantInit plantDefaultConfig (.finite 1000) idleSimulation).2 pushed
    v.plant.state.Sound plantDefaultConfig ∧ v.plant.state.velocity = .finite 2 ∧
      (plantStep v).2.plant.state.velocity.abs ≤ v.plant.state.velocity.abs := by
  obtain ⟨hok, hrun⟩ := plant_travel plantDefaultConfig (by decide +kernel) (.finite 1000)
    (by decide) (by decide) idleSimulation rfl rfl
  obtain ⟨hsound, hcoast⟩ := hrun pushed
  exact ⟨hok, hsound, by decide +kernel, (hcoast (by decide +kernel)).1⟩

end MotionFirmware
