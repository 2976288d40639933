import MotionFirmware.Foundation.RoundedFloat

/-!
# The host motor driver

`motor_host.c`: the requested and the applied duty, the full inhibit gate and the directional
guard.  Initialisation happens once, at start-up; every other operation keeps the driver
initialised.
-/

namespace MotionFirmware

/-- `motor_result_t`. -/
inductive MotorResult where
  | ok
  | clamped
  | invalid
  | notInitialized
  | inhibited
  deriving DecidableEq, Repr

/-- The static state of `motor_host.c`. -/
structure Motor where
  initialized : Bool := false
  output : FloatValue := 0
  requested : FloatValue := 0
  inhibited : Bool := false
  negativeBlocked : Bool := false
  deriving DecidableEq, Inhabited

/-- `motor_init`. -/
def motorInit : Motor :=
  { initialized := true }

/-- Saturation of a finite duty to `[-1, 1]`, with the result code of `motor_set_output`. -/
def saturateDuty (duty : FloatValue) : FloatValue × MotorResult :=
  if 1 < duty then (1, .clamped)
  else if duty < -1 then (-1, .clamped)
  else (duty, .ok)

/-- `motor_set_output`. -/
def motorSetOutput (m : Motor) (dutyCycle : FloatValue) : MotorResult × Motor :=
  if !m.initialized then (.notInitialized, m)
  else if !dutyCycle.isFinite then (.invalid, { m with requested := 0, output := 0 })
  else
    let duty := (saturateDuty dutyCycle).1
    let blocked := m.inhibited || (m.negativeBlocked && decide (duty < 0))
    (if blocked then .inhibited else (saturateDuty dutyCycle).2,
      { m with requested := duty, output := if blocked then 0 else duty })

/-- `motor_disable`. -/
def motorDisable (m : Motor) : Motor :=
  { m with output := 0, requested := 0 }

/-- `motor_safety_inhibit`. -/
def motorSafetyInhibit (m : Motor) (inhibit : Bool) : Motor :=
  { m with inhibited := inhibit, output := 0 }

/-- `motor_safety_block_negative`. -/
def motorSafetyBlockNegative (m : Motor) (block : Bool) : Motor :=
  { m with
    negativeBlocked := block
    output := if block && decide (m.output < 0) then 0 else m.output }

/-! ### What the operations leave alone -/

@[simp] lemma motorDisable_output (m : Motor) : (motorDisable m).output = 0 := rfl

@[simp] lemma motorDisable_requested (m : Motor) : (motorDisable m).requested = 0 := rfl

@[simp] lemma motorDisable_inhibited (m : Motor) :
    (motorDisable m).inhibited = m.inhibited := rfl

@[simp] lemma motorDisable_negativeBlocked (m : Motor) :
    (motorDisable m).negativeBlocked = m.negativeBlocked := rfl

@[simp] lemma motorDisable_initialized (m : Motor) :
    (motorDisable m).initialized = m.initialized := rfl

@[simp] lemma motorSafetyInhibit_inhibited (m : Motor) (b : Bool) :
    (motorSafetyInhibit m b).inhibited = b := rfl

@[simp] lemma motorSafetyInhibit_output (m : Motor) (b : Bool) :
    (motorSafetyInhibit m b).output = 0 := rfl

@[simp] lemma motorSafetyInhibit_requested (m : Motor) (b : Bool) :
    (motorSafetyInhibit m b).requested = m.requested := rfl

@[simp] lemma motorSafetyInhibit_negativeBlocked (m : Motor) (b : Bool) :
    (motorSafetyInhibit m b).negativeBlocked = m.negativeBlocked := rfl

@[simp] lemma motorSafetyInhibit_initialized (m : Motor) (b : Bool) :
    (motorSafetyInhibit m b).initialized = m.initialized := rfl

@[simp] lemma motorSafetyBlockNegative_inhibited (m : Motor) (b : Bool) :
    (motorSafetyBlockNegative m b).inhibited = m.inhibited := rfl

@[simp] lemma motorSafetyBlockNegative_requested (m : Motor) (b : Bool) :
    (motorSafetyBlockNegative m b).requested = m.requested := rfl

@[simp] lemma motorSafetyBlockNegative_negativeBlocked (m : Motor) (b : Bool) :
    (motorSafetyBlockNegative m b).negativeBlocked = b := rfl

@[simp] lemma motorSafetyBlockNegative_initialized (m : Motor) (b : Bool) :
    (motorSafetyBlockNegative m b).initialized = m.initialized := rfl

@[simp] lemma motorSetOutput_inhibited (m : Motor) (d : FloatValue) :
    (motorSetOutput m d).2.inhibited = m.inhibited := by
  unfold motorSetOutput
  split_ifs <;> rfl

@[simp] lemma motorSetOutput_negativeBlocked (m : Motor) (d : FloatValue) :
    (motorSetOutput m d).2.negativeBlocked = m.negativeBlocked := by
  unfold motorSetOutput
  split_ifs <;> rfl

@[simp] lemma motorSetOutput_initialized (m : Motor) (d : FloatValue) :
    (motorSetOutput m d).2.initialized = m.initialized := by
  unfold motorSetOutput
  split_ifs <;> rfl

/-! ### The driver invariant -/

/-- The invariant of the driver: the applied duty is a finite value of `[-1, 1]`, an inhibited
driver applies zero and the directional guard excludes negative duty. -/
structure Motor.GateInv (m : Motor) : Prop where
  initialized : m.initialized = true
  finite : ∃ q : ℚ, m.output = .finite q ∧ |q| ≤ 1
  inhibited : m.inhibited = true → m.output = 0
  blocked : m.negativeBlocked = true → 0 ≤ m.output

/-- A saturated finite duty is a rational of `[-1, 1]`. -/
lemma exists_saturateDuty {d : FloatValue} (hd : d.isFinite = true) :
    ∃ q : ℚ, (saturateDuty d).1 = .finite q ∧ |q| ≤ 1 := by
  obtain ⟨q, rfl⟩ := FloatValue.isFinite_iff.mp hd
  unfold saturateDuty
  split_ifs with h1 h2
  · exact ⟨1, rfl, by norm_num⟩
  · exact ⟨-1, rfl, by norm_num⟩
  · refine ⟨q, rfl, abs_le.mpr ⟨?_, ?_⟩⟩
    · have h2' : ¬ q < -1 := by
        intro h
        exact h2 (FloatValue.finite_lt_finite.mpr h)
      linarith
    · have h1' : ¬ 1 < q := by
        intro h
        exact h1 (FloatValue.one_lt_finite.mpr h)
      linarith

/-- A duty already in range is not changed by saturation. -/
lemma saturateDuty_of_abs_le_one {q : ℚ} (hq : |q| ≤ 1) :
    saturateDuty (.finite q) = (.finite q, .ok) := by
  obtain ⟨hl, hu⟩ := abs_le.mp hq
  have h1 : ¬ (1 : FloatValue) < .finite q := by
    rw [FloatValue.one_lt_finite]; linarith
  have h2 : ¬ (FloatValue.finite q) < -1 := by
    intro h
    have : q < -1 := FloatValue.finite_lt_finite.mp h
    linarith
  unfold saturateDuty
  rw [if_neg h1, if_neg h2]

lemma gateInv_motorInit : motorInit.GateInv :=
  ⟨rfl, ⟨0, rfl, by norm_num⟩, fun h => by simp [motorInit] at h,
    fun h => by simp [motorInit] at h⟩

lemma Motor.GateInv.motorDisable {m : Motor} (h : m.GateInv) : (motorDisable m).GateInv :=
  ⟨h.initialized, ⟨0, rfl, by norm_num⟩, fun _ => rfl, fun _ => by simp [FloatValue.zero_def]⟩

lemma Motor.GateInv.motorSafetyInhibit {m : Motor} (h : m.GateInv) (b : Bool) :
    (motorSafetyInhibit m b).GateInv :=
  ⟨h.initialized, ⟨0, rfl, by norm_num⟩, fun _ => rfl, fun _ => by simp [FloatValue.zero_def]⟩

lemma Motor.GateInv.motorSafetyBlockNegative {m : Motor} (h : m.GateInv) (b : Bool) :
    (motorSafetyBlockNegative m b).GateInv := by
  obtain ⟨q, hq, hq1⟩ := h.finite
  by_cases hneg : b = true ∧ q < 0
  · have hout : (MotionFirmware.motorSafetyBlockNegative m b).output = 0 := by
      simp [MotionFirmware.motorSafetyBlockNegative, hneg.1, hq, hneg.2]
    exact ⟨h.initialized, ⟨0, hout, by norm_num⟩, fun _ => hout,
      fun _ => by rw [hout]; simp [FloatValue.zero_def]⟩
  · have hout : (MotionFirmware.motorSafetyBlockNegative m b).output = m.output := by
      simp only [MotionFirmware.motorSafetyBlockNegative, hq, FloatValue.finite_lt_zero,
        Bool.and_eq_true, decide_eq_true_eq, ite_eq_right_iff]
      exact fun hb => absurd hb hneg
    refine ⟨h.initialized, ⟨q, hout.trans hq, hq1⟩, fun hi => hout.trans (h.inhibited hi),
      fun hb => ?_⟩
    have hb' : b = true := hb
    rw [hout, hq, FloatValue.zero_le_finite]
    by_contra hlt
    exact hneg ⟨hb', not_le.mp hlt⟩

/-- Requesting a duty, whatever it is, keeps the driver invariant. -/
lemma Motor.GateInv.motorSetOutput {m : Motor} (h : m.GateInv) (d : FloatValue) :
    (motorSetOutput m d).2.GateInv := by
  by_cases hd : d.isFinite = true
  · obtain ⟨q, hq, hq1⟩ := exists_saturateDuty hd
    set blocked := m.inhibited || (m.negativeBlocked && decide (q < 0)) with hblocked
    have hset : (MotionFirmware.motorSetOutput m d).2 =
        { m with requested := .finite q, output := if blocked then 0 else .finite q } := by
      simp [MotionFirmware.motorSetOutput, h.initialized, hd, hq, hblocked]
    rw [hset]
    refine ⟨h.initialized, ?_, ?_, ?_⟩
    · cases blocked with
      | true => exact ⟨0, rfl, by norm_num⟩
      | false => exact ⟨q, rfl, hq1⟩
    · intro hi
      have : blocked = true := by rw [hblocked, show m.inhibited = true from hi]; rfl
      simp [this]
    · intro hb
      have hb' : m.negativeBlocked = true := hb
      by_cases hneg : q < 0
      · have : blocked = true := by simp [hblocked, hb', hneg]
        simp [this, FloatValue.zero_def]
      · cases blocked with
        | true => simp [FloatValue.zero_def]
        | false => simpa using not_lt.mp hneg
  · have hset : (MotionFirmware.motorSetOutput m d).2 = { m with requested := 0, output := 0 } := by
      simp [MotionFirmware.motorSetOutput, h.initialized, hd]
    rw [hset]
    exact ⟨h.initialized, ⟨0, rfl, by norm_num⟩, fun _ => rfl,
      fun _ => by simp [FloatValue.zero_def]⟩

/-- The gate refuses the duty: it is closed, or the directional guard meets a negative duty. -/
def Motor.refuses (m : Motor) (duty : FloatValue) : Bool :=
  m.inhibited || (m.negativeBlocked && decide (duty < 0))

/-- A duty in range is accepted unless the gate refuses it. -/
lemma motorSetOutput_ok_iff {m : Motor} (hm : m.initialized = true) {q : ℚ} (hq : |q| ≤ 1) :
    (motorSetOutput m (.finite q)).1 = .ok ↔ m.refuses (.finite q) = false := by
  have hresult : (motorSetOutput m (.finite q)).1 =
      if m.refuses (.finite q) then .inhibited else .ok := by
    simp [motorSetOutput, Motor.refuses, hm, saturateDuty_of_abs_le_one hq]
  rw [hresult]
  cases m.refuses (.finite q) <;> simp

/-- An accepted duty in range is applied as it is. -/
lemma output_of_motorSetOutput_ok {m : Motor} (hm : m.initialized = true) {q : ℚ} (hq : |q| ≤ 1)
    (h : (motorSetOutput m (.finite q)).1 = .ok) :
    (motorSetOutput m (.finite q)).2.output = .finite q := by
  have haccepted := (motorSetOutput_ok_iff hm hq).mp h
  have houtput : (motorSetOutput m (.finite q)).2.output =
      if m.refuses (.finite q) then 0 else .finite q := by
    simp [motorSetOutput, Motor.refuses, hm, saturateDuty_of_abs_le_one hq]
  rw [houtput, haccepted]
  rfl

end MotionFirmware
