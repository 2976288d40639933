import MotionFirmware.Foundation.RoundedFloat

/-!
# The PID controller

`pid.c`: validation of the gains, the update with derivative on measurement and one anti-windup
clamp, and the reset.  A failing update is `none`: the controller and the caller's output are then
what they were.
-/

namespace MotionFirmware

/-- `pid_config_t`. -/
structure PidConfig where
  kp : FloatValue
  ki : FloatValue
  kd : FloatValue
  outputMin : FloatValue
  outputMax : FloatValue
  integralMin : FloatValue
  integralMax : FloatValue
  deriving DecidableEq, Inhabited

/-- `pid_controller_t`. -/
structure PidController where
  config : PidConfig := default
  integral : FloatValue := 0
  previousMeasurement : FloatValue := 0
  initialized : Bool := false
  sampled : Bool := false
  deriving DecidableEq, Inhabited

/-- `clamp`. -/
def clamp (value low high : FloatValue) : FloatValue :=
  if value < low then low else if high < value then high else value

/-- `pid_init`. -/
def pidInit (c : PidConfig) : Option PidController :=
  if !c.kp.isFinite || c.kp < 0 || !c.ki.isFinite || c.ki < 0 || !c.kd.isFinite || c.kd < 0 ||
      !c.outputMin.isFinite || !c.outputMax.isFinite || c.outputMax ≤ c.outputMin ||
      !c.integralMin.isFinite || !c.integralMax.isFinite ||
      0 < c.integralMin || c.integralMax < 0 || c.integralMax < c.integralMin then none
  else some { config := c, initialized := true }

/-- `pid_reset`. -/
def pidReset (pid : PidController) : PidController :=
  { pid with integral := 0, previousMeasurement := 0, sampled := false }

/-- Clamping a finite value between finite bounds gives a value between them. -/
lemma exists_clamp {v l h : ℚ} (hlh : l ≤ h) :
    ∃ q, clamp (.finite v) (.finite l) (.finite h) = .finite q ∧ l ≤ q ∧ q ≤ h := by
  unfold clamp
  split_ifs with h1 h2
  · exact ⟨l, rfl, le_rfl, hlh⟩
  · exact ⟨h, rfl, hlh, le_rfl⟩
  · rw [FloatValue.finite_lt_finite] at h1 h2
    exact ⟨v, rfl, not_lt.mp h1, not_lt.mp h2⟩

@[simp] lemma pidReset_config (pid : PidController) : (pidReset pid).config = pid.config := rfl

@[simp] lemma pidReset_initialized (pid : PidController) :
    (pidReset pid).initialized = pid.initialized := rfl

variable [Rounding]

/-- The unclamped new integral of `pid_update`. -/
def pidCandidate (pid : PidController) (error dt : FloatValue) : FloatValue :=
  pid.integral + pid.config.ki * error * dt

/-- The derivative on measurement of `pid_update`, zero on the first sample. -/
def pidDerivative (pid : PidController) (measurement dt : FloatValue) : FloatValue :=
  if pid.sampled then -(measurement - pid.previousMeasurement) / dt else 0

/-- `pid_update`: the output and the new controller, or `none` when it fails. -/
def pidUpdate (pid : PidController) (target measurement dt : FloatValue) :
    Option (FloatValue × PidController) :=
  if !pid.initialized || !target.isFinite || !measurement.isFinite || !dt.isFinite || dt ≤ 0 then
    none
  else
    let error := target - measurement
    let candidate := pidCandidate pid error dt
    let derivative := pidDerivative pid measurement dt
    if !error.isFinite || !candidate.isFinite || !derivative.isFinite then none
    else
      let integral := clamp candidate pid.config.integralMin pid.config.integralMax
      let sum := pid.config.kp * error + integral + pid.config.kd * derivative
      if !sum.isFinite then none
      else
        some (clamp sum pid.config.outputMin pid.config.outputMax,
          { pid with integral := integral, previousMeasurement := measurement, sampled := true })

/-! ### When the update fails -/

/-- Every value that `pid_update` computes before its last clamp is finite. -/
def pidFinite (pid : PidController) (target measurement dt : FloatValue) : Bool :=
  let error := target - measurement
  let candidate := pidCandidate pid error dt
  let derivative := pidDerivative pid measurement dt
  let integral := clamp candidate pid.config.integralMin pid.config.integralMax
  error.isFinite && candidate.isFinite && derivative.isFinite &&
    (pid.config.kp * error + integral + pid.config.kd * derivative).isFinite

/-- On finite inputs an initialised controller fails only where its arithmetic is not finite. -/
lemma isSome_pidUpdate {pid : PidController} {target measurement dt : FloatValue}
    (hinit : pid.initialized = true) (htarget : target.isFinite = true)
    (hmeasurement : measurement.isFinite = true) (hdt : dt.isFinite = true) (hpos : ¬ dt ≤ 0) :
    (pidUpdate pid target measurement dt).isSome = pidFinite pid target measurement dt := by
  unfold pidUpdate pidFinite
  dsimp only
  rw [if_neg (by simp [hinit, htarget, hmeasurement, hdt, hpos])]
  split_ifs with hterms hsum
  · simp only [Bool.or_eq_true, Bool.not_eq_true', or_assoc] at hterms
    rcases hterms with h | h | h <;> simp [h]
  · rw [Bool.not_eq_true'] at hsum
    simp [hsum]
  · simp only [Bool.or_eq_true, Bool.not_eq_true', not_or, Bool.not_eq_false] at hterms
    rw [Bool.not_eq_true', Bool.not_eq_false] at hsum
    simp [hterms, hsum]

/-! ### Bounds of the output -/

/-- A successful update keeps the configuration and stays initialised. -/
lemma pidUpdate_config {pid pid' : PidController} {t m dt out : FloatValue}
    (h : pidUpdate pid t m dt = some (out, pid')) :
    pid'.config = pid.config ∧ pid'.initialized = pid.initialized := by
  unfold pidUpdate at h
  dsimp only at h
  split_ifs at h
  simp only [Option.some.injEq, Prod.mk.injEq] at h
  obtain ⟨-, rfl⟩ := h
  exact ⟨rfl, rfl⟩

/-- The output of a successful update lies between the configured bounds. -/
lemma exists_pidUpdate_output {pid pid' : PidController} {t m dt out : FloatValue} {l h : ℚ}
    (hl : pid.config.outputMin = .finite l) (hh : pid.config.outputMax = .finite h) (hlh : l ≤ h)
    (hupd : pidUpdate pid t m dt = some (out, pid')) :
    ∃ q, out = .finite q ∧ l ≤ q ∧ q ≤ h := by
  unfold pidUpdate at hupd
  dsimp only at hupd
  split_ifs at hupd with h1 h2 h3
  simp only [Option.some.injEq, Prod.mk.injEq] at hupd
  obtain ⟨rfl, -⟩ := hupd
  rw [Bool.not_eq_true', Bool.not_eq_false] at h3
  obtain ⟨s, hs⟩ := FloatValue.isFinite_iff.mp h3
  rw [hs, hl, hh]
  exact exists_clamp hlh

end MotionFirmware
