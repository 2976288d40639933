import MotionFirmware.Control.AxisRuns

/-!
# Bounds of the PID controller

Both clamps of `pid_update` have finite bounds around zero, so the stored integral and every output
stay inside them whatever the floating-point arithmetic in between yields; a failing update writes
nothing.  The output bounds of an accepted configuration lie in `[-1, 1]`, so `motion_update` never
requests a duty that the driver saturates or rejects.
-/

namespace MotionFirmware

/-- What the arithmetic of one `pid_update` yields; the unclamped output is computed from the
clamped integral. -/
structure PidArithmetic where
  error : FloatValue
  candidate : FloatValue
  derivative : FloatValue
  sum : FloatValue → FloatValue

/-- `pid_update` over whatever the arithmetic yields: its result, the controller and the caller's
output. -/
def pidUpdateWith (r : PidArithmetic) (pid : PidController)
    (output target measurement dt : FloatValue) :
    Bool × PidController × FloatValue :=
  if !pid.initialized || !target.isFinite || !measurement.isFinite || !dt.isFinite || dt ≤ 0 then
    (false, pid, output)
  else if !r.error.isFinite || !r.candidate.isFinite || !r.derivative.isFinite then
    (false, pid, output)
  else
    let integral := clamp r.candidate pid.config.integralMin pid.config.integralMax
    if !(r.sum integral).isFinite then (false, pid, output)
    else
      (true, { pid with integral := integral, previousMeasurement := measurement, sampled := true },
        clamp (r.sum integral) pid.config.outputMin pid.config.outputMax)

/-- A call of `pid_update` or `pid_reset`. -/
inductive PidCall where
  | update (arithmetic : PidArithmetic) (target measurement dt : FloatValue)
  | reset

/-- The controller and the caller's output after the call. -/
def PidCall.step : PidCall → PidController × FloatValue → PidController × FloatValue
  | update r target measurement dt, s => (pidUpdateWith r s.1 s.2 target measurement dt).2
  | reset, s => (pidReset s.1, s.2)

/-- The configured bounds are finite: the output bounds lie in `[-1, 1]`, and those of the integral
enclose zero. -/
structure PidConfig.Bounded (c : PidConfig) (low high integralLow integralHigh : ℚ) : Prop where
  outputMin : c.outputMin = .finite low
  outputMax : c.outputMax = .finite high
  integralMin : c.integralMin = .finite integralLow
  integralMax : c.integralMax = .finite integralHigh
  order : low ≤ high
  neg_one_le : -1 ≤ low
  le_one : high ≤ 1
  nonpos : integralLow ≤ 0
  nonneg : 0 ≤ integralHigh

/-- The controller keeps its configuration, and the integral lies between its bounds. -/
structure PidController.Within (pid : PidController) (c : PidConfig) : Prop where
  config : pid.config = c
  low : c.integralMin ≤ pid.integral
  high : pid.integral ≤ c.integralMax

variable {c : MotionConfig} {pid : PidController} {r : PidArithmetic}
  {output target measurement dt : FloatValue} {l h a b : ℚ}

/-- The bounds of an accepted configuration. -/
lemma exists_bounded (hvalid : c.valid = true) (hpid : pidInit c.pid = some pid) :
    ∃ l h a b, c.pid.Bounded l h a b := by
  unfold pidInit at hpid
  split_ifs at hpid with hrefused
  simp only [Bool.or_eq_true, Bool.not_eq_true', decide_eq_true_eq, not_or,
    Bool.not_eq_false] at hrefused
  obtain ⟨⟨⟨⟨⟨⟨⟨⟨-, hmin⟩, hmax⟩, horder⟩, hlow⟩, hhigh⟩, hnonpos⟩, hnonneg⟩, -⟩ := hrefused
  obtain ⟨l, hl⟩ := FloatValue.isFinite_iff.mp hmin
  obtain ⟨h, hh⟩ := FloatValue.isFinite_iff.mp hmax
  obtain ⟨a, ha⟩ := FloatValue.isFinite_iff.mp hlow
  obtain ⟨b, hb⟩ := FloatValue.isFinite_iff.mp hhigh
  simp only [MotionConfig.valid, Bool.and_eq_true, Bool.not_eq_true', decide_eq_false_iff_not]
    at hvalid
  obtain ⟨⟨⟨⟨-, hbelow⟩, -⟩, habove⟩, -⟩ := hvalid
  rw [hl, hh, FloatValue.finite_le_finite] at horder
  rw [hl, FloatValue.one_def, FloatValue.neg_finite, FloatValue.finite_lt_finite] at hbelow
  rw [hh, FloatValue.one_lt_finite] at habove
  rw [ha, FloatValue.zero_lt_finite] at hnonpos
  rw [hb, FloatValue.finite_lt_zero] at hnonneg
  exact ⟨l, h, a, b, hl, hh, ha, hb, (not_le.mp horder).le, not_lt.mp hbelow, not_lt.mp habove,
    not_lt.mp hnonpos, not_lt.mp hnonneg⟩

/-- A cleared integral is between its bounds. -/
lemma PidConfig.Bounded.within (hb : c.pid.Bounded l h a b) (hconfig : pid.config = c.pid)
    (hintegral : pid.integral = 0) : pid.Within c.pid := by
  refine ⟨hconfig, ?_, ?_⟩
  · rw [hb.integralMin, hintegral, FloatValue.zero_def, FloatValue.finite_le_finite]
    exact hb.nonpos
  · rw [hb.integralMax, hintegral, FloatValue.zero_def, FloatValue.finite_le_finite]
    exact hb.nonneg

/-- **One update.**  It writes nothing, or it stores an integral and an output between their
bounds. -/
theorem pidUpdateWith_cases (hb : c.pid.Bounded l h a b) (hconfig : pid.config = c.pid)
    (r : PidArithmetic) (output target measurement dt : FloatValue) :
    pidUpdateWith r pid output target measurement dt = (false, pid, output) ∨
      ∃ i q, a ≤ i ∧ i ≤ b ∧ l ≤ q ∧ q ≤ h ∧
        pidUpdateWith r pid output target measurement dt = (true,
          { pid with
            integral := .finite i, previousMeasurement := measurement, sampled := true },
          .finite q) := by
  unfold pidUpdateWith
  split_ifs with hinput hterms
  · exact Or.inl rfl
  · exact Or.inl rfl
  dsimp only
  split_ifs with hsum
  · exact Or.inl rfl
  right
  simp only [Bool.or_eq_true, Bool.not_eq_true', not_or, Bool.not_eq_false] at hterms
  rw [Bool.not_eq_true', Bool.not_eq_false] at hsum
  obtain ⟨v, hv⟩ := FloatValue.isFinite_iff.mp hterms.1.2
  obtain ⟨s, hs⟩ := FloatValue.isFinite_iff.mp hsum
  obtain ⟨i, hi, hlow, hhigh⟩ := exists_clamp (v := v) (hb.nonpos.trans hb.nonneg)
  obtain ⟨q, hq, hql, hqh⟩ := exists_clamp (v := s) hb.order
  have hintegral : clamp r.candidate pid.config.integralMin pid.config.integralMax = .finite i := by
    rw [hconfig, hb.integralMin, hb.integralMax, hv, hi]
  refine ⟨i, q, hlow, hhigh, hql, hqh, ?_⟩
  rw [hs, hintegral, hconfig, hb.outputMin, hb.outputMax, hq]

/-- **Step lemma.**  Every call keeps the integral between its bounds. -/
theorem PidCall.within (hb : c.pid.Bounded l h a b) (call : PidCall)
    {s : PidController × FloatValue} (hs : s.1.Within c.pid) : (call.step s).1.Within c.pid := by
  cases call with
  | update r target measurement dt =>
    rcases pidUpdateWith_cases hb hs.config r s.2 target measurement dt with
      heq | ⟨i, q, hlow, hhigh, -, -, heq⟩
    · rw [PidCall.step, heq]
      exact hs
    · rw [PidCall.step, heq]
      refine ⟨hs.config, ?_, ?_⟩
      · rw [hb.integralMin, FloatValue.finite_le_finite]
        exact hlow
      · rw [hb.integralMax, FloatValue.finite_le_finite]
        exact hhigh
  | reset => exact hb.within hs.config rfl

/-- A duty between the output bounds of an accepted configuration is neither saturated nor
rejected. -/
lemma motorSetOutput_of_bounded (hb : c.pid.Bounded l h a b) (m : Motor) {q : ℚ} (hl : l ≤ q)
    (hh : q ≤ h) :
    (motorSetOutput m (.finite q)).1 ≠ .clamped ∧ (motorSetOutput m (.finite q)).1 ≠ .invalid := by
  have hq : |q| ≤ 1 := abs_le.mpr ⟨hb.neg_one_le.trans hl, hh.trans hb.le_one⟩
  unfold motorSetOutput
  rw [saturateDuty_of_abs_le_one hq]
  dsimp only
  split_ifs <;> simp_all

/-! ### The arithmetic of the source -/

section Rounded

variable [Rounding]

/-- The rounded arithmetic of `pid_update`. -/
def roundedArithmetic (pid : PidController) (target measurement dt : FloatValue) :
    PidArithmetic where
  error := target - measurement
  candidate := pidCandidate pid (target - measurement) dt
  derivative := pidDerivative pid measurement dt
  sum integral :=
    pid.config.kp * (target - measurement) + integral +
      pid.config.kd * pidDerivative pid measurement dt

/-- Over the rounded arithmetic, the update with its writes is `pid_update`. -/
theorem pidUpdateWith_rounded (pid : PidController) (output target measurement dt : FloatValue) :
    pidUpdateWith (roundedArithmetic pid target measurement dt) pid output target measurement dt =
      match pidUpdate pid target measurement dt with
      | none => (false, pid, output)
      | some (out, pid') => (true, pid', out) := by
  unfold pidUpdateWith pidUpdate roundedArithmetic
  dsimp only
  split_ifs <;> rfl

/-- What the call of `motor_set_output` in `motion_update` returns, if the update makes it. -/
def Axis.updateRequest (x : Axis) (dt : FloatValue) : Option MotorResult :=
  if x.refusesUpdate dt then none
  else if x.motion.updated.data.state = .moving then
    (x.motion.updated.pidStep dt).map fun r => (motorSetOutput x.io.motor r.1).1
  else none

/-- In `MOVING` the result of the request decides whether the update succeeds. -/
lemma motionUpdate_of_request {x : Axis} (hchecked : x.refusesUpdate dt = false)
    (hmoving : x.motion.updated.data.state = .moving) :
    (motionUpdate x dt).1 = true ↔ x.updateRequest dt = some .ok := by
  rw [motionUpdate_checked hchecked, if_pos hmoving]
  unfold Axis.updateRequest motionDrive
  rw [hchecked, if_neg (by simp), if_pos hmoving]
  dsimp only
  cases x.motion.updated.pidStep dt with
  | none => simp
  | some r =>
    dsimp only
    split_ifs with hok <;> simp [hok]

/-- On a controller that keeps its configuration the driver neither saturates nor rejects a request
of `motion_update`. -/
lemma updateRequest_ne {x : Axis} (hb : c.pid.Bounded l h a b) (hx : x.Configured c) :
    x.updateRequest dt ≠ some .clamped ∧ x.updateRequest dt ≠ some .invalid := by
  unfold Axis.updateRequest
  split_ifs
  · exact ⟨nofun, nofun⟩
  · cases hstep : x.motion.updated.pidStep dt with
    | none => exact ⟨nofun, nofun⟩
    | some r =>
      have hconfig : x.motion.updated.pid.config = c.pid :=
        (updated_keeps x.motion).pidConfig.trans hx.pidConfig
      obtain ⟨q, hq, hl, hh⟩ := exists_pidUpdate_output (hconfig ▸ hb.outputMin)
        (hconfig ▸ hb.outputMax) hb.order hstep
      obtain ⟨hclamped, hinvalid⟩ := motorSetOutput_of_bounded hb x.io.motor hl hh
      simp [hq, hclamped, hinvalid]
  · exact ⟨nofun, nofun⟩

/-- **Bounds and failure atomicity.**  On a configuration that `motion_init` accepts, after every
sequence of PID calls and whatever their arithmetic yields, the stored integral is between its
bounds, a successful update returns an output between the output bounds, which no driver saturates
or rejects, and a failing update changes neither the controller nor the caller's output.  After
every run of the axis the request of `motion_update` is neither saturated nor rejected. -/
theorem pid_bounds {x x₀ : Axis} (hinit : motionInit x c = some x₀) :
    (∀ (initial : FloatValue) (calls : List PidCall),
      let s := Machine.run PidCall.step (x₀.motion.pid, initial) calls
      c.pid.integralMin ≤ s.1.integral ∧ s.1.integral ≤ c.pid.integralMax ∧
        ∀ (r : PidArithmetic) (target measurement dt : FloatValue),
          let u := pidUpdateWith r s.1 s.2 target measurement dt
          (u.1 = true → c.pid.outputMin ≤ u.2.2 ∧ u.2.2 ≤ c.pid.outputMax ∧
            ∀ m : Motor, (motorSetOutput m u.2.2).1 ≠ .clamped ∧
              (motorSetOutput m u.2.2).1 ≠ .invalid) ∧
          (u.1 = false → u.2 = s)) ∧
    ∀ (calls : List AxisCall) (dt : FloatValue),
      (Machine.run AxisCall.step x₀ calls).updateRequest dt ≠ some .clamped ∧
        (Machine.run AxisCall.step x₀ calls).updateRequest dt ≠ some .invalid := by
  obtain ⟨hvalid, pid, hpid, heq⟩ := motionInit_some hinit
  obtain ⟨l, h, a, b, hb⟩ := exists_bounded hvalid hpid
  refine ⟨fun initial calls => ?_, fun calls dt => updateRequest_ne hb (configured_run hinit calls)⟩
  have hstart : x₀.motion.pid.Within c.pid := by
    have hfresh : x₀.motion.pid.integral = 0 := by
      rw [heq]
      unfold pidInit at hpid
      split_ifs at hpid
      rw [← Option.some.inj hpid]
    exact hb.within (configured_run hinit []).pidConfig hfresh
  have hwithin : (Machine.run PidCall.step (x₀.motion.pid, initial) calls).1.Within c.pid :=
    Machine.run_invariant_of_forall (I := fun s : PidController × FloatValue => s.1.Within c.pid)
      (fun call _ hs => PidCall.within hb call hs) hstart
  refine ⟨hwithin.low, hwithin.high, fun r target measurement dt => ?_⟩
  rcases pidUpdateWith_cases hb hwithin.config r _ target measurement dt with
    hsame | ⟨i, q, -, -, hl, hh, hdone⟩
  · rw [hsame]
    exact ⟨nofun, fun _ => rfl⟩
  · rw [hdone]
    refine ⟨fun _ => ⟨?_, ?_, fun m => motorSetOutput_of_bounded hb m hl hh⟩, nofun⟩
    · rw [hb.outputMin, FloatValue.finite_le_finite]
      exact hl
    · rw [hb.outputMax, FloatValue.finite_le_finite]
      exact hh

omit [Rounding] in
/-- The first request of a move on the bench. -/
theorem pid_bounds_bench :
    let x := Machine.run (@AxisCall.step Binary32.rounding) (startedBench fun _ => 1000)
      [.motion (.sample (.finite (1 / 100))), .motion (.command ⟨.moveAbs, 2000⟩)]
    @Axis.updateRequest Binary32.rounding x (.finite (1 / 100)) ≠ some .clamped ∧
      @Axis.updateRequest Binary32.rounding x (.finite (1 / 100)) ≠ some .invalid :=
  (@pid_bounds defaultConfig32 Binary32.rounding (bench fun _ => 1000) (startedBench fun _ => 1000)
    (motionInit_bench _)).2 _ _

end Rounded

end MotionFirmware
