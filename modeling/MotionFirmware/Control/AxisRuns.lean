import MotionFirmware.Control.MotionRuns

/-!
# Runs with homing and with a gate

The calls that reach an axis in the firmware: those of the controller, those of `homing.c`, and
those with which the safety layer closes the gate of the motor.  Whatever is called, the controller
keeps the configuration that `motion_init` accepted.
-/

namespace MotionFirmware

/-- A call that reaches the axis. -/
inductive AxisCall where
  | motion (call : MotionCall)
  /-- `homing_begin`. -/
  | begin (now : UInt32)
  /-- `homing_update`. -/
  | seek (inputs : GpioInputs) (now : UInt32)
  /-- `homing_abort`. -/
  | abort (result : HomingResult)
  /-- The `STOP` of a running `HOME`: `homing_abort`, and the state `STOPPING`. -/
  | interrupt
  /-- `motor_safety_inhibit`. -/
  | inhibit (closed : Bool)
  /-- `motor_safety_block_negative`. -/
  | blockNegative (block : Bool)

/-- The controller after the `STOP` of a running `HOME`. -/
def interruptHome (x : Axis) : Axis :=
  let x := homingAbort x .stopped
  { x with motion := { x.motion with data := { x.motion.data with state := .stopping } } }

/-- The controller was initialised with `c` and still has it. -/
structure Axis.Configured (c : MotionConfig) (x : Axis) : Prop where
  config : x.motion.config = c
  pidConfig : x.motion.pid.config = c.pid
  initialized : x.motion.initialized = true
  pidInitialized : x.motion.pid.initialized = true

variable [Rounding] {c : MotionConfig} {x y : Axis}

/-- The axis after the call. -/
def AxisCall.step : AxisCall → Axis → Axis
  | motion call, x => call.step x
  | begin now, x => (homingBegin x now).2
  | seek inputs now, x => (homingUpdate x inputs now).2
  | abort result, x => homingAbort x result
  | interrupt, x => interruptHome x
  | inhibit closed, x =>
    { x with io := { x.io with motor := motorSafetyInhibit x.io.motor closed } }
  | blockNegative block, x =>
    { x with io := { x.io with motor := motorSafetyBlockNegative x.io.motor block } }

omit [Rounding] in
lemma Axis.Frame.configured (h : x.Frame y) (hx : x.Configured c) : y.Configured c :=
  ⟨h.config.trans hx.config, h.pidConfig.trans hx.pidConfig, h.initialized.trans hx.initialized,
    h.pidInitialized.trans hx.pidInitialized⟩

omit [Rounding] in
lemma MotionController.Keeps.configured {io : Peripherals} {m : MotionController}
    (h : x.motion.Keeps m) (hx : x.Configured c) :
    ({ io := io, motion := m } : Axis).Configured c :=
  ⟨h.config.trans hx.config, h.pidConfig.trans hx.pidConfig, h.initialized.trans hx.initialized,
    h.pidInitialized.trans hx.pidInitialized⟩

omit [Rounding] in
/-- A finished or interrupted attempt keeps the configuration. -/
lemma Axis.Configured.homingAbort (hx : x.Configured c) (r : HomingResult) :
    (homingAbort x r).Configured c := ⟨hx.config, hx.pidConfig, hx.initialized, hx.pidInitialized⟩

/-- A call of the controller keeps the configuration. -/
lemma MotionCall.configured {call : MotionCall} (hx : x.Configured c) :
    (call.step x).Configured c := by
  have heffect := call.effect x
  generalize call.result x = r at heffect
  generalize call.step x = y at heffect ⊢
  have hkeeps := updated_keeps x.motion
  cases heffect with
  | failed frame => exact (Axis.Frame.fail frame).configured hx
  | sampled => exact ⟨hx.config, hx.pidConfig, hx.initialized, hx.pidInitialized⟩
  | refused => exact hx
  | halted => exact (halt_keeps x.motion).configured hx
  | started => exact ⟨hx.config, hx.pidConfig, hx.initialized, hx.pidInitialized⟩
  | rested =>
    exact ⟨hkeeps.config.trans hx.config, hkeeps.pidConfig.trans hx.pidConfig,
      hkeeps.initialized.trans hx.initialized, hkeeps.pidInitialized.trans hx.pidInitialized⟩
  | drove _ _ hstep =>
    obtain ⟨hpid, hpidInit⟩ := pidUpdate_config hstep
    exact ⟨hkeeps.config.trans hx.config, hpid.trans (hkeeps.pidConfig.trans hx.pidConfig),
      hkeeps.initialized.trans hx.initialized,
      hpidInit.trans (hkeeps.pidInitialized.trans hx.pidInitialized)⟩

/-- **Step lemma.**  Every call keeps the configuration. -/
theorem AxisCall.configured (call : AxisCall) (hx : x.Configured c) :
    (call.step x).Configured c := by
  cases call with
  | motion call => exact MotionCall.configured hx
  | begin now =>
    unfold AxisCall.step homingBegin
    dsimp only
    split_ifs
    · exact hx
    · exact hx
    · exact ⟨hx.config, hx.pidConfig, hx.initialized, hx.pidInitialized⟩
  | seek inputs now =>
    rcases homingUpdate_cases x inputs now with ⟨heq, -⟩ | ⟨io, -, heq, -⟩ | hsame
    · rw [AxisCall.step, heq]
      exact ⟨hx.config, hx.pidConfig, hx.initialized, hx.pidInitialized⟩
    · rw [AxisCall.step, heq]
      exact ⟨hx.config, hx.pidConfig, hx.initialized, hx.pidInitialized⟩
    · exact ⟨hsame.config.trans hx.config, hsame.pidConfig.trans hx.pidConfig,
        hsame.initialized.trans hx.initialized, hsame.pidInitialized.trans hx.pidInitialized⟩
  | abort result => exact hx.homingAbort result
  | interrupt => exact ⟨hx.config, hx.pidConfig, hx.initialized, hx.pidInitialized⟩
  | inhibit => exact ⟨hx.config, hx.pidConfig, hx.initialized, hx.pidInitialized⟩
  | blockNegative => exact ⟨hx.config, hx.pidConfig, hx.initialized, hx.pidInitialized⟩

/-- The configuration after every run from `motion_init`. -/
theorem configured_run {x₀ : Axis} (h : motionInit x c = some x₀) (calls : List AxisCall) :
    (Machine.run AxisCall.step x₀ calls).Configured c := by
  obtain ⟨-, pid, hpid, rfl⟩ := motionInit_some h
  have hstart : pid.config = c.pid ∧ pid.initialized = true := by
    unfold pidInit at hpid
    split_ifs at hpid
    obtain rfl := Option.some.inj hpid
    exact ⟨rfl, rfl⟩
  exact Machine.run_invariant_of_forall (fun call _ hv => call.configured hv)
    ⟨rfl, hstart.1, rfl, hstart.2⟩

/-- No call touches the environment. -/
lemma AxisCall.env (call : AxisCall) (x : Axis) : (call.step x).io.env = x.io.env := by
  cases call with
  | motion call =>
    have heffect := call.effect x
    change (call.step x).io.env = x.io.env
    generalize call.result x = r at heffect
    generalize call.step x = y at heffect ⊢
    cases heffect with
    | failed frame => exact (Axis.Frame.fail frame).env
    | _ => rfl
  | begin now =>
    unfold AxisCall.step homingBegin
    dsimp only
    split_ifs <;> rfl
  | seek inputs now =>
    rcases homingUpdate_cases x inputs now with ⟨heq, -⟩ | ⟨io, hset, heq, -⟩ | hsame
    · rw [AxisCall.step, heq]
      rfl
    · rw [AxisCall.step, heq]
      have := Peripherals.encoderSetReference_env x.io.motorDisable 0
      rw [hset] at this
      exact this
    · exact hsame.env
  | abort result => rfl
  | interrupt => rfl
  | inhibit => rfl
  | blockNegative => rfl

/-- The environment after a run. -/
lemma env_run (x : Axis) (calls : List AxisCall) :
    (Machine.run AxisCall.step x calls).io.env = x.io.env :=
  Machine.run_invariant_of_forall (I := fun v : Axis => v.io.env = x.io.env)
    (fun call v hv => (call.env v).trans hv) rfl

end MotionFirmware
