import MotionFirmware.App.Application
import MotionFirmware.Control.Pid
import MotionFirmware.Drivers.Peripherals

/-!
# The motion controller

`motion_controller.c`.  The controller reaches the encoder and the motor only through the drivers,
so its operations act on an `Axis`: the drivers together with one controller.
-/

namespace MotionFirmware

/-- `motion_config_t`. -/
structure MotionConfig where
  pid : PidConfig
  minimum : Int32
  maximum : Int32
  tolerance : FloatValue
  completionVelocity : FloatValue
  dwellCycles : UInt32
  deriving DecidableEq, Inhabited

/-- `motion_result_t`. -/
inductive MotionResult where
  | accepted
  | invalidState
  | outOfRange
  | notImplemented
  | inputError
  deriving DecidableEq, Repr, Inhabited

/-- `homing_result_t`. -/
inductive HomingResult where
  | none
  | running
  | complete
  | stopped
  | estopped
  | faulted
  | timeout
  deriving DecidableEq, Repr, Inhabited

/-- `motion_result_name`; nothing stands for a value outside of the enumeration. -/
def motionResultName : Option MotionResult → String
  | some .accepted => "ACK ACCEPTED"
  | some .invalidState => "ERR INVALID_STATE"
  | some .outOfRange => "ERR OUT_OF_RANGE"
  | some .notImplemented => "ERR NOT_IMPLEMENTED"
  | _ => "ERR CONTROL_INPUT"

/-- `homing_result_name`; nothing stands for a value outside of the enumeration. -/
def homingResultName : Option HomingResult → String
  | some .none => "NONE"
  | some .running => "RUNNING"
  | some .complete => "COMPLETE"
  | some .stopped => "STOPPED"
  | some .estopped => "ESTOPPED"
  | some .timeout => "TIMEOUT"
  | _ => "FAULTED"

/-- `homing_snapshot_t`. -/
structure HomingSnapshot where
  result : HomingResult := .none
  startedMs : UInt32 := 0
  elapsedMs : UInt32 := 0
  completed : UInt32 := 0
  referenced : Bool := false
  deriving DecidableEq, Inhabited

/-- `motion_snapshot_t`. -/
structure MotionSnapshot where
  state : AppState := .boot
  position : Int32 := 0
  target : Int32 := 0
  velocity : FloatValue := 0
  error : FloatValue := 0
  pidOutput : FloatValue := 0
  pwm : FloatValue := 0
  stableCycles : UInt32 := 0
  completedMoves : UInt32 := 0
  feedbackValid : Bool := false
  homing : HomingSnapshot := {}
  deriving DecidableEq, Inhabited

/-- `motion_controller_t`. -/
structure MotionController where
  config : MotionConfig := default
  pid : PidController := {}
  data : MotionSnapshot := {}
  previousCount : Int32 := 0
  initialized : Bool := false
  sampled : Bool := false
  deriving DecidableEq, Inhabited

/-- The drivers and the controller that owns the axis. -/
structure Axis where
  io : Peripherals
  motion : MotionController := {}

/-- The validity test of `motion_init` on the configuration (the gains are tested by `pid_init`). -/
def MotionConfig.valid (c : MotionConfig) : Bool :=
  c.minimum < c.maximum && -1000000 ≤ c.minimum && c.maximum ≤ 1000000 &&
    c.tolerance.isFinite && !(c.tolerance < 0 : Bool) &&
    c.completionVelocity.isFinite && !(c.completionVelocity < 0 : Bool) && c.dwellCycles != 0 &&
    !(c.pid.outputMin < -1 : Bool) && !(0 < c.pid.outputMin : Bool) &&
    !(1 < c.pid.outputMax : Bool) && !(c.pid.outputMax < 0 : Bool)

/-- `motion_init`; `none` when the configuration is refused. -/
def motionInit (x : Axis) (c : MotionConfig) : Option Axis :=
  if !c.valid then none
  else
    (pidInit c.pid).map fun pid =>
      { io := x.io.motorDisable
        motion := { config := c, pid := pid, data := { state := .idle }, initialized := true } }

/-- `fail`: disable the motor and drop the motion and the feedback. -/
def fail (x : Axis) : Axis :=
  { io := x.io.motorDisable
    motion :=
      if x.motion.initialized then
        { x.motion with
          data := { x.motion.data with
            state := .idle, feedbackValid := false, pwm := 0, pidOutput := 0, stableCycles := 0 }
          sampled := false
          pid := pidReset x.motion.pid }
      else x.motion }

/-- The drive part shared by the operations that drop the demand: output and history cleared. -/
def MotionController.dropDemand (m : MotionController) : MotionController :=
  { m with data := { m.data with pwm := 0, pidOutput := 0 }, pid := pidReset m.pid }

/-- The target of a `MOVE` or `MOVE_REL`, in the 64-bit arithmetic of `motion_command`. -/
def motionTarget (m : MotionController) (command : MotionCommand) : ℤ :=
  if command.type = .moveRel then m.data.position.toInt + command.value.toInt
  else command.value.toInt

variable [Rounding]

/-- `motion_default_config`. -/
def motionDefaultConfig : MotionConfig where
  pid :=
    { kp := .ofRat (6 / 1000), ki := .ofRat (2 / 10000), kd := .ofRat (15 / 10000)
      outputMin := -.ofRat (8 / 10), outputMax := .ofRat (8 / 10)
      integralMin := -.ofRat (5 / 1000), integralMax := .ofRat (5 / 1000) }
  minimum := 0
  maximum := 5000
  tolerance := .ofInt 3
  completionVelocity := .ofInt 25
  dwellCycles := 20

/-- The time step is refused by `motion_sample` and `motion_update`. -/
def badStep (dt : FloatValue) : Bool :=
  !dt.isFinite || dt ≤ 0 || 1 < dt

/-- The count difference since the previous sample, as an unsigned number. -/
def MotionController.deltaBits (m : MotionController) (count : Int32) : UInt32 :=
  count.toUInt32 - m.previousCount.toUInt32

/-- The velocity estimate of `motion_sample` for a new count. -/
def MotionController.estimate (m : MotionController) (count : Int32) (dt : FloatValue) :
    FloatValue :=
  if m.sampled then .ofInt (signedBits (m.deltaBits count)).toInt / dt else 0

/-- The new count is refused: an ambiguous half-range jump, or a velocity that is not finite. -/
def MotionController.badCount (m : MotionController) (count : Int32) (dt : FloatValue) : Bool :=
  m.sampled && (m.deltaBits count == 2147483648 || !(m.estimate count dt).isFinite)

/-- The controller after a successful sample. -/
def MotionController.accept (m : MotionController) (count : Int32) (dt : FloatValue) :
    MotionController :=
  { m with
    previousCount := count
    sampled := true
    data := { m.data with
      position := count
      velocity := m.estimate count dt
      error := .ofInt (m.data.target.toInt - count.toInt)
      feedbackValid := true } }

/-- `motion_sample`. -/
def motionSample (x : Axis) (dt : FloatValue) : Bool × Axis :=
  if !x.motion.initialized || badStep dt then (false, fail x)
  else
    match x.io.encoderGetCount with
    | none => (false, fail { x with io := x.io.afterEncoder })
    | some count =>
      if x.motion.badCount count dt then (false, fail { x with io := x.io.afterEncoder })
      else (true, { io := x.io.afterEncoder, motion := x.motion.accept count dt })

/-- The controller after an accepted `STOP`. -/
def MotionController.halt (m : MotionController) : MotionController :=
  let m := m.dropDemand
  if m.data.state = .moving then
    { m with data := { m.data with state := .stopping, stableCycles := 0 } }
  else m

/-- The controller after an accepted `MOVE` or `MOVE_REL`. -/
def MotionController.start (m : MotionController) (target : ℤ) : MotionController :=
  let m := m.dropDemand
  { m with
    data := { m.data with
      target := Int32.ofInt target
      error := .ofInt (target - m.data.position.toInt)
      state := .moving
      stableCycles := 0 }
    pid := { m.pid with
      -- seeded, so that the first update has no derivative kick
      previousMeasurement := .ofInt m.data.position.toInt
      sampled := true } }

/-- The target is outside the configured travel. -/
def MotionController.outOfRange (m : MotionController) (target : ℤ) : Bool :=
  decide (target < m.config.minimum.toInt) || decide (m.config.maximum.toInt < target)

/-- `motion_command`. -/
def motionCommand (x : Axis) (command : MotionCommand) : MotionResult × Axis :=
  if !x.motion.initialized || !x.motion.data.feedbackValid then (.inputError, x)
  else if command.type = .stop then
    (.accepted, { io := x.io.motorDisable, motion := x.motion.halt })
  else if command.type ≠ .moveAbs ∧ command.type ≠ .moveRel then (.notImplemented, x)
  else if x.motion.data.state ≠ .idle then (.invalidState, x)
  else if x.motion.outOfRange (motionTarget x.motion command) then (.outOfRange, x)
  else (.accepted, { x with motion := x.motion.start (motionTarget x.motion command) })

/-- The sample of an update lies in the completion band. -/
def MotionController.inBand (m : MotionController) : Bool :=
  m.data.velocity.abs ≤ m.config.completionVelocity &&
    (m.data.state == .stopping || m.data.error.abs ≤ m.config.tolerance)

/-- The value `stable_cycles` takes in an update made in `MOVING` or `STOPPING`. -/
def MotionController.nextStable (m : MotionController) : UInt32 :=
  if m.inBand then m.data.stableCycles + 1 else 0

/-- The dwell part of `motion_update`, run in `MOVING` and `STOPPING`. -/
def MotionController.dwell (m : MotionController) : MotionController :=
  if m.data.state = .moving ∨ m.data.state = .stopping then
    if m.config.dwellCycles ≤ m.nextStable then
      { m with
        data := { m.data with
          stableCycles := m.nextStable
          completedMoves :=
            if m.data.state = .moving then m.data.completedMoves + 1 else m.data.completedMoves
          state := .idle }
        pid := pidReset m.pid }
    else { m with data := { m.data with stableCycles := m.nextStable } }
  else m

/-- The controller with the error of the current position, as `motion_update` computes it first. -/
def MotionController.withError (m : MotionController) : MotionController :=
  { m with data := { m.data with
      error := .ofInt (m.data.target.toInt - m.data.position.toInt) } }

/-- The PID step of `motion_update`. -/
def MotionController.pidStep (m : MotionController) (dt : FloatValue) :
    Option (FloatValue × PidController) :=
  pidUpdate m.pid (.ofInt m.data.target.toInt) (.ofInt m.data.position.toInt) dt

/-- The controller with a new output and PID history. -/
def MotionController.withOutput (m : MotionController) (out : FloatValue) (pid : PidController) :
    MotionController :=
  { m with pid := pid, data := { m.data with pidOutput := out, pwm := out } }

/-- The part of `motion_update` that drives the motor. -/
def motionDrive (x : Axis) (dt : FloatValue) : Bool × Axis :=
  match x.motion.pidStep dt with
  | none => (false, fail x)
  | some (out, pid) =>
    let driven := motorSetOutput x.io.motor out
    let x := { io := { x.io with motor := driven.2 }, motion := x.motion.withOutput out pid }
    if driven.1 = .ok then (true, x) else (false, fail x)

/-- The part of `motion_update` that keeps the motor disabled. -/
def motionRest (x : Axis) : Axis :=
  { io := x.io.motorDisable
    motion := { x.motion with data := { x.motion.data with pwm := 0, pidOutput := 0 } } }

/-- The controller with which an update drives or rests. -/
def MotionController.updated (m : MotionController) : MotionController := m.withError.dwell

/-- `motion_update`. -/
def motionUpdate (x : Axis) (dt : FloatValue) : Bool × Axis :=
  if !x.motion.initialized || !x.motion.data.feedbackValid || badStep dt then (false, fail x)
  else
    let x := { x with motion := x.motion.updated }
    if x.motion.data.state = .moving then motionDrive x dt else (true, motionRest x)

/-! ### The outcomes of the operations -/

omit [Rounding] in
/-- What an accepted `motion_init` leaves. -/
lemma motionInit_some {x x₀ : Axis} {c : MotionConfig} (h : motionInit x c = some x₀) :
    c.valid = true ∧ ∃ pid, pidInit c.pid = some pid ∧
      x₀ = { io := x.io.motorDisable
             motion := { config := c, pid := pid, data := { state := .idle },
                         initialized := true } } := by
  unfold motionInit at h
  split_ifs at h with hvalid
  obtain ⟨pid, hpid, heq⟩ := Option.map_eq_some_iff.mp h
  exact ⟨by simpa using hvalid, pid, hpid, heq.symm⟩

/-- `y` agrees with `x` in what the control operations leave alone until they succeed: the gate,
the reference offset, the configuration, the counters and the homing record. -/
structure Axis.Frame (x y : Axis) : Prop where
  motorInitialized : y.io.motor.initialized = x.io.motor.initialized
  inhibited : y.io.motor.inhibited = x.io.motor.inhibited
  negativeBlocked : y.io.motor.negativeBlocked = x.io.motor.negativeBlocked
  referenceOffset : y.io.referenceOffset = x.io.referenceOffset
  env : y.io.env = x.io.env
  clockReads : y.io.clockReads = x.io.clockReads
  config : y.motion.config = x.motion.config
  initialized : y.motion.initialized = x.motion.initialized
  pidConfig : y.motion.pid.config = x.motion.pid.config
  pidInitialized : y.motion.pid.initialized = x.motion.pid.initialized
  completedMoves : y.motion.data.completedMoves = x.motion.data.completedMoves
  homing : y.motion.data.homing = x.motion.data.homing

omit [Rounding] in
lemma Axis.Frame.refl (x : Axis) : x.Frame x :=
  ⟨rfl, rfl, rfl, rfl, rfl, rfl, rfl, rfl, rfl, rfl, rfl, rfl⟩

omit [Rounding] in
/-- A failing operation keeps the frame. -/
lemma Axis.Frame.fail {x y : Axis} (h : x.Frame y) : x.Frame (fail y) := by
  unfold MotionFirmware.fail
  split_ifs
  · exact { h with }
  · exact { h with }

omit [Rounding] in
/-- A failing operation leaves the controller in `IDLE` unless it was never initialised. -/
lemma fail_state (x : Axis) :
    (fail x).motion.data.state =
      if x.motion.initialized then .idle else x.motion.data.state := by
  unfold fail
  split_ifs <;> rfl

omit [Rounding] in
@[simp] lemma fail_motor (x : Axis) : (fail x).io.motor = motorDisable x.io.motor := rfl

omit [Rounding] in
/-- An accepted `STOP` turns `MOVING` into `STOPPING` and keeps every other state. -/
lemma halt_state (m : MotionController) :
    m.halt.data.state = if m.data.state = .moving then .stopping else m.data.state := by
  unfold MotionController.halt MotionController.dropDemand
  dsimp only
  split_ifs <;> rfl

omit [Rounding] in
@[simp] lemma halt_completedMoves (m : MotionController) :
    m.halt.data.completedMoves = m.data.completedMoves := by
  unfold MotionController.halt MotionController.dropDemand
  dsimp only
  split_ifs <;> rfl

/-- `m'` agrees with `m` in what neither a `STOP` nor the dwell part touches. -/
structure MotionController.Keeps (m m' : MotionController) : Prop where
  config : m'.config = m.config
  initialized : m'.initialized = m.initialized
  pidConfig : m'.pid.config = m.pid.config
  pidInitialized : m'.pid.initialized = m.pid.initialized
  homing : m'.data.homing = m.data.homing
  position : m'.data.position = m.data.position
  velocity : m'.data.velocity = m.data.velocity
  feedbackValid : m'.data.feedbackValid = m.data.feedbackValid
  previousCount : m'.previousCount = m.previousCount
  sampled : m'.sampled = m.sampled

omit [Rounding] in
/-- What an accepted `STOP` leaves alone. -/
lemma halt_keeps (m : MotionController) : m.Keeps m.halt := by
  unfold MotionController.halt MotionController.dropDemand
  dsimp only
  split_ifs <;> exact ⟨rfl, rfl, rfl, rfl, rfl, rfl, rfl, rfl, rfl, rfl⟩

omit [Rounding] in
/-- The difference of two logical counts is the difference of the raw counters. -/
lemma deltaBits_signedBits {m : MotionController} {offset previous raw : UInt32}
    (h : m.previousCount = signedBits (previous + offset)) :
    m.deltaBits (signedBits (raw + offset)) = raw - previous := by
  rw [MotionController.deltaBits, h, toUInt32_signedBits, toUInt32_signedBits]
  grind

/-- The outcomes of a sample: it fails, before or after reading the encoder, or it is accepted. -/
lemma motionSample_cases (x : Axis) (dt : FloatValue) :
    (∃ y, x.Frame y ∧ y.motion.data.state = x.motion.data.state ∧
      motionSample x dt = (false, fail y)) ∨
    (∃ count, x.io.encoderGetCount = some count ∧ x.motion.badCount count dt = false ∧
      motionSample x dt =
        (true, { io := x.io.afterEncoder, motion := x.motion.accept count dt })) := by
  unfold motionSample
  have hread : x.Frame { x with io := x.io.afterEncoder } := { Axis.Frame.refl x with }
  split_ifs with hinput
  · exact Or.inl ⟨x, .refl x, rfl, rfl⟩
  · split
    · exact Or.inl ⟨_, hread, rfl, rfl⟩
    · next count hcount =>
      split_ifs with hbad
      · exact Or.inl ⟨_, hread, rfl, rfl⟩
      · exact Or.inr ⟨count, hcount, by simpa using hbad, rfl⟩

/-- The outcomes of a command: it is refused and changes nothing, or it is an accepted `STOP`, or
an accepted motion from `IDLE` to a target inside the travel. -/
lemma motionCommand_cases (x : Axis) (command : MotionCommand) :
    ((motionCommand x command).1 ≠ .accepted ∧ (motionCommand x command).2 = x) ∨
    (command.type = .stop ∧
      motionCommand x command = (.accepted, { io := x.io.motorDisable, motion := x.motion.halt })) ∨
    ((command.type = .moveAbs ∨ command.type = .moveRel) ∧ x.motion.data.state = .idle ∧
      x.motion.data.feedbackValid = true ∧
      x.motion.outOfRange (motionTarget x.motion command) = false ∧
      motionCommand x command =
        (.accepted, { x with motion := x.motion.start (motionTarget x.motion command) })) := by
  unfold motionCommand
  split_ifs with hinput hstop hmove hstate hrange
  · exact Or.inl ⟨nofun, rfl⟩
  · exact Or.inr (Or.inl ⟨hstop, rfl⟩)
  · exact Or.inl ⟨nofun, rfl⟩
  · exact Or.inl ⟨nofun, rfl⟩
  · exact Or.inl ⟨nofun, rfl⟩
  · refine Or.inr (Or.inr ⟨?_, not_not.mp hstate, ?_, by simpa using hrange, rfl⟩)
    · by_contra hne
      exact hmove (not_or.mp hne)
    · simp only [Bool.or_eq_true, Bool.not_eq_true', not_or, Bool.not_eq_false] at hinput
      exact hinput.2

/-- The dwell part keeps the state, or leaves `MOVING` or `STOPPING` for `IDLE`. -/
lemma updated_state (m : MotionController) :
    m.updated.data.state = m.data.state ∨
      (m.data.state = .moving ∨ m.data.state = .stopping) ∧ m.updated.data.state = .idle := by
  unfold MotionController.updated MotionController.dwell
  split_ifs with h hdone hmoving
  · exact Or.inr ⟨h, rfl⟩
  · exact Or.inr ⟨h, rfl⟩
  · exact Or.inl rfl
  · exact Or.inl rfl

/-- The dwell part counts a completed move when it ends a `MOVING` state. -/
lemma updated_completedMoves (m : MotionController) :
    m.updated.data.completedMoves =
      if m.data.state = .moving ∧ m.updated.data.state ≠ .moving then m.data.completedMoves + 1
      else m.data.completedMoves := by
  have hstate : m.withError.data.state = m.data.state := rfl
  have hmoves : m.withError.data.completedMoves = m.data.completedMoves := rfl
  unfold MotionController.updated MotionController.dwell
  rw [hstate, hmoves]
  by_cases hactive : m.data.state = .moving ∨ m.data.state = .stopping
  · rw [if_pos hactive]
    by_cases hdone : m.withError.config.dwellCycles ≤ m.withError.nextStable
    · simp [if_pos hdone]
    · simp only [if_neg hdone, hstate, hmoves]
      exact (if_neg fun h => h.2 h.1).symm
  · rw [if_neg hactive, hstate, hmoves]
    exact (if_neg fun h => h.2 h.1).symm

/-- What the dwell part leaves alone. -/
lemma updated_keeps (m : MotionController) : m.Keeps m.updated := by
  unfold MotionController.updated MotionController.dwell
  split_ifs <;> exact ⟨rfl, rfl, rfl, rfl, rfl, rfl, rfl, rfl, rfl, rfl⟩

/-- The outcomes of an update: it fails with the counters and the homing record unchanged, it
rests, or it drives the motor in `MOVING`. -/
lemma motionUpdate_cases (x : Axis) (dt : FloatValue) :
    (∃ y, x.Frame y ∧ y.motion.data.state = x.motion.data.state ∧
      motionUpdate x dt = (false, fail y)) ∨
    (x.motion.updated.data.state ≠ .moving ∧
      motionUpdate x dt = (true, motionRest { x with motion := x.motion.updated })) ∨
    (∃ out pid, x.motion.updated.data.state = .moving ∧
      (motorSetOutput x.io.motor out).1 = .ok ∧
      motionUpdate x dt = (true,
        { io := { x.io with motor := (motorSetOutput x.io.motor out).2 }
          motion := x.motion.updated.withOutput out pid })) := by
  unfold motionUpdate
  split_ifs with hinput
  · exact Or.inl ⟨x, .refl x, rfl, rfl⟩
  dsimp only
  split_ifs with hmoving
  · have hkeeps := updated_keeps x.motion
    have hmoves : x.motion.updated.data.completedMoves = x.motion.data.completedMoves := by
      rw [updated_completedMoves, if_neg fun h => h.2 hmoving]
    have hframe : x.Frame { x with motion := x.motion.updated } :=
      ⟨rfl, rfl, rfl, rfl, rfl, rfl, hkeeps.config, hkeeps.initialized, hkeeps.pidConfig,
        hkeeps.pidInitialized, hmoves, hkeeps.homing⟩
    have hstate : x.motion.updated.data.state = x.motion.data.state := by
      rcases updated_state x.motion with h | ⟨-, h⟩
      · exact h
      · simp [h] at hmoving
    unfold motionDrive
    split
    · exact Or.inl ⟨_, hframe, hstate, rfl⟩
    · next out pid hstep =>
      obtain ⟨hpid, hpidInit⟩ := pidUpdate_config hstep
      dsimp only
      split_ifs with hok
      · exact Or.inr (Or.inr ⟨out, pid, hmoving, hok, rfl⟩)
      · have hdriven : x.Frame
            { io := { x.io with motor := (motorSetOutput x.io.motor out).2 }
              motion := x.motion.updated.withOutput out pid } :=
          ⟨motorSetOutput_initialized _ _, motorSetOutput_inhibited _ _,
            motorSetOutput_negativeBlocked _ _, rfl, rfl, rfl, hkeeps.config, hkeeps.initialized,
            hpid.trans hkeeps.pidConfig, hpidInit.trans hkeeps.pidInitialized, hmoves,
            hkeeps.homing⟩
        exact Or.inl ⟨_, hdriven, hstate, rfl⟩
  · exact Or.inr (Or.inl ⟨hmoving, rfl⟩)

end MotionFirmware
