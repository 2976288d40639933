import MotionFirmware.Control.MotionController

/-!
# The fault manager and the safety manager

`fault_manager.c`, `safety_manager.c` and the freshness test of `task_health.c`.  The long body of
`safety_evaluate` is cut at its comments into one function per check; `safetyEvaluate` composes
them in the order of the source.
-/

namespace MotionFirmware

/-- `fault_code_t`. -/
inductive FaultCode where
  | none
  | positiveLimit
  | negativeLimit
  | noMotionUnderCommand
  | watchdog
  | internal
  | homingTimeout
  deriving DecidableEq, Repr, Inhabited

/-- `fault_name`; nothing stands for a value outside of the enumeration. -/
def faultName : Option FaultCode → String
  | some .none => "NONE"
  | some .positiveLimit => "POSITIVE_LIMIT"
  | some .negativeLimit => "NEGATIVE_LIMIT"
  | some .noMotionUnderCommand => "NO_MOTION_UNDER_COMMAND"
  | some .watchdog => "WATCHDOG"
  | some .homingTimeout => "HOMING_TIMEOUT"
  | _ => "INTERNAL"

/-- `fault_record_t`. -/
structure FaultRecord where
  code : FaultCode := .none
  timestampMs : UInt32 := 0
  source : UInt32 := 0
  conditionActive : Bool := false
  deriving DecidableEq, Repr, Inhabited

/-- `fault_manager_t`. -/
structure FaultManager where
  active : FaultRecord := {}
  history : FaultRecord := {}
  deriving DecidableEq, Repr, Inhabited

/-- `fault_raise`: the first fault is retained. -/
def faultRaise (m : FaultManager) (code : FaultCode) (now source : UInt32) : FaultManager :=
  if m.active.code = .none ∧ code ≠ .none then { m with active := ⟨code, now, source, true⟩ }
  else m

/-- `fault_reset`; `none` when the condition of the active fault is still present. -/
def faultReset (m : FaultManager) : Option FaultManager :=
  if m.active.conditionActive then none
  else some { active := {}, history := if m.active.code ≠ .none then m.active else m.history }

/-- `safety_manager_t`. -/
structure SafetyManager where
  faults : FaultManager := {}
  state : AppState := .boot
  inputs : GpioInputs := {}
  inputsValid : Bool := false
  healthy : Bool := false
  candidate : Bool := false
  encoderRecoveryRequired : Bool := false
  internalActive : Bool := false
  unhealthyMask : UInt32 := 0
  candidateMs : UInt32 := 0
  candidateStartMs : UInt32 := 0
  detectionMs : UInt32 := 0
  zeroMs : UInt32 := 0
  startupMs : UInt32 := 0
  watchdogRefreshes : UInt32 := 0
  abortedMoves : UInt32 := 0
  faultPosition : Int32 := 0
  requestedPwm : FloatValue := 0
  appliedPwm : FloatValue := 0
  requestedAtTrip : FloatValue := 0
  homeContact : Bool := false
  deriving DecidableEq, Inhabited

/-- `SAFETY_STALL_VELOCITY`, a value that every format represents. -/
def safetyStallVelocity : FloatValue := .finite 25

/-- `SAFETY_STALL_TIMEOUT_MS`. -/
def safetyStallTimeoutMs : UInt32 := 500

/-- `SAFETY_STARTUP_GRACE_MS`. -/
def safetyStartupGraceMs : UInt32 := 200

/-- `safety_init`. -/
def safetyInit (now : UInt32) : SafetyManager :=
  { state := .idle, startupMs := now }

/-- `trip`. -/
def trip (s : SafetyManager) (code : FaultCode) (now source : UInt32) : SafetyManager :=
  let s := { s with homeContact := false, faults := faultRaise s.faults code now source }
  if s.state ≠ .estop ∧ s.state ≠ .fault then { s with state := .fault, detectionMs := now } else s

/-- `safety_estop`. -/
def safetyEstop (s : SafetyManager) (now : UInt32) : SafetyManager :=
  { s with
    homeContact := false
    detectionMs := if s.state ≠ .estop then now else s.detectionMs
    state := .estop }

/-- `safety_internal_fault`. -/
def safetyInternalFault (s : SafetyManager) (now : UInt32) : SafetyManager :=
  trip { s with internalActive := true } .internal now 0

/-- `safety_homing_timeout`. -/
def safetyHomingTimeout (s : SafetyManager) (now : UInt32) : SafetyManager :=
  trip s .homingTimeout now 0

/-- The arguments of a `safety_evaluate` call. -/
structure Evaluation where
  now : UInt32
  inputs : GpioInputs
  valid : Bool
  motion : MotionSnapshot
  pwm : FloatValue
  unhealthyMask : UInt32
  deriving DecidableEq

namespace Evaluation

/-- `expected_home`: the negative switch is the expected end of a seek. -/
def expectedHome (c : Evaluation) (state : AppState) : Bool :=
  c.motion.state == .homing && state == .idle

/-- `departing`: a positive move away from the switch. -/
def departing (c : Evaluation) : Bool :=
  c.motion.state == .moving && decide (c.motion.position < c.motion.target) && decide (0 ≤ c.pwm)

/-- `parked`: at rest on the switch. -/
def parked (c : Evaluation) : Bool :=
  (c.motion.state == .idle || c.motion.state == .stopping) && c.pwm == 0

/-- The distance of the reported position from a recorded one, as integers. -/
def displacement (c : Evaluation) (position : Int32) : ℕ :=
  (c.motion.position.toInt - position.toInt).natAbs

end Evaluation

/-- The first assignments of `safety_evaluate`: what was sampled. -/
def recordInputs (s : SafetyManager) (c : Evaluation) : SafetyManager :=
  { s with
    inputs := c.inputs
    inputsValid := c.valid
    unhealthyMask := c.unhealthyMask
    healthy := c.unhealthyMask == 0 }

/-- Failed inputs are an internal fault. -/
def checkValid (s : SafetyManager) (c : Evaluation) : SafetyManager :=
  if !c.valid then safetyInternalFault s c.now else s

/-- The E-stop input. -/
def checkEstop (s : SafetyManager) (c : Evaluation) : SafetyManager :=
  if c.inputs.estop then safetyEstop s c.now else s

/-- The positive limit. -/
def checkPositive (s : SafetyManager) (c : Evaluation) : SafetyManager :=
  if c.inputs.positiveLimit then trip s .positiveLimit c.now 0 else s

/-- The release of the negative switch ends the departure allowance. -/
def checkRelease (s : SafetyManager) (c : Evaluation) : SafetyManager :=
  if c.valid && !c.inputs.negativeLimit then { s with homeContact := false } else s

/-- The negative switch is active although neither a seek nor the allowance expects it. -/
def unexpectedNegative (s : SafetyManager) (c : Evaluation) : Bool :=
  c.inputs.negativeLimit && !c.expectedHome s.state &&
    !(s.homeContact && (c.parked || c.departing))

/-- The negative limit. -/
def checkNegative (s : SafetyManager) (c : Evaluation) : SafetyManager :=
  if unexpectedNegative s c then trip s .negativeLimit c.now 0 else s

/-- Missing heartbeats after the start-up grace. -/
def supervisionFailed (s : SafetyManager) (c : Evaluation) : Bool :=
  !s.healthy && decide (safetyStartupGraceMs ≤ c.now - s.startupMs)

/-- The heartbeat supervision. -/
def checkWatchdog (s : SafetyManager) (c : Evaluation) : SafetyManager :=
  if supervisionFailed s c then trip s .watchdog c.now c.unhealthyMask else s

/-- The encoder has moved since the no-motion fault. -/
def recovered (s : SafetyManager) (c : Evaluation) : Bool :=
  s.encoderRecoveryRequired && c.motion.feedbackValid && decide (2 ≤ c.displacement s.faultPosition)

/-- The recovery evidence after a no-motion fault. -/
def checkRecovery (s : SafetyManager) (c : Evaluation) : SafetyManager :=
  if recovered s c then { s with encoderRecoveryRequired := false } else s

/-- Every check of `safety_evaluate` before the no-motion detector. -/
def checkHazards (s : SafetyManager) (c : Evaluation) : SafetyManager :=
  checkRecovery (checkWatchdog (checkNegative (checkRelease (checkPositive (checkEstop (checkValid
    (recordInputs s c) c) c) c) c) c) c) c

/-- The start of the no-motion candidate that a qualifying evaluation sees. -/
def candidateStart (s : SafetyManager) (c : Evaluation) : UInt32 :=
  if s.candidate then s.candidateStartMs else c.now

/-- The state in which `expected_home` is evaluated: after the E-stop and positive-limit checks. -/
def stateAtContact (s : SafetyManager) (c : Evaluation) : AppState :=
  (checkRelease (checkPositive (checkEstop (checkValid (recordInputs s c) c) c) c) c).state

/-- The last assignment of `safety_evaluate`: is a recovery condition still present? -/
def recordCondition (s : SafetyManager) (c : Evaluation) : SafetyManager :=
  { s with faults := { s.faults with active := { s.faults.active with
      conditionActive := s.faults.active.code != .none &&
        (!c.valid || c.inputs.positiveLimit || c.inputs.negativeLimit || !s.healthy ||
          s.encoderRecoveryRequired || s.internalActive) } } }

/-- `safety_reset`; `none` when it is refused. -/
def safetyReset (s : SafetyManager) : Option SafetyManager :=
  if !s.inputsValid || s.inputs.estop || s.inputs.positiveLimit || s.inputs.negativeLimit ||
      !s.healthy || s.encoderRecoveryRequired || s.internalActive then none
  else
    (faultReset s.faults).map fun faults =>
      { s with faults := faults, state := .idle, candidate := false, candidateMs := 0 }

variable [Rounding]

/-- `SAFETY_STALL_PWM`. -/
def safetyStallPwm : FloatValue := .ofRat (3 / 10)

/-- `qualifying`: duty is applied and the encoder does not answer.  The manager is the one after
the hazard checks, `contact` the safety state when the negative switch was checked. -/
def qualifying (s : SafetyManager) (c : Evaluation) (contact : AppState) : Bool :=
  s.state == .idle && (c.motion.state == .moving || c.motion.state == .homing) &&
    !(c.expectedHome contact && c.inputs.negativeLimit) && c.motion.feedbackValid &&
    decide (safetyStallPwm ≤ c.pwm.abs) && decide (c.motion.velocity.abs ≤ safetyStallVelocity)

/-- The no-motion detector. -/
def checkStall (s : SafetyManager) (c : Evaluation) (contact : AppState) : SafetyManager :=
  if qualifying s c contact then
    let s := { s with
      candidate := true
      candidateStartMs := candidateStart s c
      candidateMs := c.now - candidateStart s c }
    if safetyStallTimeoutMs ≤ s.candidateMs then
      trip { s with encoderRecoveryRequired := true, faultPosition := c.motion.position }
        .noMotionUnderCommand c.now 0
    else s
  else { s with candidate := false, candidateMs := 0 }

/-- The evaluation ends in the trip of the no-motion detector. -/
def stalled (s : SafetyManager) (c : Evaluation) : Bool :=
  qualifying (checkHazards s c) c (stateAtContact s c) &&
    decide (safetyStallTimeoutMs ≤ c.now - candidateStart (checkHazards s c) c)

/-- `safety_evaluate`. -/
def safetyEvaluate (s : SafetyManager) (c : Evaluation) : SafetyManager :=
  recordCondition (checkStall (checkHazards s c) c (stateAtContact s c)) c

end MotionFirmware
