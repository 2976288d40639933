import MotionFirmware.Control.Homing
import MotionFirmware.Health.TaskHealth
import MotionFirmware.Safety.SafetyHistory

/-!
# The runtime and its safety adapter

`runtime.h` and `safety_runtime.c`.  A `World` is everything the tasks share, with the private
state of the Motion task: the drivers, Motion's controller, `runtime_data` and the position of the
Motion task in its loop.  The functions of `safety_runtime.c` are executed inside one critical
section, so each of them is one function on worlds.

The field `calls` is not in the source.  It records, in order, the operations of the safety manager
that the runtime has called, so that statements can speak of "every evaluation since ..."; no
function reads it.
-/

namespace MotionFirmware

/-- `runtime_snapshot_t`, the part of it that the control and safety tasks read or write. -/
structure RuntimeData where
  state : AppState := .boot
  health : TaskHealthId → TaskHealth := fun _ => {}
  receivedByType : CommandType → UInt32 := fun _ => 0
  lastCommand : MotionCommand := ⟨.moveAbs, 0⟩
  motionMinGapMs : UInt32 := 0
  motionMaxGapMs : UInt32 := 0
  encoderCount : Int32 := 0
  encoderValid : Bool := false
  motorOutput : FloatValue := 0
  gpio : GpioInputs := {}
  gpioValid : Bool := false
  /-- The snapshot of the controller that the Safety task sees. -/
  motion : MotionSnapshot := {}
  lastMotionResult : MotionResult := .accepted
  motionAccepted : UInt32 := 0
  motionRejected : UInt32 := 0
  controlErrors : UInt32 := 0
  safety : SafetyManager := {}

/-- The next critical section of the Motion task. -/
inductive Phase where
  /-- `application_init`. -/
  | create
  /-- `motion_init`. -/
  | configure
  /-- The first reading of `previous_ms`. -/
  | anchor
  /-- The start of a release: `application_step` while starting up. -/
  | begin
  /-- The reading of `now_ms`. -/
  | clock
  /-- `motion_sample`. -/
  | sample
  /-- The critical section after the sample. -/
  | reconcile
  /-- The `i`-th `command_bus_receive`. -/
  | receive (i : ℕ)
  /-- The critical section that executes the `i`-th command. -/
  | execute (i : ℕ) (command : MotionCommand)
  /-- The critical section that counts the result of the `i`-th command. -/
  | report (i : ℕ) (result : MotionResult)
  /-- The critical section with the control update and the publication. -/
  | update
  deriving DecidableEq

/-- The local variables of `motion_task`. -/
structure MotionTask where
  phase : Phase := .create
  app : AppState := .boot
  first : Bool := true
  previousMs : UInt32 := 0
  nowMs : UInt32 := 0
  gap : UInt32 := 0
  dt : FloatValue := 0
  beforeSafety : AppState := .boot
  sampled : Bool := false

/-- The drivers, Motion's controller, `runtime_data`, the Motion task and the recorded calls. -/
structure World extends Axis where
  rt : RuntimeData := {}
  task : MotionTask := {}
  calls : List SafetyCall := []

/-- `HEALTH_MAXIMUM_AGE_MS`. -/
def healthMaximumAgeMs : UInt32 := 150

/-- The heartbeat of one task is fresh at `now`. -/
def RuntimeData.fresh (rt : RuntimeData) (id : TaskHealthId) (now : UInt32) : Bool :=
  taskHealthFresh (rt.health id) now healthMaximumAgeMs

/-- The mask of the tasks without a fresh heartbeat, as `runtime_safety_evaluate` collects it. -/
def RuntimeData.unhealthyMask (rt : RuntimeData) (now : UInt32) : UInt32 :=
  (if rt.fresh .motion now then 0 else 1) ||| (if rt.fresh .safety now then 0 else 2) |||
    (if rt.fresh .comms now then 0 else 4)

namespace World

/-- The safety manager of a world. -/
@[simp] abbrev safety (w : World) : SafetyManager := w.rt.safety

/-- Replace the safety manager. -/
def setSafety (w : World) (s : SafetyManager) : World := { w with rt := { w.rt with safety := s } }

/-- Replace the safety manager by the result of a recorded call. -/
def callSafety (w : World) (call : SafetyCall) (s : SafetyManager) : World :=
  { w with rt := { w.rt with safety := s }, calls := w.calls ++ [call] }

/-- `runtime_data.motion = m->data`. -/
def publish (w : World) : World := { w with rt := { w.rt with motion := w.motion.data } }

/-- `++runtime_data.safety.aborted_moves`. -/
def countAbort (w : World) : World :=
  w.setSafety { w.safety with abortedMoves := w.safety.abortedMoves + 1 }

/-- Run an operation of the controller on the axis of a world. -/
def onAxis (w : World) (f : Axis → Axis) : World := { w with toAxis := f w.toAxis }

/-- Consume one reading of the clock. -/
def afterTime (w : World) : World := { w with io := w.io.afterTime }

/-- `contact` of `runtime_safety_enforce`. -/
def contact (w : World) : Bool := w.safety.inputsValid && w.safety.inputs.negativeLimit

/-- `home_stop` of `runtime_safety_enforce`. -/
def homeStop (w : World) : Bool :=
  w.contact && (w.rt.motion.state == .homing ||
    (w.safety.homeContact && w.rt.motion.state != .moving))

/-- `unsafe` of `runtime_safety_enforce`. -/
def isUnsafe (w : World) : Bool :=
  w.safety.state != .idle || !w.safety.healthy || w.homeStop

end World

/-- The motor after `runtime_safety_enforce`. -/
def enforcedMotor (w : World) : Motor :=
  let motor := motorSafetyBlockNegative w.io.motor (w.safety.homeContact && w.contact)
  if w.isUnsafe ≠ motor.inhibited then motorSafetyInhibit motor w.isUnsafe else motor

/-- The duties that `runtime_safety_enforce` records in the safety manager. -/
def recordPwm (w : World) : SafetyManager :=
  let motor := motorSafetyBlockNegative w.io.motor (w.safety.homeContact && w.contact)
  { w.safety with
    requestedPwm := motor.requested
    requestedAtTrip :=
      if w.isUnsafe ≠ motor.inhibited ∧ w.isUnsafe then motor.requested
      else w.safety.requestedAtTrip
    appliedPwm := (enforcedMotor w).output }

/-- The last part of `runtime_safety_enforce`, run while a fault or an E-stop is latched. -/
def recordLatched (w : World) : World :=
  if w.safety.state ≠ .idle then
    let w :=
      if w.safety.zeroMs ≠ w.safety.detectionMs then
        (w.setSafety { w.safety with zeroMs := w.io.platformTimeMs }).afterTime
      else w
    { w with rt := { w.rt with state := w.safety.state, motorOutput := 0 } }
  else w

/-- `runtime_safety_enforce`. -/
def runtimeSafetyEnforce (w : World) : World :=
  recordLatched
    { w with
      io := { w.io with motor := enforcedMotor w }
      rt := { w.rt with safety := recordPwm w } }

/-- The arguments with which `runtime_safety_evaluate` calls `safety_evaluate`. -/
def evaluation (w : World) : Evaluation :=
  let count := w.io.encoderGetCount
  { now := w.io.platformTimeMs
    inputs := w.io.gpioReadInputs.getD {}
    valid := w.io.gpioReadInputs.isSome
    motion := { w.rt.motion with
      feedbackValid := count.isSome, position := count.getD w.rt.motion.position }
    pwm := w.io.motor.output
    unhealthyMask := w.rt.unhealthyMask w.io.platformTimeMs }

/-- `homing_abort` of `runtime_safety_sync`, with the elapsed time it records first. -/
def abortHoming (w : World) (result : HomingResult) : World :=
  let now := w.io.platformTimeMs
  w.afterTime.onAxis fun x => homingAbort { x with motion := x.motion.withElapsed now } result

/-- The controller that has adopted the state of a latch, or `IDLE` after a reset. -/
def MotionController.adopt (m : MotionController) (state : AppState) : MotionController :=
  { m with
    data := { m.data with
      state := state, target := m.data.position, pwm := 0, pidOutput := 0, stableCycles := 0 }
    pid := pidReset m.pid }

/-- The outcome of the attempt that a latch interrupts. -/
def latchResult (state : AppState) : HomingResult :=
  if state = .estop then .estopped else .faulted

/-- `runtime_safety_sync`. -/
def runtimeSafetySync (w : World) : World :=
  let state := w.safety.state
  if state = .idle then w
  else
    let w := if w.motion.data.state.active then w.countAbort else w
    let w := if w.motion.data.state = .homing then abortHoming w (latchResult state) else w
    { w with motion := w.motion.adopt state }

variable [Rounding]

/-- `runtime_safety_evaluate` up to its call of `runtime_safety_enforce`. -/
def applyEvaluation (w : World) : World :=
  let c := evaluation w
  { w with
    io := w.io.afterGpio.afterTime.afterEncoder
    rt := { w.rt with
      safety := safetyEvaluate w.safety c, gpio := c.inputs, gpioValid := c.valid }
    calls := w.calls ++ [.evaluate c w.io.trueTime] }

/-- `runtime_safety_evaluate`. -/
def runtimeSafetyEvaluate (w : World) : World :=
  runtimeSafetyEnforce (applyEvaluation w)

/-- The three statements with which Motion shows its state to the safety manager: publication,
evaluation and adoption of the outcome. -/
def reevaluate (w : World) : World :=
  runtimeSafetySync (runtimeSafetyEvaluate w.publish)

/-- `safety_estop` followed by `runtime_safety_enforce`, in the `ESTOP` branch. -/
def raiseEstop (w : World) : World :=
  let now := w.io.platformTimeMs
  runtimeSafetyEnforce (w.afterTime.callSafety (.estop now) (safetyEstop w.safety now))

/-- The `ESTOP` branch of `runtime_safety_command`. -/
def commandEstop (w : World) : World :=
  runtimeSafetySync (raiseEstop w)

/-- An accepted reset: `s` is what `safety_reset` leaves. -/
def acceptReset (w : World) (s : SafetyManager) : World :=
  let w := w.callSafety .reset s
  let w := { w with io := { w.io with
    motor := motorSafetyInhibit (motorDisable w.io.motor) false } }
  { w with motion := w.motion.adopt .idle }

/-- The `RESET` branch of `runtime_safety_command`. -/
def commandReset (w : World) : MotionResult × World :=
  if w.safety.state = .idle ∧ w.motion.data.state ≠ .idle then (.invalidState, w)
  else
    let w := runtimeSafetyEvaluate w
    match safetyReset w.safety with
    | none => (.invalidState, w.callSafety .reset w.safety)
    | some s => (.accepted, acceptReset w s)

/-- The `STOP` of a running `HOME` in `runtime_safety_command`. -/
def commandStopHoming (w : World) : World :=
  let w := (abortHoming w .stopped).countAbort
  let w := { w with motion := { w.motion with data := { w.motion.data with state := .stopping } } }
  w.publish

/-- `parked_home`: the one closed gate under which `runtime_safety_command` accepts a motion. -/
def World.parkedHome (w : World) : Bool :=
  w.safety.state == .idle && w.safety.healthy && w.safety.homeContact &&
    w.motion.data.state == .idle

/-- The `HOME` branch of `runtime_safety_command`. -/
def commandHome (w : World) : MotionResult × World :=
  let now := w.io.platformTimeMs
  let w := w.afterTime
  let begun := homingBegin w.toAxis now
  let w := { w with toAxis := begun.2 }.publish
  (begun.1, if begun.1 = .accepted then runtimeSafetySync (runtimeSafetyEvaluate w) else w)

/-- The departure branch of `runtime_safety_command`, taken while the allowance holds. -/
def commandDepart (w : World) (command : MotionCommand) : MotionResult × World :=
  if motionTarget w.motion command ≤ w.motion.data.position.toInt then (.invalidState, w)
  else
    let commanded := motionCommand w.toAxis command
    (commanded.1, reevaluate { w with toAxis := commanded.2 })

/-- `runtime_safety_command`. -/
def runtimeSafetyCommand (w : World) (command : MotionCommand) : MotionResult × World :=
  if command.type = .estop then (.accepted, commandEstop w)
  else if command.type = .reset then commandReset w
  else if w.safety.state = .idle ∧ w.motion.data.state = .homing ∧ command.type = .stop then
    (.accepted, commandStopHoming w)
  else if (w.safety.state ≠ .idle ∨ w.io.motor.inhibited) ∧ !w.parkedHome then
    (if command.type = .stop then .accepted else .invalidState, w)
  else if command.type = .home then commandHome w
  else if w.motion.data.state = .homing then (.invalidState, w)
  else if w.safety.homeContact ∧ (command.type = .moveAbs ∨ command.type = .moveRel) then
    commandDepart w command
  else
    let commanded := motionCommand w.toAxis command
    (commanded.1, { w with toAxis := commanded.2 })

/-- `safety_homing_timeout` followed by `runtime_safety_enforce`. -/
def raiseTimeout (w : World) (now : UInt32) : World :=
  runtimeSafetyEnforce
    (w.callSafety (.homingTimeout now) (safetyHomingTimeout w.safety now))

/-- The departure allowance of a completed `HOME`, and the publication that follows it. -/
def grantContact (w : World) : World :=
  (w.callSafety .grantContact { w.safety with homeContact := true }).publish

/-- The end of `runtime_control_update`, after a successful `homing_update`. -/
def finishHoming (w : World) (now : UInt32) : World :=
  if w.motion.data.homing.result = .timeout then runtimeSafetySync (raiseTimeout w now)
  else if w.motion.data.homing.result = .complete then runtimeSafetyEvaluate (grantContact w)
  else w

/-- The update of a running `HOME` with the inputs that Motion has read. -/
def seekUpdate (w : World) (inputs : GpioInputs) (now : UInt32) : Bool × World :=
  let updated := homingUpdate w.toAxis inputs now
  let w := { w with toAxis := updated.2 }
  if !updated.1 then (false, w) else (true, finishHoming w now)

/-- Motion's own reading of the inputs shows something that the safety manager must see first. -/
def hazardRead (gpio : Option GpioInputs) : Bool :=
  match gpio with
  | none => true
  | some inputs => inputs.estop || inputs.positiveLimit || inputs.negativeLimit

/-- The `HOMING` branch of `runtime_control_update`. -/
def homingControl (w : World) (now : UInt32) : Bool × World :=
  let gpio := w.io.gpioReadInputs
  let w := { w with io := w.io.afterGpio }
  if hazardRead gpio then
    let w := reevaluate w
    if w.safety.state ≠ .idle then (true, w) else seekUpdate w (gpio.getD {}) now
  else seekUpdate w (gpio.getD {}) now

/-- `runtime_control_update`. -/
def runtimeControlUpdate (w : World) (dt : FloatValue) (now : UInt32) : Bool × World :=
  if w.motion.data.state ≠ .homing then
    let w := if w.safety.homeContact then reevaluate w else w
    let updated := motionUpdate w.toAxis dt
    (updated.1, { w with toAxis := updated.2 })
  else homingControl w now

/-- `safety_internal_fault` followed by `runtime_safety_enforce`, as the Motion task calls them. -/
def raiseInternal (w : World) (now : UInt32) : World :=
  runtimeSafetyEnforce (w.callSafety (.internalFault now) (safetyInternalFault w.safety now))

end MotionFirmware
