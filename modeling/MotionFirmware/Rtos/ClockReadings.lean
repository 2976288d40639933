import MotionFirmware.Rtos.MotionTask

/-!
# The readings of the clock

The values of `platform_time_ms` that an action reads, in order.  The reading that
`runtime_safety_enforce` stores in `zero_ms` is left out: whether it takes place depends on the
values of `zero_ms` and `detection_ms`, and nothing else uses it.
-/

namespace MotionFirmware

/-- The reading of `runtime_safety_sync`, for the elapsed time of a seek. -/
def syncReadings (w : World) : List UInt32 :=
  if w.safety.state ≠ .idle ∧ w.motion.data.state = .homing then [w.io.platformTimeMs] else []

/-- The readings of the `ESTOP` branch of `runtime_safety_command`. -/
def estopReadings (w : World) : List UInt32 :=
  w.io.platformTimeMs :: syncReadings (raiseEstop w)

variable [Rounding]

/-- The readings with which Motion shows its state to the safety manager. -/
def reevaluateReadings (w : World) : List UInt32 :=
  w.io.platformTimeMs :: syncReadings (runtimeSafetyEvaluate w.publish)

/-- The readings of the `HOME` branch of `runtime_safety_command`. -/
def homeReadings (w : World) : List UInt32 :=
  let begun := homingBegin w.afterTime.toAxis w.io.platformTimeMs
  w.io.platformTimeMs ::
    if begun.1 = .accepted then reevaluateReadings { w.afterTime with toAxis := begun.2 } else []

/-- The readings of the departure branch of `runtime_safety_command`. -/
def departReadings (w : World) (command : MotionCommand) : List UInt32 :=
  if motionTarget w.motion command ≤ w.motion.data.position.toInt then []
  else reevaluateReadings { w with toAxis := (motionCommand w.toAxis command).2 }

/-- The readings of `runtime_safety_command`. -/
def commandReadings (w : World) (command : MotionCommand) : List UInt32 :=
  if command.type = .estop then estopReadings w
  else if command.type = .reset then
    if w.safety.state = .idle ∧ w.motion.data.state ≠ .idle then [] else [w.io.platformTimeMs]
  else if w.safety.state = .idle ∧ w.motion.data.state = .homing ∧ command.type = .stop then
    [w.io.platformTimeMs]
  else if (w.safety.state ≠ .idle ∨ w.io.motor.inhibited) ∧ !w.parkedHome then []
  else if command.type = .home then homeReadings w
  else if w.motion.data.state = .homing then []
  else if w.safety.homeContact ∧ (command.type = .moveAbs ∨ command.type = .moveRel) then
    departReadings w command
  else []

/-- The readings of `finishHoming`. -/
def finishReadings (w : World) (now : UInt32) : List UInt32 :=
  if w.motion.data.homing.result = .timeout then syncReadings (raiseTimeout w now)
  else if w.motion.data.homing.result = .complete then [w.io.platformTimeMs]
  else []

/-- The readings of `seekUpdate`. -/
def seekReadings (w : World) (inputs : GpioInputs) (now : UInt32) : List UInt32 :=
  let updated := homingUpdate w.toAxis inputs now
  if !updated.1 then [] else finishReadings { w with toAxis := updated.2 } now

/-- The readings of the `HOMING` branch of `runtime_control_update`. -/
def homingReadings (w : World) (now : UInt32) : List UInt32 :=
  let gpio := w.io.gpioReadInputs
  let w := { w with io := w.io.afterGpio }
  if hazardRead gpio then
    let v := reevaluate w
    reevaluateReadings w ++
      if v.safety.state ≠ .idle then [] else seekReadings v (gpio.getD {}) now
  else seekReadings w (gpio.getD {}) now

/-- The readings of `runtime_control_update`. -/
def updateReadings (w : World) (now : UInt32) : List UInt32 :=
  if w.motion.data.state ≠ .homing then
    if w.safety.homeContact then reevaluateReadings w else []
  else homingReadings w now

/-- The readings of the control section of a release. -/
def controlReadings (w : World) : List UInt32 :=
  let v := runtimeSafetySync w
  let updated := attemptUpdate v
  syncReadings w ++ (if v.task.sampled then updateReadings v v.task.nowMs else []) ++
    if updated.1 then []
    else
      let u := if v.motion.data.state.active then updated.2.countAbort else updated.2
      syncReadings (raiseInternal u u.task.nowMs)

/-- The readings of a section of the Motion task. -/
def motionReadings (w : World) : List UInt32 :=
  match w.task.phase with
  | .anchor | .clock => [w.io.platformTimeMs]
  | .reconcile => syncReadings (if w.task.sampled then w else sampleFailed w)
  | .execute _ command => if w.task.app = .idle then commandReadings w command else []
  | .update => controlReadings w
  | _ => []

/-- The readings of an action. -/
def readings (a : Action) (w : World) : List UInt32 :=
  match a with
  | .motion _ => motionReadings w
  | .safety | .heartbeat _ => [w.io.platformTimeMs]
  | .request _ => []

end MotionFirmware
