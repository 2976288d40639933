import MotionFirmware.Foundation.Binary32
import MotionFirmware.Foundation.Machine
import MotionFirmware.Rtos.SafetyRuntime

/-!
# The composed runtime

`motion_task.c`, `safety_task.c` and the start-up in `runtime.c`, as a machine.  Every critical
section of the Motion task, every access to a driver outside of one and every reading of the clock
is one action, and the Safety task, a heartbeat of any task or a foreign duty request may come
between any two of them.  The commands are what `command_bus_receive` returns: any command, or
none, at each of the two calls of a release.
-/

namespace MotionFirmware

/-- `MOTION_PERIOD_MS`. -/
def motionPeriodMs : UInt32 := 10

/-- The phase after the `i`-th command of a release; a release takes at most two. -/
def nextCommand (i : ℕ) : Phase :=
  if i + 1 < 2 then .receive (i + 1) else .update

namespace World

/-- Continue the Motion task with the given phase. -/
def goto (w : World) (phase : Phase) : World := { w with task := { w.task with phase := phase } }

/-- Disable the motor. -/
def disable (w : World) : World := { w with io := w.io.motorDisable }

end World

/-- `application_init`, at the start of the Motion task. -/
def taskCreate (w : World) : World :=
  { w.disable with task := { w.task with app := .boot, phase := .configure } }

/-- The first reading of `previous_ms`. -/
def taskAnchor (w : World) : World :=
  let now := w.io.platformTimeMs
  { w.afterTime with task := { w.task with previousMs := now, phase := .begin } }

/-- The start of a release: `application_step` while `BOOT` or `INITIALIZING`. -/
def taskBegin (w : World) : World :=
  if w.task.app = .boot ∨ w.task.app = .initializing then
    { w.disable with task := { w.task with app := applicationStep w.task.app, phase := .clock } }
  else w.goto .clock

/-- The count of a received command, and the choice of what to do with it. -/
def taskReceive (w : World) (i : ℕ) (received : Option MotionCommand) : World :=
  match received with
  | none => w.goto .update
  | some command =>
    let w := { w with rt := { w.rt with
      receivedByType :=
        Function.update w.rt.receivedByType command.type (w.rt.receivedByType command.type + 1)
      lastCommand := command } }
    if command.type = .status ∨ command.type = .help then w.goto (nextCommand i)
    else w.goto (.execute i command)

/-- The critical section that counts the result of a command. -/
def taskReport (w : World) (i : ℕ) (result : MotionResult) : World :=
  { w with
    rt := { w.rt with
      lastMotionResult := result
      motionAccepted := if result = .accepted then w.rt.motionAccepted + 1 else w.rt.motionAccepted
      motionRejected :=
        if result = .accepted then w.rt.motionRejected else w.rt.motionRejected + 1 }
    task := { w.task with phase := nextCommand i } }

/-- The publication at the end of a release. -/
def publishRelease (w : World) (updated : Bool) : World :=
  { w with
    rt := { w.rt with
      state :=
        if w.safety.state ≠ .idle then w.safety.state
        else if w.task.app = .idle then w.motion.data.state else w.task.app
      motion := w.motion.data
      encoderCount := w.motion.data.position
      encoderValid := w.motion.data.feedbackValid
      motorOutput := w.motion.data.pwm
      controlErrors := if updated then w.rt.controlErrors else w.rt.controlErrors + 1
      motionMinGapMs :=
        if !w.task.first ∧ (w.rt.motionMinGapMs = 0 ∨ w.task.gap < w.rt.motionMinGapMs) then
          w.task.gap
        else w.rt.motionMinGapMs
      motionMaxGapMs :=
        if !w.task.first ∧ w.rt.motionMaxGapMs < w.task.gap then w.task.gap
        else w.rt.motionMaxGapMs }
    task := { w.task with first := false, previousMs := w.task.nowMs, phase := .begin } }

variable [Rounding]

/-- `motion_init` with the default configuration.  A refusal ends the program, in `configASSERT`. -/
def taskConfigure (w : World) : World :=
  match motionInit w.toAxis motionDefaultConfig with
  | none => w
  | some x => { w with toAxis := x, task := { w.task with phase := .anchor } }

/-- The reading of `now_ms`, and the values that `motion_task` computes from it. -/
def taskClock (w : World) : World :=
  let now := w.io.platformTimeMs
  let gap := if w.task.first then motionPeriodMs else now - w.task.previousMs
  { w.afterTime with
    task := { w.task with
      nowMs := now
      gap := gap
      dt := .ofInt gap.toNat / .ofInt 1000
      beforeSafety := w.motion.data.state
      phase := .sample } }

/-- `motion_sample`. -/
def taskSample (w : World) : World :=
  let sampled := motionSample w.toAxis w.task.dt
  { w with
    toAxis := sampled.2
    task := { w.task with sampled := sampled.1, phase := .reconcile } }

/-- The treatment of a failed sample in the critical section that follows it. -/
def sampleFailed (w : World) : World :=
  let w := if w.task.beforeSafety.active then w.countAbort else w
  let w :=
    if w.task.beforeSafety = .homing then w.onAxis fun x => homingAbort x .faulted else w
  raiseInternal w w.task.nowMs

/-- The critical section after the sample. -/
def taskReconcile (w : World) : World :=
  (runtimeSafetySync (if w.task.sampled then w else sampleFailed w)).goto (.receive 0)

/-- The critical section that executes a command. -/
def taskExecute (w : World) (i : ℕ) (command : MotionCommand) : World :=
  let done :=
    if w.task.app = .idle then runtimeSafetyCommand w command else (.invalidState, w)
  done.2.goto (.report i done.1)

/-- `updated` of `motion_task`: the control update, unless the sample failed. -/
def attemptUpdate (w : World) : Bool × World :=
  if w.task.sampled then runtimeControlUpdate w w.task.dt w.task.nowMs else (false, w)

/-- The treatment of a failed update; `active` is `active_before_update`. -/
def updateFailed (w : World) (active : Bool) : World :=
  runtimeSafetySync (raiseInternal (if active then w.countAbort else w) w.task.nowMs)

/-- The control update of a release, before the publication. -/
def controlSection (w : World) : Bool × World :=
  let w := runtimeSafetySync w
  let updated := attemptUpdate w
  if updated.1 then updated else (false, updateFailed updated.2 w.motion.data.state.active)

/-- The last critical section of a release: the control update and the publication. -/
def taskUpdate (w : World) : World :=
  publishRelease (controlSection w).2 (controlSection w).1

/-- The next critical section of the Motion task. -/
def motionStep (w : World) (received : Option MotionCommand) : World :=
  match w.task.phase with
  | .create => taskCreate w
  | .configure => taskConfigure w
  | .anchor => taskAnchor w
  | .begin => taskBegin w
  | .clock => taskClock w
  | .sample => taskSample w
  | .reconcile => taskReconcile w
  | .receive i => taskReceive w i received
  | .execute i command => taskExecute w i command
  | .report i result => taskReport w i result
  | .update => taskUpdate w

/-- The critical section of the Safety task.  `watchdog_refresh` returns `true` once `watchdog_init`
has succeeded, without which `platform_init` fails; its result is left out. -/
def safetyTask (w : World) : World :=
  let w := runtimeSafetyEvaluate w
  if w.safety.healthy then
    w.setSafety { w.safety with watchdogRefreshes := w.safety.watchdogRefreshes + 1 }
  else w

/-- `runtime_heartbeat` of an observed heartbeat. -/
def runtimeHeartbeat (w : World) (id : TaskHealthId) : World :=
  let now := w.io.platformTimeMs
  { w.afterTime with
    rt := { w.rt with
      health := Function.update w.rt.health id (taskHealthBeat (w.rt.health id) now) } }

/-- A duty request that does not come from the Motion task. -/
def foreignRequest (w : World) (duty : FloatValue) : World :=
  { w with io := { w.io with motor := (motorSetOutput w.io.motor duty).2 } }

/-- What can happen next. -/
inductive Action where
  /-- The Motion task executes its next section; `received` is what the command bus returns. -/
  | motion (received : Option MotionCommand)
  /-- The Safety task executes its critical section. -/
  | safety
  /-- A heartbeat of a task is recorded. -/
  | heartbeat (id : TaskHealthId)
  /-- Somebody else requests a duty. -/
  | request (duty : FloatValue)
  deriving DecidableEq

/-- One action of the composed runtime. -/
def step (a : Action) (w : World) : World :=
  match a with
  | .motion received => motionStep w received
  | .safety => safetyTask w
  | .heartbeat id => runtimeHeartbeat w id
  | .request duty => foreignRequest w duty

/-- `runtime_init`, after `platform_init`: everything zero and the gate inhibited. -/
def runtimeInit (env : Environment) : World :=
  let io : Peripherals := { env := env, motor := motorInit }
  { io := { io.afterTime with motor := motorSafetyInhibit io.motor true }
    rt := { safety := safetyInit io.platformTimeMs } }

/-- The world after the given actions, from `runtime_init`. -/
def runtime (env : Environment) (as : List Action) : World :=
  Machine.run step (runtimeInit env) as

/-! ### Undisturbed releases -/

/-- The actions of one release that nothing interrupts, with at most two commands. -/
def release (commands : List MotionCommand) : List Action :=
  [.motion none, .motion none, .motion none, .motion none] ++
    (commands.flatMap fun c => [.motion (some c), .motion none, .motion none]) ++
    (if commands.length < 2 then [.motion none] else []) ++ [.motion none]

/-- The start of the Motion task, a heartbeat of every task, an evaluation, and the releases after
which the application accepts commands. -/
def startUp : List Action :=
  [.motion none, .motion none, .motion none, .heartbeat .motion, .heartbeat .safety,
    .heartbeat .comms, .safety] ++ release [] ++ release []

/-- The runtime in binary32 arithmetic. -/
def runtime32 (env : Environment) (as : List Action) : World := @runtime Binary32.rounding env as

/-- No switch is active, the encoder stands still, and a millisecond passes between two readings
of the clock. -/
def standstill : Environment where
  gpio _ := some {}
  rawCount _ := some 1000
  clock n := n

end MotionFirmware
