import MotionFirmware.Foundation.Projection
import MotionFirmware.Rtos.CommsTask
import MotionFirmware.Rtos.Diagnostics

/-!
# The firmware

The four tasks of `tasks/` over the data that they share: the runtime of the Motion and Safety
tasks, the command pipeline and the queue of `diagnostics.c`.  A step of a task is one critical
section, one call of a queue, or the emission of one record, so a run is an interleaving of the
tasks, the interrupts and `runtime_request_stop` at these points.  A task that has something to
report does so before it goes on.

The firmware projects to its two halves: what happens to the shared data of Motion and Safety is a
run of the runtime, in which Motion receives what the pipeline delivers, and what happens to the
commands is a run of the pipeline.
-/

namespace MotionFirmware

/-- Where Motion is in its loop: in a release, before its heartbeat, in `runtime_motion_end`, before
its checkpoint, before the `platform_motor_disable` of a stop, or suspended. -/
inductive MotionStage where
  | running
  | heartbeat
  | wait
  | checkpoint
  | disable
  | parked
  deriving DecidableEq

/-- Where Safety is in its loop. -/
inductive SafetyStage where
  | checkpoint
  | heartbeat
  | evaluate
  | wait
  | parked
  deriving DecidableEq

/-- Where Telemetry is in its loop: before its checkpoint, before the next `diagnostics_receive` of
its drain, with a record that it has not emitted, before it counts the cycle, before the snapshot,
in `runtime_periodic_wait`, or suspended. -/
inductive TelemetryStage where
  | checkpoint
  | receive (i : ℕ)
  | emit (i : ℕ) (record : Diagnostic)
  | count
  | snapshot
  | wait
  | parked

/-- The tasks that report. -/
inductive Reporter where
  | motion
  | safety
  | comms
  deriving DecidableEq

/-- `TASK_SAFETY`. -/
def taskSafety : UInt32 := 1

/-- `TASK_TELEMETRY`. -/
def taskTelemetry : UInt32 := 3

/-- The state of the firmware over an input driver. -/
structure Firmware (δ : Type) where
  world : World
  pipeline : Pipeline δ
  diagnostics : Diagnostics := {}
  motion : MotionStage := .running
  safety : SafetyStage := .checkpoint
  telemetry : TelemetryStage := .checkpoint
  outbox : Reporter → Outbox := fun _ => {}
  /-- `heartbeat_filter`; without one every heartbeat passes. -/
  heartbeatFilter : TaskHealthId → Bool := fun _ => true
  /-- The bits of Safety and Telemetry in `tasks_started` and `tasks_parked`. -/
  tasksStarted : UInt32 := 0
  tasksParked : UInt32 := 0
  telemetryCycles : UInt32 := 0

/-- What Communications reports after its step. -/
def commsReports {δ : Type} (p : Pipeline δ) : List Report :=
  match p.comms with
  | .failed => [.text (cString "ERR UART_RX")]
  | .frame _ line =>
    match commandParse line ⟨.status, 0⟩ with
    | some (.ok, command) =>
      [.command (if (commandBusSend command p.bus).1 then .queued else .queueFull) command .ok]
    | some (result, command) => [.command .parseError command result]
    | none => []
  | _ => []

namespace Firmware

variable {δ ε : Type}

/-- The task makes the next step of its reports. -/
def report (who : Reporter) (now : UInt32) (f : Firmware δ) : Firmware δ :=
  let sent := sendRecord now f.diagnostics (f.outbox who)
  { f with diagnostics := sent.1, outbox := Function.update f.outbox who sent.2 }

/-- The task has something to report. -/
def enqueue (who : Reporter) (reports : List Report) (f : Firmware δ) : Firmware δ :=
  { f with outbox := Function.update f.outbox who { reports := reports } }

/-- `runtime_heartbeat`. -/
def beat (id : TaskHealthId) (f : Firmware δ) : Firmware δ :=
  if f.heartbeatFilter id then { f with world := runtimeHeartbeat f.world id } else f

/-- `runtime_checkpoint` of Safety and Telemetry. -/
def checkpoint (id : UInt32) (f : Firmware δ) : Firmware δ :=
  { f with
    tasksStarted := f.tasksStarted ||| (1 <<< id)
    tasksParked := if f.pipeline.stopping then f.tasksParked ||| (1 <<< id) else f.tasksParked }

/-- What follows a section of Motion. -/
def afterSection : Phase → MotionStage
  | .anchor => .checkpoint
  | .update => .heartbeat
  | _ => .running

/-- The next step of `telemetry_task`. -/
def telemetryStep (f : Firmware δ) : Firmware δ :=
  match f.telemetry with
  | .checkpoint =>
    { f.checkpoint taskTelemetry with
      telemetry := if f.pipeline.stopping then .parked else .receive 0 }
  | .receive i =>
    if i < diagnosticCapacity then
      match diagnosticsReceive f.diagnostics with
      | (none, diagnostics) => { f with diagnostics := diagnostics, telemetry := .count }
      | (some record, diagnostics) =>
        { f with diagnostics := diagnostics, telemetry := .emit i record }
    else { f with telemetry := .count }
  | .emit i _ => { f with telemetry := .receive (i + 1) }
  | .count => { f with telemetryCycles := f.telemetryCycles + 1, telemetry := .snapshot }
  | .snapshot => { f with telemetry := .wait }
  | .wait => { f with telemetry := .checkpoint }
  | .parked => f

/-- The next step of `comms_task`, which has nothing to report. -/
def commsStep (driver : InputDriver δ ε) (f : Firmware δ) : Firmware δ :=
  let beaten :=
    match f.pipeline.comms with
    | .heartbeat => f.beat .comms
    | _ => f
  { beaten.enqueue .comms (commsReports f.pipeline) with pipeline := commsTask driver f.pipeline }

variable [Rounding]

/-- The next step of `safety_task`, which has nothing to report. -/
def safetyStep (f : Firmware δ) : Firmware δ :=
  match f.safety with
  | .checkpoint =>
    { f.checkpoint taskSafety with
      safety := if f.pipeline.stopping then .parked else .heartbeat }
  | .heartbeat => { f.beat .safety with safety := .evaluate }
  | .evaluate =>
    { f.enqueue .safety (safetyReports f.world (safetyTask f.world)) with
      world := safetyTask f.world
      safety := .wait }
  | .wait => { f with safety := .checkpoint }
  | .parked => f

/-- Motion runs its next section on the world. -/
def runSection (received : Option MotionCommand) (f : Firmware δ) : Firmware δ :=
  { f.enqueue .motion (motionReports f.world (motionStep f.world received) received) with
    world := motionStep f.world received
    motion := afterSection f.world.task.phase }

/-- `command_bus_receive`, and the section that counts the command or leaves the loop. -/
def receiveSection (f : Firmware δ) : Firmware δ :=
  match f.pipeline.motion with
  | .taken _ command =>
    { f.runSection (some command) with pipeline := motionTaskCommands f.pipeline }
  | _ =>
    let pipeline := motionTaskCommands f.pipeline
    match pipeline.motion with
    | .taken _ _ => { f with pipeline := pipeline }
    | _ => { f.runSection none with pipeline := pipeline }

/-- The end of the command loop after its last command. -/
def leaveLoop (p : Pipeline δ) : Pipeline δ :=
  match p.motion with
  | .receive _ => motionTaskCommands p
  | _ => p

/-- The next section of a release. -/
def motionSection (f : Firmware δ) : Firmware δ :=
  match f.world.task.phase with
  | .receive _ => f.receiveSection
  | .update => { f.runSection none with pipeline := leaveLoop f.pipeline }
  | _ => f.runSection none

/-- The next step of `motion_task`, which has nothing to report. -/
def motionTaskStep (f : Firmware δ) : Firmware δ :=
  match f.motion with
  | .running => f.motionSection
  | .heartbeat => { f.beat .motion with motion := .wait }
  | .wait => { f with motion := .checkpoint }
  | .checkpoint =>
    { f with
      pipeline := motionTaskCommands f.pipeline
      motion := if f.pipeline.stopping then .disable else .running }
  | .disable => { f with world := f.world.disable, motion := .parked }
  | .parked => f

end Firmware

/-- The steps of the firmware: a step of a task, with the time that a record of it reads; what
happens to the pipeline from outside; and `runtime_set_heartbeat_filter`. -/
inductive FirmwareAction (ε : Type) where
  | motion (now : UInt32)
  | safety (now : UInt32)
  | comms (now : UInt32)
  | telemetry
  | timeout
  | arrive (e : ε)
  | inputReady (producer : ℕ)
  | requestStop
  | setFilter (filter : TaskHealthId → Bool)

section Steps

variable [Rounding] {δ ε : Type} (driver : InputDriver δ ε)

/-- A task reports what it has to report, or makes its next step. -/
def reportOr (who : Reporter) (now : UInt32) (next : Firmware δ → Firmware δ) (f : Firmware δ) :
    Firmware δ :=
  if (f.outbox who).empty then next f else f.report who now

/-- The firmware after a step. -/
def firmwareStep (a : FirmwareAction ε) (f : Firmware δ) : Firmware δ :=
  match a with
  | .motion now => reportOr .motion now Firmware.motionTaskStep f
  | .safety now => reportOr .safety now Firmware.safetyStep f
  | .comms now => reportOr .comms now (Firmware.commsStep driver) f
  | .telemetry => f.telemetryStep
  | .timeout =>
    if (f.outbox .comms).empty then { f with pipeline := pipelineStep driver .timeout f.pipeline }
    else f
  | .arrive e => { f with pipeline := pipelineStep driver (.arrive e) f.pipeline }
  | .inputReady producer =>
    { f with pipeline := pipelineStep driver (.inputReady producer) f.pipeline }
  | .requestStop => { f with pipeline := pipelineStep driver .requestStop f.pipeline }
  | .setFilter filter => { f with heartbeatFilter := filter }

/-- `runtime_init`. -/
def firmwareInit (env : Environment) (input : δ) : Firmware δ where
  world := runtimeInit env
  pipeline := { input := input }

/-- The firmware after the given steps, from `runtime_init`. -/
def firmware (env : Environment) (input : δ) (as : List (FirmwareAction ε)) : Firmware δ :=
  Machine.run (firmwareStep driver) (firmwareInit env input) as

end Steps

end MotionFirmware
