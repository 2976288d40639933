import MotionFirmware.Rtos.MotionTask
import MotionFirmware.Rtos.Telemetry

/-!
# Diagnostics

`diagnostics.c`: a bounded queue of records from the tasks to Telemetry, and what the tasks report.
A record that finds no space is lost, and is counted in a critical section that follows the failed
send, so that other tasks may come in between.

The reports of Motion are functions of the world before and after one of its critical sections.
-/

namespace MotionFirmware

/-- `DIAGNOSTIC_CAPACITY`. -/
def diagnosticCapacity : ℕ := 32

/-- The static state of `diagnostics.c`, after `diagnostics_init`. -/
structure Diagnostics where
  queue : Fifo Diagnostic diagnosticCapacity := .empty
  dropped : UInt32 := 0

/-- A call of `diagnostics_text`, `diagnostics_command` or `diagnostics_motion`. -/
inductive Report where
  | text (message : CString)
  | command (kind : DiagnosticKind) (subject : MotionCommand) (result : CommandParseResult)
  | motion (subject : MotionCommand) (result : MotionResult)
  deriving DecidableEq

/-- The record of a call, with the time that it reads. -/
def Report.record (now : UInt32) : Report → Diagnostic
  | .text message => diagnosticsText now message
  | .command kind subject result => diagnosticsCommand now kind subject result
  | .motion subject result => diagnosticsMotion now subject result

/-- The calls that a task has still to make before its next critical section, and whether the last
call has failed and is not counted yet. -/
structure Outbox where
  reports : List Report := []
  failed : Bool := false

/-- The task has nothing left to report. -/
def Outbox.empty (o : Outbox) : Bool := o.reports.isEmpty && !o.failed

/-- The next step of `send_record`: the send, or the critical section that counts a failed one. -/
def sendRecord (now : UInt32) (d : Diagnostics) (o : Outbox) : Diagnostics × Outbox :=
  if o.failed then ({ d with dropped := d.dropped + 1 }, { o with failed := false })
  else
    match o.reports with
    | [] => (d, o)
    | report :: reports =>
      let sent := d.queue.send (report.record now)
      ({ d with queue := sent.2 }, { reports := reports, failed := !sent.1 })

/-- `diagnostics_receive`. -/
def diagnosticsReceive (d : Diagnostics) : Option Diagnostic × Diagnostics :=
  (d.queue.receive.1, { d with queue := d.queue.receive.2 })

/-! ### The reports of Motion -/

/-- The first half of `transition`: what it says of the safety states. -/
def latchTransition (old new : AppState) : List CString :=
  if old ≠ new ∧ new = .estop then
    [cString "STATE -> ESTOP; MOVE_ABORTED if active; applied_pwm=0"]
  else if old ≠ new ∧ new = .fault then
    [cString "STATE -> FAULT; MOVE_ABORTED if active; applied_pwm=0"]
  else if (old = .fault ∨ old = .estop) ∧ new = .idle then
    [cString "SAFETY RESET -> IDLE; applied_pwm=0"]
  else []

/-- The second half of `transition`: what it says of the motion. -/
def motionTransition (old new : AppState) : List CString :=
  if old = .idle ∧ new = .moving then [cString "STATE IDLE -> MOVING"]
  else if old = .idle ∧ new = .homing then [cString "STATE IDLE -> HOMING pwm=-0.30"]
  else if old = .homing ∧ new = .idle then [cString "HOMING COMPLETE reference=0 applied_pwm=0"]
  else if old = .homing ∧ new = .stopping then
    [cString "HOMING STOPPED applied_pwm=0; waiting for rest"]
  else if old = .moving ∧ new = .stopping then [cString "STATE MOVING -> STOPPING"]
  else if old = .moving ∧ new = .idle then [cString "STATE MOVING -> IDLE"]
  else if old = .stopping ∧ new = .idle then [cString "STATE STOPPING -> IDLE"]
  else []

/-- `transition` of `motion_task.c`. -/
def transition (old new : AppState) : List CString :=
  latchTransition old new ++ motionTransition old new

/-- What `application_step` logs. -/
def applicationReport : AppState → List CString
  | .boot => [cString "STATE BOOT -> INITIALIZING"]
  | .initializing => [cString "STATE INITIALIZING -> IDLE"]
  | _ => []

/-- What Motion passes to `transition` after its critical section from `w` to `v`. -/
def stateReports (w v : World) : List CString :=
  match w.task.phase with
  | .reconcile => transition w.task.beforeSafety v.motion.data.state
  | .execute _ _ | .update => transition w.motion.data.state v.motion.data.state
  | _ => []

/-- What Motion reports of a command that it has received. -/
def receiveReports : Option MotionCommand → List Report
  | none => []
  | some command =>
    if command.type = .status ∨ command.type = .help then [.command .received command .ok] else []

variable [Rounding]

/-- What Motion reports after its critical section from `w` to `v`, in the order of the calls. -/
def motionReports (w v : World) (received : Option MotionCommand) : List Report :=
  match w.task.phase with
  | .create => [.text (cString "SYSTEM state=BOOT")]
  | .configure =>
    if v.task.phase = .anchor then [.text (cString "RTOS scheduler_started owner=Motion")] else []
  | .begin => (applicationReport w.task.app).map .text
  | .reconcile => (stateReports w v).map .text
  | .receive _ => receiveReports received
  | .execute _ command =>
    (stateReports w v).map .text ++
      match v.task.phase with
      | .report _ result => [.motion command result]
      | _ => []
  | .update =>
    (if (controlSection w).1 then [] else [.text (cString "CONTROL INTERNAL fault output=zero")]) ++
      (stateReports w v).map .text ++
      if v.motion.data.completedMoves ≠ w.motion.data.completedMoves then
        [.text (cString "MOTION COMPLETE output=zero")]
      else []
  | _ => []

/-- What Safety reports after its critical section from `w` to `v`. -/
def safetyReports (w v : World) : List Report :=
  if w.safety.state ≠ v.safety.state then
    [.text (if v.safety.state = .estop then cString "SAFETY ESTOP_ACTIVE applied_pwm=0"
      else cString "SAFETY FAULT applied_pwm=0"),
    .text (cString (faultName (some v.safety.faults.active.code)))]
  else []

end MotionFirmware
