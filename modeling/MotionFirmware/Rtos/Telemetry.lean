import MotionFirmware.Drivers.FormatWidth
import MotionFirmware.Protocol.CommandText
import MotionFirmware.Rtos.CommandBus
import MotionFirmware.Rtos.SafetyRuntime

/-!
# Telemetry of the target

`telemetry.c` of the STM32, and the records of `diagnostics.c`.  What is emitted for a snapshot or
for a record is a list of calls of `uart_print`, each with its format and its arguments.  On the
target `PRIu32` is `lu` and `PRId32` is `ld`.

The enumerations of a snapshot or of a record may hold a value that the source does not name;
nothing stands for such a value.
-/

namespace MotionFirmware

/-- `UART_TX_MAX_WRITE`. -/
def uartTxMaxWrite : ℕ := 256

/-- The part of `motion_snapshot_t` that is printed. -/
structure MotionReport where
  target : Int32
  position : Int32
  velocity : Single
  error : Single
  feedbackValid : Bool
  completedMoves : UInt32
  /-- `homing.result`. -/
  homingResult : Option HomingResult
  /-- `homing.referenced`. -/
  homingReferenced : Bool
  /-- `homing.elapsed_ms`. -/
  homingElapsedMs : UInt32
  /-- `homing.completed`. -/
  homingCompleted : UInt32

/-- The part of `safety_manager_t` that is printed. -/
structure SafetyReport where
  requestedPwm : Single
  appliedPwm : Single
  /-- `faults.active.code`. -/
  activeCode : Option FaultCode
  /-- `faults.active.timestamp_ms`. -/
  activeTimestampMs : UInt32
  watchdogRefreshes : UInt32
  abortedMoves : UInt32
  homeContact : Bool

/-- The part of `runtime_snapshot_t` that is printed. -/
structure RuntimeSnapshot where
  state : Option AppState
  timestampMs : UInt32
  health : TaskHealthId → TaskHealth
  queueUsed : UInt32
  queueHighWater : UInt32
  diagnosticDrops : UInt32
  gpio : GpioInputs
  gpioValid : Bool
  motion : MotionReport
  safety : SafetyReport

/-- `DIAGNOSTIC_TEXT_CAPACITY`. -/
def diagnosticTextCapacity : ℕ := 80

/-- The array `text` of a record, with a NUL in it. -/
structure DiagnosticText where
  bytes : List UInt8
  length_eq : bytes.length = diagnosticTextCapacity
  terminated : 0 ∈ bytes

/-- The string in the array. -/
def DiagnosticText.cString (text : DiagnosticText) : CString := .upTo text.bytes

/-- `diagnostic_kind_t`. -/
inductive DiagnosticKind where
  | text
  | queued
  | queueFull
  | parseError
  | received
  | motion
  deriving DecidableEq, Repr

/-- `diagnostic_t`. -/
structure Diagnostic where
  timestampMs : UInt32
  kind : Option DiagnosticKind
  /-- `command.type`. -/
  commandType : Option CommandType := some .moveAbs
  /-- `command.value`. -/
  commandValue : Int32 := 0
  parseResult : Option CommandParseResult := some .ok
  motionResult : Option MotionResult := some .accepted
  text : DiagnosticText

/-- The array after `{0}`, filled with the start of a string. -/
def DiagnosticText.copy (text : CString) : DiagnosticText where
  bytes := text.bytes.take (diagnosticTextCapacity - 1) ++
    List.replicate
      (diagnosticTextCapacity - (text.bytes.take (diagnosticTextCapacity - 1)).length) 0
  length_eq := by
    rw [List.length_append, List.length_replicate, List.length_take]
    omega
  terminated := by
    refine List.mem_append_right _ (List.mem_replicate.mpr ⟨?_, rfl⟩)
    rw [List.length_take]
    have hcapacity : diagnosticTextCapacity = 80 := rfl
    omega

/-- The record of `diagnostics_text`. -/
def diagnosticsText (now : UInt32) (text : CString) : Diagnostic where
  timestampMs := now
  kind := some .text
  text := .copy text

/-- The record of `diagnostics_command`. -/
def diagnosticsCommand (now : UInt32) (kind : DiagnosticKind) (command : MotionCommand)
    (result : CommandParseResult) : Diagnostic where
  timestampMs := now
  kind := some kind
  commandType := some command.type
  commandValue := command.value
  parseResult := some result
  text := .copy (cString "")

/-- The record of `diagnostics_motion`. -/
def diagnosticsMotion (now : UInt32) (command : MotionCommand) (result : MotionResult) :
    Diagnostic where
  timestampMs := now
  kind := some .motion
  commandType := some command.type
  commandValue := command.value
  motionResult := some result
  text := .copy (cString "")

/-- `uart_print`, with what the buffer and the memory behind the arguments hold before: the bytes
that it hands to `uart_write`, if it does. -/
def uartPrint [DoubleRounding] (buffer : ℕ → UInt8) (rest : Stream' VaArg) (p : Print) :
    Option (List UInt8) :=
  formatted buffer (uartTxMaxWrite + 1) p.format (slots rest p.args)

/-- The argument `value ? 1U : 0U`. -/
def flag (value : Bool) : PrintArg := .unsignedInt (if value then 1 else 0)

/-! ### The groups of lines -/

/-- The format of the first line of `emit_snapshot`. -/
def motionFormat : CString :=
  cString ("%s t_ms=%lu motion state=%s target_counts=%ld position_counts=%ld" ++
    " velocity_counts_s=%.6g error_counts=%.6g feedback_valid=%u\n")

/-- The format of the second line of `emit_snapshot`. -/
def safetyFormat : CString :=
  cString ("%s t_ms=%lu safety requested_pwm=%.6g applied_pwm=%.6g fault=%s" ++
    " fault_ms=%lu estop=%u limit_neg=%u limit_pos=%u inputs_valid=%u\n")

/-- The format of the third line of `emit_snapshot`. -/
def healthFormat : CString :=
  cString ("%s t_ms=%lu health motion_fresh=%u safety_fresh=%u comms_fresh=%u" ++
    " watchdog_supervision=%s refreshes=%lu\n")

/-- The format of the fourth line of `emit_snapshot`. -/
def homeFormat : CString :=
  cString ("%s t_ms=%lu home result=%s referenced=%u elapsed_ms=%lu completed=%lu" ++
    " contact_allowance=%u\n")

/-- The format of the fifth line of `emit_snapshot`. -/
def countersFormat : CString :=
  cString ("%s t_ms=%lu counters queue_used=%lu queue_capacity=%u" ++
    " queue_high_water=%lu diagnostic_drops=%lu moves_completed=%lu aborted=%lu\n")

section Lines

variable (kind : CString) (v : RuntimeSnapshot)

/-- `fresh[i]` of `emit_snapshot`. -/
def RuntimeSnapshot.fresh (id : TaskHealthId) : Bool :=
  taskHealthFresh (v.health id) v.timestampMs healthMaximumAgeMs

/-- The first line of `emit_snapshot`. -/
def motionLine : Print where
  format := motionFormat
  args := [.text kind, .unsignedLong v.timestampMs, .text (cString (applicationStateName v.state)),
    .long v.motion.target, .long v.motion.position, .double v.motion.velocity.toDouble,
    .double v.motion.error.toDouble, flag v.motion.feedbackValid]

/-- The second line of `emit_snapshot`. -/
def safetyLine : Print where
  format := safetyFormat
  args := [.text kind, .unsignedLong v.timestampMs, .double v.safety.requestedPwm.toDouble,
    .double v.safety.appliedPwm.toDouble, .text (cString (faultName v.safety.activeCode)),
    .unsignedLong v.safety.activeTimestampMs, flag v.gpio.estop, flag v.gpio.negativeLimit,
    flag v.gpio.positiveLimit, flag v.gpioValid]

/-- The third line of `emit_snapshot`. -/
def healthLine : Print where
  format := healthFormat
  args := [.text kind, .unsignedLong v.timestampMs, flag (v.fresh .motion), flag (v.fresh .safety),
    flag (v.fresh .comms),
    .text (cString (if v.fresh .motion && v.fresh .safety && v.fresh .comms then "HEALTHY"
      else "UNHEALTHY")),
    .unsignedLong v.safety.watchdogRefreshes]

/-- The fourth line of `emit_snapshot`. -/
def homeLine : Print where
  format := homeFormat
  args := [.text kind, .unsignedLong v.timestampMs,
    .text (cString (homingResultName v.motion.homingResult)), flag v.motion.homingReferenced,
    .unsignedLong v.motion.homingElapsedMs, .unsignedLong v.motion.homingCompleted,
    flag v.safety.homeContact]

/-- The fifth line of `emit_snapshot`. -/
def countersLine : Print where
  format := countersFormat
  args := [.text kind, .unsignedLong v.timestampMs, .unsignedLong v.queueUsed,
    .unsignedInt (UInt32.ofNat commandQueueCapacity), .unsignedLong v.queueHighWater,
    .unsignedLong v.diagnosticDrops, .unsignedLong v.motion.completedMoves,
    .unsignedLong v.safety.abortedMoves]

/-- `emit_snapshot`. -/
def emitSnapshot : List Print :=
  [motionLine kind v, safetyLine kind v, healthLine kind v, homeLine kind v, countersLine kind v]

end Lines

/-- A line without arguments. -/
def constantLine (text : String) : Print := ⟨cString text, []⟩

/-- The lines of `HELP`. -/
def helpLines : List Print :=
  [constantLine "ACK HELP\n",
    constantLine "HELP MOVE <position_counts> : absolute position move\n",
    constantLine "HELP MOVE_REL <offset_counts> : move relative to sampled position\n",
    constantLine "HELP HOME : seek negative switch and establish logical zero\n",
    constantLine "HELP STOP : remove drive and wait for rest\n",
    constantLine "HELP ESTOP : latch stop when this queued command executes\n",
    constantLine "HELP RESET : validate safety conditions and clear recoverable latch\n",
    constantLine "HELP STATUS : coherent snapshot at telemetry service time\n",
    constantLine "HELP HELP : command syntax; SPEED <integer> : deferred, NOT_IMPLEMENTED\n"]

/-- The `switch` of `platform_diagnostic_emit`, with the snapshot that `runtime_snapshot` takes. -/
def diagnosticLines (snapshot : RuntimeSnapshot) (record : Diagnostic) : List Print :=
  match record.kind with
  | some .text => [⟨cString "%s\n", [.text record.text.cString]⟩]
  | some .queued =>
    [⟨cString "ACK QUEUED command=%s value=%ld\n",
      [.text (cString (commandName record.commandType)), .long record.commandValue]⟩]
  | some .queueFull =>
    [⟨cString "ERR QUEUE_FULL command=%s\n", [.text (cString (commandName record.commandType))]⟩]
  | some .parseError =>
    [⟨cString "ERR %s\n", [.text (cString (commandParseError record.parseResult))]⟩]
  | some .received =>
    if record.commandType = some .status then
      ⟨cString "ACK STATUS snapshot_ms=%lu\n", [.unsignedLong snapshot.timestampMs]⟩ ::
        emitSnapshot (cString "STATUS") snapshot
    else if record.commandType = some .help then helpLines
    else [constantLine "ERR DIAGNOSTIC_KIND\n"]
  | some .motion =>
    [⟨cString "MOTION command=%s value=%ld %s\n",
      [.text (cString (commandName record.commandType)), .long record.commandValue,
        .text (cString (motionResultName record.motionResult))]⟩]
  | none => [constantLine "ERR DIAGNOSTIC_KIND\n"]

/-- `platform_diagnostic_emit`. -/
def platformDiagnosticEmit (snapshot : RuntimeSnapshot) (record : Diagnostic) : List Print :=
  ⟨cString "[%06lu] ", [.unsignedLong record.timestampMs]⟩ :: diagnosticLines snapshot record

/-- `platform_telemetry_emit`. -/
def platformTelemetryEmit (snapshot : RuntimeSnapshot) : List Print :=
  emitSnapshot (cString "TEL") snapshot

end MotionFirmware
