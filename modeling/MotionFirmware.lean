import MotionFirmware.App.Application
import MotionFirmware.Control.AxisRuns
import MotionFirmware.Control.ClockShift
import MotionFirmware.Control.Demand
import MotionFirmware.Control.Displacement
import MotionFirmware.Control.Dwell
import MotionFirmware.Control.Forgetting
import MotionFirmware.Control.Homing
import MotionFirmware.Control.MotionController
import MotionFirmware.Control.MotionRuns
import MotionFirmware.Control.Pid
import MotionFirmware.Control.PidBounds
import MotionFirmware.Drivers.Encoder
import MotionFirmware.Drivers.FormatLanguage
import MotionFirmware.Drivers.FormatText
import MotionFirmware.Drivers.FormatWidth
import MotionFirmware.Drivers.Formats
import MotionFirmware.Drivers.InputHost
import MotionFirmware.Drivers.Motor
import MotionFirmware.Drivers.MotorStm32
import MotionFirmware.Drivers.Peripherals
import MotionFirmware.Drivers.PrintedLines
import MotionFirmware.Drivers.RealDecimal
import MotionFirmware.Drivers.TinyFormat
import MotionFirmware.Drivers.UartStm32
import MotionFirmware.Foundation.Binary32
import MotionFirmware.Foundation.Binary64
import MotionFirmware.Foundation.CString
import MotionFirmware.Foundation.Cursor
import MotionFirmware.Foundation.Decimal
import MotionFirmware.Foundation.ExactArithmetic
import MotionFirmware.Foundation.Fifo
import MotionFirmware.Foundation.Lines
import MotionFirmware.Foundation.Machine
import MotionFirmware.Foundation.Projection
import MotionFirmware.Foundation.Ranking
import MotionFirmware.Foundation.RoundedFloat
import MotionFirmware.Foundation.Scientific
import MotionFirmware.Foundation.Streak
import MotionFirmware.Foundation.WrappingClock
import MotionFirmware.Health.TaskHealth
import MotionFirmware.Protocol.Command
import MotionFirmware.Protocol.CommandText
import MotionFirmware.Rtos.Accounts
import MotionFirmware.Rtos.Answers
import MotionFirmware.Rtos.ClockPhase
import MotionFirmware.Rtos.ClockReadings
import MotionFirmware.Rtos.ClockShift
import MotionFirmware.Rtos.CommandBus
import MotionFirmware.Rtos.CommandPipeline
import MotionFirmware.Rtos.CommsTask
import MotionFirmware.Rtos.CompletionLog
import MotionFirmware.Rtos.Console
import MotionFirmware.Rtos.ConsoleLines
import MotionFirmware.Rtos.Conversation
import MotionFirmware.Rtos.Counters
import MotionFirmware.Rtos.Delivery
import MotionFirmware.Rtos.Departure
import MotionFirmware.Rtos.Diagnostics
import MotionFirmware.Rtos.Firmware
import MotionFirmware.Rtos.FirmwareViews
import MotionFirmware.Rtos.HomingDeadline
import MotionFirmware.Rtos.HomingRecord
import MotionFirmware.Rtos.Integrity
import MotionFirmware.Rtos.Ledger
import MotionFirmware.Rtos.LockStep
import MotionFirmware.Rtos.MotionTask
import MotionFirmware.Rtos.MotorGate
import MotionFirmware.Rtos.Operations
import MotionFirmware.Rtos.Outcomes
import MotionFirmware.Rtos.Periodic
import MotionFirmware.Rtos.Phases
import MotionFirmware.Rtos.RecordedCalls
import MotionFirmware.Rtos.Reference
import MotionFirmware.Rtos.Regular
import MotionFirmware.Rtos.Rejection
import MotionFirmware.Rtos.ReleaseRequests
import MotionFirmware.Rtos.Reset
import MotionFirmware.Rtos.SafetyLatch
import MotionFirmware.Rtos.SafetyRuntime
import MotionFirmware.Rtos.SafetyRuntimeFrames
import MotionFirmware.Rtos.Seek
import MotionFirmware.Rtos.Service
import MotionFirmware.Rtos.Shutdown
import MotionFirmware.Rtos.Snapshot
import MotionFirmware.Rtos.StateLog
import MotionFirmware.Rtos.Stepping
import MotionFirmware.Rtos.StopRanks
import MotionFirmware.Rtos.Telemetry
import MotionFirmware.Rtos.TelemetryLines
import MotionFirmware.Rtos.TimeStep
import MotionFirmware.Rtos.Transmission
import MotionFirmware.Rtos.Uptime
import MotionFirmware.Rtos.WakeUp
import MotionFirmware.Rtos.Watchdog
import MotionFirmware.Rtos.Wire
import MotionFirmware.Rtos.ZeroOutput
import MotionFirmware.Safety.ClockShift
import MotionFirmware.Safety.FaultRecord
import MotionFirmware.Safety.NoMotion
import MotionFirmware.Safety.Repeated
import MotionFirmware.Safety.SafetyChecks
import MotionFirmware.Safety.SafetyHistory
import MotionFirmware.Safety.SafetyManager
import MotionFirmware.Safety.Supervision
import MotionFirmware.Simulator.Plant
import MotionFirmware.Simulator.PlantTravel
import MotionFirmware.Simulator.Travel
