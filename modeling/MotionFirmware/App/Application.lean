import Mathlib.Tactic.Common

/-!
# Application states and commands

The enumerations of `application.h` and `command.h`, and the start-up steps of `application.c`.
-/

namespace MotionFirmware

/-- `app_state_t`. -/
inductive AppState where
  | boot
  | initializing
  | idle
  | moving
  | stopping
  | fault
  | estop
  | homing
  deriving DecidableEq, Repr, Inhabited

/-- A motion is in progress: `MOVING`, `STOPPING` or `HOMING`. -/
def AppState.active (s : AppState) : Bool :=
  s == .moving || s == .stopping || s == .homing

/-- `application_state_name`; nothing stands for a value outside of the enumeration. -/
def applicationStateName : Option AppState → String
  | some .boot => "BOOT"
  | some .initializing => "INITIALIZING"
  | some .idle => "IDLE"
  | some .moving => "MOVING"
  | some .stopping => "STOPPING"
  | some .fault => "FAULT"
  | some .estop => "ESTOP"
  | some .homing => "HOMING"
  | none => "UNKNOWN"

/-- `command_type_t`. -/
inductive CommandType where
  | moveAbs
  | moveRel
  | setSpeed
  | home
  | stop
  | estop
  | reset
  | status
  | help
  deriving DecidableEq, Repr, Inhabited

/-- `motion_command_t`. -/
structure MotionCommand where
  type : CommandType
  value : Int32
  deriving DecidableEq, Repr

/-- The commands that start a motion: `MOVE`, `MOVE_REL` and `HOME`. -/
def CommandType.startsMotion (t : CommandType) : Bool :=
  t == .moveAbs || t == .moveRel || t == .home

/-- The state part of `application_step`: `BOOT -> INITIALIZING -> IDLE`. -/
def applicationStep : AppState → AppState
  | .boot => .initializing
  | .initializing => .idle
  | s => s

end MotionFirmware
