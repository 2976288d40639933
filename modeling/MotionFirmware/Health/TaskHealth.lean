import Mathlib.Tactic.Common

/-!
# Task health

`task_health.c`: the heartbeat record of one task and its freshness.
-/

namespace MotionFirmware

/-- `task_health_id_t`. -/
inductive TaskHealthId where
  | motion
  | safety
  | comms
  deriving DecidableEq, Repr, Inhabited

/-- `task_health_t`. -/
structure TaskHealth where
  count : UInt32 := 0
  lastMs : UInt32 := 0
  seen : Bool := false
  deriving DecidableEq, Repr, Inhabited

/-- `task_health_beat`. -/
def taskHealthBeat (health : TaskHealth) (nowMs : UInt32) : TaskHealth :=
  { count := health.count + 1, lastMs := nowMs, seen := true }

/-- `task_health_fresh`. -/
def taskHealthFresh (health : TaskHealth) (nowMs maximumAgeMs : UInt32) : Bool :=
  health.seen && decide (nowMs - health.lastMs ≤ maximumAgeMs)

end MotionFirmware
