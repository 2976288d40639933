import MotionFirmware.Rtos.MotionTask

/-!
# What the operations of the safety adapter leave alone

For every operation of `safety_runtime.c` and of the controller, the parts of the world that it
does not touch and the parts that have a simple closed form.  Together with the definitions of the
single checks these lemmas are what the invariant proofs rewrite with; none of those proofs unfolds
an adapter function again.
-/

namespace MotionFirmware

/-! ### Elementary changes of a world -/

@[simp] lemma publish_safety (w : World) : w.publish.rt.safety = w.rt.safety := rfl

@[simp] lemma publish_toAxis (w : World) : w.publish.toAxis = w.toAxis := rfl

@[simp] lemma publish_calls (w : World) : w.publish.calls = w.calls := rfl

@[simp] lemma publish_task (w : World) : w.publish.task = w.task := rfl

@[simp] lemma publish_rt_motion (w : World) : w.publish.rt.motion = w.motion.data := rfl

@[simp] lemma callSafety_safety (w : World) (call : SafetyCall) (s : SafetyManager) :
    (w.callSafety call s).rt.safety = s := rfl

@[simp] lemma callSafety_toAxis (w : World) (call : SafetyCall) (s : SafetyManager) :
    (w.callSafety call s).toAxis = w.toAxis := rfl

@[simp] lemma callSafety_task (w : World) (call : SafetyCall) (s : SafetyManager) :
    (w.callSafety call s).task = w.task := rfl

@[simp] lemma callSafety_rt_motion (w : World) (call : SafetyCall) (s : SafetyManager) :
    (w.callSafety call s).rt.motion = w.rt.motion := rfl

@[simp] lemma callSafety_calls (w : World) (call : SafetyCall) (s : SafetyManager) :
    (w.callSafety call s).calls = w.calls ++ [call] := rfl

@[simp] lemma afterTime_motion (w : World) : w.afterTime.motion = w.motion := rfl

@[simp] lemma afterTime_motor (w : World) : w.afterTime.io.motor = w.io.motor := rfl

@[simp] lemma afterTime_rt (w : World) : w.afterTime.rt = w.rt := rfl

@[simp] lemma afterTime_calls (w : World) : w.afterTime.calls = w.calls := rfl

@[simp] lemma onAxis_rt (w : World) (f : Axis → Axis) : (w.onAxis f).rt = w.rt := rfl

@[simp] lemma onAxis_toAxis (w : World) (f : Axis → Axis) :
    (w.onAxis f).toAxis = f w.toAxis := rfl

@[simp] lemma onAxis_calls (w : World) (f : Axis → Axis) : (w.onAxis f).calls = w.calls := rfl

@[simp] lemma onAxis_task (w : World) (f : Axis → Axis) : (w.onAxis f).task = w.task := rfl

@[simp] lemma goto_calls (w : World) (phase : Phase) : (w.goto phase).calls = w.calls := rfl

/-! ### The gate -/

@[simp] lemma recordLatched_motor (w : World) : (recordLatched w).io.motor = w.io.motor := by
  unfold recordLatched; split_ifs <;> rfl

@[simp] lemma recordLatched_motion (w : World) : (recordLatched w).motion = w.motion := by
  unfold recordLatched; split_ifs <;> rfl

@[simp] lemma recordLatched_task (w : World) : (recordLatched w).task = w.task := by
  unfold recordLatched; split_ifs <;> rfl

@[simp] lemma recordLatched_calls (w : World) : (recordLatched w).calls = w.calls := by
  unfold recordLatched; split_ifs <;> rfl

@[simp] lemma recordLatched_referenceOffset (w : World) :
    (recordLatched w).io.referenceOffset = w.io.referenceOffset := by
  unfold recordLatched; split_ifs <;> rfl

@[simp] lemma recordLatched_env (w : World) : (recordLatched w).io.env = w.io.env := by
  unfold recordLatched; split_ifs <;> rfl

@[simp] lemma recordLatched_rt_motion (w : World) :
    (recordLatched w).rt.motion = w.rt.motion := by
  unfold recordLatched; split_ifs <;> rfl

@[simp] lemma recordLatched_rt_health (w : World) :
    (recordLatched w).rt.health = w.rt.health := by
  unfold recordLatched; split_ifs <;> rfl

/-- The time of zero output as `runtime_safety_enforce` leaves it. -/
def latchedZeroMs (w : World) : UInt32 :=
  if w.safety.state ≠ .idle ∧ w.safety.zeroMs ≠ w.safety.detectionMs then w.io.platformTimeMs
  else w.safety.zeroMs

lemma recordLatched_safety (w : World) :
    (recordLatched w).rt.safety = { w.rt.safety with zeroMs := latchedZeroMs w } := by
  unfold recordLatched latchedZeroMs
  split_ifs <;> first | rfl | tauto

/-- The clock is read at most once by an enforcement. -/
lemma le_recordLatched_clockReads (w : World) :
    w.io.clockReads ≤ (recordLatched w).io.clockReads := by
  unfold recordLatched
  split_ifs <;> simp [World.afterTime, World.setSafety]

@[simp] lemma runtimeSafetyEnforce_motor (w : World) :
    (runtimeSafetyEnforce w).io.motor = enforcedMotor w := by
  simp [runtimeSafetyEnforce]

@[simp] lemma runtimeSafetyEnforce_motion (w : World) :
    (runtimeSafetyEnforce w).motion = w.motion := by
  simp [runtimeSafetyEnforce]

@[simp] lemma runtimeSafetyEnforce_task (w : World) :
    (runtimeSafetyEnforce w).task = w.task := by
  simp [runtimeSafetyEnforce]

@[simp] lemma runtimeSafetyEnforce_calls (w : World) :
    (runtimeSafetyEnforce w).calls = w.calls := by
  simp [runtimeSafetyEnforce]

@[simp] lemma runtimeSafetyEnforce_referenceOffset (w : World) :
    (runtimeSafetyEnforce w).io.referenceOffset = w.io.referenceOffset := by
  simp [runtimeSafetyEnforce]

@[simp] lemma runtimeSafetyEnforce_env (w : World) :
    (runtimeSafetyEnforce w).io.env = w.io.env := by
  simp [runtimeSafetyEnforce]

@[simp] lemma runtimeSafetyEnforce_rt_motion (w : World) :
    (runtimeSafetyEnforce w).rt.motion = w.rt.motion := by
  simp [runtimeSafetyEnforce]

@[simp] lemma runtimeSafetyEnforce_rt_health (w : World) :
    (runtimeSafetyEnforce w).rt.health = w.rt.health := by
  simp [runtimeSafetyEnforce]

/-- An enforcement changes the recorded duties and the time of zero output, nothing else in the
safety manager. -/
@[simp] lemma runtimeSafetyEnforce_safety (w : World) :
    (runtimeSafetyEnforce w).rt.safety =
      { w.rt.safety with
        requestedPwm := (recordPwm w).requestedPwm
        requestedAtTrip := (recordPwm w).requestedAtTrip
        appliedPwm := (recordPwm w).appliedPwm
        zeroMs := latchedZeroMs w } := by
  unfold runtimeSafetyEnforce
  rw [recordLatched_safety]
  rfl

lemma le_runtimeSafetyEnforce_clockReads (w : World) :
    w.io.clockReads ≤ (runtimeSafetyEnforce w).io.clockReads :=
  le_recordLatched_clockReads
    { w with
      io := { w.io with motor := enforcedMotor w }
      rt := { w.rt with safety := recordPwm w } }

/-- The gate after an enforcement: closed exactly when the state is unsafe. -/
@[simp] lemma enforcedMotor_inhibited (w : World) :
    (enforcedMotor w).inhibited = w.isUnsafe := by
  unfold enforcedMotor
  dsimp only
  split_ifs with h
  · simp
  · simpa [eq_comm] using h

@[simp] lemma enforcedMotor_negativeBlocked (w : World) :
    (enforcedMotor w).negativeBlocked = (w.safety.homeContact && w.contact) := by
  unfold enforcedMotor
  dsimp only
  split_ifs <;> simp

/-- An enforcement applies what was applied before, or nothing. -/
lemma enforcedMotor_output (w : World) :
    (enforcedMotor w).output = w.io.motor.output ∨ (enforcedMotor w).output = 0 := by
  unfold enforcedMotor motorSafetyBlockNegative
  dsimp only
  split_ifs
  all_goals first | exact Or.inl rfl | exact Or.inr rfl

/-- An enforcement keeps the driver invariant. -/
lemma enforcedMotor_gateInv {w : World} (h : w.io.motor.GateInv) : (enforcedMotor w).GateInv := by
  unfold enforcedMotor
  dsimp only
  split_ifs
  · exact (h.motorSafetyBlockNegative _).motorSafetyInhibit _
  · exact h.motorSafetyBlockNegative _

/-! ### Evaluations -/

section Evaluations

variable [Rounding]

@[simp] lemma applyEvaluation_safety (w : World) :
    (applyEvaluation w).rt.safety = safetyEvaluate w.safety (evaluation w) := rfl

@[simp] lemma applyEvaluation_rt_motion (w : World) :
    (applyEvaluation w).rt.motion = w.rt.motion := rfl

@[simp] lemma applyEvaluation_motor (w : World) :
    (applyEvaluation w).io.motor = w.io.motor := rfl

/-- The safety manager after an evaluation: the evaluated one, with the duties and the time of zero
output that the enforcement records. -/
lemma runtimeSafetyEvaluate_safety (w : World) :
    (runtimeSafetyEvaluate w).rt.safety =
      { safetyEvaluate w.safety (evaluation w) with
        requestedPwm := (recordPwm (applyEvaluation w)).requestedPwm
        requestedAtTrip := (recordPwm (applyEvaluation w)).requestedAtTrip
        appliedPwm := (recordPwm (applyEvaluation w)).appliedPwm
        zeroMs := latchedZeroMs (applyEvaluation w) } :=
  runtimeSafetyEnforce_safety _

@[simp] lemma runtimeSafetyEvaluate_state (w : World) :
    (runtimeSafetyEvaluate w).rt.safety.state =
      (safetyEvaluate w.safety (evaluation w)).state := by
  rw [runtimeSafetyEvaluate_safety]

@[simp] lemma runtimeSafetyEvaluate_motion (w : World) :
    (runtimeSafetyEvaluate w).motion = w.motion := by
  simp [runtimeSafetyEvaluate, applyEvaluation]

@[simp] lemma runtimeSafetyEvaluate_task (w : World) :
    (runtimeSafetyEvaluate w).task = w.task := by
  simp [runtimeSafetyEvaluate, applyEvaluation]

@[simp] lemma runtimeSafetyEvaluate_calls (w : World) :
    (runtimeSafetyEvaluate w).calls = w.calls ++ [.evaluate (evaluation w) w.io.trueTime] := by
  simp [runtimeSafetyEvaluate, applyEvaluation]

@[simp] lemma runtimeSafetyEvaluate_rt_motion (w : World) :
    (runtimeSafetyEvaluate w).rt.motion = w.rt.motion := by
  simp [runtimeSafetyEvaluate, applyEvaluation]

@[simp] lemma runtimeSafetyEvaluate_referenceOffset (w : World) :
    (runtimeSafetyEvaluate w).io.referenceOffset = w.io.referenceOffset := by
  simp [runtimeSafetyEvaluate, applyEvaluation]

@[simp] lemma runtimeSafetyEvaluate_env (w : World) :
    (runtimeSafetyEvaluate w).io.env = w.io.env := by
  simp [runtimeSafetyEvaluate, applyEvaluation]

@[simp] lemma runtimeSafetyEvaluate_motor (w : World) :
    (runtimeSafetyEvaluate w).io.motor = enforcedMotor (applyEvaluation w) := by
  simp [runtimeSafetyEvaluate]

end Evaluations

/-! ### Raising a latch -/

@[simp] lemma raiseEstop_motion (w : World) : (raiseEstop w).motion = w.motion := by
  simp [raiseEstop]

@[simp] lemma raiseInternal_motion (w : World) (now : UInt32) :
    (raiseInternal w now).motion = w.motion := by
  simp [raiseInternal]

@[simp] lemma raiseTimeout_motion (w : World) (now : UInt32) :
    (raiseTimeout w now).motion = w.motion := by
  simp [raiseTimeout]

@[simp] lemma raiseEstop_state (w : World) : (raiseEstop w).rt.safety.state = .estop := by
  simp [raiseEstop, safetyEstop]

@[simp] lemma raiseInternal_state (w : World) (now : UInt32) :
    (raiseInternal w now).rt.safety.state = (safetyInternalFault w.safety now).state := by
  simp [raiseInternal]

@[simp] lemma raiseTimeout_state (w : World) (now : UInt32) :
    (raiseTimeout w now).rt.safety.state = (safetyHomingTimeout w.safety now).state := by
  simp [raiseTimeout]

/-- An internal fault latches. -/
lemma raiseInternal_latched (w : World) (now : UInt32) :
    (raiseInternal w now).safety.state = .fault ∨ (raiseInternal w now).safety.state = .estop := by
  have hsettled : (safetyInternalFault w.safety now).Settled := settled_trip
  simp only [World.safety, raiseInternal_state]
  exact hsettled.resolve_left trip_state_ne_idle

/-- A homing timeout latches. -/
lemma raiseTimeout_latched (w : World) (now : UInt32) :
    (raiseTimeout w now).safety.state = .fault ∨ (raiseTimeout w now).safety.state = .estop := by
  have hsettled : (safetyHomingTimeout w.safety now).Settled := settled_trip
  simp only [World.safety, raiseTimeout_state]
  exact hsettled.resolve_left trip_state_ne_idle

/-! ### Adopting the state of a latch -/

lemma runtimeSafetySync_of_idle {w : World} (h : w.safety.state = .idle) :
    runtimeSafetySync w = w := by
  simp [runtimeSafetySync, h]

@[simp] lemma abortHoming_safety (w : World) (r : HomingResult) :
    (abortHoming w r).rt = w.rt := rfl

@[simp] lemma abortHoming_task (w : World) (r : HomingResult) :
    (abortHoming w r).task = w.task := rfl

@[simp] lemma abortHoming_calls (w : World) (r : HomingResult) :
    (abortHoming w r).calls = w.calls := rfl

@[simp] lemma countAbort_safety_state (w : World) :
    w.countAbort.rt.safety.state = w.rt.safety.state := rfl

/-- Adopting a latch only counts the abort in the safety manager. -/
@[simp] lemma runtimeSafetySync_safety (w : World) :
    (runtimeSafetySync w).rt.safety =
      { w.rt.safety with
        abortedMoves :=
          if w.safety.state ≠ .idle ∧ w.motion.data.state.active then w.safety.abortedMoves + 1
          else w.safety.abortedMoves } := by
  unfold runtimeSafetySync
  dsimp only
  split_ifs <;> first | rfl | tauto

@[simp] lemma runtimeSafetySync_task (w : World) : (runtimeSafetySync w).task = w.task := by
  unfold runtimeSafetySync
  dsimp only
  split_ifs <;> rfl

@[simp] lemma runtimeSafetySync_calls (w : World) : (runtimeSafetySync w).calls = w.calls := by
  unfold runtimeSafetySync
  dsimp only
  split_ifs <;> rfl

@[simp] lemma runtimeSafetySync_rt_motion (w : World) :
    (runtimeSafetySync w).rt.motion = w.rt.motion := by
  unfold runtimeSafetySync
  dsimp only
  split_ifs <;> rfl

@[simp] lemma runtimeSafetySync_referenceOffset (w : World) :
    (runtimeSafetySync w).io.referenceOffset = w.io.referenceOffset := by
  unfold runtimeSafetySync
  dsimp only
  split_ifs <;> rfl

@[simp] lemma runtimeSafetySync_env (w : World) :
    (runtimeSafetySync w).io.env = w.io.env := by
  unfold runtimeSafetySync
  dsimp only
  split_ifs <;> rfl

/-- Adopting a latch disables the motor or leaves it as it is. -/
lemma runtimeSafetySync_motor (w : World) :
    (runtimeSafetySync w).io.motor = w.io.motor ∨
      (runtimeSafetySync w).io.motor = motorDisable w.io.motor := by
  unfold runtimeSafetySync
  dsimp only
  split_ifs
  all_goals first | exact Or.inl rfl | exact Or.inr rfl

/-- After adopting a latch the controller has the state of the latch. -/
lemma runtimeSafetySync_state {w : World} (h : w.safety.state ≠ .idle) :
    (runtimeSafetySync w).motion.data.state = w.safety.state := by
  unfold runtimeSafetySync
  dsimp only
  rw [if_neg h]
  rfl

/-- The homing record after adopting a latch. -/
lemma runtimeSafetySync_homing {w : World} (h : w.safety.state ≠ .idle) :
    (runtimeSafetySync w).motion.data.homing =
      if w.motion.data.state = .homing then
        (w.motion.withElapsed w.io.platformTimeMs).data.homing.abort (latchResult w.safety.state)
      else w.motion.data.homing := by
  unfold runtimeSafetySync
  dsimp only
  rw [if_neg h]
  split_ifs <;> first | rfl | simp_all [World.countAbort, World.setSafety]

@[simp] lemma runtimeSafetySync_config (w : World) :
    (runtimeSafetySync w).motion.config = w.motion.config ∧
      (runtimeSafetySync w).motion.initialized = w.motion.initialized ∧
      (runtimeSafetySync w).motion.pid.config = w.motion.pid.config ∧
      (runtimeSafetySync w).motion.pid.initialized = w.motion.pid.initialized := by
  unfold runtimeSafetySync
  dsimp only
  split_ifs <;> exact ⟨rfl, rfl, rfl, rfl⟩

@[simp] lemma runtimeSafetySync_sampling (w : World) :
    (runtimeSafetySync w).motion.data.feedbackValid = w.motion.data.feedbackValid ∧
      (runtimeSafetySync w).motion.data.position = w.motion.data.position ∧
      (runtimeSafetySync w).motion.data.velocity = w.motion.data.velocity ∧
      (runtimeSafetySync w).motion.previousCount = w.motion.previousCount ∧
      (runtimeSafetySync w).motion.sampled = w.motion.sampled ∧
      (runtimeSafetySync w).motion.data.completedMoves = w.motion.data.completedMoves := by
  unfold runtimeSafetySync
  dsimp only
  split_ifs <;> exact ⟨rfl, rfl, rfl, rfl, rfl, rfl⟩

lemma le_runtimeSafetySync_clockReads (w : World) :
    w.io.clockReads ≤ (runtimeSafetySync w).io.clockReads := by
  unfold runtimeSafetySync
  dsimp only
  split_ifs <;>
    simp [abortHoming, World.afterTime, World.onAxis, homingAbort, clearControl, World.countAbort,
      World.setSafety]

end MotionFirmware
