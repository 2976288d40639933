import MotionFirmware.Rtos.RecordedCalls
import MotionFirmware.Safety.Supervision

/-!
# Heartbeat supervision over the uptime

Every evaluation takes its time from the clock, so an evaluation of a run that finds a heartbeat
missing latches a fault exactly when the true elapsed time modulo `2 ^ 32` has reached the start-up
grace, or a fault has another cause.  With every wrap of the clock the grace opens again.
-/

namespace MotionFirmware

variable [Rounding]

/-- The time argument of an evaluation is the reading of its true time. -/
def SafetyCall.timed : SafetyCall → Prop
  | .evaluate c time => c.now = WrappingClock.reading time
  | _ => True

/-- In every reachable world the recorded evaluations carry the time that the clock reads. -/
lemma timed_runtime (env : Environment) (as : List Action) :
    ∀ call ∈ (runtime env as).calls, call.timed := by
  refine forall_calls_runtime (fun v call _ hmade => ?_) as
  cases call with
  | evaluate c time =>
    obtain ⟨rfl, rfl⟩ := hmade
    rfl
  | _ => trivial

/-- The manager before each recorded call of a run is consistent. -/
lemma consistent_replay (env : Environment) (as : List Action) {before after : List SafetyCall}
    (h : (runtime env as).calls = before ++ after) :
    ((safetyInit env.start).replay before).Consistent := by
  have hgranted := (recorded_runtime env as).granted
  rw [h] at hgranted
  exact Machine.run_invariant (fun _ _ hv hg => hv.apply hg) (consistent_safetyInit _)
    (Machine.along_append.mp hgranted).1

/-- **Heartbeat supervision.**  An evaluation of a run, made at least the grace after the start with
a heartbeat missing, leaves a fault latched exactly when the elapsed time modulo `2 ^ 32` has
reached the grace, or a fault has another cause. -/
theorem heartbeat_supervision (env : Environment) (as : List Action)
    (before after : List SafetyCall) (c : Evaluation) (time : ℕ)
    (hcall : (runtime env as).calls = before ++ .evaluate c time :: after)
    (hlate : env.clock 0 + 200 ≤ time) (hmask : c.unhealthyMask ≠ 0) :
    ((safetyInit env.start).replay (before ++ [.evaluate c time])).Faulted ↔
      200 ≤ (time - env.clock 0) % 2 ^ 32 ∨
        ¬ ((safetyInit env.start).replay before).NotFaultedOtherwise c := by
  have hnow : c.now = WrappingClock.reading time := by
    have htimed := timed_runtime env as (.evaluate c time) (by simp [hcall])
    exact htimed
  have hstart : ((safetyInit env.start).replay before).startupMs =
      WrappingClock.reading (env.clock 0) := replay_startupMs _ _
  have hle : env.clock 0 ≤ time := by omega
  have hgrace := safetyStartupGraceMs_le_iff hle
  have hfaulted := faulted_iff_of_unhealthy (consistent_replay env as hcall) hmask
  rw [hnow, hstart, hgrace] at hfaulted
  rw [SafetyManager.replay_append]
  exact hfaulted

/-- The tasks beat 100 ms before the clock wraps, and never again. -/
def rollover : Environment where
  gpio _ := some {}
  rawCount _ := some 0
  clock n := if n = 0 then 0 else if n ≤ 4 then 2 ^ 32 - 100 else 2 ^ 32 + 60

/-- Every task beats once, and the Safety task evaluates twice. -/
def lastHeartbeats : List Action :=
  [.heartbeat .motion, .heartbeat .safety, .heartbeat .comms, .safety, .safety]

omit [Rounding] in
/-- Just before the first wrap a missing heartbeat latches a fault. -/
theorem heartbeat_supervision_before_rollover :
    (@SafetyManager.replay Binary32.rounding (safetyInit rollover.start)
      [.evaluate (evaluation (runtimeInit rollover)) (2 ^ 32 - 100)]).Faulted :=
  (@heartbeat_supervision Binary32.rounding rollover [.safety] [] []
    (evaluation (runtimeInit rollover)) (2 ^ 32 - 100) rfl (by decide) (by decide +kernel)).mpr
    (Or.inl (by decide))

/-- The evaluation is made at least the grace after the start, with a heartbeat missing. -/
def SafetyCall.supervises (start : ℕ) : SafetyCall → Bool
  | .evaluate c time => decide (start + 200 ≤ time) && c.unhealthyMask != 0
  | _ => false

omit [Rounding] in
/-- After the first wrap the grace is open again: the last evaluation finds the heartbeats missing
and leaves no fault. -/
theorem heartbeat_supervision_rollover :
    (runtime32 rollover lastHeartbeats).calls.getLast?.any
        (SafetyCall.supervises (rollover.clock 0)) = true ∧
      (runtime32 rollover lastHeartbeats).safety.faults.active.code = .none ∧
      (runtime32 rollover lastHeartbeats).safety.state = .idle := by
  decide +kernel

end MotionFirmware
