import MotionFirmware.Rtos.ClockReadings
import MotionFirmware.Rtos.HomingDeadline
import MotionFirmware.Rtos.Integrity
import MotionFirmware.Safety.ClockShift

/-!
# Shifted times in the runtime

The worlds of two runs whose readings of the clock differ by a constant.  The functions of
`safety_runtime.c` take shifted worlds to shifted worlds, provided that what they read is shifted.

A time that has not been set is zero in both worlds and must not be used: the start of an attempt
before the first attempt, the heartbeat of a task that has not been seen, the local variables of a
release before the first one, the start of a candidate and the time of a latch.
-/

namespace MotionFirmware

/-! ### Shifted worlds -/

/-- The heartbeat record with its time shifted, once the task has been seen. -/
def TaskHealth.shift (c : UInt32) (h : TaskHealth) : TaskHealth :=
  { h with lastMs := if h.seen then h.lastMs + c else h.lastMs }

/-- The Motion task has taken `previous_ms`. -/
def Phase.anchored : Phase → Bool
  | .create | .configure | .anchor => false
  | _ => true

/-- The Motion task has taken `now_ms`. -/
def MotionTask.timed (t : MotionTask) : Bool :=
  !t.first || t.phase == .sample || t.phase.sampled

/-- The local variables of the Motion task with the times shifted that have been taken. -/
def MotionTask.shift (c : UInt32) (t : MotionTask) : MotionTask :=
  { t with
    previousMs := if t.phase.anchored then t.previousMs + c else t.previousMs
    nowMs := if t.timed then t.nowMs + c else t.nowMs }

/-- `runtime_data` with the times of the heartbeats and of the published snapshot shifted, and the
given safety manager. -/
def RuntimeData.shift (c : UInt32) (safety : SafetyManager) (rt : RuntimeData) : RuntimeData :=
  { rt with
    health := fun id => (rt.health id).shift c
    motion := rt.motion.shift c
    safety := safety }

/-- The second world is the first one with another clock and with every time shifted that has been
set, the time of zero output excepted.  `P` and `Q` say that the start of a candidate and the time
of a latch have been set before. -/
structure World.Shifted (c : UInt32) (P Q : Prop) (w w' : World) : Prop where
  axis : w'.toAxis = w.toAxis.shift c w'.io.env.clock w'.io.clockReads
  rt : w'.rt = w.rt.shift c w'.rt.safety
  safety : w.rt.safety.Shifted c P Q w'.rt.safety
  task : w'.task = w.task.shift c

/-- The world with another clock, shifted times, the given safety manager and the given record. -/
def World.shift (c : UInt32) (clock : ℕ → ℕ) (reads : ℕ) (safety : SafetyManager)
    (calls : List SafetyCall) (w : World) : World where
  toAxis := w.toAxis.shift c clock reads
  rt := w.rt.shift c safety
  task := w.task.shift c
  calls := calls

variable {c : UInt32} {P Q : Prop} {w w' v v' : World}

/-- The shifted world as an explicit value. -/
lemma World.Shifted.exists_eq (h : w.Shifted c P Q w') :
    ∃ clock reads start detection zero calls,
      w' = w.shift c clock reads (w.safety.shift c start detection zero) calls ∧
      (P ∨ w.safety.candidate = true → start = w.safety.candidateStartMs + c) ∧
      (Q ∨ w.safety.state ≠ .idle → detection = w.safety.detectionMs + c) := by
  obtain ⟨axis, rt, task, calls⟩ := w'
  obtain ⟨haxis, hrt, hsafety, htask⟩ := h
  obtain ⟨start, detection, zero, heq, hstart, hdetection⟩ := hsafety.exists_eq
  refine ⟨axis.io.env.clock, axis.io.clockReads, start, detection, zero, calls, ?_, hstart,
    hdetection⟩
  dsimp only at haxis hrt htask heq
  rw [heq] at hrt
  rw [haxis, hrt, htask]
  rfl

/-! ### The enforcement -/

/-- The gate does not depend on the clock. -/
lemma enforcedMotor_shift {clock : ℕ → ℕ} {reads : ℕ} {start detection zero : UInt32}
    {calls : List SafetyCall} :
    enforcedMotor (w.shift c clock reads (w.safety.shift c start detection zero) calls) =
      enforcedMotor w := rfl

/-- **The enforcement** depends on the clock in the time of zero output only. -/
lemma World.Shifted.enforce (h : w.Shifted c P Q w') :
    (runtimeSafetyEnforce w).Shifted c P Q (runtimeSafetyEnforce w') := by
  obtain ⟨clock, reads, start, detection, zero, calls, rfl, hstart, hdetection⟩ := h.exists_eq
  have hstate : (recordPwm (w.shift c clock reads (w.safety.shift c start detection zero)
      calls)).state = (recordPwm w).state := rfl
  unfold runtimeSafetyEnforce recordLatched
  dsimp only
  rw [enforcedMotor_shift, hstate]
  split_ifs <;> exact ⟨rfl, rfl, ⟨rfl, hstart, hdetection⟩, rfl⟩

/-! ### The calls of the safety manager -/

/-- The age of a heartbeat is a difference. -/
lemma taskHealthFresh_shift (h : TaskHealth) (now age : UInt32) :
    taskHealthFresh (h.shift c) (now + c) age = taskHealthFresh h now age := by
  have helapsed := WrappingClock.add_sub_add_right now h.lastMs c
  unfold taskHealthFresh TaskHealth.shift
  cases hseen : h.seen with
  | false => rfl
  | true => simp [helapsed]

/-- Both runs collect the same mask. -/
lemma unhealthyMask_shift (rt : RuntimeData) (safety : SafetyManager) (now : UInt32) :
    (rt.shift c safety).unhealthyMask (now + c) = rt.unhealthyMask now := by
  have hfresh : ∀ id, (rt.shift c safety).fresh id (now + c) = rt.fresh id now := by
    intro id
    exact taskHealthFresh_shift (rt.health id) now healthMaximumAgeMs
  unfold RuntimeData.unhealthyMask
  rw [hfresh, hfresh, hfresh]

/-- The second world reads the shifted time. -/
def World.ReadsShifted (c : UInt32) (w w' : World) : Prop :=
  w'.io.platformTimeMs = w.io.platformTimeMs + c

/-- An evaluation is given the shifted arguments. -/
lemma World.Shifted.evaluation (h : w.Shifted c P Q w') (ht : w.ReadsShifted c w') :
    evaluation w' = (evaluation w).shift c := by
  obtain ⟨clock, reads, start, detection, zero, calls, rfl, -, -⟩ := h.exists_eq
  have hmask :
      (w.shift c clock reads (w.safety.shift c start detection zero) calls).rt.unhealthyMask
        (w.io.platformTimeMs + c) = w.rt.unhealthyMask w.io.platformTimeMs :=
    unhealthyMask_shift _ _ _
  unfold MotionFirmware.evaluation
  dsimp only
  rw [ht, hmask]
  rfl

variable [Rounding]

/-- **The evaluation** of the second run decides the same. -/
lemma World.Shifted.evaluate (h : w.Shifted c P Q w') (ht : w.ReadsShifted c w') :
    (runtimeSafetyEvaluate w).Shifted c P Q (runtimeSafetyEvaluate w') := by
  refine World.Shifted.enforce ?_
  have hevaluation := h.evaluation ht
  have hsafety := h.safety.safetyEvaluate (c := MotionFirmware.evaluation w)
  obtain ⟨clock, reads, start, detection, zero, calls, rfl, -, -⟩ := h.exists_eq
  unfold applyEvaluation
  dsimp only
  rw [hevaluation]
  exact ⟨rfl, rfl, hsafety, rfl⟩

omit [Rounding] in
/-- A call of the safety manager that both runs make, followed by an enforcement. -/
lemma World.Shifted.call (h : w.Shifted c P Q w') {call call' : SafetyCall} {s s' : SafetyManager}
    (hs : s.Shifted c P Q s') :
    (runtimeSafetyEnforce (w.callSafety call s)).Shifted c P Q
      (runtimeSafetyEnforce (w'.callSafety call' s')) := by
  refine World.Shifted.enforce ?_
  obtain ⟨clock, reads, start, detection, zero, calls, rfl, -, -⟩ := h.exists_eq
  exact ⟨rfl, rfl, hs, rfl⟩

omit [Rounding] in
lemma World.Shifted.raiseInternal (h : w.Shifted c P Q w') {now : UInt32} :
    (raiseInternal w now).Shifted c P Q (raiseInternal w' (now + c)) :=
  h.call h.safety.internalFault

omit [Rounding] in
lemma World.Shifted.raiseTimeout (h : w.Shifted c P Q w') {now : UInt32} :
    (raiseTimeout w now).Shifted c P Q (raiseTimeout w' (now + c)) :=
  h.call h.safety.homingTimeout

omit [Rounding] in
lemma World.Shifted.afterTime (h : w.Shifted c P Q w') :
    w.afterTime.Shifted c P Q w'.afterTime := by
  obtain ⟨clock, reads, start, detection, zero, calls, rfl, hstart, hdetection⟩ := h.exists_eq
  exact ⟨rfl, rfl, ⟨rfl, hstart, hdetection⟩, rfl⟩

omit [Rounding] in
lemma World.Shifted.raiseEstop (h : w.Shifted c P Q w') (ht : w.ReadsShifted c w') :
    (raiseEstop w).Shifted c P Q (raiseEstop w') := by
  unfold MotionFirmware.raiseEstop
  dsimp only
  rw [ht]
  exact h.afterTime.call h.safety.estop

/-! ### The functions of the adapter -/

omit [Rounding] in
lemma World.Shifted.publish (h : w.Shifted c P Q w') : w.publish.Shifted c P Q w'.publish := by
  obtain ⟨clock, reads, start, detection, zero, calls, rfl, hstart, hdetection⟩ := h.exists_eq
  exact ⟨rfl, rfl, ⟨rfl, hstart, hdetection⟩, rfl⟩

omit [Rounding] in
lemma World.Shifted.countAbort (h : w.Shifted c P Q w') :
    w.countAbort.Shifted c P Q w'.countAbort := by
  obtain ⟨clock, reads, start, detection, zero, calls, rfl, hstart, hdetection⟩ := h.exists_eq
  exact ⟨rfl, rfl, ⟨rfl, hstart, hdetection⟩, rfl⟩

omit [Rounding] in
/-- An operation of the controller that commutes with the shift. -/
lemma World.Shifted.onAxis (h : w.Shifted c P Q w') {x x' : Axis} (clock : ℕ → ℕ) (reads : ℕ)
    (hx : x' = x.shift c clock reads) :
    { w with toAxis := x }.Shifted c P Q { w' with toAxis := x' } := by
  subst hx
  exact ⟨rfl, h.rt, h.safety, h.task⟩

omit [Rounding] in
/-- The elapsed time of an attempt that is closed. -/
lemma World.Shifted.abortHoming (h : w.Shifted c P Q w') (ht : w.ReadsShifted c w')
    (hw : w.motion.data.homing.result ≠ .none) {r : HomingResult} (hr : r ≠ .none) :
    (abortHoming w r).Shifted c P Q (abortHoming w' r) := by
  have helapsed : (w.motion.shift c).withElapsed (w.io.platformTimeMs + c) =
      (w.motion.withElapsed w.io.platformTimeMs).shift c := withElapsed_shift hw
  obtain ⟨clock, reads, start, detection, zero, calls, rfl, hstart, hdetection⟩ := h.exists_eq
  let closed : Axis := ⟨w.io.afterTime, w.motion.withElapsed w.io.platformTimeMs⟩
  have habort : homingAbort (closed.shift c clock (reads + 1)) r =
      (homingAbort closed r).shift c clock (reads + 1) := homingAbort_shift hr
  unfold MotionFirmware.abortHoming
  dsimp only
  rw [ht]
  refine h.afterTime.onAxis clock (reads + 1) (Eq.trans ?_ habort)
  exact congrArg (fun m => homingAbort ⟨(w.io.withClock clock reads).afterTime, m⟩ r) helapsed

omit [Rounding] in
/-- The state of a latch that the controller adopts. -/
lemma World.Shifted.adopt (h : w.Shifted c P Q w') (state : AppState) :
    { w with motion := w.motion.adopt state }.Shifted c P Q
      { w' with motion := w'.motion.adopt state } := by
  obtain ⟨clock, reads, start, detection, zero, calls, rfl, hstart, hdetection⟩ := h.exists_eq
  exact ⟨rfl, rfl, ⟨rfl, hstart, hdetection⟩, rfl⟩

omit [Rounding] in
lemma World.Shifted.safety_state (h : w.Shifted c P Q w') : w'.safety.state = w.safety.state :=
  h.safety.state_eq

omit [Rounding] in
lemma World.Shifted.motion_eq (h : w.Shifted c P Q w') : w'.motion = w.motion.shift c :=
  congrArg Axis.motion h.axis

omit [Rounding] in
lemma World.Shifted.motion_state (h : w.Shifted c P Q w') :
    w'.motion.data.state = w.motion.data.state := by
  rw [h.motion_eq]
  rfl

omit [Rounding] in
/-- A seeking controller has begun an attempt. -/
def World.Begun (w : World) : Prop :=
  w.motion.data.state = .homing → w.motion.data.homing.result ≠ .none

omit [Rounding] in
/-- The readings of `runtime_safety_sync` are shifted, and those that follow are the rest. -/
lemma World.Shifted.syncReadings_append (h : w.Shifted c P Q w') {l l' : List UInt32}
    (hr : syncReadings w' ++ l' = (syncReadings w ++ l).map (· + c)) :
    (w.safety.state ≠ .idle ∧ w.motion.data.state = .homing → w.ReadsShifted c w') ∧
      l' = l.map (· + c) := by
  unfold syncReadings at hr
  rw [h.safety_state, h.motion_state] at hr
  split_ifs at hr with hread
  · obtain ⟨hhead, htail⟩ := List.cons.inj hr
    exact ⟨fun _ => hhead, htail⟩
  · exact ⟨fun h => absurd h hread, hr⟩

omit [Rounding] in
/-- **The adoption of a latch** reads the clock to close the record of a seek. -/
lemma World.Shifted.sync (h : w.Shifted c P Q w') (hw : w.Begun)
    (ht : w.safety.state ≠ .idle ∧ w.motion.data.state = .homing → w.ReadsShifted c w') :
    (runtimeSafetySync w).Shifted c P Q (runtimeSafetySync w') := by
  unfold runtimeSafetySync
  dsimp only
  rw [h.safety_state, h.motion_state]
  by_cases hidle : w.safety.state = .idle
  · rw [if_pos hidle, if_pos hidle]
    exact h
  · rw [if_neg hidle, if_neg hidle]
    have hresult : latchResult w.safety.state ≠ .none := by
      rcases latchResult_cases w.safety.state with h | h <;> rw [h] <;> exact nofun
    have hclose : ∀ u u' : World, u.Shifted c P Q u' → u.motion = w.motion →
        (w.motion.data.state = .homing → u.ReadsShifted c u') →
        World.Shifted c P Q
          (if u.motion.data.state = .homing then
            MotionFirmware.abortHoming u (latchResult w.safety.state) else u)
          (if u'.motion.data.state = .homing then
            MotionFirmware.abortHoming u' (latchResult w.safety.state) else u') := by
      intro u u' hu hmotion hread
      rw [hu.motion_state, hmotion]
      split_ifs with hhome
      · exact hu.abortHoming (hread hhome) (hmotion ▸ hw hhome) hresult
      · exact hu
    by_cases hactive : w.motion.data.state.active = true
    · rw [if_pos hactive, if_pos hactive]
      exact (hclose _ _ h.countAbort rfl fun hhome => ht ⟨hidle, hhome⟩).adopt _
    · rw [if_neg hactive, if_neg hactive]
      exact (hclose _ _ h rfl fun hhome => ht ⟨hidle, hhome⟩).adopt _

end MotionFirmware
