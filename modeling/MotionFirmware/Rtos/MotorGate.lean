import MotionFirmware.Rtos.Regular

/-!
# The motor gate

The driver applies a duty only while its gate is open.  The invariant `World.GateSafe` says under
which conditions of the safety manager the gate of a reachable world is open: the state is `IDLE`,
all heartbeats were fresh, the last sampled inputs were valid with E-stop and positive limit
inactive, and an active negative limit is covered by the departure allowance and by the
directional guard.  It survives every operation, requests of a foreign duty included.
-/

namespace MotionFirmware

variable {k : OperationKind} {w w' : World}

/-- The conditions of the safety manager under which the gate may be open. -/
structure World.GateOpen (w : World) : Prop where
  idle : w.safety.state = .idle
  healthy : w.safety.healthy = true
  valid : w.safety.inputsValid = true
  estop : w.safety.inputs.estop = false
  positive : w.safety.inputs.positiveLimit = false
  negative : w.safety.inputs.negativeLimit = true →
    w.safety.homeContact = true ∧ w.io.motor.negativeBlocked = true

/-- The driver invariant, and the meaning of an open gate. -/
structure World.GateSafe (w : World) : Prop where
  motor : w.io.motor.GateInv
  gate : w.io.motor.inhibited = false → w.GateOpen

/-- The step from `w` to `w'` does not move the gate, nor what the gate depends on, except that
the departure allowance may be granted. -/
structure SameGate (w w' : World) : Prop where
  inhibited : w'.io.motor.inhibited = w.io.motor.inhibited
  negativeBlocked : w'.io.motor.negativeBlocked = w.io.motor.negativeBlocked
  state : w'.safety.state = w.safety.state
  healthy : w'.safety.healthy = w.safety.healthy
  inputs : w'.safety.inputs = w.safety.inputs
  inputsValid : w'.safety.inputsValid = w.safety.inputsValid
  homeContact : w.safety.homeContact = true → w'.safety.homeContact = true

lemma SameGate.refl (w : World) : SameGate w w :=
  ⟨rfl, rfl, rfl, rfl, rfl, rfl, id⟩

/-- A world with the same gate and an intact driver is safe again. -/
lemma World.GateSafe.congr (hw : w.GateSafe) (h : SameGate w w') (hm : w'.io.motor.GateInv) :
    w'.GateSafe := by
  refine ⟨hm, fun hopen => ?_⟩
  have hgate := hw.gate (h.inhibited ▸ hopen)
  refine ⟨h.state ▸ hgate.idle, h.healthy ▸ hgate.healthy, h.inputsValid ▸ hgate.valid,
    h.inputs ▸ hgate.estop, h.inputs ▸ hgate.positive, fun hneg => ?_⟩
  rw [h.inputs] at hneg
  rw [h.negativeBlocked]
  exact ⟨h.homeContact (hgate.negative hneg).1, (hgate.negative hneg).2⟩

/-- A disabled driver that was ever initialised satisfies the driver invariant. -/
lemma gateInv_motorDisable {m : Motor} (h : m.initialized = true) : (motorDisable m).GateInv :=
  ⟨h, ⟨0, rfl, by norm_num⟩, fun _ => rfl, fun _ => by simp [FloatValue.zero_def]⟩

/-- An enforcement in a latched state closes the gate. -/
lemma gateSafe_enforce_latched (hm : w.io.motor.GateInv) (h : w.safety.state ≠ .idle) :
    (runtimeSafetyEnforce w).GateSafe := by
  refine ⟨by simpa using enforcedMotor_gateInv hm, fun hopen => ?_⟩
  simp [World.isUnsafe, show w.rt.safety.state ≠ .idle from h] at hopen

variable [Rounding]

/-- **The gate after an evaluation.**  Whatever the world was, as long as the driver is intact, an
evaluation leaves the gate open only under the conditions of `GateOpen`. -/
theorem gateSafe_evaluate (hm : w.io.motor.GateInv) : (runtimeSafetyEvaluate w).GateSafe := by
  refine ⟨by simpa using enforcedMotor_gateInv (w := applyEvaluation w) hm, fun hopen => ?_⟩
  have hunsafe : (applyEvaluation w).isUnsafe = false := by simpa using hopen
  simp only [World.isUnsafe, Bool.or_eq_false_iff, bne_eq_false_iff_eq,
    Bool.not_eq_false'] at hunsafe
  obtain ⟨⟨hidle, hhealthy⟩, hstop⟩ := hunsafe
  have hclean : Clean w.safety (evaluation w) := clean_of_safetyEvaluate hidle
  have hkept : (safetyEvaluate w.safety (evaluation w)).homeContact =
      (w.safety.homeContact && (evaluation w).inputs.negativeLimit) :=
    safetyEvaluate_homeContact_of_idle hidle
  have hcontact : (applyEvaluation w).contact = (evaluation w).inputs.negativeLimit := by
    simp [World.contact, applyEvaluation, hclean.valid]
  have hhome : (evaluation w).inputs.negativeLimit = true →
      (safetyEvaluate w.safety (evaluation w)).homeContact = true := by
    intro hneg
    rw [hkept, hneg, Bool.and_true]
    rcases hclean.negative hneg with hhoming | hallow
    · -- a seek that meets the switch stops: the gate is not open
      have hpublished : w.rt.motion.state = .homing := hhoming
      simp [World.homeStop, hcontact, hneg, hpublished] at hstop
    · exact hallow.1
  refine ⟨by simpa using hidle, ?_, ?_, ?_, ?_, fun hneg => ?_⟩
  · simpa [runtimeSafetyEvaluate_safety] using hhealthy
  · simpa [runtimeSafetyEvaluate_safety] using hclean.valid
  · simpa [runtimeSafetyEvaluate_safety] using hclean.estop
  · simpa [runtimeSafetyEvaluate_safety] using hclean.positive
  · have hneg' : (evaluation w).inputs.negativeLimit = true := by
      simpa [runtimeSafetyEvaluate_safety] using hneg
    have hgranted := hhome hneg'
    refine ⟨by simpa [runtimeSafetyEvaluate_safety] using hgranted, ?_⟩
    simpa [hcontact, hneg'] using hgranted

omit [Rounding] in
/-- Adopting a latch does not open the gate. -/
lemma World.GateSafe.runtimeSafetySync (hw : w.GateSafe) : (runtimeSafetySync w).GateSafe := by
  have hsame : SameGate w (MotionFirmware.runtimeSafetySync w) := by
    rcases runtimeSafetySync_motor w with hmotor | hmotor <;>
      exact ⟨by simp [hmotor], by simp [hmotor], by simp, by simp, by simp, by simp, by simp⟩
  rcases runtimeSafetySync_motor w with hmotor | hmotor
  · exact hw.congr hsame (hmotor ▸ hw.motor)
  · exact hw.congr hsame (hmotor ▸ hw.motor.motorDisable)

/-- **Step lemma.**  Every operation keeps the gate safe. -/
theorem Operation.gateSafe (h : Operation k w w') (hw : w.GateSafe) : w'.GateSafe := by
  have hsame := SameGate.refl w
  have hdisabled : ∀ v : World, SameGate w v → v.io.motor = motorDisable w.io.motor →
      v.GateSafe := fun v hv hmotor => hw.congr hv (hmotor ▸ hw.motor.motorDisable)
  cases h with
  | bookkeeping h =>
    obtain ⟨n, hn⟩ := h.safety
    refine hw.congr ⟨?_, ?_, ?_, ?_, ?_, ?_, ?_⟩ (h.motor ▸ hw.motor)
    · rw [h.motor]
    · rw [h.motor]
    all_goals simp [hn]
  | disable => exact hdisabled _ { hsame with } rfl
  | configure h =>
    obtain ⟨-, pid, -, rfl⟩ := motionInit_some h
    exact hdisabled _ { hsame with } rfl
  | sample _ dt =>
    rcases motionSample_cases w.toAxis dt with ⟨y, hframe, -, heq⟩ | ⟨count, -, -, heq⟩
    · rw [heq]
      exact hw.congr { hsame with
        inhibited := hframe.inhibited, negativeBlocked := hframe.negativeBlocked }
        (gateInv_motorDisable (hframe.motorInitialized.trans hw.motor.initialized))
    · rw [heq]
      exact hw.congr { hsame with } hw.motor
  | request _ duty =>
    exact hw.congr { hsame with
      inhibited := motorSetOutput_inhibited _ _
      negativeBlocked := motorSetOutput_negativeBlocked _ _ } (hw.motor.motorSetOutput duty)
  | publish => exact hw.congr { hsame with } hw.motor
  | evaluate => exact gateSafe_evaluate hw.motor
  | sync => exact hw.runtimeSafetySync
  | estop => exact gateSafe_enforce_latched hw.motor (by simp [safetyEstop])
  | internalFault => exact gateSafe_enforce_latched hw.motor (by simp [safetyInternalFault])
  | refuse => exact hw.congr { hsame with } hw.motor
  | reset h =>
    obtain ⟨hs, rfl⟩ := safetyReset_eq_some.mp h
    refine ⟨hw.motor.motorDisable.motorSafetyInhibit false, fun _ => ?_⟩
    exact ⟨rfl, hs.healthy, hs.valid, hs.estop, hs.positive,
      fun hneg => absurd hneg (by simp [acceptReset, SafetyManager.cleared, hs.negative])⟩
  | stopHoming => exact hdisabled _ { hsame with } rfl
  | home hidle h =>
    obtain ⟨-, -, -, heq⟩ := homingBegin_accepted h
    rw [heq]
    exact hdisabled _ { hsame with } rfl
  | halt => exact hdisabled _ { hsame with } rfl
  | move => exact hw.congr { hsame with } hw.motor
  | @drive _ dt hne =>
    rcases motionUpdate_cases w.toAxis dt with ⟨y, hframe, -, heq⟩ | ⟨-, heq⟩ |
      ⟨out, pid, -, -, heq⟩
    · rw [heq]
      exact hw.congr { hsame with
        inhibited := hframe.inhibited, negativeBlocked := hframe.negativeBlocked }
        (gateInv_motorDisable (hframe.motorInitialized.trans hw.motor.initialized))
    · rw [heq]
      exact hdisabled _ { hsame with } rfl
    · rw [heq]
      exact hw.congr { hsame with
        inhibited := motorSetOutput_inhibited _ _
        negativeBlocked := motorSetOutput_negativeBlocked _ _ } (hw.motor.motorSetOutput out)
  | @seek _ inputs now hhome =>
    rcases homingUpdate_motor w.toAxis inputs now with hmotor | hmotor | hmotor
    · exact hw.congr { hsame with
        inhibited := by rw [hmotor], negativeBlocked := by rw [hmotor] } (hmotor ▸ hw.motor)
    · exact hdisabled _ { hsame with
        inhibited := by rw [hmotor]; rfl, negativeBlocked := by rw [hmotor]; rfl } hmotor
    · exact hw.congr { hsame with
        inhibited := by rw [hmotor]; exact motorSetOutput_inhibited _ _
        negativeBlocked := by rw [hmotor]; exact motorSetOutput_negativeBlocked _ _ }
        (hmotor ▸ hw.motor.motorSetOutput _)
  | expire =>
    exact (gateSafe_enforce_latched hw.motor.motorDisable
      (by simp [safetyHomingTimeout])).runtimeSafetySync
  | @complete _ _ io hidle hhome hset htime =>
    have hmotor : io.motor = motorDisable w.io.motor := by
      have := Peripherals.encoderSetReference_motor w.io.motorDisable 0
      rw [hset] at this
      exact this
    have hinhibited : io.motor.inhibited = w.io.motor.inhibited := by rw [hmotor]; rfl
    have hblocked : io.motor.negativeBlocked = w.io.motor.negativeBlocked := by rw [hmotor]; rfl
    exact hdisabled _ { hsame with
      inhibited := hinhibited, negativeBlocked := hblocked, homeContact := fun _ => rfl } hmotor
  | countAbort => exact hw.congr { hsame with } hw.motor
  | abort => exact hdisabled _ { hsame with } rfl

omit [Rounding] in
/-- The gate is closed at the start. -/
lemma gateSafe_runtimeInit (env : Environment) : (runtimeInit env).GateSafe :=
  ⟨gateInv_motorInit.motorSafetyInhibit true, fun h => by simp [runtimeInit] at h⟩

/-- The gate of every reachable world is safe. -/
theorem gateSafe_runtime (env : Environment) (as : List Action) : (runtime env as).GateSafe :=
  runtime_invariant env as (gateSafe_runtimeInit env) fun _ _ _ h hv => h.gateSafe hv

/-! ### The last sample -/

/-- The arguments of a recorded call, if it is an evaluation. -/
def SafetyCall.evaluation : SafetyCall → Option Evaluation
  | .evaluate c _ => some c
  | _ => none

/-- The last evaluation among the recorded calls. -/
def lastEvaluation (calls : List SafetyCall) : Option Evaluation :=
  (calls.filterMap SafetyCall.evaluation).getLast?

/-- The manager holds the inputs of the last evaluation, and none before the first one. -/
def World.HoldsSample (w : World) : Prop :=
  match lastEvaluation w.calls with
  | some c => w.safety.inputs = c.inputs ∧ w.safety.inputsValid = c.valid ∧
      w.safety.healthy = (c.unhealthyMask == 0)
  | none => w.safety.inputsValid = false

omit [Rounding] in
/-- A step that records no evaluation and keeps the sampled inputs keeps the relation. -/
lemma World.HoldsSample.congr (hw : w.HoldsSample)
    (hcalls : w'.calls.filterMap SafetyCall.evaluation = w.calls.filterMap SafetyCall.evaluation)
    (hinputs : w'.safety.inputs = w.safety.inputs)
    (hvalid : w'.safety.inputsValid = w.safety.inputsValid)
    (hhealthy : w'.safety.healthy = w.safety.healthy) : w'.HoldsSample := by
  unfold World.HoldsSample lastEvaluation at hw ⊢
  rw [hcalls, hinputs, hvalid, hhealthy]
  exact hw

/-- **Step lemma.**  Every operation keeps the relation between the manager and the last sample. -/
theorem Operation.holdsSample (h : Operation k w w') (hw : w.HoldsSample) : w'.HoldsSample := by
  cases h with
  | bookkeeping h =>
    obtain ⟨n, hn⟩ := h.safety
    exact hw.congr (by rw [h.calls]) (by rw [hn]) (by rw [hn]) (by rw [hn])
  | evaluate =>
    unfold World.HoldsSample lastEvaluation
    simp [SafetyCall.evaluation, runtimeSafetyEvaluate_safety]
  | sync => exact hw.congr (by simp) (by simp) (by simp) (by simp)
  | estop =>
    exact hw.congr (by simp [raiseEstop, SafetyCall.evaluation]) (by simp [raiseEstop, safetyEstop])
      (by simp [raiseEstop, safetyEstop]) (by simp [raiseEstop, safetyEstop])
  | internalFault =>
    exact hw.congr (by simp [raiseInternal, SafetyCall.evaluation])
      (by simp [raiseInternal, safetyInternalFault]) (by simp [raiseInternal, safetyInternalFault])
      (by simp [raiseInternal, safetyInternalFault])
  | refuse => exact hw.congr (by simp [SafetyCall.evaluation]) rfl rfl rfl
  | reset h =>
    obtain ⟨-, rfl⟩ := safetyReset_eq_some.mp h
    exact hw.congr (by simp [acceptReset, SafetyCall.evaluation]) rfl rfl rfl
  | expire =>
    exact hw.congr (by simp [expireHoming, raiseTimeout, SafetyCall.evaluation])
      (by simp [expireHoming, raiseTimeout, safetyHomingTimeout])
      (by simp [expireHoming, raiseTimeout, safetyHomingTimeout])
      (by simp [expireHoming, raiseTimeout, safetyHomingTimeout])
  | complete =>
    exact hw.congr (by simp [completeHoming, grantContact, SafetyCall.evaluation]) rfl rfl rfl
  | _ => exact hw.congr rfl rfl rfl rfl

/-- The manager of every reachable world holds the inputs of the last evaluation. -/
theorem holdsSample_runtime (env : Environment) (as : List Action) :
    (runtime env as).HoldsSample :=
  runtime_invariant env as rfl fun _ _ _ h hv => h.holdsSample hv

/-! ### The gate invariant -/

/-- **Gate invariant.**  Whatever the tasks, the environment and foreign requests do, a duty is
applied only if the safety manager is in `IDLE` and healthy, the last sample was valid with E-stop
and positive limit inactive, and an active negative limit in that sample leaves only a positive
duty, under the departure allowance. -/
theorem gate_invariant (env : Environment) (as : List Action)
    (hout : (runtime env as).io.motor.output ≠ 0) :
    (runtime env as).safety.state = .idle ∧ (runtime env as).safety.healthy = true ∧
      ∃ c, lastEvaluation (runtime env as).calls = some c ∧ c.valid = true ∧
        c.inputs.estop = false ∧ c.inputs.positiveLimit = false ∧
        (c.inputs.negativeLimit = true →
          0 < (runtime env as).io.motor.output ∧ (runtime env as).safety.homeContact = true) := by
  have hsafe := gateSafe_runtime env as
  have hsample := holdsSample_runtime env as
  set w := runtime env as
  have hopen : w.io.motor.inhibited = false := by
    by_contra hclosed
    exact hout (hsafe.motor.inhibited (by simpa using hclosed))
  have hgate := hsafe.gate hopen
  refine ⟨hgate.idle, hgate.healthy, ?_⟩
  unfold World.HoldsSample at hsample
  cases hlast : lastEvaluation w.calls with
  | none =>
    rw [hlast] at hsample
    exact absurd hgate.valid (by simp [show w.safety.inputsValid = false from hsample])
  | some c =>
    rw [hlast] at hsample
    obtain ⟨hinputs, hvalid, -⟩ := hsample
    refine ⟨c, rfl, hvalid ▸ hgate.valid, hinputs ▸ hgate.estop, hinputs ▸ hgate.positive,
      fun hneg => ?_⟩
    obtain ⟨hcontact, hblocked⟩ := hgate.negative (hinputs ▸ hneg)
    refine ⟨?_, hcontact⟩
    obtain ⟨q, hq, -⟩ := hsafe.motor.finite
    have hnonneg := hsafe.motor.blocked hblocked
    rw [hq] at hnonneg hout ⊢
    rw [FloatValue.zero_le_finite] at hnonneg
    rw [FloatValue.zero_lt_finite]
    exact lt_of_le_of_ne hnonneg fun h => hout (by rw [← h]; rfl)

omit [Rounding] in
/-- A `MOVE` from standstill drives the motor. -/
theorem gate_invariant_move :
    let w := runtime32 standstill (startUp ++ release [⟨.moveAbs, 2000⟩])
    w.safety.state = .idle ∧ w.safety.healthy = true ∧
      ∃ c, lastEvaluation w.calls = some c ∧ c.valid = true ∧
        c.inputs.estop = false ∧ c.inputs.positiveLimit = false ∧
        (c.inputs.negativeLimit = true → 0 < w.io.motor.output ∧ w.safety.homeContact = true) :=
  @gate_invariant Binary32.rounding standstill (startUp ++ release [⟨.moveAbs, 2000⟩])
    (by decide +kernel)

end MotionFirmware
